import Courier.Config.Basic
import Courier.Dictionary
import Courier.Text.Blank
import Courier.Text.Property

/-!
# Environment files

A worker may find a file with assignments `KEY=value` beside it.  Loading the file sets every key
that the environment does not have yet; the first malformed line ends the loading, and what was set
before stays.

* A logical line is one or more physical lines: a quote, or a backslash, that is still open at the
  end of a physical line goes on in the next (`logicalLines`).
* A value may be quoted.  Outside single quotes a backslash escapes a character, and `$name` or
  `${name}` stands for the value of a key, in the environment or else earlier in the file
  (`readValue`).
* `readLine` reads one logical line, `load` a whole file.
-/

namespace Courier

/-- The environment of a process. -/
abbrev Environment := Dictionary String

namespace EnvFile

/-! ### Lines -/

/-- What is open at a place in a line. -/
inductive Open where
  | nothing
  | blank
  | escape
  | single
  | singleEscape
  | double
  | doubleEscape
  deriving DecidableEq, Repr

/-- What a character outside quotes opens. -/
def Open.start (c : Char) : Open :=
  if c = '\\' then .escape else if c = '"' then .double else if c = '\'' then .single else .nothing

/-- What is open after one more character; `none` where a comment begins. -/
def Open.next (state : Open) (c : Char) : Option Open :=
  match state with
  | .nothing => if isBlank c ∧ c ≠ '\n' ∧ c ≠ '\r' then some .blank else some (.start c)
  | .blank => if c = '#' then none else some (.start c)
  | .escape => some .nothing
  | .single =>
    if c = '\\' then some .singleEscape else if c = '\'' then some .nothing else some .single
  | .singleEscape => some .single
  | .double =>
    if c = '\\' then some .doubleEscape else if c = '"' then some .nothing else some .double
  | .doubleEscape => some .double

/-- Goes through a physical line: the part before a comment, and what is open at the end, or `none`
at a comment. -/
def scan (state : Open) : List Char → List Char × Option Open
  | [] => ([], some state)
  | c :: rest =>
    match state.next c with
    | none => ([], none)
    | some state =>
      let (kept, state?) := scan state rest
      (c :: kept, state?)

/-- The physical lines of a text, each with its line feed. -/
def physicalLines : List Char → List (List Char)
  | [] => []
  | c :: rest =>
    if c = '\n' then ['\n'] :: physicalLines rest
    else
      match physicalLines rest with
      | [] => [[c]]
      | line :: lines => (c :: line) :: lines

/-- A line without its line feed, and without a carriage return before that. -/
def chomp (line : List Char) : List Char :=
  match line.reverse with
  | '\n' :: '\r' :: rest => rest.reverse
  | '\n' :: rest => rest.reverse
  | _ => line

/-- Joins physical lines to logical ones, with what has been joined so far.  A text that ends inside
a line ends in `none`. -/
def joinLines (joined : List Char) (state : Open) : List (List Char) → List (Option (List Char))
  | [] => if state = .nothing then [] else [none]
  | line :: lines =>
    -- In a line of comment nothing is open, whatever quotes it holds.
    if (trimStart (joined ++ line)).head? = some '#' then some [] :: joinLines [] .nothing lines
    else
      match scan state line with
      | (kept, none) => some (joined ++ kept) :: joinLines [] .nothing lines
      | (_, some .nothing) => some (chomp (joined ++ line)) :: joinLines [] .nothing lines
      | (_, some state) => joinLines (joined ++ line) state lines

/-- The text without a byte order mark in front. -/
def dropMark : List Char → List Char
  | '\uFEFF' :: rest => rest
  | cs => cs

/-- The logical lines of a file. -/
def logicalLines (text : String) : List (Option (List Char)) :=
  joinLines [] .nothing (physicalLines (dropMark text.toList))

/-! ### Values -/

/-- Where the reader of a value stands. -/
inductive Mode where
  /-- Outside quotes. -/
  | plain
  /-- Between single quotes. -/
  | single
  /-- After `$`; the name so far, last character first. -/
  | name (isQuoted : Bool) (chars : List Char)
  /-- After `${`; the name so far, last character first. -/
  | braced (isQuoted : Bool) (chars : List Char)
  /-- Between double quotes. -/
  | double
  /-- After a backslash. -/
  | escape (isQuoted : Bool)
  /-- After the value: only a comment may follow. -/
  | ended
  deriving DecidableEq, Repr

/-- Outside quotes, or between double quotes. -/
def Mode.base (isQuoted : Bool) : Mode := if isQuoted then .double else .plain

/-- The character that an escape stands for. -/
def unescape? (c : Char) : Option Char :=
  if c = '\\' ∨ c = '\'' ∨ c = '"' ∨ c = '$' ∨ c = ' ' then some c
  else if c = 'n' then some '\n'
  else none

/-- Reads one character in a mode: the next mode, and the characters that it adds to the value;
`none` where the value is malformed. -/
def Mode.read? (lookup : String → String) (mode : Mode) (c : Char) : Option (Mode × List Char) :=
  let value (chars : List Char) : List Char := (lookup (String.ofList chars.reverse)).toList
  match mode with
  | .plain =>
    if c = '$' then some (.name false [], [])
    else if c = '\'' then some (.single, [])
    else if c = '"' then some (.double, [])
    else if c = '\\' then some (.escape false, [])
    else if c = ' ' ∨ c = '\t' then some (.ended, [])
    else some (.plain, [c])
  | .single => if c = '\'' then some (.plain, []) else some (.single, [c])
  | .double =>
    if c = '$' then some (.name true [], [])
    else if c = '"' then some (.plain, [])
    else if c = '\\' then some (.escape true, [])
    else some (.double, [c])
  | .escape isQuoted => (unescape? c).map fun c => (.base isQuoted, [c])
  | .name isQuoted chars =>
    if isAlphanumeric c then some (.name isQuoted (c :: chars), [])
    else if c = '\x7b' ∧ chars = [] then some (.braced isQuoted [], [])
    else if c = '$' then some (.name isQuoted [], value chars)
    -- Any other character ends the name and stands for itself, a quote as well.
    else some (.base isQuoted, value chars ++ [c])
  | .braced isQuoted chars =>
    if c = '\x7d' then some (.base isQuoted, value chars)
    else some (.braced isQuoted (c :: chars), [])
  | .ended => if c = ' ' ∨ c = '\t' then some (.ended, []) else none

/-- What the end of the line adds to the value; `none` where something is still open. -/
def Mode.finish? (lookup : String → String) : Mode → Option (List Char)
  | .plain | .escape false | .ended => some []
  | .name false chars => some (lookup (String.ofList chars.reverse)).toList
  | _ => none

/-- Reads a value, from a mode to the end of the line. -/
def readFrom (lookup : String → String) (mode : Mode) : List Char → Option (List Char)
  | [] => mode.finish? lookup
  | c :: rest =>
    if mode = .ended ∧ c = '#' then some []
    else do
      let (mode, out) ← mode.read? lookup c
      return out ++ (← readFrom lookup mode rest)

/-- Reads a value.  `lookup` gives the values of names. -/
def readValue (lookup : String → String) (cs : List Char) : Option String :=
  (readFrom lookup .plain cs).map String.ofList

/-! ### Assignments -/

/-- A letter of ASCII or an underscore. -/
def isKeyStart (c : Char) : Bool := c.isAlpha || c == '_'

/-- A character of a key after the first. -/
def isKeyChar (c : Char) : Bool := c.isAlphanum || c == '_' || c == '.'

/-- What one logical line says. -/
inductive Statement where
  | nothing
  | assignment (key value : String)
  | malformed
  deriving DecidableEq, Repr

/-- The key in front of a line, and what follows it and its blanks. -/
def readKey? (cs : List Char) : Option (String × List Char) :=
  match cs with
  | [] => none
  | c :: _ =>
    if isKeyStart c then
      some (String.ofList (cs.takeWhile isKeyChar), trimStart (cs.dropWhile isKeyChar))
    else none

/-- What follows an equals sign. -/
def afterEquals? : List Char → Option (List Char)
  | '=' :: rest => some (trimStart rest)
  | _ => none

/-- The word that may stand in front of an assignment. -/
def exportWord : String := "export"

/-- The key of a line, and the text of its value. -/
def readAssignment? (cs : List Char) : Option (String × List Char) := do
  let (key, rest) ← readKey? cs
  match afterEquals? rest with
  | some value => return (key, value)
  | none =>
    -- The word is a key like any other where an equals sign follows it.
    if key = exportWord then
      let (key, rest) ← readKey? rest
      return (key, ← afterEquals? rest)
    else none

/-- Does nothing but a comment stand here? -/
def isVoid : List Char → Bool
  | [] => true
  | c :: _ => c == '#'

/-- Reads one logical line. -/
def readLine (lookup : String → String) (line : List Char) : Statement :=
  let cs := trimStart (trimEnd line)
  if isVoid cs then .nothing
  else
    match readAssignment? cs with
    | none => .malformed
    | some (key, text) =>
      if isVoid text then .assignment key ""
      else
        match readValue lookup text with
        | none => .malformed
        | some value => .assignment key value

/-! ### Whole files -/

/-- The value of a name: the environment's, else the one assigned earlier in the file. -/
def substitute (env earlier : Environment) (name : String) : String :=
  ((env.get? name).or (earlier.get? name)).getD ""

/-- Sets a key that the environment does not have. -/
def setNew (env : Environment) (key value : String) : Environment :=
  if env.contains key then env else env.insert key value

/-- Carries out lines, up to the first malformed one; `earlier` holds what the file assigned before,
set or not. -/
def loadLines (env earlier : Environment) : List (Option (List Char)) → Environment
  | [] | none :: _ => env
  | some line :: lines =>
    match readLine (substitute env earlier) line with
    | .malformed => env
    | .nothing => loadLines env earlier lines
    | .assignment key value =>
      loadLines (setNew env key value) (earlier.insert key value) lines

/-- The environment after loading a file into it. -/
def load (env : Environment) (text : String) : Environment :=
  loadLines env .empty (logicalLines text)

end EnvFile

/-- The configuration of a process with the given environment and environment file. -/
def Config.ofEnvironment (env : Environment) (file : String) : Except ConfigError Config :=
  Config.ofLookup (EnvFile.load env file).get?

end Courier
