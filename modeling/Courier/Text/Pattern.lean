/-!
# Text patterns

A `Pattern` describes texts: single characters of a class, sequences, alternatives, repetitions.
`Pattern.read?` reads its written form:

* `.` is any character but a line break, `[a-z_]` one of those, `[^a-z_]` one of all others;
* `\d`, `\w` and `\s` are digits, word characters and blanks, and any mark after a backslash is
  itself;
* `a*`, `a+` and `a?` repeat, `a|b` chooses, and round brackets group;
* `^` and `$` mark the ends of the text, which are there anyway.

`Pattern.describes` decides whether a whole text is described.  It goes through the text once: after
each character, `derive` is what the rest has to match.
-/

namespace Courier

/-! ### Classes of characters -/

/-- Some characters: those in the ranges, or all others. -/
structure CharClass where
  ranges : List (Char × Char)
  isNegated : Bool := false
  deriving DecidableEq, Repr

namespace CharClass

/-- Is the character in the class? -/
def contains (s : CharClass) (c : Char) : Bool :=
  s.ranges.any (fun range => range.1 ≤ c && c ≤ range.2) != s.isNegated

/-- One character. -/
def single (c : Char) : CharClass := ⟨[(c, c)], false⟩

/-- Everything but a line break. -/
def line : CharClass := ⟨[('\n', '\n')], true⟩

/-- Digits. -/
def digit : List (Char × Char) := [('0', '9')]

/-- Word characters. -/
def word : List (Char × Char) := [('0', '9'), ('A', 'Z'), ('_', '_'), ('a', 'z')]

/-- Blanks. -/
def blank : List (Char × Char) := [('\t', '\r'), (' ', ' ')]

/-- The class that a character stands for after a backslash. -/
def escaped? (c : Char) : Option CharClass :=
  match c with
  | 'd' => some ⟨digit, false⟩
  | 'D' => some ⟨digit, true⟩
  | 'w' => some ⟨word, false⟩
  | 'W' => some ⟨word, true⟩
  | 's' => some ⟨blank, false⟩
  | 'S' => some ⟨blank, true⟩
  | 'n' => some (single '\n')
  | 'r' => some (single '\r')
  | 't' => some (single '\t')
  | c => if c.isAlphanum || 0x80 ≤ c.toNat then none else some (single c)

end CharClass

/-! ### Patterns -/

/-- A description of texts. -/
inductive Pattern where
  /-- Describes no text. -/
  | never
  /-- Describes the empty text. -/
  | empty
  | one (s : CharClass)
  | both (first second : Pattern)
  | either (left right : Pattern)
  | many (p : Pattern)
  deriving DecidableEq, Repr

namespace Pattern

/-- Is the empty text described? -/
def allowsEmpty : Pattern → Bool
  | never | one _ => false
  | empty | many _ => true
  | both first second => first.allowsEmpty && second.allowsEmpty
  | either left right => left.allowsEmpty || right.allowsEmpty

/-- One pattern after the other, without parts that say nothing. -/
def join : Pattern → Pattern → Pattern
  | never, _ | _, never => never
  | empty, p | p, empty => p
  | first, second => both first second

/-- One of two patterns, without parts that say nothing. -/
def choose (left right : Pattern) : Pattern :=
  if left = never then right
  else if right = never ∨ left = right then left
  else either left right

/-- What has to follow a character. -/
def derive (c : Char) : Pattern → Pattern
  | never | empty => never
  | one s => if s.contains c then empty else never
  | both first second =>
    let rest := (first.derive c).join second
    if first.allowsEmpty then rest.choose (second.derive c) else rest
  | either left right => (left.derive c).choose (right.derive c)
  | many p => (p.derive c).join (many p)

/-- Is the whole text described? -/
def describes (p : Pattern) (cs : List Char) : Bool :=
  (cs.foldl (fun p c => p.derive c) p).allowsEmpty

/-! ### Reading -/

/-- A part of the written form. -/
inductive Token where
  | one (s : CharClass)
  | edge
  | opening
  | closing
  | bar
  | star
  | plus
  | question
  deriving DecidableEq, Repr

/-- Where in the written form the reading is. -/
inductive Place where
  | plain
  /-- After a backslash. -/
  | escape
  /-- Inside square brackets. -/
  | inside (s : CharClass) (isFirst : Bool)
  /-- Inside square brackets after a backslash. -/
  | insideEscape (s : CharClass)
  /-- Inside square brackets after the hyphen of a range. -/
  | range (s : CharClass) (first : Char)
  deriving DecidableEq, Repr

/-- The parts of the written form. -/
def tokens? : Place → List Char → Option (List Token)
  | .plain, [] => some []
  | _, [] => none
  | .plain, c :: rest =>
    match c with
    | '\\' => tokens? .escape rest
    | '[' => tokens? (.inside ⟨[], false⟩ true) rest
    | '(' => (tokens? .plain rest).map (.opening :: ·)
    | ')' => (tokens? .plain rest).map (.closing :: ·)
    | '|' => (tokens? .plain rest).map (.bar :: ·)
    | '*' => (tokens? .plain rest).map (.star :: ·)
    | '+' => (tokens? .plain rest).map (.plus :: ·)
    | '?' => (tokens? .plain rest).map (.question :: ·)
    | '^' | '$' => (tokens? .plain rest).map (.edge :: ·)
    | '.' => (tokens? .plain rest).map (.one .line :: ·)
    | '\x7b' => none
    | c => (tokens? .plain rest).map (.one (.single c) :: ·)
  | .escape, c :: rest =>
    match CharClass.escaped? c with
    | none => none
    | some s => (tokens? .plain rest).map (.one s :: ·)
  | .inside s isFirst, c :: rest =>
    if c = '^' ∧ isFirst ∧ ¬s.isNegated then
      tokens? (.inside { s with isNegated := true } true) rest
    else if c = ']' ∧ ¬isFirst then (tokens? .plain rest).map (.one s :: ·)
    else if c = '\\' then tokens? (.insideEscape s) rest
    else
      match rest with
      | '-' :: last :: rest =>
        -- A hyphen at the end is itself.
        if last = ']' then
          tokens? (.inside { s with ranges := (c, c) :: s.ranges } false) ('-' :: last :: rest)
        else tokens? (.range s c) (last :: rest)
      | rest => tokens? (.inside { s with ranges := (c, c) :: s.ranges } false) rest
  | .insideEscape s, c :: rest =>
    match CharClass.escaped? c with
    | none => none
    | some e =>
      if e.isNegated then none
      else tokens? (.inside { s with ranges := e.ranges ++ s.ranges } false) rest
  | .range s first, last :: rest =>
    if first ≤ last then tokens? (.inside { s with ranges := (first, last) :: s.ranges } false) rest
    else none
  termination_by _ cs => cs.length

/-- What has been read of a group: the alternatives before the last bar, and the parts after it,
last part first. -/
structure Group where
  before : Pattern := .never
  parts : List Pattern := []

/-- The alternatives of a group. -/
def Group.pattern (g : Group) : Pattern :=
  let last := g.parts.foldl (fun rest p => p.join rest) .empty
  if g.before = .never then last else either g.before last

/-- Changes the last part of a group, if it has one. -/
def Group.repeat? (g : Group) (f : Pattern → Pattern) : Option Group :=
  match g.parts with
  | [] => none
  | p :: parts => some { g with parts := f p :: parts }

/-- Reads the parts of the written form; `outer` holds the groups around the present one. -/
def ofTokens? (g : Group) (outer : List Group) : List Token → Option Pattern
  | [] => if outer.isEmpty then some g.pattern else none
  | .one s :: rest => ofTokens? { g with parts := one s :: g.parts } outer rest
  | .edge :: rest => ofTokens? { g with parts := empty :: g.parts } outer rest
  | .opening :: rest => ofTokens? {} (g :: outer) rest
  | .closing :: rest =>
    match outer with
    | [] => none
    | next :: outer => ofTokens? { next with parts := g.pattern :: next.parts } outer rest
  | .bar :: rest => ofTokens? ⟨g.pattern, []⟩ outer rest
  | .star :: rest => (g.repeat? many).bind fun g => ofTokens? g outer rest
  | .plus :: rest => (g.repeat? fun p => p.join (many p)).bind fun g => ofTokens? g outer rest
  | .question :: rest => (g.repeat? fun p => p.choose empty).bind fun g => ofTokens? g outer rest

/-- Reads a pattern. -/
def read? (cs : List Char) : Option Pattern := (tokens? .plain cs).bind (ofTokens? {} [])

end Pattern

end Courier
