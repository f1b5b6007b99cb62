import Courier.Network
import Courier.Url.Basic

/-!
# Collector endpoints

Finished spans go to a collector that is found under a URL.  `Endpoint.ofText?` takes the general
form of a request target:

* `scheme://authority/path?query#fragment`, where all but scheme and authority may be missing, and
  the fragment is dropped;
* an authority alone;
* a path and query alone, beginning with a slash.

An authority is what `Authority.isValid` accepts: characters that may stand in a URL, with at most
one colon after the login, brackets only around all of the host, and something after the login.

A request needs more, a URL (`Endpoint.url?`): it gives the place of the collector, and what is
asked for there.
-/

namespace Courier

/-- An endpoint, as it is written. -/
structure Endpoint where
  scheme : Option String
  authority : String
  /-- The path and the query. -/
  target : String
  deriving DecidableEq, Repr

/-! ### Characters -/

/-- A letter, a digit, or one of the marks that may stand anywhere in a URL. -/
def isUrlChar (c : Char) : Bool := c.isAlphanum || "!#$&'()*+,-./:;=?@[]_~".toList.contains c

/-- A character that ends an authority. -/
def endsAuthority (c : Char) : Bool := c == '/' || c == '?' || c == '#'

/-- A character of a path; some that should be coded are let through. -/
def isPathChar (c : Char) : Bool :=
  c == '!' || ('$' ≤ c && c ≤ ';') || c == '=' || ('@' ≤ c && c ≤ '_') || ('a' ≤ c && c ≤ 'z') ||
    c == '|' || c == '~' || c == '"' || c == '\x7b' || c == '\x7d' || '\x80' ≤ c

/-- A character of a query. -/
def isQueryChar (c : Char) : Bool :=
  c == '!' || ('$' ≤ c && c ≤ ';') || c == '=' || ('?' ≤ c && c != '\x7f')

/-! ### Authorities -/

/-- What has been seen of an authority. -/
structure Authority where
  /-- The number of colons since the login or the brackets. -/
  colons : Nat := 0
  isOpened : Bool := false
  isClosed : Bool := false
  /-- Has there been a percent sign since the login or the brackets? -/
  hasPercent : Bool := false
  /-- Was the last character the one that ends a login? -/
  endsLogin : Bool := false
  deriving DecidableEq, Repr

namespace Authority

/-- The number of colons in the longest address in brackets, with the one before the socket. -/
def maxColons : Nat := 8

/-- Sees one more character; `none` if it cannot stand there. -/
def next? (a : Authority) (c : Char) : Option Authority :=
  if c = ':' then
    if maxColons ≤ a.colons then none
    else some { a with colons := a.colons + 1, endsLogin := false }
  else if c = '[' then
    if a.hasPercent || a.isOpened then none
    else some { a with isOpened := true, endsLogin := false }
  else if c = ']' then
    if !a.isOpened || a.isClosed then none
    else some { a with isClosed := true, colons := 0, hasPercent := false, endsLogin := false }
  -- What came before was a login, where colons and percent signs are free.
  else if c = '@' then some { a with colons := 0, hasPercent := false, endsLogin := true }
  else if c = '%' then some { a with hasPercent := true, endsLogin := false }
  else if isUrlChar c then some { a with endsLogin := false }
  else none

/-- Can the authority end here? -/
def isComplete (a : Authority) : Bool :=
  a.isOpened == a.isClosed && a.colons ≤ 1 && !a.endsLogin && !a.hasPercent

/-- Is this an authority? -/
def isValid (cs : List Char) : Bool := (cs.foldlM next? {}).any isComplete

end Authority

/-! ### Endpoints -/

namespace Endpoint

/-- The path and the query, without the fragment. -/
def target? (cs : List Char) : Option String :=
  let written := cs.takeWhile (· ≠ '#')
  let isValid :=
    match cutAt '?' written with
    | none => written.all isPathChar
    | some (path, query) => path.all isPathChar && query.all isQueryChar
  if isValid then some (String.ofList written) else none

/-- The length of the longest scheme. -/
def maxSchemeLength : Nat := 64

/-- The scheme, and what follows the two slashes after it. -/
def cutScheme (cs : List Char) : Option (List Char × List Char) :=
  match cutAt ':' cs with
  | some (scheme, '/' :: '/' :: rest) =>
    if scheme.all Scheme.isChar then some (scheme, rest) else none
  | _ => none

/-- Reads what follows a scheme. -/
def ofAuthority? (scheme rest : List Char) : Option Endpoint :=
  let authority := rest.takeWhile (!endsAuthority ·)
  if maxSchemeLength < scheme.length ∨ authority = [] ∨ ¬Authority.isValid authority then none
  else
    (target? (rest.dropWhile (!endsAuthority ·))).map fun target =>
      ⟨some (String.ofList scheme).toLower, String.ofList authority, target⟩

/-- Reads an endpoint. -/
def ofText? (text : String) : Option Endpoint :=
  match text.toList with
  | [] => none
  | '/' :: rest => (target? ('/' :: rest)).map fun target => ⟨none, "", target⟩
  | cs =>
    match cutScheme cs with
    | some (scheme, rest) => ofAuthority? scheme rest
    | none =>
      if cs.all (!endsAuthority ·) && Authority.isValid cs then some ⟨none, text, ""⟩ else none

/-- The schemes that a request can be sent by, with the socket of each. -/
def sockets : List (String × Nat) := [("http", 80), ("https", 443)]

/-- The socket that need not be given, if a request can be sent. -/
def standardSocket? (e : Endpoint) : Option Nat := e.scheme.bind fun scheme => sockets.lookup scheme

/-- The path and the query; the path begins with a slash. -/
def rootedTarget (e : Endpoint) : String :=
  if e.target.startsWith "/" then e.target else "/" ++ e.target

/-- The URL of the endpoint, if it has one. -/
def url? (e : Endpoint) : Option Url :=
  e.scheme.bind fun scheme =>
    (Url.ofText (scheme ++ "://" ++ e.authority ++ e.rootedTarget)).toOption

/-- The place of the collector, if a request can be sent there. -/
def place? (e : Endpoint) : Option Place := do
  let socket ← e.standardSocket?
  let url ← e.url?
  let host ← url.host
  return ⟨host.text, url.socket.getD socket⟩

/-- Is what is sent to the endpoint encrypted? -/
def isSecure (e : Endpoint) : Bool := e.scheme == some "https"

/-- What a request asks for. -/
def requestTarget (e : Endpoint) : String := ((e.url?).map Url.target).getD e.rootedTarget

end Endpoint

end Courier
