import Courier.Text.Percent
import Courier.Text.Property
import Courier.Url.DomainChar
import Courier.Url.Numeric
import Courier.Url.Punycode

/-!
# Hosts

The host of a URL is a domain name or a numeric address.

* Where names are domain names (`Host.ofName`), they may be percent-coded, their case does not
  matter, and a name that ends in a number is an address of four bytes.
* Elsewhere (`Host.ofAnyText`) a name is any text without the marks that separate the parts of a
  URL.

Both know addresses of eight pieces by their brackets.
-/

namespace Courier

/-- What is wrong with a URL. -/
inductive UrlFault where
  | noScheme
  | emptyHost
  | badSocket
  | badDomain
  | badHostCharacter
  | badShortAddress
  | badLongAddress
  deriving DecidableEq, Repr

/-- The wording of a fault. -/
def UrlFault.message : UrlFault → String
  | noScheme => "relative URL without a base"
  | emptyHost => "empty host"
  | badSocket => "invalid port number"
  | badDomain => "invalid international domain name"
  | badHostCharacter => "invalid domain character"
  | badShortAddress => "invalid IPv4 address"
  | badLongAddress => "invalid IPv6 address"

/-! ### Domain names -/

namespace Domain

/-- The form of a character in which case and width do not show. -/
def fold (c : Char) : Char :=
  let n := c.toNat
  if 0xFF01 ≤ n && n ≤ 0xFF5E then (Char.ofNat (n - 0xFEE0)).toLower
  else if n = 0x3002 || n = 0xFF61 then '.'
  else c.toLower

/-- A character of ASCII that no domain name may hold. -/
def isDenied (c : Char) : Bool :=
  c.toNat ≤ 0x20 || c == '\x7f' || "#/:<>?@[\\]^|%".toList.contains c

/-- Do the code points behind a coded label make it one?  Some of them must be outside ASCII. -/
def isDecoded (codePoints : List Nat) : Bool :=
  codePoints.any (0x80 ≤ ·) &&
    codePoints.all fun n =>
      let c := Char.ofNat n
      !isDenied c && !DomainChar.isRefused c && !DomainChar.isIgnored c && c != '.'

/-- Is this a label of a domain name?  It may not begin with a character that extends another. -/
def isLabel : List Char → Bool
  | 'x' :: 'n' :: '-' :: '-' :: coded => (Punycode.decode? coded).any isDecoded
  | c :: _ => c.toNat < 0x80 || !isHidden c
  | [] => true

/-- The usual form of a domain name, if it is one. -/
def ofText? (cs : List Char) : Option (List Char) :=
  let name := (cs.map fold).filter (!DomainChar.isIgnored ·)
  if name.any (fun c => isDenied c || DomainChar.isRefused c) then none
  else if (splitOn '.' name).all isLabel then some name
  else none

end Domain

/-! ### Hosts -/

/-- The host of a URL. -/
inductive Host where
  /-- A name, still percent-coded where it is no domain name. -/
  | name (cs : List Char)
  | ipv4 (address : Nat)
  | ipv6 (pieces : List Nat)
  deriving DecidableEq, Repr

namespace Host

/-- The name of the host, or its number. -/
def text : Host → String
  | name cs => String.ofList cs
  | ipv4 address => ipv4Text address
  | ipv6 pieces => ipv6Text pieces

/-- Reads an address in brackets, without the first one. -/
def ofBracket (cs : List Char) : Except UrlFault Host :=
  if cs.getLast? = some ']' then
    match ipv6? cs.dropLast with
    | some pieces => .ok (ipv6 pieces)
    | none => .error .badLongAddress
  else .error .badLongAddress

/-- The host of a domain name. -/
def ofDomain (cs : List Char) : Except UrlFault Host :=
  if cs = [] then .error .emptyHost
  else if endsInNumber cs then
    match ipv4? cs with
    | some address => .ok (ipv4 address)
    | none => .error .badShortAddress
  else .ok (name cs)

/-- Reads a host where names are domain names. -/
def ofName (cs : List Char) : Except UrlFault Host :=
  match cs with
  | '[' :: rest => ofBracket rest
  | _ =>
    match (Percent.decodeText cs).toOption.bind fun s => Domain.ofText? s.toList with
    | some domain => ofDomain domain
    | none => .error .badDomain

/-- A character that stands between the parts of a URL, or that nothing can print. -/
def isSeparator (c : Char) : Bool := "\x00\t\n\r #/:<>?@[\\]^|".toList.contains c

/-- Reads a host where names may be anything. -/
def ofAnyText (cs : List Char) : Except UrlFault Host :=
  match cs with
  | '[' :: rest => ofBracket rest
  | _ => if cs.any isSeparator then .error .badHostCharacter else .ok (name cs)

end Host

end Courier
