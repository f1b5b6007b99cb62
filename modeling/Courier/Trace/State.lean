import Courier.Text.Split
import Courier.Text.Utf8

/-!
# Trace state

The list of members that tracing systems pass along beside a trace: each has a key and a value.
`TraceState` holds well-formed members only (`isKey`, `isValue`), in the order in which they came;
the same key may come twice.

`TraceState.read?` reads the header form and refuses the whole list for one bad member;
`TraceState.header` writes it.
-/

namespace Courier

namespace TraceState

/-- The largest number of bytes of a key or of a value. -/
def maxLength : Nat := 256

/-- The largest number of characters after the `@` of a key. -/
def maxVendorLength : Nat := 13

/-- A lower-case letter or a digit. -/
def isKeyStart (c : Char) : Bool := c.isLower || c.isDigit

/-- A character of a key, apart from `@`. -/
def isKeyChar (c : Char) : Bool :=
  isKeyStart c || c == '_' || c == '-' || c == '*' || c == '/'

/-- Does a part of a key, before or after its `@`, begin well?  The empty part does. -/
def startsWell : List Char → Bool
  | [] => true
  | c :: _ => isKeyStart c

/-- Key characters, the first of them a letter or digit, and at most one `@` behind it, with a short
part after it that begins in the same way. -/
def isKey (key : String) : Bool :=
  (Utf8.encode key).length ≤ maxLength && startsWell key.toList &&
    match splitOn '@' key.toList with
    | [name] => name.all isKeyChar
    | [name, vendor] =>
      name.all isKeyChar && vendor.all isKeyChar && startsWell vendor &&
        vendor.length ≤ maxVendorLength
    | _ => false

/-- No comma and no equals sign, and not too long. -/
def isValue (value : String) : Bool :=
  (Utf8.encode value).length ≤ maxLength && value.toList.all fun c => c != ',' && c != '='

end TraceState

/-- The members that travel beside a trace. -/
structure TraceState where
  members : List (String × String) := []
  wellFormed : ∀ m ∈ members, TraceState.isKey m.1 ∧ TraceState.isValue m.2 := by
    exact List.forall_mem_nil _
  deriving DecidableEq

/-- A member that no trace state may have. -/
inductive TraceStateError where
  | key (key : String)
  | value (value : String)
  deriving DecidableEq, Repr

/-- The wording of a refused member. -/
def TraceStateError.message : TraceStateError → String
  | .key text =>
    text ++ " is not a valid key in TraceState, see " ++
      "https://www.w3.org/TR/trace-context/#key for more details"
  | .value text =>
    text ++ " is not a valid value in TraceState, see " ++
      "https://www.w3.org/TR/trace-context/#value for more details"

namespace TraceState

/-- The trace state without members. -/
def empty : TraceState := {}

instance : Inhabited TraceState := ⟨empty⟩

/-- The trace state of the given members, or what is wrong with the first bad one. -/
def ofMembers? : List (String × String) → Except TraceStateError TraceState
  | [] => .ok empty
  | (key, value) :: rest =>
    if hk : isKey key then
      if hv : isValue value then
        match ofMembers? rest with
        | .error e => .error e
        | .ok state => .ok ⟨(key, value) :: state.members, by
            intro m hm
            rcases List.mem_cons.1 hm with rfl | hm
            · exact ⟨hk, hv⟩
            · exact state.wellFormed m hm⟩
      else .error (.value value)
    else .error (.key key)

/-- One member: the key up to the first equals sign, and what follows all equals signs after it. -/
def readMember? (cs : List Char) : Option (String × String) :=
  (cutAt '=' cs).map fun (key, value) =>
    (String.ofList key, String.ofList (value.dropWhile (· == '=')))

/-- The members of a header, in order; `none` if one has no equals sign. -/
def readMembers? (header : String) : Option (List (String × String)) :=
  (splitTerminated ',' header.toList).mapM readMember?

/-- The trace state in a header. -/
def read? (header : String) : Option TraceState :=
  match readMembers? header with
  | none => none
  | some members => (ofMembers? members).toOption

/-- One member in the header. -/
def memberText (m : String × String) : List Char := m.1.toList ++ '=' :: m.2.toList

/-- The header form: `key=value` members with commas in between. -/
def header (state : TraceState) : String :=
  String.ofList ([','].intercalate (state.members.map memberText))

end TraceState

end Courier
