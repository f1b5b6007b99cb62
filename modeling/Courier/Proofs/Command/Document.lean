import Courier.Command.Basic
import Courier.Proofs.Json.Grammar

/-!
# Documents that hold a command

Which documents hold a command, and which command, said without any reader.  There are two forms.

* An object (`IsObject`) has members in any order.  The member of a field has the field's name as
  its key, however that is escaped, and `null` or a value of the field's type behind it
  (`FieldText`); no field has two of them.  Members with other keys hold anything.
* A list (`IsList`) has the values of the fields in the order of `Field.all`, cut off anywhere.

Either way a document comes down to what it says about fields, a list of entries, and `ofEntries` is
the command that the entries make: a field that has no entry, or `null`, has its default.
-/

namespace Courier.Command

open Json Json.Grammar

/-- What a document says about a field. -/
inductive Content where
  | null
  | text (s : String)
  | integer (i : Int64)
  deriving DecidableEq, Repr

namespace Content

/-- The text, if the content is one. -/
def text? : Content → Option String
  | text s => some s
  | _ => none

/-- The integer, if the content is one. -/
def integer? : Content → Option Int64
  | integer i => some i
  | _ => none

end Content

/-- A field and what a document says about it. -/
abbrev Entry := Field × Content

/-! ### Meaning -/

/-- The command whose fields have the given contents. -/
def ofContents (g : Field → Content) : Command where
  kind := (g .kind).text?.getD ""
  recipient := (g .recipient).text?.getD ""
  subject := (g .subject).text?.getD ""
  body := (g .body).text?.getD ""
  applicationId := (g .applicationId).text?.getD ""
  interviewId := (g .interviewId).text?
  jobId := (g .jobId).integer?.getD 0

/-- What the entries say about a field: without an entry, as much as `null`. -/
def contentOf (entries : List Entry) (f : Field) : Content := (entries.lookup f).getD .null

/-- The command that the entries of a document make. -/
def ofEntries (entries : List Entry) : Command := ofContents (contentOf entries)

/-- Entries for fields of their own are found where they are. -/
theorem lookup_eq_some_iff_mem {es : List Entry} (hfields : (es.map Prod.fst).Nodup) {f : Field}
    {content : Content} : es.lookup f = some content ↔ (f, content) ∈ es := by
  induction es with
  | nil => simp only [List.lookup_nil, reduceCtorEq, List.not_mem_nil]
  | cons e es ih =>
    obtain ⟨g, other⟩ := e
    obtain ⟨hfresh, hrest⟩ := List.nodup_cons.1 hfields
    rw [List.mem_cons, ← ih hrest, Prod.mk.injEq]
    by_cases hf : f = g
    · subst hf
      have hnone : es.lookup f ≠ some content := fun h =>
        hfresh (List.mem_map.2 ⟨_, (ih hrest).1 h, rfl⟩)
      simp only [List.lookup_cons_self, Option.some.injEq, true_and, hnone, or_false, eq_comm]
    · have hne : (f == g) = false := beq_false_of_ne hf
      simp only [List.lookup_cons, hne, hf, false_and, false_or]

/-- The entries that are not `null`: those that make a difference. -/
def telling (es : List Entry) : List Entry := es.filter (·.2 ≠ .null)

theorem mem_telling_iff {es : List Entry} (hfields : (es.map Prod.fst).Nodup) {f : Field}
    {content : Content} :
    (f, content) ∈ telling es ↔ contentOf es f = content ∧ content ≠ .null := by
  rw [telling, List.mem_filter, decide_eq_true_iff, ← lookup_eq_some_iff_mem hfields, contentOf]
  cases es.lookup f with
  | none =>
    simp only [reduceCtorEq, false_and, Option.getD_none, false_iff]
    rintro ⟨rfl, h⟩
    exact h rfl
  | some content' => rw [Option.some.injEq, Option.getD_some]

/-- **Order, and entries that are `null`, make no difference.** -/
theorem ofEntries_congr {es es' : List Entry} (hfields : (es.map Prod.fst).Nodup)
    (hfields' : (es'.map Prod.fst).Nodup) (h : (telling es).Perm (telling es')) :
    ofEntries es = ofEntries es' := by
  have hcontent : contentOf es = contentOf es' := by
    funext f
    by_cases hnull : contentOf es f = .null
    · by_cases hnull' : contentOf es' f = .null
      · rw [hnull, hnull']
      · have hmem := h.mem_iff.2 ((mem_telling_iff hfields').2 ⟨rfl, hnull'⟩)
        exact ((mem_telling_iff hfields).1 hmem).1
    · have hmem := h.mem_iff.1 ((mem_telling_iff hfields).2 ⟨rfl, hnull⟩)
      exact ((mem_telling_iff hfields').1 hmem).1.symm
  rw [ofEntries, ofEntries, hcontent]

/-! ### Form -/

/-- The value of a field: `null`, or an integer for the job and a string for every other field. -/
inductive FieldText : Field → List UInt8 → Content → List UInt8 → Prop where
  | null {f : Field} {s : List UInt8} : FieldText f (0x6E :: nullTail ++ s) .null s
  | text {f : Field} {text : String} {s t : List UInt8} (hf : f ≠ .jobId) (h : Text s text t) :
    FieldText f s (.text text) t
  | integer {i : Int64} {s t : List UInt8} (h : Integer s i.toInt t) :
    FieldText .jobId s (.integer i) t

/-- A member of an object: that of a field, or one with another key. -/
inductive Member where
  | field (f : Field) (content : Content)
  | other (key : String)
  deriving DecidableEq, Repr

/-- What a member says about a field. -/
def Member.entry? : Member → Option Entry
  | field f content => some (f, content)
  | other _ => none

/-- What the members say about fields, in their order. -/
def entries (ms : List Member) : List Entry := ms.filterMap Member.entry?

/-- The fields of the members, in their order. -/
def fields (ms : List Member) : List Field := (entries ms).map Prod.fst

@[simp] theorem fields_nil : fields [] = [] := rfl

@[simp] theorem fields_field (f : Field) (content : Content) (ms : List Member) :
    fields (.field f content :: ms) = f :: fields ms := rfl

@[simp] theorem fields_other (key : String) (ms : List Member) :
    fields (.other key :: ms) = fields ms := rfl

/-- A member, from the opening quote of its key to the end of its value. -/
inductive MemberText : List UInt8 → Member → List UInt8 → Prop where
  | field {f : Field} {content : Content} {s t u v w : List UInt8} (hk : Text s f.name t)
    (hc : Blanks t (colon :: u)) (hb : Blanks u v) (hv : FieldText f v content w) :
    MemberText s (.field f content) w
  | other {key : String} {s t u v w : List UInt8} (hk : Text s key t)
    (hkey : ∀ f : Field, key ≠ f.name) (hc : Blanks t (colon :: u)) (hb : Blanks u v)
    (hv : Value v w) : MemberText s (.other key) w

/-- The items of a bracket, up to its closing byte and with it.  A comma stands in front of each of
them but the first, and nowhere else. -/
inductive Items {α : Type} (bracket : Bracket) (item : List UInt8 → α → List UInt8 → Prop) :
    Bool → List UInt8 → List α → List UInt8 → Prop where
  | done {isFirst : Bool} {s t : List UInt8} (hb : Blanks s (bracket.close :: t)) :
    Items bracket item isFirst s [] t
  | first {a : α} {as : List α} {s t u v : List UInt8} (hb : Blanks s t) (ha : item t a u)
    (h : Items bracket item false u as v) : Items bracket item true s (a :: as) v
  | next {a : α} {as : List α} {s t u v w : List UInt8} (hc : Blanks s (comma :: t))
    (hb : Blanks t u) (ha : item u a v) (h : Items bracket item false v as w) :
    Items bracket item false s (a :: as) w

/-- A document that is one bracket with the given items, blanks around it apart. -/
def IsBracket {α : Type} (bracket : Bracket) (item : List UInt8 → α → List UInt8 → Prop)
    (document : List UInt8) (as : List α) : Prop :=
  ∃ s t, Blanks document (opener bracket :: s) ∧ Items bracket item true s as t ∧ Blanks t []

/-- A document that is an object with the given members. -/
def IsObject (document : List UInt8) (ms : List Member) : Prop :=
  IsBracket .object MemberText document ms

/-- A document that is a list of values for the given fields. -/
def IsList (document : List UInt8) (es : List Entry) : Prop :=
  IsBracket .list (fun s e t => FieldText e.1 s e.2 t) document es

end Courier.Command
