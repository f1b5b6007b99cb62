import Courier.Amqp.Broker
import Courier.Proofs.Processing.SameText

/-!
# Header tables that say the same

AMQP has three forms for texts and bytes, and publishers differ in which they choose; a table may
also hold values of other types, which the worker does not read.  `Table.Rewritten` says that two
tables differ in such things only.

`text?_headers` is what the worker reads of a table.  It looks at the bytes of a value
(`Value.bytes?`) and not at its form, so tables that are rewritten in this way give headers that say
the same (`sameText_of_rewritten`), and messages with such tables are treated alike
(`Worker.treatsAlike`).
-/

namespace Courier.Amqp

/-- The bytes of a text or of bytes, in whatever form; `none` for a value of another type. -/
def Value.bytes? : Value → Option (List UInt8)
  | .shortString s => some (Utf8.encode s)
  | .longString b => some b
  | .byteArray b => some b
  | _ => none

/-- What may become of a value, or of its place: it changes its form but not its bytes, or it is of
another type and comes or goes. -/
inductive Value.Rewritten : Option Value → Option Value → Prop where
  | kept (v? : Option Value) : Rewritten v? v?
  | recoded {v v' : Value} {bytes : List UInt8} (h : v.bytes? = some bytes)
    (h' : v'.bytes? = some bytes) : Rewritten (some v) (some v')
  | removed {v : Value} (h : v.bytes? = none) : Rewritten (some v) none
  | added {v : Value} (h : v.bytes? = none) : Rewritten none (some v)

/-- Under each key the value is rewritten. -/
def Table.Rewritten (t t' : Table) : Prop := ∀ key, Value.Rewritten (t.get? key) (t'.get? key)

/-- The worker reads the bytes of a value. -/
theorem text?_header? (v : Value) : v.header?.bind HeaderValue.text? = v.bytes?.bind Utf8.decode? := by
  cases v with
  | shortString s => exact (Utf8.decode?_encode s).symm
  | _ => rfl

theorem text?_headers (t : Table) (key : String) :
    t.headers.text? key =
      ((t.get? key).bind fun v => v.bytes?.bind Utf8.decode?).filter (· ≠ "") := by
  rw [Headers.text?, Table.headers, Dictionary.get?_filterMap, Option.bind_assoc]
  simp only [text?_header?]

theorem bind_bytes?_eq_of_rewritten {v? v?' : Option Value} (h : Value.Rewritten v? v?') :
    (v?'.bind fun v => v.bytes?.bind Utf8.decode?) =
      v?.bind fun v => v.bytes?.bind Utf8.decode? := by
  cases h with
  | kept => rfl
  | recoded h h' => rw [Option.bind_some, Option.bind_some, h, h']
  | removed h => rw [Option.bind_some, h]; rfl
  | added h => rw [Option.bind_some, h]; rfl

theorem sameText_of_rewritten {t t' : Table} (h : t.Rewritten t') :
    t.headers.SameText t'.headers := by
  intro key
  rw [text?_headers, text?_headers, bind_bytes?_eq_of_rewritten (h key)]

end Courier.Amqp

namespace Courier

variable {σ : Type}

/-- **Headers count by what they say.**  Deliveries with the same payload and the same properties are
treated alike if their headers say the same; and so are messages whose header tables differ only in
the forms of texts and bytes and in values of other types. -/
theorem Worker.treatsAlike (w : Worker σ) :
    (∀ d d' : Delivery, d.SameText d' → w.TreatsAlike d d') ∧
    (∀ (m : Amqp.Message) (t : Amqp.Table) (tag : Nat) (consumerTag : String)
      (closing : Amqp.ProtocolError), m.headers.Rewritten t →
        w.TreatsAlike (m.delivery tag consumerTag closing)
          ({ m with headers := t }.delivery tag consumerTag closing)) := by
  refine ⟨fun _ _ => treatsAlike_of_sameText w, ?_⟩
  intro m t tag consumerTag closing h
  exact treatsAlike_of_sameText w ⟨rfl, rfl, Amqp.sameText_of_rewritten h⟩

/-- The message id as bytes instead of text, beside an empty value and one that is no UTF-8; and as a
short instead of a long string, with one value of another type gone and another one new. -/
theorem Worker.treatsAlike_recoded :
    let w := Worker.scripted none
    let text : Headers := .ofList [("message_id", .text "m")]
    let bytes : Headers :=
      .ofList [("message_id", .bytes [109]), ("correlation_id", .text ""), ("x", .bytes [255])]
    let long : Amqp.Message :=
      { payload := [123, 125],
        headers := .ofList [("message_id", .longString [109]), ("n", .integer 1)] }
    let short : Amqp.Table := .ofList [("message_id", .shortString "m"), ("z", .void)]
    w.TreatsAlike { payload := [123, 125], headers := text }
        { payload := [123, 125], headers := bytes } ∧
      w.TreatsAlike (long.delivery 1 "" ⟨406, ""⟩)
        ({ long with headers := short }.delivery 1 "" ⟨406, ""⟩) := by
  intro w text bytes long short
  have hdelivery : Delivery.SameText { payload := [123, 125], headers := text }
      { payload := [123, 125], headers := bytes } := by
    refine ⟨rfl, rfl, ?_⟩
    intro key
    by_cases hid : key = "message_id"
    · rw [hid]
      decide
    · by_cases hcorrelation : key = "correlation_id"
      · rw [hcorrelation]
        decide
      · by_cases hx : key = "x"
        · rw [hx]
          decide
        · simp only [text, bytes, Headers.text?, Dictionary.ofList, List.foldl_cons, List.foldl_nil,
            Dictionary.get?_insert, hid, hcorrelation, hx, if_false]
  have htable : long.headers.Rewritten short := by
    intro key
    simp only [long, short, Dictionary.ofList, List.foldl_cons, List.foldl_nil,
      Dictionary.get?_insert, Dictionary.get?_empty]
    by_cases hid : key = "message_id"
    · rw [hid]
      exact .recoded rfl rfl
    · by_cases hn : key = "n"
      · rw [hn]
        exact .removed rfl
      · by_cases hz : key = "z"
        · rw [hz]
          exact .added rfl
        · simp only [hid, hn, hz, if_false]
          exact .kept none
  exact ⟨(treatsAlike w).1 _ _ hdelivery, (treatsAlike w).2 long short 1 "" ⟨406, ""⟩ htable⟩

end Courier
