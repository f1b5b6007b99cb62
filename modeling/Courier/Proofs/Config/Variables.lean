import Courier.Proofs.Config.Loading
import Courier.Proofs.Text.Numeral

/-!
# What each variable decides

Of the nine variables one can be wrong.  A grace period that is set must be the numeral of a number
that 64 bits hold (`readGrace_some_eq_ok_iff`), and nothing else counts for the success of
`ofLookup` (`exists_ofLookup_eq_error_iff`).

A configuration is taken from a lookup (`Config.TakenFrom`) if every variable that is set has
decided its own field and the other fields have their standard values.  The names of the variables
differ (`Variable.name_injective`), so a variable decides no other field than its own
(`ofLookup_takenFrom`).
-/

namespace Courier.Config

variable {lookup lookup' : String → Option String} {v : Variable} {c c' : Config} {value : String}

theorem Variable.name_injective {v w : Variable} (h : v.name = w.name) : v = w := by
  revert h
  cases v <;> cases w <;> decide

/-! ### Settings -/

theorem setting_eq_some_iff :
    setting lookup v = some value ↔ lookup v.name = some value ∧ value ≠ "" := by
  rw [setting, nonEmpty, Option.filter_eq_some_iff, decide_eq_true_eq]

/-- Lookups that differ only in having an empty value or none give the same settings. -/
theorem setting_congr
    (h : ∀ key value, value ≠ "" → (lookup key = some value ↔ lookup' key = some value)) :
    setting lookup = setting lookup' := by
  funext v
  apply Option.ext
  intro value
  rw [setting_eq_some_iff, setting_eq_some_iff]
  exact and_congr_left (h v.name value)

/-! ### The grace period -/

theorem readGrace_none : readGrace none = .ok 10 := rfl

theorem readGrace_some_eq_ok_iff {seconds : Nat} :
    readGrace (some value) = .ok seconds ↔ IsNumeral value seconds ∧ seconds < wordBound := by
  have hread : readGrace (some value) = .ok seconds ↔
      readNat 10 wordBound value.toList = .ok seconds := by
    rw [readGrace]
    cases readNat 10 wordBound value.toList <;> simp
  rw [hread]
  exact readNat_eq_ok_iff (by decide)

theorem exists_readGrace_eq_error_iff {text? : Option String} :
    (∃ e, readGrace text? = .error e) ↔
      ∃ value, text? = some value ∧ ¬∃ n < wordBound, IsNumeral value n := by
  constructor
  · rintro ⟨e, he⟩
    cases text? with
    | none => cases he
    | some value =>
      refine ⟨value, rfl, ?_⟩
      rintro ⟨n, hlt, hn⟩
      rw [readGrace_some_eq_ok_iff.2 ⟨hn, hlt⟩] at he
      cases he
  · rintro ⟨value, rfl, hnone⟩
    cases hread : readGrace (some value) with
    | error e => exact ⟨e, rfl⟩
    | ok n =>
      obtain ⟨hn, hlt⟩ := readGrace_some_eq_ok_iff.1 hread
      exact absurd ⟨n, hlt, hn⟩ hnone

/-- A lookup gives no configuration exactly if it has a grace period that is no number of
seconds. -/
theorem exists_ofLookup_eq_error_iff :
    (∃ e, ofLookup lookup = .error e) ↔
      ∃ value, lookup "SHUTDOWN_GRACE_SECONDS" = some value ∧ value ≠ "" ∧
        ¬∃ n < wordBound, IsNumeral value n := by
  have hgrace : (∃ e, ofLookup lookup = .error e) ↔
      ∃ e, readGrace (setting lookup .shutdownGrace) = .error e := by
    rw [ofLookup, setting]
    cases readGrace (nonEmpty (lookup Variable.shutdownGrace.name)) <;> simp
  rw [hgrace, exists_readGrace_eq_error_iff]
  simp only [setting_eq_some_iff, and_assoc]
  rfl

/-! ### The other variables -/

/-- The text that a configuration has for a variable; the grace period is no text. -/
def text? (c : Config) : Variable → Option String
  | .brokerUrl => some c.brokerUrl
  | .queue => some c.queue
  | .deadLetterExchange => some c.deadLetterExchange
  | .shutdownGrace => none
  | .serviceName => some c.serviceName
  | .traceEndpoint => some c.traceEndpoint
  | .podName => some c.podName
  | .podNamespace => some c.podNamespace
  | .nodeName => some c.nodeName

/-- Each variable that is set has decided its field, and the other fields are the standard ones. -/
structure TakenFrom (lookup : String → Option String) (c : Config) : Prop where
  grace : ∀ value, setting lookup .shutdownGrace = some value → IsNumeral value c.shutdownGrace
  standardGrace : setting lookup .shutdownGrace = none → c.shutdownGrace = 10
  texts : ∀ v : Variable, v ≠ .shutdownGrace →
    c.text? v = (setting lookup v).or (({} : Config).text? v)

theorem readGrace_of_ofLookup (h : ofLookup lookup = .ok c) :
    readGrace (setting lookup .shutdownGrace) = .ok c.shutdownGrace := by
  rw [ofLookup] at h
  split at h
  · cases h
  · rename_i seconds hgrace
    obtain rfl := Except.ok.inj h
    exact hgrace

theorem text?_of_ofLookup (h : ofLookup lookup = .ok c) (hv : v ≠ .shutdownGrace) :
    c.text? v = (setting lookup v).or (({} : Config).text? v) := by
  rw [ofLookup] at h
  split at h
  · cases h
  · obtain rfl := Except.ok.inj h
    cases v with
    | shutdownGrace => exact absurd rfl hv
    | _ => exact Option.or_some.symm

theorem takenFrom_of_ofLookup (h : ofLookup lookup = .ok c) : c.TakenFrom lookup := by
  have hgrace := readGrace_of_ofLookup h
  refine ⟨?_, ?_, fun v => text?_of_ofLookup h⟩
  · intro value hvalue
    rw [hvalue] at hgrace
    exact (readGrace_some_eq_ok_iff.1 hgrace).1
  · intro hnone
    rw [hnone, readGrace_none] at hgrace
    exact (Except.ok.inj hgrace).symm

/-- Where two lookups have the same setting of a variable, what is taken from them has the same text
for it. -/
theorem TakenFrom.text?_eq (h : c.TakenFrom lookup) (h' : c'.TakenFrom lookup')
    (hv : setting lookup v = setting lookup' v) : c.text? v = c'.text? v := by
  by_cases hgrace : v = .shutdownGrace
  · rw [hgrace]
    rfl
  · rw [h.texts v hgrace, h'.texts v hgrace, hv]

/-! ### Lookups -/

/-- **Each variable decides its own field.**  A lookup gives no configuration exactly if it has a
grace period that is no number of seconds.  Otherwise the variables that are set decide their own
fields, and the rest is standard: a change of one variable shows in no other field, and an empty
value is as good as none. -/
theorem ofLookup_takenFrom (lookup : String → Option String) :
    ((∃ e, ofLookup lookup = .error e) ↔
      ∃ value, lookup "SHUTDOWN_GRACE_SECONDS" = some value ∧ value ≠ "" ∧
        ¬∃ n < wordBound, IsNumeral value n) ∧
    (∀ c, ofLookup lookup = .ok c → c.TakenFrom lookup) ∧
    (∀ (v : Variable) (lookup' : String → Option String),
      (∀ key, key ≠ v.name → lookup' key = lookup key) →
      ∀ c c', ofLookup lookup = .ok c → ofLookup lookup' = .ok c' → ∀ w : Variable, w ≠ v →
        c'.text? w = c.text? w ∧ (w = .shutdownGrace → c'.shutdownGrace = c.shutdownGrace)) ∧
    ∀ lookup' : String → Option String,
      (∀ key value, value ≠ "" → (lookup key = some value ↔ lookup' key = some value)) →
      ofLookup lookup = ofLookup lookup' := by
  refine ⟨exists_ofLookup_eq_error_iff, fun _ => takenFrom_of_ofLookup, ?_,
    fun _ h => ofLookup_congr (setting_congr h)⟩
  intro v lookup' hothers c c' hc hc' w hw
  have hsame : setting lookup' w = setting lookup w := by
    rw [setting, setting, hothers w.name (fun h => hw (Variable.name_injective h))]
  refine ⟨(takenFrom_of_ofLookup hc').text?_eq (takenFrom_of_ofLookup hc) hsame, ?_⟩
  rintro rfl
  have hgrace := readGrace_of_ofLookup hc'
  rw [hsame, readGrace_of_ofLookup hc] at hgrace
  exact (Except.ok.inj hgrace).symm

/-- The longest grace period that 64 bits hold, with a plus sign and leading zeros, beside an empty
variable. -/
theorem ofLookup_takenFrom_longest :
    let lookup := (Dictionary.ofList [("SHUTDOWN_GRACE_SECONDS", "+0018446744073709551615"),
      ("WORKER_QUEUE", ""), ("POD_NAME", "pod-7")]).get?
    let c : Config := { shutdownGrace := 18446744073709551615, podName := "pod-7" }
    ofLookup lookup = .ok c ∧ c.TakenFrom lookup := by
  intro lookup c
  have h : ofLookup lookup = .ok c := rfl
  exact ⟨h, (ofLookup_takenFrom lookup).2.1 c h⟩

end Courier.Config
