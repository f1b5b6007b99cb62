import Courier.Journal.Spans
import Courier.Processing.Run

/-!
# What a run does to others

An `Act` is an entry of a journal that somebody else takes part in: a call of the handler and its
answer, a wait and its end, a terminal action.  Spans, log records and drawn tokens are left out.

`acts` picks the acts of a list of entries, and `Journal.timedActs` those of a journal with their
times.  `Act.calls`, `Act.results`, `Act.waits` and `Act.actions` are the calls, the answers, the
waits and the terminal actions among them, and `Act.attempts` the numbers of the calls.  For each
list of entries that `Worker.step` writes a lemma says which acts are in it.
-/

namespace Courier

/-- Something that a run does to others. -/
inductive Act where
  /-- The handler is called. -/
  | call (call : Call)
  /-- The call ends. -/
  | reply (result : CallResult)
  /-- A wait begins. -/
  | wait (wait : Nat)
  /-- A wait ends, by itself or through shutdown. -/
  | wake (isCancelled : Bool)
  /-- A receipt is handed in, to ask the broker for the terminal action. -/
  | settle (call : ReceiptCall)

/-- The act that an entry stands for, if there is one. -/
def Entry.act? : Entry → Option Act
  | .called call => some (.call call)
  | .returned result => some (.reply result)
  | .waiting wait => some (.wait wait)
  | .woke isCancelled => some (.wake isCancelled)
  | .settled _ call => some (.settle call)
  | _ => none

/-- The acts of a list of entries. -/
def acts (entries : List Entry) : List Act := entries.filterMap Entry.act?

/-- The acts of a journal, with their times. -/
def Journal.timedActs (j : Journal) : List (Nat × Act) :=
  j.filterMap fun s => s.entry.act?.map fun act => (s.time, act)

namespace Act

/-- The call that an act makes. -/
def call? : Act → Option Call
  | .call c => some c
  | _ => none

/-- The answer that an act brings. -/
def result? : Act → Option CallResult
  | .reply result => some result
  | _ => none

/-- The wait that an act begins. -/
def wait? : Act → Option Nat
  | .wait time => some time
  | _ => none

/-- The terminal action that an act asks for, as its receipt says. -/
def action? : Act → Option Disposition
  | .settle made => some made.receipt.disposition
  | _ => none

/-- The calls of the handler. -/
def calls (l : List Act) : List Call := l.filterMap call?

/-- The numbers of the attempts that the handler is called for. -/
def attempts (l : List Act) : List Nat := (calls l).map (·.attempt.toNat)

/-- How the calls ended that have ended. -/
def results (l : List Act) : List CallResult := l.filterMap result?

/-- The waits between attempts. -/
def waits (l : List Act) : List Nat := l.filterMap wait?

/-- The terminal actions. -/
def actions (l : List Act) : List Disposition := l.filterMap action?

@[simp] theorem calls_append (l l' : List Act) : calls (l ++ l') = calls l ++ calls l' :=
  List.filterMap_append

@[simp] theorem results_append (l l' : List Act) : results (l ++ l') = results l ++ results l' :=
  List.filterMap_append

@[simp] theorem waits_append (l l' : List Act) : waits (l ++ l') = waits l ++ waits l' :=
  List.filterMap_append

@[simp] theorem actions_append (l l' : List Act) : actions (l ++ l') = actions l ++ actions l' :=
  List.filterMap_append

/-- The receipt of a terminal action asks for that action. -/
@[simp] theorem actions_settle (d : Delivery) (action : Disposition) :
    actions [.settle (d.settle action)] = [action] :=
  congrArg (fun a => [a]) action.disposition_receipt

end Act

/-! ### Acts of entries and of journals -/

@[simp] theorem acts_nil : acts [] = [] := rfl

theorem acts_cons (entry : Entry) (entries : List Entry) :
    acts (entry :: entries) = entry.act?.toList ++ acts entries := by
  unfold acts
  rw [List.filterMap_cons]
  cases entry.act? <;> rfl

@[simp] theorem acts_append (l l' : List Entry) : acts (l ++ l') = acts l ++ acts l' :=
  List.filterMap_append

/-- Log records are no acts. -/
@[simp] theorem acts_logged (span : Option SpanName) (records : List LogRecord) :
    acts (records.map (Entry.logged span)) = [] := by
  rw [acts, List.filterMap_eq_nil_iff]
  intro entry hentry
  obtain ⟨record, -, rfl⟩ := List.mem_map.1 hentry
  rfl

namespace Journal

@[simp] theorem entries_append (j j' : Journal) : entries (j ++ j') = entries j ++ entries j' :=
  List.map_append

@[simp] theorem entries_stamp (time : Nat) (l : List Entry) : entries (stamp time l) = l := by
  rw [entries, stamp, List.map_map]
  exact List.map_id l

@[simp] theorem timedActs_append (j j' : Journal) :
    timedActs (j ++ j') = timedActs j ++ timedActs j' :=
  List.filterMap_append

@[simp] theorem timedActs_stamp (time : Nat) (l : List Entry) :
    timedActs (stamp time l) = (acts l).map fun act => (time, act) := by
  rw [timedActs, stamp, acts, List.filterMap_map, List.map_filterMap]
  rfl

/-- Times aside, the timed acts are the acts. -/
theorem map_snd_timedActs (j : Journal) : (timedActs j).map Prod.snd = acts (entries j) := by
  rw [timedActs, acts, entries, List.map_filterMap, List.filterMap_map]
  congr 1
  funext s
  show _ = s.entry.act?
  cases s.entry.act? <;> rfl

/-- The terminal actions of a journal are those among its acts. -/
theorem settlements_eq (j : Journal) : j.settlements = Act.actions (acts (entries j)) := by
  rw [settlements, Act.actions, acts, List.filterMap_filterMap]
  congr 1
  funext entry
  cases entry <;> rfl

end Journal

/-! ### Acts of the entries that a step writes -/

namespace Worker

variable {σ : Type} (w : Worker σ)

@[simp] theorem acts_openHandle (d : Delivery) : acts (w.openHandle d) = [] := by
  unfold openHandle
  cases nonEmpty d.properties.messageId <;> rfl

@[simp] theorem acts_report (ids : CorrelationIds) (outcome : Outcome) :
    acts (w.report ids outcome) = [] := by
  cases outcome <;> rfl

@[simp] theorem acts_conclude (world : World σ) (job : Job) (outcome : Outcome)
    (attempt : Option UInt32) (entries : List Entry) :
    acts (w.conclude world job outcome attempt entries).entries = acts entries := by
  rw [conclude, acts_append, acts_report, List.append_nil]

@[simp] theorem acts_reject (world : World σ) (d : Delivery) (e : DecodeError) :
    acts (w.reject world d e).entries = [] := by
  rw [reject, acts_append, acts_openHandle]
  rfl

@[simp] theorem acts_accept (world : World σ) (d : Delivery) (command : Command) :
    acts (w.accept world d command).entries = [] := by
  rw [accept, acts_append, acts_append, acts_openHandle]
  cases (w.identify world d command).2 <;> rfl

@[simp] theorem acts_call (world : World σ) (job : Job) (n : UInt32) :
    acts (w.call world job n).entries = [.call (w.callOf job n)] := by
  rw [call, acts_append, acts_logged]
  rfl

@[simp] theorem acts_settle (world : World σ) (s : Settlement) :
    acts (w.settle world s).entries =
      [.settle (s.delivery.settle s.outcome.disposition)] := by
  simp only [settle, acts_append]
  cases s.attempt <;> cases (s.delivery.settle s.outcome.disposition).answer <;> rfl

end Worker

end Courier
