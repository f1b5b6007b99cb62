import Courier.Proofs.Journal.Board
import Courier.Proofs.Processing.Dismissal

/-!
# The spans of a delivery

Every delivery has a span, and every attempt one inside it.  What the board of spans shows is known
from the stage that the work is at (`Stage.Shows`): the span of the delivery is open from the first
step to the last, that of an attempt while its call runs, and that of the attempt that succeeded
until the broker has answered.

* `placed_step`: a step keeps this, and every entry that it writes stands where it belongs among the
  spans.
* `spans_play`: the main result, for every run: each entry is in its place, spans are opened and
  closed in the order of the attempts, and their statuses say how the calls and the terminal action
  went.
-/

namespace Courier

/-! ### Statuses -/

/-- How the span of an attempt ends up.  The terminal action of a success belongs to it. -/
def CallResult.spanStatus (d : Delivery) : CallResult → SpanStatus
  | .succeeded =>
    match (d.settle .acknowledge).answer with
    | .ok () => .ok
    | .error _ => .error "ack failed"
  | .failed _ => .error "handler failed"
  | .panicked _ => .unset

/-- The act ends a wait because shutdown has begun. -/
def Act.isCutShort : Act → Bool
  | .wake isCancelled => isCancelled
  | _ => false

/-- What an outcome says on the span of its delivery.  Shutdown is seen before an attempt, or by a
wait that it cuts short. -/
def Outcome.verdict (outcome : Outcome) (l : List Act) : SpanStatus :=
  match outcome with
  | .acknowledged _ => .ok
  | .poison => .error "invalid json"
  | .exhausted _ => .error "max attempts reached; dlq"
  | .interrupted _ =>
    if l.any Act.isCutShort then .error "terminated during backoff; requeue"
    else .error "terminated before attempt; requeue"

/-- How the span of a delivery ends up.  A reject belongs to it, and is told of if it fails. -/
def Outcome.spanStatus (outcome : Outcome) (d : Delivery) (l : List Act) : SpanStatus :=
  match outcome.disposition, (d.settle outcome.disposition).answer with
  | .acknowledge, _ | _, .ok () => outcome.verdict l
  | action, .error _ => .error (action.name ++ " failed")

/-! ### What the board shows at each stage -/

/-- The span of a delivery. -/
def SpanReport.ofHandle (link : TraceLink) (status : SpanStatus) : SpanReport :=
  ⟨.handle, link, false, status⟩

/-- The span of an attempt, inside that of its delivery. -/
def SpanReport.ofAttempt (link : TraceLink) (n : UInt32) (status : SpanStatus) : SpanReport :=
  ⟨.attempt n, link, true, status⟩

@[simp] theorem SpanReport.name_ofHandle (link : TraceLink) (status : SpanStatus) :
    (SpanReport.ofHandle link status).name = .handle := rfl

@[simp] theorem SpanReport.name_ofAttempt (link : TraceLink) (n : UInt32) (status : SpanStatus) :
    (SpanReport.ofAttempt link n status).name = .attempt n := rfl

/-- The spans of attempts that have been answered, first attempt first. -/
def attemptReports (d : Delivery) (link : TraceLink) (results : List CallResult) :
    List SpanReport :=
  results.zipIdx.map fun p => .ofAttempt link (UInt32.ofNat (p.2 + 1)) (p.1.spanStatus d)

/-- The spans of the first attempts of a delivery, and its own one. -/
def openingsOf (l : List Act) : List SpanName :=
  .handle :: (Act.calls l).map fun call => .attempt call.attempt

/-- The board after the given acts, with the given spans open and those of all given answers
closed. -/
def boardOf (d : Delivery) (link : TraceLink) (l : List Act) (results : List CallResult)
    (opened : List SpanReport) : Board :=
  ⟨link, opened, (attemptReports d link results).reverse, openingsOf l, (Act.calls l).length⟩

/-- The board with one more closed span. -/
def Board.addClosed (b : Board) (r : SpanReport) : Board := { b with closed := r :: b.closed }

/-- The board shows the spans of a delivery whose work is at the stage, after the given acts. -/
def Stage.Shows (d : Delivery) (link : TraceLink) (l : List Act) (b : Board) : Stage → Prop
  | .received _ => b = { link }
  | .due _ _ | .waiting _ _ _ =>
    b = boardOf d link l (Act.results l) [.ofHandle link .unset]
  | .calling _ n _ _ =>
    b = boardOf d link l (Act.results l)
      [.ofAttempt link n .unset, .ofHandle link .unset]
  | .settling s =>
    match s.attempt with
    | some n =>
      -- The attempt that succeeded is still open.
      s.outcome = .acknowledged n ∧ ∃ earlier, Act.results l = earlier ++ [.succeeded] ∧
        b = boardOf d link l earlier [.ofAttempt link n .ok, .ofHandle link .ok]
    | none =>
      s.outcome.disposition ≠ .acknowledge ∧
        b = boardOf d link l (Act.results l) [.ofHandle link (s.outcome.verdict l)]
  | .finished outcome =>
    b = (boardOf d link l (Act.results l) []).addClosed (.ofHandle link (outcome.spanStatus d l))
  | .broken _ =>
    b = (boardOf d link l (Act.results l) []).addClosed (.ofHandle link .unset)

/-- The entries of a step are in their places, and the board then shows the stage that the step leads
to. -/
structure Progress.KeepsBoard {σ : Type} (p : Progress σ) (sampling : Sampling) (d : Delivery)
    (link : TraceLink) (l : List Act) (b : Board) : Prop where
  placed : Placed sampling b p.entries
  shows_stage : p.stage.Shows d link (l ++ acts p.entries) (b.play sampling p.entries)

section Boards

variable {d : Delivery} {link : TraceLink} {l : List Act}

theorem attemptReports_concat (results : List CallResult) (result : CallResult) :
    attemptReports d link (results ++ [result]) =
      attemptReports d link results ++
        [.ofAttempt link (UInt32.ofNat (results.length + 1)) (result.spanStatus d)] := by
  rw [attemptReports, List.zipIdx_append, List.map_append, ← attemptReports, List.zipIdx_singleton,
    List.map_singleton, Nat.zero_add]

/-- One more answer closes the span of its attempt. -/
theorem boardOf_concat {n : UInt32} (results : List CallResult) (result : CallResult)
    (opened : List SpanReport) (hn : n.toNat = results.length + 1) :
    boardOf d link l (results ++ [result]) opened =
      (boardOf d link l results opened).addClosed (.ofAttempt link n (result.spanStatus d)) := by
  rw [boardOf, attemptReports_concat, List.reverse_append, ← hn, UInt32.ofNat_toNat]
  rfl

/-- An open span can be written to. -/
theorem handle_mem_names (results : List CallResult) (opened : List SpanReport)
    (status : SpanStatus) :
    SpanName.handle ∈ (boardOf d link l results (opened ++ [.ofHandle link status])).names :=
  List.mem_map_of_mem (List.mem_append_right opened (List.mem_singleton_self _))

end Boards

/-! ### Every step keeps it -/

section Steps

variable {σ : Type} {w : Worker σ} {sampling : Sampling} {d : Delivery} {link : TraceLink}
  {l : List Act} {b : Board} {job : Job} {n : UInt32} {rounds : List Round}

/-- The span of a delivery is opened on an empty board. -/
theorem placed_openHandle (w : Worker σ) (sampling : Sampling) (d d' : Delivery)
    (link : TraceLink) :
    Placed sampling { link } (w.openHandle d') ∧
      Board.play sampling { link } (w.openHandle d') =
        boardOf d link [] [] [.ofHandle link .unset] := by
  unfold Worker.openHandle
  cases nonEmpty d'.properties.messageId with
  | none =>
    refine ⟨?_, rfl⟩
    simp [Placed, Entry.IsPlaced, Board.follow, Board.names, Board.openSpan]
  | some id =>
    refine ⟨?_, rfl⟩
    simp [Placed, Entry.IsPlaced, Board.follow, Board.names, Board.openSpan]

theorem keepsBoard_receive (w : Worker σ) (sampling : Sampling) (world : World σ) (d : Delivery)
    (link : TraceLink) : (w.receive world d).KeepsBoard sampling d link [] { link } := by
  obtain ⟨hopen, hboard⟩ := placed_openHandle w sampling d d link
  unfold Worker.receive
  cases Command.decode d.payload with
  | error e =>
    constructor
    · refine placed_append.2 ⟨hopen, ?_⟩
      rw [hboard]
      simp [Placed, Entry.IsPlaced, Board.follow, boardOf, Board.names, Worker.fail, Worker.log]
    · rw [Worker.acts_reject]
      constructor
      · exact fun h => by cases h
      simp only [Worker.reject, Board.play_append, hboard]
      rfl
  | ok command =>
    -- Drawing a token and labelling the span leave the board as it is.
    have hlabel (token? : Option String) (job : Job) :
        Placed sampling (boardOf d link [] [] [.ofHandle link .unset])
            (token?.toList.map Entry.drew ++ Worker.labelHandle job) ∧
          (boardOf d link [] [] [.ofHandle link .unset]).play sampling
              (token?.toList.map Entry.drew ++ Worker.labelHandle job) =
            boardOf d link [] [] [.ofHandle link .unset] := by
      cases token? <;>
        exact ⟨by simp [Placed, Entry.IsPlaced, Board.follow, boardOf, Board.names,
          Worker.labelHandle], rfl⟩
    constructor
    · simp only [Worker.accept, List.append_assoc]
      refine placed_append.2 ⟨hopen, ?_⟩
      rw [hboard]
      exact (hlabel _ _).1
    · rw [Worker.acts_accept]
      simp only [Worker.accept, List.append_assoc, Board.play_append _ _ (w.openHandle d), hboard]
      exact (hlabel _ _).2

/-! Before the terminal action -/

theorem placed_report (w : Worker σ) (sampling : Sampling) (ids : CorrelationIds)
    {outcome : Outcome} (hd : outcome.disposition ≠ .acknowledge)
    (h : SpanName.handle ∈ b.names) :
    Placed sampling b (w.report ids outcome) ∧ b.play sampling (w.report ids outcome) = b := by
  cases outcome with
  | acknowledged n => exact absurd rfl hd
  | poison => exact ⟨trivial, rfl⟩
  | exhausted n => exact ⟨⟨h, trivial⟩, rfl⟩
  | interrupted n => exact ⟨⟨h, trivial⟩, rfl⟩

/-- An outcome that leads to a reject is reported once the span of the delivery is marked. -/
theorem keepsBoard_conclude (world : World σ) (job : Job) {outcome : Outcome}
    {entries : List Entry} {l' : List Act} (hd : outcome.disposition ≠ .acknowledge)
    (hl : l ++ acts entries = l') (hp : Placed sampling b entries)
    (hb : b.play sampling entries =
      boardOf d link l' (Act.results l') [.ofHandle link (outcome.verdict l')]) :
    (w.conclude world job outcome none entries).KeepsBoard sampling d link l b := by
  have hmem : SpanName.handle ∈ (b.play sampling entries).names := by
    rw [hb]
    exact handle_mem_names _ [] _
  obtain ⟨hreport, hboard⟩ := placed_report w sampling job.ids hd hmem
  constructor
  · exact placed_append.2 ⟨hp, hreport⟩
  · rw [Worker.acts_conclude, hl]
    refine ⟨hd, ?_⟩
    simp only [Worker.conclude, Board.play_append]
    rw [hboard, hb]

/-- No wait of a round has been cut short. -/
theorem any_isCutShort_roundActs (w : Worker σ) (job : Job) (rounds : List Round) :
    (w.roundActs job rounds).any Act.isCutShort = false := by
  rw [Worker.roundActs, List.any_flatMap, List.any_eq_false]
  intro p _
  exact Bool.false_ne_true

theorem keepsBoard_call (world : World σ) (h : w.IsAt d job n rounds) :
    (w.call world job n).KeepsBoard sampling d link (w.roundActs job rounds)
      (boardOf d link (w.roundActs job rounds) (Act.results (w.roundActs job rounds))
        [.ofHandle link .unset]) := by
  have hcalls : (Act.calls (w.roundActs job rounds)).length = rounds.length := by
    rw [w.calls_roundActs, List.length_map, List.length_range]
  generalize w.roundActs job rounds = l at hcalls
  have hopen : (boardOf d link l (Act.results l) [.ofHandle link .unset]).play sampling
        [.opened (.attempt n), .recorded (.attempt n) "attempt" (.text (decimal n.toNat)),
          .entered (.attempt n), .called (w.callOf job n)] =
      boardOf d link (l ++ [.call (w.callOf job n)])
        (Act.results (l ++ [.call (w.callOf job n)]))
        [.ofAttempt link n .unset, .ofHandle link .unset] := by
    have hresults : Act.results (l ++ [.call (w.callOf job n)]) = Act.results l := by
      rw [Act.results_append]
      exact List.append_nil _
    simp only [boardOf, openingsOf, hresults, Act.calls_append, List.map_append,
      List.length_append]
    rfl
  have hmem : SpanName.attempt n ∈ (boardOf d link (l ++ [.call (w.callOf job n)])
      (Act.results (l ++ [.call (w.callOf job n)]))
      [.ofAttempt link n .unset, .ofHandle link .unset]).names :=
    List.mem_cons_self ..
  have hlogs := placed_logged sampling hmem (w.handler.call world.memory (w.callOf job n)).1.logs
  constructor
  · refine placed_append.2 ⟨?_, ?_⟩
    · simp [Placed, Entry.IsPlaced, Board.follow, Board.names, boardOf, Board.openSpan, hcalls,
        h.toNat_eq]
      exact ⟨rfl, h.toNat_eq⟩
    · rw [hopen]
      exact hlogs.1
  · rw [Worker.acts_call]
    simp only [Worker.call, Board.play_append, hopen]
    exact hlogs.2

theorem keepsBoard_attempt (world : World σ) (h : w.IsAt d job n rounds) :
    (w.attempt world job n).KeepsBoard sampling d link (w.roundActs job rounds)
      (boardOf d link (w.roundActs job rounds) (Act.results (w.roundActs job rounds))
        [.ofHandle link .unset]) := by
  unfold Worker.attempt
  split
  · refine keepsBoard_conclude world job nofun (List.append_nil _)
      ⟨handle_mem_names _ [] _, handle_mem_names _ [] _, trivial⟩ ?_
    rw [Outcome.verdict, any_isCutShort_roundActs]
    rfl
  · exact keepsBoard_call world h

/-- The spans while a call runs. -/
def callingSpans (link : TraceLink) (n : UInt32) : List SpanReport :=
  [.ofAttempt link n .unset, .ofHandle link .unset]

theorem calls_reply (result : CallResult) : Act.calls [.reply result] = [] := rfl

/-- The board counts calls and answers only. -/
theorem boardOf_append {more : List Act} (opened : List SpanReport) (hc : Act.calls more = [])
    (hr : Act.results more = []) :
    boardOf d link (l ++ more) (Act.results (l ++ more)) opened =
      boardOf d link l (Act.results l) opened := by
  simp only [boardOf, openingsOf, Act.calls_append, Act.results_append, hc, hr, List.append_nil]

/-- The answer closes the span of the attempt, unless it is a success. -/
theorem boardOf_reply {result : CallResult} (opened : List SpanReport)
    (hresults : n.toNat = (Act.results l).length + 1) :
    boardOf d link (l ++ [.reply result]) (Act.results (l ++ [.reply result])) opened =
      (boardOf d link l (Act.results l) opened).addClosed
        (.ofAttempt link n (result.spanStatus d)) := by
  have hl : Act.results (l ++ [.reply result]) = Act.results l ++ [result] :=
    Act.results_append _ _
  rw [hl, boardOf_concat _ _ _ hresults]
  simp only [boardOf, openingsOf, Board.addClosed, Act.calls_append, calls_reply, List.append_nil]

/-- A failure is marked on the span of its attempt, which is closed then. -/
theorem placed_failed (sampling : Sampling) (d : Delivery) (link : TraceLink) (e : HandlerError)
    (hcalls : n.toNat = (Act.calls l).length) (hresults : n.toNat = (Act.results l).length + 1)
    (fields : List (String × FieldValue)) :
    let failed : List Entry :=
      [.returned (.failed e), .marked (.attempt n) (.error "handler failed"),
        .closed (.attempt n), Worker.log .warn "handler failed" fields]
    let b := boardOf d link l (Act.results l) (callingSpans link n)
    Placed sampling b failed ∧
      b.play sampling failed =
        boardOf d link (l ++ [.reply (.failed e)]) (Act.results (l ++ [.reply (.failed e)]))
          [.ofHandle link .unset] := by
  intro failed b
  constructor
  · simp [failed, b, callingSpans, Placed, Entry.IsPlaced, Board.follow, Board.names, boardOf,
      Worker.log, hcalls]
  · rw [boardOf_reply _ hresults]
    simp [failed, b, callingSpans, boardOf, Board.addClosed, Board.play, Board.follow, Worker.log,
      SpanReport.ofHandle, SpanReport.ofAttempt, CallResult.spanStatus]

theorem keepsBoard_retry (world : World σ) (job : Job) (e : HandlerError)
    (hcalls : n.toNat = (Act.calls l).length) (hresults : n.toNat = (Act.results l).length + 1) :
    (w.retry world job n e).KeepsBoard sampling d link l
      (boardOf d link l (Act.results l) (callingSpans link n)) := by
  obtain ⟨hfailed, hboard⟩ := placed_failed sampling d link e hcalls hresults
    (w.podFields job.ids ++ w.attemptFields n ++
      [("kind", .literal e.kind), ("error", .shown e.message)])
  unfold Worker.retry
  cases w.policy.backoffAfter n with
  | none =>
    refine keepsBoard_conclude world job nofun rfl (placed_append.2 ⟨hfailed, ?_⟩) ?_
    · rw [hboard]
      exact ⟨handle_mem_names _ [] _, trivial⟩
    · rw [Board.play_append, hboard]
      rfl
  | some wait =>
    have hmem : SpanName.handle ∈ (boardOf d link (l ++ [.reply (.failed e)])
        (Act.results (l ++ [.reply (.failed e)])) [.ofHandle link .unset]).names :=
      handle_mem_names _ [] _
    constructor
    · refine placed_append.2 ⟨hfailed, ?_⟩
      rw [hboard]
      exact ⟨hmem, rfl, trivial⟩
    · show Board.play sampling _ (_ ++ _) =
        boardOf d link (l ++ ([.reply (.failed e)] ++ [.wait wait]))
          (Act.results (l ++ ([.reply (.failed e)] ++ [.wait wait]))) _
      rw [← List.append_assoc, boardOf_append _ rfl rfl, Board.play_append, hboard]
      rfl

theorem keepsBoard_conclusion (world : World σ) (job : Job) (result : CallResult)
    (hcalls : n.toNat = (Act.calls l).length) (hresults : n.toNat = (Act.results l).length + 1) :
    (w.conclusion world job n result).KeepsBoard sampling d link l
      (boardOf d link l (Act.results l) (callingSpans link n)) := by
  cases result with
  | succeeded =>
    constructor
    · simp [Worker.conclusion, Worker.conclude, Worker.report, callingSpans, Placed, Entry.IsPlaced,
        Board.follow, Board.names, boardOf, Worker.log, hcalls]
    · refine ⟨rfl, Act.results l, Act.results_append _ _, ?_⟩
      show _ = boardOf d link (l ++ [.reply .succeeded]) _ _
      simp [Worker.conclusion, Worker.conclude, Worker.report, callingSpans, boardOf, openingsOf,
        calls_reply, Board.play, Board.follow, Worker.log, SpanReport.ofHandle,
        SpanReport.ofAttempt]
  | failed e => exact keepsBoard_retry world job e hcalls hresults
  | panicked text =>
    constructor
    · simp [Worker.conclusion, callingSpans, Placed, Entry.IsPlaced, Board.follow, Board.names,
        boardOf, hcalls]
    · show _ = (boardOf d link (l ++ [.reply (.panicked text)])
        (Act.results (l ++ [.reply (.panicked text)])) []).addClosed (.ofHandle link .unset)
      rw [boardOf_reply _ hresults]
      simp [Worker.conclusion, callingSpans, boardOf, Board.addClosed, Board.play, Board.follow,
        SpanReport.ofHandle, SpanReport.ofAttempt, CallResult.spanStatus]

theorem keepsBoard_wake (world : World σ) (job : Job) (n : UInt32) :
    (w.wake world job n).KeepsBoard sampling d link l
      (boardOf d link l (Act.results l) [.ofHandle link .unset]) := by
  unfold Worker.wake
  split
  · refine keepsBoard_conclude world job nofun rfl
      ⟨rfl, handle_mem_names _ [] _, handle_mem_names _ [] _, trivial⟩ ?_
    have hcut : (l ++ [Act.wake true]).any Act.isCutShort = true :=
      List.any_eq_true.2 ⟨_, List.mem_append_right l (List.mem_singleton_self _), rfl⟩
    show _ = boardOf d link (l ++ [.wake true]) (Act.results (l ++ [.wake true]))
      [.ofHandle link (Outcome.verdict (.interrupted n) (l ++ [.wake true]))]
    rw [boardOf_append _ rfl rfl, Outcome.verdict, hcut]
    rfl
  · refine ⟨⟨rfl, trivial⟩, ?_⟩
    exact (boardOf_append _ rfl rfl).symm

/-! At the terminal action -/

theorem verdict_concat_settle (outcome : Outcome) (call : ReceiptCall) :
    outcome.verdict (l ++ [.settle call]) = outcome.verdict l := by
  cases outcome with
  | interrupted n =>
    rw [Outcome.verdict, List.any_append, show List.any [Act.settle call] _ = false from rfl,
      Bool.or_false]
    rfl
  | _ => rfl

theorem spanStatus_of_ok {outcome : Outcome} (h : (d.settle outcome.disposition).answer = .ok ()) :
    outcome.spanStatus d l = outcome.verdict l := by
  unfold Outcome.spanStatus
  rw [h]
  cases outcome <;> rfl

theorem spanStatus_of_error {outcome : Outcome} {e : WorkerError}
    (hd : outcome.disposition ≠ .acknowledge)
    (h : (d.settle outcome.disposition).answer = .error e) :
    outcome.spanStatus d l = .error (outcome.disposition.name ++ " failed") := by
  unfold Outcome.spanStatus
  rw [h]
  cases outcome with
  | acknowledged n => exact absurd rfl hd
  | _ => rfl

/-- A reject is told of on the span of the delivery. -/
theorem keepsBoard_settle_none (world : World σ) (ids : CorrelationIds) {outcome : Outcome}
    (hd : outcome.disposition ≠ .acknowledge) :
    (w.settle world ⟨d, outcome, ids, none⟩).KeepsBoard sampling d link l
      (boardOf d link l (Act.results l) [.ofHandle link (outcome.verdict l)]) := by
  have haction : (Entry.settled outcome.disposition (d.settle outcome.disposition)).IsPlaced
      (boardOf d link l (Act.results l) [.ofHandle link (outcome.verdict l)]) := by
    cases outcome with
    | acknowledged n => exact absurd rfl hd
    | _ => rfl
  constructor
  · cases hanswer : (d.settle outcome.disposition).answer with
    | ok _ =>
      simp only [Worker.settle, hanswer]
      exact ⟨haction, rfl, rfl, trivial⟩
    | error e =>
      simp only [Worker.settle, hanswer]
      exact ⟨haction, handle_mem_names _ [] _, handle_mem_names _ [] _, rfl, rfl, trivial⟩
  · rw [Worker.acts_settle]
    show _ = (boardOf d link (l ++ [_]) (Act.results (l ++ [_])) []).addClosed _
    rw [boardOf_append _ rfl rfl]
    cases hanswer : (d.settle outcome.disposition).answer with
    | ok _ =>
      rw [spanStatus_of_ok hanswer, verdict_concat_settle]
      simp only [Worker.settle, hanswer]
      rfl
    | error e =>
      rw [spanStatus_of_error hd hanswer]
      simp only [Worker.settle, hanswer]
      rfl

/-- An acknowledgement is told of on the span of its attempt. -/
theorem keepsBoard_settle_some (world : World σ) (ids : CorrelationIds)
    {earlier : List CallResult} (hresults : Act.results l = earlier ++ [.succeeded])
    (hn : n.toNat = earlier.length + 1) (hcalls : n.toNat = (Act.calls l).length) :
    (w.settle world ⟨d, .acknowledged n, ids, some n⟩).KeepsBoard sampling d link l
      (boardOf d link l earlier [.ofAttempt link n .ok, .ofHandle link .ok]) := by
  have haction : (Entry.settled .acknowledge (d.settle .acknowledge)).IsPlaced
      (boardOf d link l earlier [.ofAttempt link n .ok, .ofHandle link .ok]) := ⟨n, rfl, hcalls⟩
  constructor
  · cases hanswer : (d.settle .acknowledge).answer
    all_goals
      simp only [Worker.settle, Outcome.disposition, hanswer]
      refine ⟨haction, ?_⟩
      simp [Placed, Entry.IsPlaced, Board.follow, Board.names, boardOf, Worker.log]
  · rw [Worker.acts_settle]
    show _ = (boardOf d link (l ++ [_]) (Act.results (l ++ [_])) []).addClosed _
    rw [boardOf_append _ rfl rfl, hresults, boardOf_concat _ _ _ hn]
    cases hanswer : (d.settle .acknowledge).answer <;>
      simp [Worker.settle, Outcome.disposition, hanswer, boardOf, Board.addClosed, Board.play,
        Board.follow, Worker.log, SpanReport.ofHandle, SpanReport.ofAttempt, CallResult.spanStatus,
        Outcome.spanStatus, Outcome.verdict, Disposition.name]

theorem keepsBoard_settle (world : World σ) (s : Settlement) (hd : s.delivery = d)
    (hend : w.Ending d s.outcome l) (hb : (Stage.settling s).Shows d link l b) :
    (w.settle world s).KeepsBoard sampling d link l b := by
  obtain ⟨d', outcome, ids, attempt⟩ := s
  subst hd
  cases attempt with
  | none =>
    obtain ⟨haction, rfl⟩ := hb
    exact keepsBoard_settle_none world ids haction
  | some n =>
    obtain ⟨houtcome, earlier, hresults, rfl⟩ := hb
    obtain rfl : outcome = .acknowledged n := houtcome
    have hcalls : (Act.calls l).length = n.toNat := hend.length_calls
    have hlength := hend.length_results
    rw [hresults, List.length_append, List.length_singleton] at hlength
    exact keepsBoard_settle_some world ids hresults (by omega) hcalls.symm

/-- A step writes each entry in its place, and goes on to a stage that the board shows. -/
theorem keepsBoard_step {stage : Stage} (sampling : Sampling) (world : World σ)
    (hfits : stage.Fits w d l) (hb : stage.Shows d link l b) : (w.step world stage).KeepsBoard sampling d link l b := by
  -- Where a step does nothing, nothing changes.
  have hidle : (Progress.mk world stage []).KeepsBoard sampling d link l b := by
    refine ⟨trivial, ?_⟩
    rw [acts_nil, List.append_nil]
    exact hb
  cases stage with
  | received d' =>
    obtain ⟨rfl, rfl⟩ := hfits
    obtain rfl : b = { link } := hb
    exact keepsBoard_receive w sampling world d' link
  | due job n =>
    obtain ⟨rounds, h, rfl⟩ := hfits
    obtain rfl := hb
    exact keepsBoard_attempt world h
  | calling job n since reply =>
    simp only [Worker.step]
    split
    · obtain ⟨rounds, h, rfl⟩ := hfits
      obtain rfl := hb
      refine keepsBoard_conclusion world job reply.result ?_ ?_
      · rw [Act.calls_append, List.length_append, w.calls_roundActs, List.length_map,
          List.length_range]
        exact h.toNat_eq
      · rw [Act.results_append, List.length_append, w.results_roundActs, List.length_map]
        exact h.toNat_eq
    · exact hidle
  | waiting job n until_ =>
    simp only [Worker.step]
    split
    · obtain rfl := hb
      exact keepsBoard_wake world job n
    · exact hidle
  | settling s => exact keepsBoard_settle world s hfits.1 hfits.2 hb
  | finished outcome => exact hidle
  | broken text => exact hidle

end Steps

/-! ### Every run keeps it -/

section Runs

variable {σ : Type} {w : Worker σ} {sampling : Sampling} {d : Delivery}

/-- How the spans of a delivery hang in a trace. -/
def Delivery.link (d : Delivery) (sampling : Sampling) : TraceLink :=
  .ofContext sampling (.extract d.headers)

/-- All entries so far are in their places, and the board shows the stage that the work is at. -/
structure Run.ShowsSpans (run : Run σ) (sampling : Sampling) (d : Delivery) : Prop where
  placed : Placed sampling {} run.journal.entries
  shows_stage :
    run.stage.Shows d (d.link sampling) run.acts (board sampling run.journal.entries)

theorem showsSpans_start (world : World σ) (sampling : Sampling) (d : Delivery) :
    (Run.start world d).ShowsSpans sampling d := by
  refine ⟨?_, ?_⟩
  · rw [Run.start, Journal.entries_stamp]
    exact ⟨trivial, trivial⟩
  · rw [Run.start, Journal.entries_stamp]
    rfl

theorem showsSpans_follow {run : Run σ} (event : Worker.Event)
    (hfits : run.stage.Fits w d run.acts) (h : run.ShowsSpans sampling d) :
    (run.follow w event).ShowsSpans sampling d := by
  cases event with
  | step =>
    have hstep := keepsBoard_step sampling run.world hfits h.shows_stage
    have hboard : board sampling run.journal.entries =
        Board.play sampling {} run.journal.entries :=
      board_append sampling [] run.journal.entries
    constructor
    · simp only [Run.follow, Journal.entries_append, Journal.entries_stamp]
      refine placed_append.2 ⟨h.placed, ?_⟩
      rw [← hboard]
      exact hstep.placed
    · simp only [Run.acts, Run.follow, Journal.entries_append, Journal.entries_stamp, acts_append,
        board_append]
      exact hstep.shows_stage
  | cancel => exact ⟨h.placed, h.shows_stage⟩
  | elapse time => exact ⟨h.placed, h.shows_stage⟩

theorem showsSpans_play (w : Worker σ) (world : World σ) (sampling : Sampling) (d : Delivery)
    (events : List Worker.Event) : (w.play world d events).ShowsSpans sampling d := by
  suffices h : ∀ run : Run σ, run.stage.Fits w d run.acts → run.ShowsSpans sampling d →
      (run.play w events).ShowsSpans sampling d from
    h _ ⟨rfl, rfl⟩ (showsSpans_start world sampling d)
  induction events with
  | nil => exact fun run _ h => h
  | cons event events ih =>
    intro run hfits h
    exact ih _ (fits_follow event hfits) (showsSpans_follow event hfits h)

/-- The spans of a delivery once the work on it is over, with so many attempts: its own one was
opened first and those of the attempts after it, in order, all are closed, and they say how the calls
went and how the work ended. -/
structure Run.ClosesSpans (run : Run σ) (sampling : Sampling) (d : Delivery) (attempts : Nat)
    (status : SpanStatus) : Prop where
  length_results : (Act.results run.acts).length = attempts
  openings_eq : (board sampling run.journal.entries).openings =
    .handle :: (List.range attempts).map fun i => .attempt (UInt32.ofNat (i + 1))
  opened_eq : (board sampling run.journal.entries).opened = []
  reports_eq : (Span.ofEntries sampling run.journal.entries).map Span.report =
    attemptReports d (d.link sampling) (Act.results run.acts) ++
      [.ofHandle (d.link sampling) status]

theorem closesSpans_of_board {run : Run σ} {status : SpanStatus}
    (hfits : run.stage.Fits w d run.acts)
    (hresults : (Act.results run.acts).length = (Act.calls run.acts).length)
    (hb : board sampling run.journal.entries =
      (boardOf d (d.link sampling) run.acts (Act.results run.acts) []).addClosed
        (.ofHandle (d.link sampling) status)) :
    run.ClosesSpans sampling d (Act.calls run.acts).length status := by
  refine ⟨hresults, ?_, ?_, ?_⟩
  · obtain ⟨n, job, -, -, hcalls⟩ := callsFor_of_fits hfits
    rw [hb, Board.addClosed, boardOf]
    show openingsOf run.acts = _
    rw [openingsOf, hcalls, List.length_map, List.length_range, List.map_map]
    rfl
  · rw [hb]
    rfl
  · rw [map_report_ofEntries, hb]
    show List.reverse (_ :: (attemptReports _ _ _).reverse) = _
    rw [List.reverse_cons, List.reverse_reverse]

/-- The answers of calls that failed, and of the one that succeeded, if there is one. -/
def Outcome.answers (outcome : Outcome) (errors : List HandlerError) : List CallResult :=
  errors.map .failed ++
    match outcome with
    | .acknowledged _ => [.succeeded]
    | .poison | .exhausted _ | .interrupted _ => []

theorem exists_answers_of_ending {outcome : Outcome} {l : List Act} (h : w.Ending d outcome l) :
    ∃ errors, Act.results l = outcome.answers errors := by
  cases h with
  | poison hd => exact ⟨[], rfl⟩
  | @acknowledged job n rounds h =>
    refine ⟨rounds.map (·.error), ?_⟩
    rw [Act.results_append, w.results_roundActs, Outcome.answers, List.map_map]
    rfl
  | @exhausted job n rounds e h hw =>
    refine ⟨rounds.map (·.error) ++ [e], ?_⟩
    rw [Act.results_append, w.results_roundActs, Outcome.answers, List.map_append, List.map_map,
      List.append_nil]
    rfl
  | @unstarted job n rounds h =>
    refine ⟨rounds.map (·.error), ?_⟩
    rw [w.results_roundActs, Outcome.answers, List.map_map, List.append_nil]
    rfl
  | @unfinished job n rounds e wait h hw =>
    refine ⟨rounds.map (·.error) ++ [e], ?_⟩
    rw [Act.results_append, Act.results_append, w.results_roundActs, Outcome.answers,
      List.map_append, List.map_map, List.append_nil]
    exact List.append_nil _

theorem closesSpans_of_finished {run : Run σ} {outcome : Outcome}
    (hfits : run.stage.Fits w d run.acts) (h : run.ShowsSpans sampling d)
    (hstage : run.stage = .finished outcome) :
    run.ClosesSpans sampling d outcome.attempts.toNat (outcome.spanStatus d run.acts) ∧
      ∃ errors, Act.results run.acts = outcome.answers errors := by
  have hb := h.shows_stage
  rw [hstage] at hb
  have hend := hfits
  rw [hstage] at hend
  obtain ⟨before, hend, hacts⟩ := hend
  have hcalls : Act.calls run.acts = Act.calls before := by
    rw [hacts, Act.calls_append]
    exact List.append_nil _
  have hresults : Act.results run.acts = Act.results before := by
    rw [hacts, Act.results_append]
    exact List.append_nil _
  refine ⟨?_, hresults ▸ exists_answers_of_ending hend⟩
  rw [← hend.length_calls, ← hcalls]
  refine closesSpans_of_board hfits ?_ hb
  rw [hresults, hend.length_results, hcalls]

theorem closesSpans_of_broken {run : Run σ} {text : String}
    (hfits : run.stage.Fits w d run.acts) (h : run.ShowsSpans sampling d)
    (hstage : run.stage = .broken text) :
    run.ClosesSpans sampling d (Act.calls run.acts).length .unset := by
  have hb := h.shows_stage
  rw [hstage] at hb
  refine closesSpans_of_board hfits ?_ hb
  rw [hstage] at hfits
  obtain ⟨job, n, rounds, -, hacts⟩ := hfits
  rw [hacts, Act.results_append, Act.calls_append, w.results_roundActs, w.calls_roundActs]
  simp only [List.length_append, List.length_map, List.length_range]
  rfl

/-- The span of a delivery says that all is well for every success, and for nothing else. -/
theorem spanStatus_eq_ok_iff (outcome : Outcome) (d : Delivery) (l : List Act) :
    outcome.spanStatus d l = .ok ↔ ∃ n, outcome = .acknowledged n := by
  constructor
  · intro h
    cases hanswer : (d.settle outcome.disposition).answer with
    | ok _ =>
      rw [spanStatus_of_ok hanswer] at h
      cases outcome with
      | acknowledged n => exact ⟨n, rfl⟩
      | poison | exhausted n => cases h
      | interrupted n =>
        simp only [Outcome.verdict] at h
        split at h <;> cases h
    | error e =>
      by_cases hd : outcome.disposition = .acknowledge
      · cases outcome with
        | acknowledged n => exact ⟨n, rfl⟩
        | poison | exhausted n | interrupted n => cases hd
      · rw [spanStatus_of_error hd hanswer] at h
        cases h
  · rintro ⟨n, rfl⟩
    rfl

/-- **The spans of a delivery.**  In every run, on the worker's own clock and in any order of events,
each entry stands where it belongs among the spans; and once the work is over, all spans are closed,
the delivery has had one span around those of its attempts, and each says how it went. -/
theorem spans_play (w : Worker σ) (sampling : Sampling) (world : World σ) (d : Delivery) :
    (w.process world d).stage.isFinal = true ∧
    ∀ run, (run = w.process world d ∨ ∃ events, run = w.play world d events) →
      (∀ before e after, run.journal.entries = before ++ e :: after →
        e.IsPlaced (board sampling before)) ∧
      (∀ outcome, run.stage = .finished outcome →
        run.ClosesSpans sampling d outcome.attempts.toNat (outcome.spanStatus d run.acts) ∧
          (∃ errors, Act.results run.acts = outcome.answers errors) ∧
          (outcome.spanStatus d run.acts = .ok ↔ ∃ n, outcome = .acknowledged n)) ∧
      (∀ text, run.stage = .broken text →
        run.ClosesSpans sampling d (Act.calls run.acts).length .unset) := by
  refine ⟨isFinal_toEnd w world (.received d), ?_⟩
  intro run hrun
  obtain ⟨events, rfl⟩ : ∃ events, run = w.play world d events := by
    rcases hrun with rfl | hrun
    · exact exists_play_eq_process w world d
    · exact hrun
  have hfits := fits_play w world d events
  have hshows := showsSpans_play w world sampling d events
  refine ⟨?_, ?_, fun _ => closesSpans_of_broken hfits hshows⟩
  · intro before e after hentries
    have hplaced := hshows.placed
    rw [hentries] at hplaced
    exact isPlaced_of_placed hplaced
  · intro outcome hstage
    obtain ⟨hspans, hanswers⟩ := closesSpans_of_finished hfits hshows hstage
    exact ⟨hspans, hanswers, spanStatus_eq_ok_iff outcome d _⟩

/-! ### Runs to look at -/

/-- One failure and a success whose acknowledgement the broker refuses: the attempts say so, and the
delivery has nothing to complain about. -/
theorem spans_play_refused :
    let w : Worker Handler.Script := { Worker.scripted none with policy := ⟨2, [0]⟩ }
    let run := w.play { memory := ⟨some 1, []⟩ } .refused
      [.step, .step, .step, .step, .step, .step, .step]
    let link := Delivery.refused.link w.sampling
    run.stage = .finished (.acknowledged 2) ∧
      (Span.ofEntries w.sampling run.journal.entries).map Span.report =
        [.ofAttempt link 1 (.error "handler failed"), .ofAttempt link 2 (.error "ack failed"),
          .ofHandle link .ok] := by
  intro w run link
  have hstage : run.stage = .finished (.acknowledged 2) := by
    simp only [run, Worker.play, Run.play_cons, Run.follow, Run.start,
      Worker.step_received _ _ decode_refused]
    rfl
  obtain ⟨hspans, ⟨errors, herrors⟩, -⟩ :=
    ((spans_play w w.sampling _ _).2 run (.inr ⟨_, rfl⟩)).2.1 _ hstage
  have hlength := hspans.length_results
  rw [herrors] at hlength
  obtain ⟨e, rfl⟩ : ∃ e, errors = [e] := by
    apply List.length_eq_one_iff.1
    simpa [Outcome.answers, Outcome.attempts] using hlength
  refine ⟨hstage, ?_⟩
  rw [hspans.reports_eq, herrors]
  rfl

/-- A payload that is no command. -/
def Delivery.broken : Delivery where
  payload := [123]
  refusal _ := some "channel closed"

theorem stage_process_of_decode_error (w : Worker σ) (world : World σ) {d : Delivery}
    {e : DecodeError} (hd : Command.decode d.payload = .error e) :
    (w.process world d).stage = .finished .poison :=
  (dismisses_of_decode_error w world hd).process.1

/-- Where the broker refuses to take a payload that is no command back, the span of the delivery says
that, and no longer what was wrong with the payload. -/
theorem report_process_ne :
    let w := Worker.scripted none
    let run := w.process { memory := ⟨none, []⟩ } .broken
    let link := Delivery.broken.link w.sampling
    run.outcome? = some .poison ∧
      (Span.ofEntries w.sampling run.journal.entries).map Span.report ≠
        [.ofHandle link (.error "invalid json")] := by
  intro w run link
  have hd : ∃ e, Command.decode Delivery.broken.payload = .error e := ⟨_, by cbv⟩
  obtain ⟨e, hd⟩ := hd
  have hstage : run.stage = .finished .poison := stage_process_of_decode_error w _ hd
  obtain ⟨events, hrun⟩ := exists_play_eq_process w { memory := ⟨none, []⟩ } .broken
  have hfits : run.stage.Fits w .broken run.acts := fits_process w _ _
  have hshows : run.ShowsSpans w.sampling .broken := by
    show (w.process _ _).ShowsSpans _ _
    rw [hrun]
    exact showsSpans_play w _ w.sampling _ events
  have hspans := (closesSpans_of_finished hfits hshows hstage).1
  have hresults : Act.results run.acts = [] := List.length_eq_zero_iff.1 hspans.length_results
  refine ⟨by rw [Run.outcome?, hstage], ?_⟩
  rw [hspans.reports_eq, hresults]
  intro h
  have hstatus : SpanStatus.error "dead-letter failed" = .error "invalid json" :=
    (SpanReport.mk.inj (List.cons.inj h).1).2.2.2
  exact absurd hstatus (by decide)

end Runs

end Courier
