import Courier.Command.Basic
import Courier.Headers

/-!
# Who and what

`WorkerIdentity` names a worker process in logs and at the broker.  `CorrelationIds` are the two ids
under which one delivery appears everywhere.

* The message id is the broker's, else the header's, else a fresh token.
* The correlation id is the broker's, else the header's, else the command's application id, else the
  message id.

An empty id counts as none (`nonEmpty`), so both ids are non-empty whenever the token is:
`messageId_derive_ne_empty`, `correlationId_derive_ne_empty`.
-/

namespace Courier

/-- The header with the message id. -/
def messageIdHeader : String := "message_id"

/-- The header with the correlation id. -/
def correlationIdHeader : String := "correlation_id"

/-- A worker process. -/
structure WorkerIdentity where
  /-- A short random id that tells instances apart. -/
  workerId : String
  podName : String := ""
  podNamespace : String := ""
  nodeName : String := ""
  deriving DecidableEq, Repr

/-- The number of characters of a generated worker id. -/
def workerIdLength : Nat := 8

namespace WorkerIdentity

/-- The identity of a new process, from a random token. -/
def generate (token podName podNamespace nodeName : String) : WorkerIdentity :=
  ⟨String.ofList (token.toList.take workerIdLength), podName, podNamespace, nodeName⟩

/-- The name of this worker's consumer at the broker. -/
def consumerTag (w : WorkerIdentity) : String := "notifications-" ++ w.workerId

end WorkerIdentity

/-- A text that is there and not empty. -/
def nonEmpty (s? : Option String) : Option String := s?.filter (· ≠ "")

theorem nonEmpty_eq_some {s? : Option String} {s : String} (h : nonEmpty s? = some s) : s ≠ "" := by
  simpa using (Option.filter_eq_some_iff.1 h).2

/-- The two ids of a delivery. -/
structure CorrelationIds where
  messageId : String
  correlationId : String
  deriving DecidableEq, Repr

namespace CorrelationIds

/-- The message id that the broker or a header gives. -/
def givenMessageId (property : Option String) (headers : Headers) : Option String :=
  (nonEmpty property).or (headers.text? messageIdHeader)

/-- The correlation id that the broker, a header or the command gives. -/
def givenCorrelationId (property : Option String) (headers : Headers) (command : Command) :
    Option String :=
  ((nonEmpty property).or (headers.text? correlationIdHeader)).or
    (nonEmpty (some command.applicationId))

/-- The ids of a delivery; `token` is used where no message id is given. -/
def derive (messageId correlationId : Option String) (headers : Headers) (command : Command)
    (token : String) : CorrelationIds :=
  let messageId := (givenMessageId messageId headers).getD token
  ⟨messageId, (givenCorrelationId correlationId headers command).getD messageId⟩

theorem givenMessageId_ne_empty {property : Option String} {headers : Headers} {s : String}
    (h : givenMessageId property headers = some s) : s ≠ "" := by
  rcases Option.or_eq_some_iff.1 h with h | ⟨-, h⟩
  · exact nonEmpty_eq_some h
  · exact Headers.text?_ne_empty h

theorem givenCorrelationId_ne_empty {property : Option String} {headers : Headers}
    {command : Command} {s : String} (h : givenCorrelationId property headers command = some s) :
    s ≠ "" := by
  rcases Option.or_eq_some_iff.1 h with h | ⟨-, h⟩
  · rcases Option.or_eq_some_iff.1 h with h | ⟨-, h⟩
    · exact nonEmpty_eq_some h
    · exact Headers.text?_ne_empty h
  · exact nonEmpty_eq_some h

theorem messageId_derive_ne_empty {messageId correlationId : Option String} {headers : Headers}
    {command : Command} {token : String} (h : token ≠ "") :
    (derive messageId correlationId headers command token).messageId ≠ "" := by
  simp only [derive]
  cases hg : givenMessageId messageId headers with
  | none => exact h
  | some s => exact givenMessageId_ne_empty hg

theorem correlationId_derive_ne_empty {messageId correlationId : Option String} {headers : Headers}
    {command : Command} {token : String} (h : token ≠ "") :
    (derive messageId correlationId headers command token).correlationId ≠ "" := by
  have hm : (derive messageId correlationId headers command token).messageId ≠ "" :=
    messageId_derive_ne_empty h
  simp only [derive] at hm ⊢
  cases hg : givenCorrelationId correlationId headers command with
  | none => exact hm
  | some s => exact givenCorrelationId_ne_empty hg

end CorrelationIds

end Courier
