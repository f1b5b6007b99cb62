/-!
# Commands

A `Command` asks the worker to send one mail.  Every field may be left out by whoever publishes it,
and then has its default: the empty text, no interview, job zero.

`Command.Field` lists the fields in the order in which they are written, with their names on the
wire.
-/

namespace Courier

/-- A request to send one mail. -/
structure Command where
  kind : String := ""
  recipient : String := ""
  subject : String := ""
  body : String := ""
  applicationId : String := ""
  interviewId : Option String := none
  jobId : Int64 := 0
  deriving DecidableEq, Repr, Inhabited

namespace Command

/-- The fields of a command. -/
inductive Field where
  | kind
  | recipient
  | subject
  | body
  | applicationId
  | interviewId
  | jobId
  deriving DecidableEq, Repr

namespace Field

/-- The fields in the order in which they are written. -/
def all : List Field := [kind, recipient, subject, body, applicationId, interviewId, jobId]

/-- The name of a field on the wire. -/
def name : Field → String
  | kind => "type"
  | recipient => "to"
  | subject => "subject"
  | body => "body"
  | applicationId => "applicationId"
  | interviewId => "interviewId"
  | jobId => "jobId"

/-- The field with the given name.  Case counts. -/
def ofName? (s : String) : Option Field := all.find? (·.name == s)

theorem ofName?_name (f : Field) : ofName? f.name = some f := by cases f <;> decide

theorem ofName?_eq_some_iff {s : String} {f : Field} : ofName? s = some f ↔ s = f.name := by
  constructor
  · intro h
    unfold ofName? at h
    have hf := List.find?_some h
    exact (beq_iff_eq.1 hf).symm
  · rintro rfl
    exact ofName?_name f

end Field

end Command

end Courier
