import ContentEngine.Fault
import ContentEngine.Problem
import ContentEngine.Rule.Job
import ContentEngine.Text.Record

/-!
# Processors

A processor answers an assignment with a script: what it does, one action after the other, and how
it ends if no action fails. Some actions wait: for time to pass, for a gate to open, for a
connection to be opened. A job whose action fails ends with that failure.
-/

namespace ContentEngine

/-- Something that a processor does. -/
inductive Action where
  /-- Notes an entry. -/
  | note (entry : Value)
  /-- Fails unless a source is registered. -/
  | expect (source : String)
  /-- Borrows a connection to a source. -/
  | borrow (source : String)
  /-- Waits for a permit of a gate and uses it up. -/
  | pass (gate : String)
  /-- Waits. -/
  | sleep (millis : Nat)
  /-- Sees whether the borrowed connection works. -/
  | ping
  /-- Reads a node through the borrowed connection and notes an entry about it. -/
  | read (path : NodePath) (entry : Option Properties → Value)
  /-- Does the same as `read`, but a failure is the source's. -/
  | readOf (source : String) (path : NodePath) (entry : Option Properties → Value)
  /-- Gives the borrowed connection back. -/
  | giveBack

/-- How a processor ends. -/
inductive Ending where
  /-- It ran to its end and reports problems. -/
  | reported (problems : Problems)
  | failed (failure : Failure)
  | panicked (payload : PanicPayload)
  deriving DecidableEq, Repr

/-- What a processor does and how it ends. -/
structure Script where
  actions : List Action
  ending : Ending

/-- Answers an assignment with a script. -/
abbrev Processor := Assignment → Script

/-- What a processor knows about the job it works for. -/
structure ProcessingContext where
  job : JobId
  rule : String

namespace ProcessingContext

/-- The record text of a context. -/
def recordText (c : ProcessingContext) : String :=
  Text.record "ProcessingContext" [
    ("job_id", identifierText c.job),
    ("rule_name", Text.inQuotes c.rule),
    ("federation", Text.inQuotes "<Federation>")]

end ProcessingContext

end ContentEngine
