import ContentEngine.Configuration.Record
import ContentEngine.Value.Printer

/-!
# Jobs

An assignment says what a processor has to do: read an input, write an output, for a rule. A job is
an assignment bound to the processor of its rule, with an identifier. Identifiers are numbered in
the order in which jobs are made and written in the form of a version 4 UUID.
-/

namespace ContentEngine

/-- The number of an identifier. -/
abbrev JobId := Nat

/-- The hexadecimal digits of a number, at least `width` of them. -/
def paddedHex (width n : Nat) : String :=
  let digits := Nat.toDigits 16 n
  String.ofList (List.replicate (width - digits.length) '0' ++ digits)

/-- The identifier of a number. -/
def identifierText (n : Nat) : String :=
  paddedHex 8 (n / 0x1000000000000) ++ "-" ++ paddedHex 4 (n / 0x100000000 % 0x10000) ++
    "-4000-8000-" ++ paddedHex 12 (n % 0x100000000)

/-- What a processor has to do. -/
structure Assignment where
  input : Location
  output : Location
  rule : ProcessorRule
  /-- The number of the event that asked for it. -/
  eventSequence : Nat

/-- An assignment bound to a processor. -/
structure WorkItem (π : Type) where
  assignment : Assignment
  processor : π

/-- A work item with an identifier. -/
structure Job (π : Type) where
  id : JobId
  work : WorkItem π

namespace Job

variable {π : Type}

/-- What the job has to do. -/
def assignment (j : Job π) : Assignment :=
  j.work.assignment

/-- The name of the job's rule. -/
def ruleName (j : Job π) : String :=
  j.assignment.rule.name

/-- The text of a job. -/
def text (j : Job π) : String :=
  "job " ++ identifierText j.id ++ " (rule '" ++ j.ruleName ++ "': " ++
    j.assignment.input.text ++ " -> " ++ j.assignment.output.text ++ ")"

/-- What a problem of the job is about, unless the problem says so itself. -/
def resource (j : Job π) : String :=
  "job " ++ identifierText j.id ++ " (" ++ j.ruleName ++ ")"

end Job

end ContentEngine
