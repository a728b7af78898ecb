import ContentEngine.Proofs.Bus.Telling
import ContentEngine.Proofs.Program.Pieces

/-!
# Submitting the jobs of an event

A service that is told of an event submits a job for each work item that its rules find in it, one after
the other.  Others go on meanwhile: they may close the intake of the dispatcher between two submissions.
All items are submitted all the same, each once and in their order, and the service fails if and only if
some of them were rejected.

## Strategy

`processPieces` is the program of a service with a piece for each submission, and `SubmittedEach` says of
two systems that the items were submitted one after the other between them.  What the program leads to is
by induction on the items that are left, and nobody interrupting it is one of the cases.
-/

namespace ContentEngine

/-! ## The program in pieces -/

/-- Submits work items one by one and gathers the faults of those that are rejected. -/
def submitPieces (id : DispatcherId) : List (WorkItem Processor) → Pieces (List Fault)
  | [] => pure []
  | work :: rest => do
    let (_, result) ← Pieces.one (submitWork id work)
    let faults ← submitPieces id rest
    match result with
    | .ok _ => pure faults
    | .error fault => pure (fault :: faults)

/-- What a service does when it is told of an event. -/
def processPieces (id : ServiceId) (event : ChangeEvent) : Pieces Notified :=
  if event.kind = .removed then pure .done
  else do
    let v ← Pieces.one (fromSystem (System.service · id))
    Pieces.one (writeLog (RuleMatcher.warningsFor v.rules event))
    let faults ← submitPieces v.dispatcher (RuleMatcher.workFor v.rules event)
    if faults.isEmpty then pure .done else pure (.failed (rejectionFailure faults))

theorem whole_submitPieces (id : DispatcherId) (works : List (WorkItem Processor)) :
    (submitPieces id works).whole = submitAll id works := by
  induction works with
  | nil => rfl
  | cons work rest ih =>
      unfold submitPieces submitAll
      rw [Pieces.whole_bind, Pieces.whole_one]
      refine congrArg (_ >>= ·) (funext fun submitted => ?_)
      obtain ⟨job, result⟩ := submitted
      dsimp only
      rw [Pieces.whole_bind, ih]
      refine congrArg (_ >>= ·) (funext fun faults => ?_)
      cases result <;> rfl

/-- The pieces together are what a service does if nobody interrupts it. -/
theorem whole_processPieces (id : ServiceId) (event : ChangeEvent) :
    (processPieces id event).whole = processEvent id event := by
  unfold processPieces processEvent
  split
  · rfl
  rw [Pieces.whole_bind, Pieces.whole_one]
  refine congrArg (_ >>= ·) (funext fun v => ?_)
  rw [Pieces.whole_bind, Pieces.whole_one]
  refine congrArg (_ >>= ·) (funext fun _ => ?_)
  rw [Pieces.whole_bind, whole_submitPieces]
  refine congrArg (_ >>= ·) (funext fun faults => ?_)
  split <;> rfl

/-! ## Each item once, in order -/

/-- Work items are submitted one after the other, each once, whatever was answered before; others do in
between what they may. -/
inductive SubmittedEach (others : System → System → Prop) (id : DispatcherId) :
    System → List (WorkItem Processor) → List (Except Fault JobIndex) → System → Prop
  | nil (s) : SubmittedEach others id s [] [] s
  | cons {s work answer s₁ s₂ rest answers s'} :
      (submitWork id work).run s = ((⟨s.nextJob, work⟩, answer), s₁) → others s₁ s₂ →
      SubmittedEach others id s₂ rest answers s' →
      SubmittedEach others id s (work :: rest) (answer :: answers) s'

/-- The fault of an item that was rejected. -/
def rejection? : Except Fault JobIndex → Option Fault
  | .ok _ => none
  | .error fault => some fault

/-- The faults of the items that were rejected. -/
def rejections (answers : List (Except Fault JobIndex)) : List Fault :=
  answers.filterMap rejection?

/-- What a service answers, given the faults of the items that were rejected. -/
def Notified.ofRejections : List Fault → Notified
  | [] => .done
  | fault :: faults => .failed (rejectionFailure (fault :: faults))

section submitting

variable {others : System → System → Prop} {id : DispatcherId} {s s' : System}

/-- The job of a submission is the next one. -/
theorem submitWork_job (id : DispatcherId) (work : WorkItem Processor) (s : System) :
    ((submitWork id work).run s).1.1 = ⟨s.nextJob, work⟩ := by
  unfold submitWork
  rw [get_bind, modify_bind, withDispatcher_bind]
  split <;> rfl

/-- The pieces that submit items lead to where each was submitted. -/
theorem submittedEach_of_leads {works : List (WorkItem Processor)} {faults : List Fault}
    (h : (submitPieces id works).Leads others s faults s') :
    ∃ answers, SubmittedEach others id s works answers s' ∧ faults = rejections answers := by
  induction works generalizing s s' faults with
  | nil =>
      cases h
      exact ⟨[], .nil _, rfl⟩
  | cons work rest ih =>
      unfold submitPieces at h
      obtain ⟨⟨job, answer⟩, t, hone, h⟩ := h.of_bind
      obtain ⟨hrun, hothers⟩ := hone.of_one
      obtain ⟨more, t', hrest, hlast⟩ := h.of_bind
      obtain ⟨answers, heach, rfl⟩ := ih hrest
      -- the faults that are gathered do not tell which job it was, but it is the next one anyway
      have hsubmit : (submitWork id work).run s =
          ((⟨s.nextJob, work⟩, answer), ((submitWork id work).run s).2) := by
        refine Prod.ext (Prod.ext (submitWork_job id work s) ?_) rfl
        exact (congrArg Prod.snd hrun).symm
      refine ⟨answer :: answers, ?_, ?_⟩
      · cases answer <;> cases hlast <;> exact .cons hsubmit hothers heach
      · cases answer <;> cases hlast <;> rfl

/-- What a service did when it was told of an event that removes nothing: it submitted what its rules call
for, and answered which items were rejected. -/
structure Processed (others : System → System → Prop) (service : ServiceId) (event : ChangeEvent)
    (answers : List (Except Fault JobIndex)) (s : System) (outcome : Notified) (s' : System) : Prop where
  /-- The warnings are written first, and then each item is submitted. -/
  submitted : ∃ t t', others s t ∧
    others (t.addLog (RuleMatcher.warningsFor (s.service service).rules event)) t' ∧
    SubmittedEach others (s.service service).dispatcher t'
      (RuleMatcher.workFor (s.service service).rules event) answers s'
  outcome : outcome = .ofRejections (rejections answers)

/-- Whatever a service is interrupted by, it submits each item of an event once. -/
theorem processed_of_leads {service : ServiceId} {event : ChangeEvent} {outcome : Notified}
    (hkind : event.kind ≠ .removed) (h : (processPieces service event).Leads others s outcome s') :
    ∃ answers, Processed others service event answers s outcome s' := by
  unfold processPieces at h
  rw [if_neg hkind] at h
  obtain ⟨v, t, hread, h⟩ := h.of_bind
  obtain ⟨rfl, hst⟩ := hread.of_one
  obtain ⟨_, t', hwarned, h⟩ := h.of_bind
  obtain ⟨-, htt'⟩ := hwarned.of_one
  obtain ⟨faults, t'', hsubmits, h⟩ := h.of_bind
  obtain ⟨answers, heach, rfl⟩ := submittedEach_of_leads hsubmits
  have hlast : t'' = s' ∧ outcome = .ofRejections (rejections answers) := by
    cases hfaults : rejections answers with
    | nil =>
        rw [hfaults] at h
        cases h
        exact ⟨rfl, rfl⟩
    | cons fault faults =>
        rw [hfaults] at h
        cases h
        exact ⟨rfl, rfl⟩
  obtain ⟨rfl, houtcome⟩ := hlast
  exact ⟨answers, ⟨t, t', hst, htt', heach⟩, houtcome⟩

/-- A service fails if and only if some item was rejected. -/
theorem isDone_ofRejections {answers : List (Except Fault JobIndex)} :
    (Notified.ofRejections (rejections answers)).isDone = false ↔ ∃ fault, .error fault ∈ answers := by
  have hfails : (Notified.ofRejections (rejections answers)).isDone = false ↔ rejections answers ≠ [] := by
    cases rejections answers <;> simp [Notified.ofRejections, Notified.isDone]
  rw [hfails]
  constructor
  · intro hsome
    obtain ⟨fault, hfault⟩ := List.exists_mem_of_ne_nil _ hsome
    obtain ⟨answer, hanswer, hrejected⟩ := List.mem_filterMap.mp hfault
    cases answer with
    | ok index => cases hrejected
    | error fault => exact ⟨fault, hanswer⟩
  · rintro ⟨fault, hfault⟩
    exact List.ne_nil_of_mem (List.mem_filterMap.mpr ⟨_, hfault, rfl⟩)

end submitting

/-! ## What is recorded -/

/-- The problem of an event with rejected jobs: it names how many there were. -/
def rejectionProblem (event : ChangeEvent) (faults : List Fault) : Problem :=
  Bus.failureProblem "processing" event
    (toString faults.length ++ " job(s) rejected: " ++ Text.joined "; " (faults.map Fault.message))

/-- The problems that are recorded for an event: one if jobs were rejected. -/
def rejectionProblems (event : ChangeEvent) : List Fault → Problems
  | [] => []
  | fault :: faults => [rejectionProblem event (fault :: faults)]

/-- The bus records one problem for an event if jobs were rejected, and none otherwise. -/
theorem problems_conclude {s : System} {bus : BusId} (hbus : bus < s.buses.size) (event : ChangeEvent)
    (service : ServiceId) (faults : List Fault) :
    ((s.conclude bus event (.processing service) (.ofRejections faults)).bus bus).problems =
      Problems.pushAllBounded (s.bus bus).problems (rejectionProblems event faults)
        (s.bus bus).problemCapacity := by
  rw [bus_conclude hbus ⟨(0, .processing service), [], .ofRejections faults⟩, Bus.problems_afterAll]
  congr 1
  cases faults with
  | nil => rfl
  | cons fault faults =>
      -- the failure has no causes below it, so that its text is its message
      have htext : (rejectionFailure (fault :: faults)).text = toString (fault :: faults).length ++
          " job(s) rejected: " ++ Text.joined "; " ((fault :: faults).map Fault.message) := by
        simp [rejectionFailure, Failure.of, Failure.text, Failure.chain, Text.joined]
      simp [Telling.failure?, Notified.ofRejections, Notified.cause?, htext, rejectionProblems,
        rejectionProblem, Bus.Act.problem?, Observer.name]

end ContentEngine
