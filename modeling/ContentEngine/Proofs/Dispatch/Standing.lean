import ContentEngine.Dispatch.Dispatcher

/-!
# How the jobs of a dispatcher stand

Jobs ask for permits in the order in which they were submitted, and get them in that order.  So at
every moment two numbers tell how far each job has come: the first `granted` jobs were given a
permit, those after them up to `asked` stand in line, and the others have yet to ask.  `Standing`
says this, together with what it means for the line, the permits and the counts of the dispatcher.

## Strategy

Each operation of a dispatcher changes the stage of one job.  What it does to the number of jobs with
some property of their stage is `stageCount_setStage`; from it every count is a matter of arithmetic.
-/

namespace ContentEngine

namespace Stage

/-- Whether the job was ever given a permit. -/
def isGranted : Stage → Bool
  | accepted | queued => false
  | permitted | running _ | finished => true

/-- Whether the job has a permit now. -/
def holdsPermit : Stage → Bool
  | permitted | running _ => true
  | accepted | queued | finished => false

/-- Whether the job's processor was ever invoked. -/
def isInvoked : Stage → Bool
  | running _ | finished => true
  | accepted | queued | permitted => false

theorem isGranted_of_holdsPermit {stage : Stage} (h : stage.holdsPermit = true) :
    stage.isGranted = true := by
  cases stage <;> first | rfl | cases h

theorem isGranted_of_isInvoked {stage : Stage} (h : stage.isInvoked = true) :
    stage.isGranted = true := by
  cases stage <;> first | rfl | cases h

theorem not_isFinished_of_holdsPermit {stage : Stage} (h : stage.holdsPermit = true) :
    stage.isFinished = false := by
  cases stage <;> first | rfl | cases h

end Stage

private theorem countP_modify_list {α : Type} (p : α → Bool) (f : α → α) {l : List α} {i : Nat}
    {a : α} (h : l[i]? = some a) :
    (l.modify i f).countP p + (p a).toNat = l.countP p + (p (f a)).toNat := by
  induction l generalizing i with
  | nil => simp at h
  | cons x l ih =>
      cases i with
      | zero =>
          obtain rfl : x = a := by simpa using h
          simp only [List.modify_zero_cons, List.countP_cons]
          cases p x <;> cases p (f x) <;> simp
      | succ i =>
          have := ih (i := i) (by simpa using h)
          simp only [List.modify_succ_cons, List.countP_cons]
          omega

namespace Dispatcher

/-- How many jobs are of some kind. -/
def jobCount (d : Dispatcher) (p : DispatchedJob → Bool) : Nat :=
  d.jobs.toList.countP p

/-- How many jobs have a stage of some kind. -/
def stageCount (d : Dispatcher) (p : Stage → Bool) : Nat :=
  d.jobCount fun j => p j.stage

/-- The dispatcher that has accepted a job. -/
def accept (d : Dispatcher) (job : Job Processor) : Dispatcher :=
  { d with submitted := d.submitted + 1, jobs := d.jobs.push ⟨job, .accepted⟩ }

/-- A dispatcher as it is made: not started, and without jobs. -/
structure AsMade (federation : FederationId) (poolSize : Nat) (d : Dispatcher) : Prop where
  federation : d.federation = federation
  poolSize : d.poolSize = max poolSize 1
  lifecycle : d.lifecycle.state = .notStarted
  jobs : d.jobs = #[]

theorem asMade {engine : String} {federation : FederationId} {poolSize capacity : Nat}
    {d : Dispatcher} (h : new? engine federation poolSize capacity = some d) :
    AsMade federation poolSize d := by
  unfold new? at h
  split at h
  · cases h
  · obtain rfl := Option.some.inj h
    exact ⟨rfl, rfl, rfl, rfl⟩

/-! ## Changing the stage of one job -/

theorem jobs_setStage (d : Dispatcher) (index other : JobIndex) (stage : Stage) :
    (d.setStage index stage).jobs[other]? =
      if index = other then (d.jobs[other]?).map ({ · with stage := stage }) else d.jobs[other]? := by
  unfold setStage
  rw [Array.getElem?_modify]

theorem jobs_setStage_of_ne (d : Dispatcher) {index other : JobIndex} (h : index ≠ other)
    (stage : Stage) : (d.setStage index stage).jobs[other]? = d.jobs[other]? := by
  rw [jobs_setStage, if_neg h]

theorem jobs_setStage_self {d : Dispatcher} {index : JobIndex} {job : DispatchedJob}
    (h : d.jobs[index]? = some job) (stage : Stage) :
    (d.setStage index stage).jobs[index]? = some { job with stage := stage } := by
  rw [jobs_setStage, if_pos rfl, h]
  rfl

/-- The jobs that a dispatcher accepted, in their order. -/
def accepted (d : Dispatcher) : List (Job Processor) :=
  d.jobs.toList.map DispatchedJob.job

theorem accepted_setStage (d : Dispatcher) (index : JobIndex) (stage : Stage) :
    (d.setStage index stage).accepted = d.accepted := by
  apply List.ext_getElem?
  intro other
  unfold accepted
  rw [List.getElem?_map, List.getElem?_map, Array.getElem?_toList, Array.getElem?_toList, jobs_setStage]
  split
  · rw [Option.map_map]
    rfl
  · rfl

@[simp] theorem size_setStage (d : Dispatcher) (index : JobIndex) (stage : Stage) :
    (d.setStage index stage).jobs.size = d.jobs.size :=
  Array.size_modify

theorem size_requestPermit (d : Dispatcher) (index : JobIndex) :
    (d.requestPermit index).jobs.size = d.jobs.size := by
  unfold requestPermit
  split <;> exact d.size_setStage index _

theorem jobs_requestPermit_of_ne (d : Dispatcher) {index other : JobIndex} (h : index ≠ other) :
    (d.requestPermit index).jobs[other]? = d.jobs[other]? := by
  unfold requestPermit
  split <;> exact d.jobs_setStage_of_ne h _

/-- A job that asks gets a permit if there is one left. -/
theorem jobs_requestPermit_self {d : Dispatcher} {index : JobIndex} {job : DispatchedJob}
    (h : d.jobs[index]? = some job) :
    (d.requestPermit index).jobs[index]? =
      some { job with stage := if d.freePermits = 0 then .queued else .permitted } := by
  unfold requestPermit
  split
  · rename_i hfree
    rw [if_pos hfree]
    exact jobs_setStage_self h .queued
  · rename_i hfree
    rw [if_neg (by simp [hfree])]
    exact jobs_setStage_self h .permitted

/-- Changing the stage of one job changes the number of jobs of a kind by that job. -/
theorem jobCount_setStage {d : Dispatcher} {index : JobIndex} {job : DispatchedJob}
    (h : d.jobs[index]? = some job) (stage : Stage) (p : DispatchedJob → Bool) :
    (d.setStage index stage).jobCount p + (p job).toNat =
      d.jobCount p + (p { job with stage := stage }).toNat := by
  unfold jobCount setStage
  rw [Array.toList_modify]
  exact countP_modify_list p ({ · with stage := stage }) (by rwa [Array.getElem?_toList])

theorem stageCount_setStage {d : Dispatcher} {index : JobIndex} {job : DispatchedJob}
    (h : d.jobs[index]? = some job) (stage : Stage) (p : Stage → Bool) :
    (d.setStage index stage).stageCount p + (p job.stage).toNat =
      d.stageCount p + (p stage).toNat :=
  jobCount_setStage h stage fun j => p j.stage

/-- The jobs of a dispatcher, regardless of their stages. -/
def submittedJobs (d : Dispatcher) : List (Job Processor) :=
  d.jobs.toList.map DispatchedJob.job

theorem submittedJobs_setStage (d : Dispatcher) (index : JobIndex) (stage : Stage) :
    (d.setStage index stage).submittedJobs = d.submittedJobs := by
  unfold submittedJobs setStage
  rw [Array.toList_modify]
  refine List.ext_getElem? fun i => ?_
  rw [List.getElem?_map, List.getElem?_map, List.getElem?_modify]
  cases d.jobs.toList[i]? with
  | none => rfl
  | some job => by_cases h : index = i <;> simp [h]

theorem submittedJobs_requestPermit (d : Dispatcher) (index : JobIndex) :
    (d.requestPermit index).submittedJobs = d.submittedJobs := by
  unfold requestPermit
  split <;> exact d.submittedJobs_setStage index _

theorem submittedJobs_returnPermit (d : Dispatcher) :
    d.returnPermit.2.submittedJobs = d.submittedJobs := by
  unfold returnPermit
  split
  · rfl
  · exact d.submittedJobs_setStage _ _

/-- A kind that does not tell whether a job has asked for a permit sees nothing when it does. -/
theorem jobCount_requestPermit {d : Dispatcher} {index : JobIndex} {job : Job Processor}
    (h : d.jobs[index]? = some ⟨job, .accepted⟩) {p : DispatchedJob → Bool}
    (hp : p ⟨job, .queued⟩ = p ⟨job, .accepted⟩ ∧ p ⟨job, .permitted⟩ = p ⟨job, .accepted⟩) :
    (d.requestPermit index).jobCount p = d.jobCount p := by
  have hset : ∀ stage, p ⟨job, stage⟩ = p ⟨job, .accepted⟩ →
      (d.setStage index stage).jobCount p = d.jobCount p := by
    intro stage hstage
    have := jobCount_setStage h stage p
    simp only [hstage] at this
    exact Nat.add_right_cancel this
  unfold requestPermit
  split
  · exact hset .queued hp.1
  · exact hset .permitted hp.2

theorem jobCount_push (d : Dispatcher) (job : DispatchedJob) (p : DispatchedJob → Bool) :
    (d.jobs.push job).toList.countP p = d.jobCount p + (p job).toNat := by
  unfold jobCount
  rw [Array.toList_push, List.countP_append, List.countP_singleton]
  cases p job <;> rfl

theorem stageCount_congr (d : Dispatcher) {p q : Stage → Bool}
    (h : ∀ (i : JobIndex) (job), d.jobs[i]? = some job → p job.stage = q job.stage) :
    d.stageCount p = d.stageCount q := by
  refine List.countP_congr fun job hjob => ?_
  obtain ⟨i, hi⟩ := List.getElem?_of_mem hjob
  rw [h i job (by rwa [← Array.getElem?_toList])]

/-- Jobs of the kinds that a stage is in count once for each of them. -/
theorem stageCount_add {p q r : Stage → Bool} (h : ∀ stage, (p stage).toNat + (q stage).toNat =
    (r stage).toNat) (d : Dispatcher) : d.stageCount p + d.stageCount q = d.stageCount r := by
  unfold stageCount jobCount
  induction d.jobs.toList with
  | nil => rfl
  | cons job rest ih =>
      have := h job.stage
      simp only [List.countP_cons]
      cases hp : p job.stage <;> cases hq : q job.stage <;> cases hr : r job.stage <;>
        simp [hp, hq, hr] at this ⊢ <;> omega

/-! ## Ending one job -/

/-- Each outcome counts as completed or as failed. -/
theorem record_outcomes (d : Dispatcher) (job : Job Processor) (ending : Ending) :
    (d.record job ending).1.completed + (d.record job ending).1.failed =
      d.completed + d.failed + 1 := by
  unfold record
  dsimp only
  split <;> omega

theorem returnPermit_nil {d : Dispatcher} (h : d.line = []) :
    d.returnPermit = (none, { d with freePermits := d.freePermits + 1 }) := by
  unfold returnPermit
  rw [h]

theorem returnPermit_cons {d : Dispatcher} {next : JobIndex} {line : List JobIndex}
    (h : d.line = next :: line) :
    d.returnPermit = (some next, { d.setStage next .permitted with line := line }) := by
  unfold returnPermit
  rw [h]

@[simp] theorem size_returnPermit (d : Dispatcher) :
    d.returnPermit.2.jobs.size = d.jobs.size := by
  unfold returnPermit
  split
  · rfl
  · exact d.size_setStage _ _

/-- Only the job that gets the permit is changed when one is taken back. -/
theorem jobs_returnPermit {d : Dispatcher} {i : JobIndex} {job : DispatchedJob}
    (h : d.returnPermit.2.jobs[i]? = some job) :
    d.returnPermit.1 = some i ∨ d.jobs[i]? = some job := by
  cases hline : d.line with
  | nil =>
      rw [returnPermit_nil hline] at h
      exact .inr h
  | cons next line =>
      rw [returnPermit_cons hline] at h ⊢
      rcases Nat.decEq next i with hne | rfl
      · exact .inr ((d.jobs_setStage_of_ne hne _).symm.trans h)
      · exact .inl rfl

end Dispatcher

/-! ## The standing of the jobs -/

/-- The first `granted` jobs were given permits, those after them up to `asked` are in line. -/
structure Standing (d : Dispatcher) (granted asked : Nat) : Prop where
  granted_le : granted ≤ asked
  asked_le : asked ≤ d.jobs.size
  given : ∀ i < granted, ∀ job ∈ d.jobs[i]?, job.stage.isGranted = true
  queued : ∀ i, granted ≤ i → i < asked → ∀ job ∈ d.jobs[i]?, job.stage = .queued
  accepted : ∀ i, asked ≤ i → ∀ job ∈ d.jobs[i]?, job.stage = .accepted
  line : d.line = List.range' granted (asked - granted)
  free : d.freePermits ≠ 0 → granted = asked
  permits : d.freePermits + d.stageCount Stage.holdsPermit = d.poolSize
  submitted : d.submitted = d.jobs.size
  outcomes : d.completed + d.failed = d.stageCount Stage.isFinished

namespace Standing

variable {d : Dispatcher} {granted asked : Nat}

theorem of_empty (hjobs : d.jobs = #[]) (hline : d.line = []) (hfree : d.freePermits = d.poolSize)
    (hsubmitted : d.submitted = 0) (hcompleted : d.completed = 0) (hfailed : d.failed = 0) :
    Standing d 0 0 where
  granted_le := Nat.le_refl 0
  asked_le := Nat.zero_le _
  given := fun _ hi => absurd hi (Nat.not_lt_zero _)
  queued := fun _ _ hi => absurd hi (Nat.not_lt_zero _)
  accepted := by simp [hjobs]
  line := hline
  free := fun _ => rfl
  permits := by simp [Dispatcher.stageCount, Dispatcher.jobCount, hjobs, hfree]
  submitted := by simp [hjobs, hsubmitted]
  outcomes := by simp [Dispatcher.stageCount, Dispatcher.jobCount, hjobs, hcompleted, hfailed]

theorem new {engine : String} {federation : FederationId} {poolSize capacity : Nat}
    (h : Dispatcher.new? engine federation poolSize capacity = some d) : Standing d 0 0 := by
  unfold Dispatcher.new? at h
  split at h
  · cases h
  · obtain rfl := Option.some.inj h
    exact of_empty rfl rfl rfl rfl rfl rfl

/-- Nothing about the standing depends on the lifecycle, the intake or the rejected jobs. -/
theorem congr {d' : Dispatcher} (h : Standing d granted asked) (hjobs : d'.jobs = d.jobs)
    (hline : d'.line = d.line) (hfree : d'.freePermits = d.freePermits)
    (hpool : d'.poolSize = d.poolSize) (hsubmitted : d'.submitted = d.submitted)
    (hcompleted : d'.completed = d.completed) (hfailed : d'.failed = d.failed) :
    Standing d' granted asked where
  granted_le := h.granted_le
  asked_le := hjobs ▸ h.asked_le
  given := hjobs ▸ h.given
  queued := hjobs ▸ h.queued
  accepted := hjobs ▸ h.accepted
  line := hline ▸ h.line
  free := hfree ▸ h.free
  permits := by
    rw [hfree, hpool, ← h.permits, Dispatcher.stageCount, Dispatcher.jobCount, hjobs]
    rfl
  submitted := by rw [hsubmitted, hjobs, h.submitted]
  outcomes := by
    rw [hcompleted, hfailed, h.outcomes, Dispatcher.stageCount, Dispatcher.stageCount,
      Dispatcher.jobCount, Dispatcher.jobCount, hjobs]

/-- A job that has yet to ask is one of the last. -/
theorem asked_le_of_accepted (h : Standing d granted asked) {i : JobIndex} {job : Job Processor}
    (hjob : d.jobs[i]? = some ⟨job, .accepted⟩) : asked ≤ i := by
  rcases Nat.lt_or_ge i granted with hi | hi
  · have := h.given i hi _ hjob
    cases this
  rcases Nat.lt_or_ge i asked with hi' | hi'
  · have := h.queued i hi hi' _ hjob
    cases this
  · exact hi'

/-- A job that was given a permit is one of the first. -/
theorem lt_granted (h : Standing d granted asked) {i : JobIndex} {job : DispatchedJob}
    (hjob : d.jobs[i]? = some job) (hgranted : job.stage.isGranted = true) : i < granted := by
  rcases Nat.lt_or_ge i granted with hi | hi
  · exact hi
  rcases Nat.lt_or_ge i asked with hi' | hi'
  · rw [h.queued i hi hi' _ hjob] at hgranted
    cases hgranted
  · rw [h.accepted i hi' _ hjob] at hgranted
    cases hgranted

/-! ### The arrangement -/

/-- What the standing says of the stages of the jobs, whatever the line and the counts are. -/
structure Arranged (d : Dispatcher) (granted asked : Nat) : Prop where
  granted_le : granted ≤ asked
  asked_le : asked ≤ d.jobs.size
  given : ∀ i < granted, ∀ job ∈ d.jobs[i]?, job.stage.isGranted = true
  queued : ∀ i, granted ≤ i → i < asked → ∀ job ∈ d.jobs[i]?, job.stage = .queued
  accepted : ∀ i, asked ≤ i → ∀ job ∈ d.jobs[i]?, job.stage = .accepted

theorem arranged (h : Standing d granted asked) : Arranged d granted asked :=
  ⟨h.granted_le, h.asked_le, h.given, h.queued, h.accepted⟩

/-- A job of a stage may stand at an index. -/
inductive Fits (granted asked index : Nat) : Stage → Prop
  | given {stage} : index < granted → stage.isGranted = true → Fits granted asked index stage
  | queued : granted ≤ index → index < asked → Fits granted asked index .queued
  | accepted : asked ≤ index → Fits granted asked index .accepted

/-- When one job changes its stage the bounds move past that job and no other. -/
theorem Arranged.setStage (h : Arranged d granted asked) {index granted' asked' : Nat} {stage : Stage}
    (hle : granted' ≤ asked') (hsize : asked' ≤ d.jobs.size)
    (hfits : Fits granted' asked' index stage)
    (hothers : ∀ k : Nat, k ≠ index → (k < granted ↔ k < granted') ∧ (k < asked ↔ k < asked')) :
    Arranged (d.setStage index stage) granted' asked' := by
  have hself : ∀ job ∈ (d.setStage index stage).jobs[index]?, job.stage = stage := by
    intro job hjob
    rw [d.jobs_setStage, if_pos rfl] at hjob
    obtain ⟨_, _, rfl⟩ := Option.map_eq_some_iff.mp hjob
    rfl
  have hother : ∀ {k}, k ≠ index → (d.setStage index stage).jobs[k]? = d.jobs[k]? :=
    fun hk => d.jobs_setStage_of_ne hk.symm stage
  refine ⟨hle, (d.size_setStage index stage).symm ▸ hsize, fun k hk job hjob => ?_,
    fun k hk hk' job hjob => ?_, fun k hk job hjob => ?_⟩
  · rcases Nat.decEq k index with hne | rfl
    · exact h.given k ((hothers k hne).1.mpr hk) job (hother hne ▸ hjob)
    · rw [hself job hjob]
      cases hfits with
      | given _ hstage => exact hstage
      | queued hge _ | accepted hge => omega
  · rcases Nat.decEq k index with hne | rfl
    · obtain ⟨hgranted, hasked⟩ := hothers k hne
      exact h.queued k (by omega) (hasked.mpr hk') job (hother hne ▸ hjob)
    · rw [hself job hjob]
      cases hfits with
      | given hlt _ => omega
      | queued _ _ => rfl
      | accepted hge => omega
  · rcases Nat.decEq k index with hne | rfl
    · have hasked := (hothers k hne).2
      exact h.accepted k (by omega) job (hother hne ▸ hjob)
    · rw [hself job hjob]
      cases hfits with
      | given hlt _ => omega
      | queued _ hlt => omega
      | accepted _ => rfl

/-- A job with a permit runs on or ends without that the jobs stand differently. -/
theorem Arranged.setStage_given (h : Arranged d granted asked) {index : Nat} {stage : Stage}
    (hindex : index < granted) (hstage : stage.isGranted = true) :
    Arranged (d.setStage index stage) granted asked :=
  h.setStage h.granted_le h.asked_le (.given hindex hstage) fun _ _ => ⟨.rfl, .rfl⟩

/-! ### What operations do -/

theorem submit (h : Standing d granted asked) (job : Job Processor) :
    Standing (d.accept job) granted asked where
  granted_le := h.granted_le
  asked_le := by
    have := h.asked_le
    simp only [Dispatcher.accept, Array.size_push]
    omega
  given i hi j hj := by
    have hlt : i < d.jobs.size := by
      have := h.granted_le
      have := h.asked_le
      omega
    rw [Dispatcher.accept, Array.getElem?_push_lt hlt, ← Array.getElem?_eq_getElem hlt] at hj
    exact h.given i hi j hj
  queued i hi hi' j hj := by
    have hlt : i < d.jobs.size := Nat.lt_of_lt_of_le hi' h.asked_le
    rw [Dispatcher.accept, Array.getElem?_push_lt hlt, ← Array.getElem?_eq_getElem hlt] at hj
    exact h.queued i hi hi' j hj
  accepted i hi j hj := by
    simp only [Dispatcher.accept, Array.getElem?_push] at hj
    split at hj
    · obtain rfl := Option.some.inj hj
      rfl
    · exact h.accepted i hi j hj
  line := h.line
  free := h.free
  permits := by
    refine Eq.trans ?_ h.permits
    exact congrArg (d.freePermits + ·) (d.jobCount_push ⟨job, .accepted⟩ _)
  submitted := by
    have := h.submitted
    simp only [Dispatcher.accept, Array.size_push]
    omega
  outcomes := h.outcomes.trans (d.jobCount_push ⟨job, .accepted⟩ fun j => j.stage.isFinished).symm

/-- The job in front of the line is the first one that has no permit yet. -/
theorem front (h : Standing d granted asked) {next : JobIndex} {rest : List JobIndex}
    (hline : d.line = next :: rest) :
    next = granted ∧ granted < asked ∧ rest = List.range' (granted + 1) (asked - (granted + 1)) ∧
      ∃ job, d.jobs[granted]? = some ⟨job, .queued⟩ := by
  have hrange := h.line
  rw [hline] at hrange
  obtain ⟨n, hn⟩ : ∃ n, asked - granted = n + 1 := by
    refine Nat.exists_eq_succ_of_ne_zero fun hzero => ?_
    rw [hzero] at hrange
    cases hrange
  rw [hn, List.range'_succ] at hrange
  obtain ⟨rfl, rfl⟩ := List.cons.inj hrange
  have hasked : next < asked := Nat.lt_of_sub_eq_succ hn
  obtain ⟨⟨job, stage⟩, hnext⟩ : ∃ job, d.jobs[next]? = some job :=
    ⟨_, Array.getElem?_eq_getElem (Nat.lt_of_lt_of_le hasked h.asked_le)⟩
  obtain rfl : stage = .queued := h.queued next (Nat.le_refl _) hasked _ hnext
  refine ⟨rfl, hasked, ?_, job, hnext⟩
  congr 1
  omega

/-- The first job that has yet to ask joins the line if there is no permit left. -/
theorem queue (h : Standing d granted asked) {job : Job Processor}
    (hjob : d.jobs[asked]? = some ⟨job, .accepted⟩) (hfree : d.freePermits = 0) :
    Standing (d.requestPermit asked) granted (asked + 1) := by
  have hlt : asked < d.jobs.size := (Array.getElem?_eq_some_iff.mp hjob).1
  have hle := h.granted_le
  have heq : d.requestPermit asked = { d.setStage asked .queued with line := d.line ++ [asked] } := by
    unfold Dispatcher.requestPermit
    rw [hfree]
  have hcount : ∀ p : Stage → Bool, p .accepted = p .queued →
      (d.setStage asked .queued).stageCount p = d.stageCount p := by
    intro p hp
    have := Dispatcher.stageCount_setStage hjob .queued p
    simp only [hp] at this
    omega
  have harranged : Arranged (d.setStage asked .queued) granted (asked + 1) :=
    h.arranged.setStage (by omega) hlt (.queued hle (Nat.lt_succ_self _)) fun k hk => by omega
  rw [heq]
  refine ⟨harranged.granted_le, harranged.asked_le, harranged.given, harranged.queued,
    harranged.accepted, ?_, fun hne => absurd hfree hne, ?_, ?_, ?_⟩
  · change d.line ++ [asked] = _
    rw [h.line, show asked + 1 - granted = (asked - granted) + 1 by omega, List.range'_concat]
    congr 2
    omega
  · exact (congrArg (d.freePermits + ·) (hcount _ rfl)).trans h.permits
  · exact h.submitted.trans (d.size_setStage asked .queued).symm
  · exact h.outcomes.trans (hcount _ rfl).symm

/-- The first job that has yet to ask gets a permit if there is one left. -/
theorem grant (h : Standing d granted asked) {job : Job Processor}
    (hjob : d.jobs[asked]? = some ⟨job, .accepted⟩) (hfree : d.freePermits ≠ 0) :
    Standing (d.requestPermit asked) (asked + 1) (asked + 1) := by
  obtain ⟨free, hpermits⟩ := Nat.exists_eq_succ_of_ne_zero hfree
  have hlt : asked < d.jobs.size := (Array.getElem?_eq_some_iff.mp hjob).1
  have heq : d.requestPermit asked = { d.setStage asked .permitted with freePermits := free } := by
    unfold Dispatcher.requestPermit
    rw [hpermits]
  have hsame := h.free hfree
  subst hsame
  have harranged : Arranged (d.setStage granted .permitted) (granted + 1) (granted + 1) :=
    h.arranged.setStage (Nat.le_refl _) hlt (.given (Nat.lt_succ_self _) rfl) fun k hk => by omega
  rw [heq]
  refine ⟨harranged.granted_le, harranged.asked_le, harranged.given, harranged.queued,
    harranged.accepted, ?_, fun _ => rfl, ?_, ?_, ?_⟩
  · change d.line = _
    rw [h.line, Nat.sub_self, Nat.sub_self]
    rfl
  · have hcount := Dispatcher.stageCount_setStage hjob .permitted Stage.holdsPermit
    have := h.permits
    change free + (d.setStage granted .permitted).stageCount Stage.holdsPermit = d.poolSize
    simp only [Stage.holdsPermit, Bool.toNat_true, Bool.toNat_false] at hcount
    omega
  · exact h.submitted.trans (d.size_setStage granted .permitted).symm
  · have hcount := Dispatcher.stageCount_setStage hjob .permitted Stage.isFinished
    have := h.outcomes
    change d.completed + d.failed = (d.setStage granted .permitted).stageCount Stage.isFinished
    simp only [Stage.isFinished, Bool.toNat_false] at hcount
    omega

theorem run (h : Standing d granted asked) {i : JobIndex} {job : DispatchedJob}
    (hjob : d.jobs[i]? = some job) (hholds : job.stage.holdsPermit = true) (a : Activity) :
    Standing (d.setStage i (.running a)) granted asked := by
  have hi := h.lt_granted hjob (Stage.isGranted_of_holdsPermit hholds)
  have harranged : Arranged (d.setStage i (.running a)) granted asked :=
    h.arranged.setStage_given hi rfl
  have hholders := Dispatcher.stageCount_setStage hjob (.running a) Stage.holdsPermit
  have hfinished := Dispatcher.stageCount_setStage hjob (.running a) Stage.isFinished
  rw [hholds] at hholders
  rw [Stage.not_isFinished_of_holdsPermit hholds] at hfinished
  refine ⟨harranged.granted_le, harranged.asked_le, harranged.given, harranged.queued,
    harranged.accepted, h.line, h.free, ?_, ?_, ?_⟩
  · rw [Nat.add_right_cancel hholders]
    exact h.permits
  · exact h.submitted.trans (d.size_setStage i (.running a)).symm
  · rw [Nat.add_right_cancel hfinished]
    exact h.outcomes

/-- The job in front of the line stands there still when one with a permit has ended. -/
theorem front_of_finished (h : Standing d granted asked) {i : JobIndex} {job : DispatchedJob}
    (hjob : d.jobs[i]? = some job) (hholds : job.stage.holdsPermit = true) {next : JobIndex}
    {rest : List JobIndex} (hline : d.line = next :: rest) :
    next = granted ∧ granted < asked ∧ rest = List.range' (granted + 1) (asked - (granted + 1)) ∧
      ∃ job', (d.setStage i .finished).jobs[next]? = some ⟨job', .queued⟩ := by
  obtain ⟨rfl, hasked, hrange, job', hnext⟩ := h.front hline
  have hi := h.lt_granted hjob (Stage.isGranted_of_holdsPermit hholds)
  exact ⟨rfl, hasked, hrange, job', (d.jobs_setStage_of_ne (Nat.ne_of_lt hi) .finished).trans hnext⟩

/-- A job that ends hands its permit to the first job in line, if there is one. -/
theorem finish (h : Standing d granted asked) {i : JobIndex} {job : DispatchedJob}
    (hjob : d.jobs[i]? = some job) (hholds : job.stage.holdsPermit = true) (ending : Ending) :
    let ended := ((d.record job.job ending).1.setStage i .finished).returnPermit
    (d.line = [] ∧ ended.1 = none ∧ Standing ended.2 granted asked) ∨
      (granted < asked ∧ ended.1 = some granted ∧ Standing ended.2 (granted + 1) asked) := by
  have hi := h.lt_granted hjob (Stage.isGranted_of_holdsPermit hholds)
  have harranged : Arranged (d.setStage i .finished) granted asked :=
    h.arranged.setStage_given hi rfl
  have hholders := Dispatcher.stageCount_setStage hjob .finished Stage.holdsPermit
  have hfinished := Dispatcher.stageCount_setStage hjob .finished Stage.isFinished
  rw [hholds] at hholders
  rw [Stage.not_isFinished_of_holdsPermit hholds] at hfinished
  simp only [Stage.holdsPermit, Stage.isFinished, Bool.toNat_true,
    Bool.toNat_false] at hholders hfinished
  have hpermits := h.permits
  have houtcomes := h.outcomes
  have hcounts := d.record_outcomes job.job ending
  intro ended
  cases hline : d.line with
  | nil =>
      have hasked : granted = asked := by
        have hnone := congrArg List.length (h.line.symm.trans hline)
        rw [List.length_range', List.length_nil] at hnone
        exact Nat.le_antisymm h.granted_le (Nat.sub_eq_zero_iff_le.mp hnone)
      have heq : ended = (none, { (d.record job.job ending).1.setStage i .finished with
          freePermits := d.freePermits + 1 }) :=
        Dispatcher.returnPermit_nil hline
      rw [heq]
      refine .inl ⟨rfl, rfl, harranged.granted_le, harranged.asked_le, harranged.given,
        harranged.queued, harranged.accepted, h.line, fun _ => hasked, ?_, ?_, ?_⟩
      · change d.freePermits + 1 + (d.setStage i .finished).stageCount Stage.holdsPermit = d.poolSize
        omega
      · exact h.submitted.trans (d.size_setStage i .finished).symm
      · change (d.record job.job ending).1.completed + (d.record job.job ending).1.failed =
          (d.setStage i .finished).stageCount Stage.isFinished
        omega
  | cons next line =>
      obtain ⟨rfl, hasked, hrange, job', hfront⟩ := h.front_of_finished hjob hholds hline
      subst hrange
      have hholders' := Dispatcher.stageCount_setStage hfront .permitted Stage.holdsPermit
      have hfinished' := Dispatcher.stageCount_setStage hfront .permitted Stage.isFinished
      simp only [Stage.holdsPermit, Stage.isFinished, Bool.toNat_true,
        Bool.toNat_false] at hholders' hfinished'
      have heq : ended = (some next, { ((d.record job.job ending).1.setStage i .finished).setStage
          next .permitted with line := List.range' (next + 1) (asked - (next + 1)) }) :=
        Dispatcher.returnPermit_cons hline
      have hpassed : Arranged ((d.setStage i .finished).setStage next .permitted) (next + 1) asked :=
        harranged.setStage hasked harranged.asked_le (.given (Nat.lt_succ_self _) rfl) fun k hk => by omega
      rw [heq]
      refine .inr ⟨hasked, rfl, hpassed.granted_le, hpassed.asked_le, hpassed.given, hpassed.queued,
        hpassed.accepted, rfl, fun hfree => absurd (h.free hfree) (Nat.ne_of_lt hasked), ?_, ?_, ?_⟩
      · change d.freePermits +
          ((d.setStage i .finished).setStage next .permitted).stageCount Stage.holdsPermit = d.poolSize
        omega
      · refine h.submitted.trans ?_
        change _ = ((d.setStage i .finished).setStage next .permitted).jobs.size
        rw [Dispatcher.size_setStage, Dispatcher.size_setStage]
      · change (d.record job.job ending).1.completed + (d.record job.job ending).1.failed =
          ((d.setStage i .finished).setStage next .permitted).stageCount Stage.isFinished
        omega

/-- A kind that does not tell queued jobs from permitted ones sees only the end of the one job. -/
theorem jobCount_finish (h : Standing d granted asked) {i : JobIndex} {job : DispatchedJob}
    (hjob : d.jobs[i]? = some job) (hholds : job.stage.holdsPermit = true) (ending : Ending)
    {p : DispatchedJob → Bool} (hp : ∀ job, p ⟨job, .queued⟩ = p ⟨job, .permitted⟩) :
    (((d.record job.job ending).1.setStage i .finished).returnPermit.2).jobCount p +
      (p job).toNat = d.jobCount p + (p { job with stage := .finished }).toNat := by
  have hend := Dispatcher.jobCount_setStage hjob .finished p
  cases hline : d.line with
  | nil =>
      rw [Dispatcher.returnPermit_nil (d := (d.record job.job ending).1.setStage i .finished) hline]
      exact hend
  | cons next line =>
      obtain ⟨-, -, -, job', hfront⟩ := h.front_of_finished hjob hholds hline
      have hpass := Dispatcher.jobCount_setStage hfront .permitted p
      simp only [hp job'] at hpass
      rw [Dispatcher.returnPermit_cons (d := (d.record job.job ending).1.setStage i .finished) hline]
      exact (congrArg (· + (p job).toNat) (Nat.add_right_cancel hpass)).trans hend

/-! ### What the standing says of the counts -/

/-- Every job that was accepted completed, failed, or is in flight. -/
theorem submitted_eq (h : Standing d granted asked) :
    d.submitted = d.completed + d.failed + d.inFlight := by
  have hsum := Dispatcher.stageCount_add (p := Stage.isFinished) (q := fun stage => !stage.isFinished)
    (r := fun _ => true) (fun stage => by cases stage.isFinished <;> rfl) d
  have hall : d.stageCount (fun _ => true) = d.jobs.size := by
    simp [Dispatcher.stageCount, Dispatcher.jobCount]
  rw [h.submitted, h.outcomes, ← hall, ← hsum]
  rfl

/-- Not more processors run than there are permits. -/
theorem running_le (h : Standing d granted asked) : d.runningCount ≤ d.poolSize := by
  have hsum := Dispatcher.stageCount_add (p := Stage.isRunning)
    (q := fun stage => stage.holdsPermit && !stage.isRunning) (r := Stage.holdsPermit)
    (fun stage => by cases stage <;> rfl) d
  have hpermits := h.permits
  change d.stageCount Stage.isRunning ≤ d.poolSize
  omega

/-- When no job is about to ask for a permit or to begin, as many processors run as can. -/
theorem running_eq (h : Standing d granted asked)
    (hidle : ∀ (i : JobIndex) (job), d.jobs[i]? = some job →
      job.stage ≠ .accepted ∧ job.stage ≠ .permitted) :
    d.runningCount = min d.poolSize d.inFlight := by
  have hholders : d.stageCount Stage.holdsPermit = d.runningCount := by
    refine d.stageCount_congr fun i job hjob => ?_
    have := (hidle i job hjob).2
    revert this
    cases job.stage <;> simp [Stage.holdsPermit, Stage.isRunning]
  have hpermits := h.permits
  by_cases hfree : d.freePermits = 0
  · have hsum := Dispatcher.stageCount_add (p := Stage.isRunning)
      (q := fun stage => !stage.isFinished && !stage.isRunning) (r := fun stage => !stage.isFinished)
      (fun stage => by cases stage <;> rfl) d
    change d.runningCount + _ = d.inFlight at hsum
    omega
  · -- a permit is free, so nobody stands in line
    have hinFlight : d.inFlight = d.runningCount := by
      refine d.stageCount_congr (p := fun stage => !stage.isFinished) fun i job hjob => ?_
      have hgranted : job.stage.isGranted = true := by
        rcases Nat.lt_or_ge i granted with hlt | hge
        · exact h.given i hlt job hjob
        · exact absurd (h.accepted i (h.free hfree ▸ hge) job hjob) (hidle i job hjob).1
      have := (hidle i job hjob).2
      revert hgranted this
      cases job.stage <;> simp [Stage.isGranted, Stage.isFinished, Stage.isRunning]
    omega

end Standing

end ContentEngine
