import ContentEngine.Proofs.Run.JobOrder

/-!
# The history of the jobs of a dispatcher

What happened to the jobs of a dispatcher since it was made, compared with how its jobs stand now: the
jobs that were accepted are those it has, and a processor was invoked once for each job that runs or
has ended, and for no other.  The turn that invokes a processor carries out the processor's script.
`jobs_conserved` puts this together with the order of the jobs.

That order is the order of permits.  A job that was handed a permit goes on when its turn comes, and one
that is submitted until then may find another permit free and begin before it (`jobs_overtaken`).
-/

namespace ContentEngine

/-- Whether an event is that of accepting a job of a dispatcher, and of which. -/
def JobEvent.acceptedBy? (id : DispatcherId) : JobEvent → Option JobId
  | .accepted dispatcher job => if dispatcher = id then some job else none
  | .rejected _ _ => none
  | .invoked _ _ => none

/-- Whether an event is that of invoking the processor of a job of a dispatcher, and of which. -/
def JobEvent.invokedBy? (id : DispatcherId) : JobEvent → Option JobId
  | .accepted _ _ => none
  | .rejected _ _ => none
  | .invoked dispatcher job => if dispatcher = id then some job else none

/-- How many jobs with an identifier there are whose processor was invoked. -/
def Dispatcher.invokedCount (d : Dispatcher) (n : JobId) : Nat :=
  d.jobCount fun j => j.job.id == n && j.stage.isInvoked

/-! ## Turns and invocations -/

section turns

variable {s s' s₁ : System} {id : DispatcherId} {index : JobIndex} {job : Job Processor}

/-- A turn of a job is told of as an invocation if it invokes the processor of the job. -/
private theorem invocations_of_ready {rest : List Errand} (hready : s.ready = .job id index :: rest) :
    s.invocations =
      (((s.dispatcher id).invokes? index).map fun job => JobEvent.invoked id job.id).toList := by
  unfold System.invocations
  rw [hready]

/-- A processor begins to go on if it runs already, and else it is invoked. -/
private theorem begins_invokes (h : Begins id index job s s₁) :
    ∃ stage, (s₁.dispatcher id).jobs[index]? = some ⟨job, stage⟩ ∧
      (s.dispatcher id).invokes? index = (if stage.isInvoked then none else some job) ∧
      (s₁.dispatcher id).submittedJobs = (s.dispatcher id).submittedJobs ∧
      s₁.nextJob = s.nextJob ∧
      ∀ n, (s₁.dispatcher id).invokedCount n = (s.dispatcher id).invokedCount n := by
  unfold Dispatcher.invokes?
  cases h with
  | @running a hjob =>
      rw [hjob]
      exact ⟨.running a, rfl, rfl, rfl, rfl, fun _ => rfl⟩
  | permitted hjob =>
      rw [hjob]
      exact ⟨.permitted, rfl, rfl, rfl, rfl, fun _ => rfl⟩
  | granted hjob hfree =>
      rw [hjob, s.dispatcher_setDispatcher_self (s.dispatcher_lt_of_job hjob)]
      refine ⟨.permitted, ?_, if_neg hfree, ?_, rfl, fun n => ?_⟩
      · rw [Dispatcher.jobs_requestPermit_self hjob, if_neg hfree]
      · exact Dispatcher.submittedJobs_requestPermit _ _
      · exact Dispatcher.jobCount_requestPermit hjob (by simp [Stage.isInvoked])

/-- Whether its processor runs on or has ended, the job leaves its turn as one that was invoked. -/
private theorem leaves_invoked {granted asked : Nat} {stage : Stage}
    (h : Standing (s.dispatcher id) granted asked)
    (hjob : (s.dispatcher id).jobs[index]? = some ⟨job, stage⟩) (hholds : stage.holdsPermit = true)
    (hleaves : Leaves id index job s s') :
    (s'.dispatcher id).submittedJobs = (s.dispatcher id).submittedJobs ∧ s'.nextJob = s.nextJob ∧
      ∀ n, (s'.dispatcher id).invokedCount n + (job.id == n && stage.isInvoked).toNat =
        (s.dispatcher id).invokedCount n + (job.id == n).toNat := by
  rcases hleaves.dispatcher (s.dispatcher_lt_of_job hjob) with ⟨ending, -, heq⟩ | ⟨a, -, heq⟩
  · rw [heq]
    refine ⟨?_, hleaves.nextJob, fun n => ?_⟩
    · rw [Dispatcher.submittedJobs_returnPermit]
      exact Dispatcher.submittedJobs_setStage _ index .finished
    · have := h.jobCount_finish hjob hholds ending
        (p := fun j => j.job.id == n && j.stage.isInvoked) fun _ => rfl
      exact this.trans (congrArg (fun b : Bool => _ + b.toNat) (Bool.and_true _))
  · rw [heq]
    refine ⟨Dispatcher.submittedJobs_setStage _ index _, hleaves.nextJob, fun n => ?_⟩
    have := Dispatcher.jobCount_setStage hjob (.running a) fun j => j.job.id == n && j.stage.isInvoked
    exact this.trans (congrArg (fun b : Bool => _ + b.toNat) (Bool.and_true _))

/-- A turn of a job invokes the processor of that job if it was not invoked yet and may be now. -/
private theorem turn_invoked {granted asked : Nat} {rest : List Errand}
    (h : InOrder s id granted asked []) (hready : s.ready = .job id index :: rest)
    (hturn : JobTurn id index { s with ready := rest } s') :
    (s'.dispatcher id).submittedJobs = (s.dispatcher id).submittedJobs ∧ s'.nextJob = s.nextJob ∧
      ∀ n, (s'.dispatcher id).invokedCount n =
        (s.dispatcher id).invokedCount n + s.invocations.count (.invoked id n) := by
  rw [invocations_of_ready hready]
  cases hturn with
  | idle hidle =>
      have hnone : (s.dispatcher id).invokes? index = none := by
        unfold Dispatcher.invokes?
        split
        · rename_i job hjob
          cases hidle _ hjob
        · rename_i job hjob
          cases hidle _ hjob
        · rfl
      rw [hnone]
      exact ⟨rfl, rfl, fun _ => rfl⟩
  | queue hjob hfree =>
      have hnone : (s.dispatcher id).invokes? index = none := by
        unfold Dispatcher.invokes?
        rw [show (s.dispatcher id).jobs[index]? = _ from hjob]
        exact if_pos hfree
      rw [hnone, System.dispatcher_setDispatcher_self _ (System.dispatcher_lt_of_job _ hjob)]
      refine ⟨Dispatcher.submittedJobs_requestPermit _ _, rfl, fun n => ?_⟩
      exact Dispatcher.jobCount_requestPermit hjob (by simp [Stage.isInvoked])
  | @goOn job s₁ s₂ s' hbegins hquiet hleaves =>
      obtain ⟨granted', asked', horder, stage, hjob, hholds⟩ := h.begins hready hbegins
      obtain ⟨stage', hjob', hinvokes, hjobs, hnextJob, hcount⟩ := begins_invokes hbegins
      obtain rfl : stage' = stage := by
        have := Option.some.inj (hjob'.symm.trans hjob)
        exact (DispatchedJob.mk.inj this).2
      have hsame : s₂.dispatcher id = s₁.dispatcher id := by
        rw [System.dispatcher, hquiet.dispatchers, System.dispatcher]
      obtain ⟨hjobs', hnextJob', hcount'⟩ :=
        leaves_invoked (hsame ▸ horder.standing) (hsame ▸ hjob) hholds hleaves
      refine ⟨hjobs'.trans (hsame ▸ hjobs), hnextJob'.trans (hquiet.nextJob.trans hnextJob), fun n => ?_⟩
      have := hcount' n
      rw [hsame, hcount n] at this
      have hinvokes : (s.dispatcher id).invokes? index = _ := hinvokes
      rw [hinvokes]
      cases hstage : stage'.isInvoked with
      | true =>
          simp only [hstage, Bool.and_true] at this
          exact Nat.add_right_cancel this
      | false =>
          simp only [hstage, Bool.and_false, Bool.toNat_false, Nat.add_zero] at this
          refine this.trans (congrArg ((s.dispatcher id).invokedCount n + ·) ?_)
          by_cases hn : job.id = n <;> simp [hn]

end turns

/-! ## The record of the jobs -/

/-- What happened to the jobs of a dispatcher since it was made. -/
structure JobRecord (id : DispatcherId) (history : List JobEvent) (s : System) : Prop where
  made : id < s.dispatchers.size
  accepted : history.filterMap (JobEvent.acceptedBy? id) =
    (s.dispatcher id).submittedJobs.map Job.id
  fresh : ∀ job ∈ (s.dispatcher id).submittedJobs, job.id < s.nextJob
  distinct : ((s.dispatcher id).submittedJobs.map Job.id).Nodup
  rejected : ∀ n, .rejected id n ∈ history →
    n < s.nextJob ∧ ∀ job ∈ (s.dispatcher id).submittedJobs, job.id ≠ n
  invoked : ∀ n, history.count (.invoked id n) = (s.dispatcher id).invokedCount n

namespace JobRecord

variable {id : DispatcherId} {history events : List JobEvent} {s s' : System}

/-- Nothing was recorded yet of a dispatcher without jobs. -/
theorem new {d : Dispatcher} (hjobs : d.jobs = #[]) (s : System) :
    JobRecord s.dispatchers.size [] ((addDispatcher d).run s).2 := by
  have hdispatcher := s.dispatcher_addDispatcher d
  have hnone : d.submittedJobs = [] := by
    rw [Dispatcher.submittedJobs, hjobs]
    rfl
  refine ⟨?_, ?_, ?_, ?_, by simp, fun n => ?_⟩
  · change _ < (s.dispatchers.push d).size
    rw [Array.size_push]
    exact Nat.lt_succ_self _
  all_goals rw [hdispatcher]
  · rw [hnone]
    rfl
  · simp [hnone]
  · simp [hnone]
  · simp [Dispatcher.invokedCount, Dispatcher.jobCount, hjobs]

/-- Events that leave the jobs alone extend the history. -/
private theorem extend (h : JobRecord id history s)
    (hmade : s.dispatchers.size ≤ s'.dispatchers.size)
    (hjobs : (s'.dispatcher id).submittedJobs = (s.dispatcher id).submittedJobs)
    (hnextJob : s.nextJob ≤ s'.nextJob)
    (haccepted : events.filterMap (JobEvent.acceptedBy? id) = [])
    (hrejected : ∀ n, .rejected id n ∈ events → s.nextJob = n ∧ n < s'.nextJob)
    (hinvoked : ∀ n, (s'.dispatcher id).invokedCount n =
      (s.dispatcher id).invokedCount n + events.count (.invoked id n)) :
    JobRecord id (history ++ events) s' where
  made := Nat.lt_of_lt_of_le h.made hmade
  accepted := by rw [List.filterMap_append, haccepted, List.append_nil, hjobs, h.accepted]
  fresh job hjob := Nat.lt_of_lt_of_le (h.fresh job (hjobs ▸ hjob)) hnextJob
  distinct := hjobs ▸ h.distinct
  rejected n hn := by
    rw [hjobs]
    rcases List.mem_append.mp hn with hn | hn
    · exact ⟨Nat.lt_of_lt_of_le (h.rejected n hn).1 hnextJob, (h.rejected n hn).2⟩
    · obtain ⟨rfl, hlt⟩ := hrejected n hn
      exact ⟨hlt, fun job hjob => Nat.ne_of_lt (h.fresh job hjob)⟩
  invoked n := by rw [List.count_append, h.invoked, hinvoked]

private theorem accept (h : JobRecord id history s) (work : WorkItem Processor) :
    JobRecord id (history ++ [.accepted id s.nextJob]) (s.accept id work) := by
  have hjobs : ((s.dispatcher id).accept ⟨s.nextJob, work⟩).submittedJobs =
      (s.dispatcher id).submittedJobs ++ [⟨s.nextJob, work⟩] := by
    unfold Dispatcher.submittedJobs Dispatcher.accept
    rw [Array.toList_push, List.map_append]
    rfl
  have hnew : JobEvent.acceptedBy? id (.accepted id s.nextJob) = some s.nextJob := if_pos rfl
  refine ⟨?_, ?_, ?_, ?_, fun n hn => ?_, fun n => ?_⟩
  · exact Nat.lt_of_lt_of_eq h.made (System.dispatchers_size_setDispatcher _ id _).symm
  all_goals rw [System.dispatcher_accept h.made]
  · rw [hjobs, List.filterMap_append, h.accepted, List.filterMap_cons_some hnew, List.map_append]
    rfl
  · intro job hjob
    rw [hjobs] at hjob
    rcases List.mem_append.mp hjob with hjob | hjob
    · exact Nat.lt_succ_of_lt (h.fresh job hjob)
    · obtain rfl := List.mem_singleton.mp hjob
      exact Nat.lt_succ_self _
  · rw [hjobs, List.map_append, List.nodup_append]
    refine ⟨h.distinct, by simp, ?_⟩
    intro a ha b hb
    obtain ⟨job, hjob, rfl⟩ := List.mem_map.mp ha
    obtain rfl := List.mem_singleton.mp hb
    exact Nat.ne_of_lt (h.fresh job hjob)
  · have hold : .rejected id n ∈ history := by simpa using hn
    refine ⟨Nat.lt_succ_of_lt (h.rejected n hold).1, fun job hjob => ?_⟩
    rw [hjobs] at hjob
    rcases List.mem_append.mp hjob with hjob | hjob
    · exact (h.rejected n hold).2 job hjob
    · obtain rfl := List.mem_singleton.mp hjob
      exact Nat.ne_of_gt (h.rejected n hold).1
  · rw [List.count_append, h.invoked]
    refine Eq.trans ?_ (Dispatcher.jobCount_push _ _ fun j => j.job.id == n && j.stage.isInvoked).symm
    simp [Dispatcher.invokedCount, Stage.isInvoked]

/-- Every step extends the record. -/
theorem step (h : JobRecord id history s) {granted asked : Nat} (horder : InOrder s id granted asked [])
    (hstep : JobStep id s events s') : JobRecord id (history ++ events) s' := by
  cases hstep with
  | same hsame hother =>
      have hwork := hsame.work
      have hnone : ∀ e ∈ events, e.acceptedBy? id = none ∧ (∀ n, e ≠ .invoked id n) ∧
          ∀ n, e ≠ .rejected id n := by
        intro e he
        have hne := hother e he
        refine ⟨?_, fun n hn => hne (hn ▸ rfl), fun n hn => hne (hn ▸ rfl)⟩
        cases e with
        | accepted dispatcher job => exact if_neg hne
        | rejected dispatcher job => rfl
        | invoked dispatcher job => rfl
      refine h.extend hsame.size ?_ hsame.nextJob ?_ ?_ fun n => ?_
      · rw [Dispatcher.submittedJobs, hwork.jobs, Dispatcher.submittedJobs]
      · exact List.filterMap_eq_nil_iff.mpr fun e he => (hnone e he).1
      · exact fun n hn => absurd rfl ((hnone _ hn).2.2 n)
      · rw [List.count_eq_zero.mpr fun hn => (hnone _ hn).2.1 n rfl, Dispatcher.invokedCount,
          Dispatcher.invokedCount, Dispatcher.jobCount, Dispatcher.jobCount, hwork.jobs]
        rfl
  | rejected hsame hlt =>
      have hwork := hsame.work
      refine h.extend hsame.size ?_ hsame.nextJob rfl ?_ fun n => ?_
      · rw [Dispatcher.submittedJobs, hwork.jobs, Dispatcher.submittedJobs]
      · intro n hn
        obtain ⟨-, rfl⟩ := JobEvent.rejected.inj (List.mem_singleton.mp hn)
        exact ⟨rfl, hlt⟩
      · rw [Dispatcher.invokedCount, Dispatcher.invokedCount, Dispatcher.jobCount,
          Dispatcher.jobCount, hwork.jobs]
        rfl
  | accepted work _ _ => exact h.accept work
  | @went index rest s' hready hturn =>
      obtain ⟨hjobs, hnextJob, hinvoked⟩ := turn_invoked horder hready hturn
      have hevents : ∀ e ∈ s.invocations, ∃ n, e = .invoked id n := by
        intro e he
        rw [invocations_of_ready hready] at he
        obtain ⟨job, -, rfl⟩ := Option.map_eq_some_iff.mp (Option.mem_toList.mp he)
        exact ⟨job.id, rfl⟩
      refine h.extend (Nat.le_of_eq hturn.office.1.symm) hjobs (Nat.le_of_eq hnextJob.symm) ?_ ?_ hinvoked
      · refine List.filterMap_eq_nil_iff.mpr fun e he => ?_
        obtain ⟨n, rfl⟩ := hevents e he
        rfl
      · intro n hn
        obtain ⟨_, heq⟩ := hevents _ hn
        cases heq
  | made hnew hid => exact absurd h.made (hid ▸ Nat.lt_irrefl _)

/-- A processor was invoked at most once. -/
theorem invoked_le (h : JobRecord id history s) (n : JobId) :
    history.count (.invoked id n) ≤ 1 := by
  rw [h.invoked]
  refine Nat.le_trans ?_ (List.nodup_iff_count.mp h.distinct n)
  rw [List.count_eq_countP, List.countP_map, Dispatcher.submittedJobs, List.countP_map]
  exact List.countP_mono_left fun j _ hj => ((Bool.and_eq_true _ _).mp hj).1

/-- The processor of a job was invoked if the job runs or has ended, and else it was not. -/
theorem invoked_eq (h : JobRecord id history s) {i : JobIndex} {j : DispatchedJob}
    (hj : (s.dispatcher id).jobs[i]? = some j) :
    history.count (.invoked id j.job.id) = j.stage.isInvoked.toNat := by
  have hmem : j ∈ (s.dispatcher id).jobs.toList := by
    rw [← Array.getElem?_toList] at hj
    exact List.mem_of_getElem? hj
  -- it is the only job with its identifier
  have hone : (s.dispatcher id).jobs.toList.filter (·.job.id == j.job.id) = [j] := by
    have hid : j.job.id ∈ (s.dispatcher id).submittedJobs.map Job.id :=
      List.mem_map_of_mem (List.mem_map_of_mem hmem)
    have hcount := h.distinct.count (a := j.job.id)
    rw [if_pos hid, List.count_eq_countP, List.countP_map, Dispatcher.submittedJobs,
      List.countP_map, List.countP_eq_length_filter] at hcount
    obtain ⟨a, ha⟩ := List.length_eq_one_iff.mp hcount
    have hfilter : j ∈ (s.dispatcher id).jobs.toList.filter (·.job.id == j.job.id) :=
      List.mem_filter.mpr ⟨hmem, beq_self_eq_true _⟩
    have hlist : (s.dispatcher id).jobs.toList.filter (·.job.id == j.job.id) = [a] := ha
    rw [hlist] at hfilter ⊢
    rw [List.mem_singleton.mp hfilter]
  have hswap : (fun x : DispatchedJob => x.job.id == j.job.id && x.stage.isInvoked) =
      fun x => x.stage.isInvoked && x.job.id == j.job.id := funext fun _ => Bool.and_comm _ _
  rw [h.invoked, Dispatcher.invokedCount, Dispatcher.jobCount, hswap, ← List.countP_filter, hone,
    List.countP_singleton]
  cases j.stage.isInvoked <;> rfl

/-- Only processors of jobs of the dispatcher were invoked. -/
private theorem exists_of_invoked (h : JobRecord id history s) {n : JobId}
    (hn : .invoked id n ∈ history) : ∃ job ∈ (s.dispatcher id).submittedJobs, job.id = n := by
  have hpos := List.count_pos_iff.mpr hn
  rw [h.invoked] at hpos
  obtain ⟨j, hj, hand⟩ := List.countP_pos_iff.mp hpos
  exact ⟨j.job, List.mem_map_of_mem hj, beq_iff_eq.mp ((Bool.and_eq_true _ _).mp hand).1⟩

theorem accepted_of_invoked (h : JobRecord id history s) (n : JobId)
    (hn : .invoked id n ∈ history) : .accepted id n ∈ history := by
  obtain ⟨job, hjob, rfl⟩ := h.exists_of_invoked hn
  have hmem := List.mem_map_of_mem (f := Job.id) hjob
  rw [← h.accepted] at hmem
  obtain ⟨e, he, hid⟩ := List.mem_filterMap.mp hmem
  cases e with
  | accepted dispatcher n =>
      change (if dispatcher = id then some n else none) = _ at hid
      split at hid
      · rename_i hdispatcher
        rw [← hdispatcher, ← Option.some.inj hid]
        exact he
      · cases hid
  | rejected dispatcher n => cases hid
  | invoked dispatcher n => cases hid

theorem not_invoked_of_rejected (h : JobRecord id history s) (n : JobId)
    (hn : .rejected id n ∈ history) : .invoked id n ∉ history := by
  intro hinvoked
  obtain ⟨job, hjob, heq⟩ := h.exists_of_invoked hinvoked
  exact (h.rejected n hn).2 job hjob heq

end JobRecord

/-! ## Conservation -/

/-- The actions of a processor's script go on from the first one until they end or one has to wait, and
the job ends or waits then. -/
def Job.CarriedOut (id : DispatcherId) (index : JobIndex) (job : Job Processor) (s s' : System) : Prop :=
  let script := job.work.processor job.assignment
  let carried := (runActions (s.dispatcher id).federation script.ending script.actions none).run s
  s' = ((settleJob id index job script.ending carried.1).run carried.2).2

/-- The jobs of a dispatcher are conserved: its counts, what happened to its jobs and how they stand
agree, and not more processors run than it has permits. -/
structure JobsConserved (permits : Nat) (id : DispatcherId) (history : List JobEvent) (s : System) :
    Prop where
  counts : (s.dispatcher id).submitted =
    (s.dispatcher id).completed + (s.dispatcher id).failed + (s.dispatcher id).inFlight
  /-- The jobs are those that were accepted, in the order in which they were submitted. -/
  jobs : history.filterMap (JobEvent.acceptedBy? id) = (s.dispatcher id).submittedJobs.map Job.id
  invoked_at_most_once : ∀ n, history.count (.invoked id n) ≤ 1
  /-- As many jobs have ended as count as completed or failed, ... -/
  ended : (s.dispatcher id).completed + (s.dispatcher id).failed =
    (s.dispatcher id).stageCount Stage.isFinished
  /-- ... and the processor of each of these was invoked, as were those that run, and no others. -/
  invoked_eq : ∀ (i : JobIndex) job, (s.dispatcher id).jobs[i]? = some job →
    history.count (.invoked id job.job.id) = job.stage.isInvoked.toNat
  accepted_of_invoked : ∀ n, .invoked id n ∈ history → .accepted id n ∈ history
  not_invoked_of_rejected : ∀ n, .rejected id n ∈ history → .invoked id n ∉ history
  /-- The processors that run, and those about to, are as many as there are permits at most. -/
  bounded : (s.dispatcher id).stageCount Stage.holdsPermit ≤ permits
  running_le : (s.dispatcher id).runningCount ≤ permits
  /-- The turn that invokes the processor of a job carries its script out, ... -/
  carried_out : ∀ deadline (index : JobIndex) rest job, s.ready = .job id index :: rest →
    (s.dispatcher id).invokes? index = some job → s.invocations = [.invoked id job.id] ∧
      ∃ s₁, Begins id index job { s with ready := rest } s₁ ∧
        job.CarriedOut id index s₁ ((turn deadline).run s).2
  /-- ... and in every other turn of a job it goes on as it ran, or joins the line, or stays as it was. -/
  continued : ∀ deadline (index : JobIndex) rest, s.ready = .job id index :: rest →
    (s.dispatcher id).invokes? index = none → s.invocations = [] ∧
      Continues id index { s with ready := rest } ((turn deadline).run s).2
  /-- A job is given its permit only after the jobs that were submitted before it. -/
  ordered : ∀ (i j : JobIndex) first second, i < j → (s.dispatcher id).jobs[i]? = some first →
    (s.dispatcher id).jobs[j]? = some second → second.stage.isGranted = true →
    first.stage.isGranted = true
  /-- When nothing can go on without time passing, as many processors run as can. -/
  running_eq : s.ready = [] →
    (s.dispatcher id).runningCount = min permits (s.dispatcher id).inFlight
  /-- A job whose processor was not invoked before that of a later one has a permit, and is about to go
  on. -/
  overtaken : ∀ (i j : JobIndex) first second, i < j → (s.dispatcher id).jobs[i]? = some first →
    (s.dispatcher id).jobs[j]? = some second → second.stage.isInvoked = true →
    first.stage.isInvoked = true ∨ first.stage = .permitted
  /-- When nothing can go on without time passing, no processor was passed over. -/
  invoked_in_order : s.ready = [] → ∀ (i j : JobIndex) first second, i < j →
    (s.dispatcher id).jobs[i]? = some first → (s.dispatcher id).jobs[j]? = some second →
    second.stage.isInvoked = true → first.stage.isInvoked = true

section conservation

variable {direct : FederationId → Prop} {s₀ s s' : System} {history : List JobEvent}
  {engine : String} {federation : FederationId} {poolSize capacity : Nat} {d : Dispatcher}

/-- The turn that is told of as an invocation carries the script of the processor out. -/
private theorem turn_carried_out {id : DispatcherId} {index : JobIndex} {job : Job Processor}
    {rest : List Errand} (deadline : Nat) (hready : s.ready = .job id index :: rest)
    (hinvokes : (s.dispatcher id).invokes? index = some job) :
    s.invocations = [.invoked id job.id] ∧
      ∃ s₁, Begins id index job { s with ready := rest } s₁ ∧
        job.CarriedOut id index s₁ ((turn deadline).run s).2 := by
  obtain ⟨s₁, hbegins, hrun⟩ := @runJob_invokes id index job { s with ready := rest } hinvokes
  refine ⟨?_, s₁, hbegins, ?_⟩
  · rw [invocations_of_ready hready, hinvokes]
    rfl
  · rw [turn_ready deadline hready]
    exact congrArg Prod.snd hrun

/-- A turn of a job that is told of as none begins with no script. -/
private theorem turn_continues {id : DispatcherId} {index : JobIndex} {rest : List Errand}
    (deadline : Nat) (hready : s.ready = .job id index :: rest)
    (hinvokes : (s.dispatcher id).invokes? index = none) :
    s.invocations = [] ∧ Continues id index { s with ready := rest } ((turn deadline).run s).2 := by
  constructor
  · rw [invocations_of_ready hready, hinvokes]
    rfl
  · rw [turn_ready deadline hready]
    exact @runJob_invokes_none id index { s with ready := rest } hinvokes

/-- Along every run that starts when a dispatcher was made, its jobs are in order and recorded. -/
theorem conserved_invariant (hreach : Reachable direct s₀)
    (hnew : Dispatcher.new? engine federation poolSize capacity = some d)
    (hrun : Run direct ((addDispatcher d).run s₀).2 history s) :
    (∃ granted asked, InOrder s s₀.dispatchers.size granted asked []) ∧
      JobRecord s₀.dispatchers.size history s ∧
      (s.dispatcher s₀.dispatchers.size).poolSize = max poolSize 1 := by
  have hmade : Reachable direct ((addDispatcher d).run s₀).2 := by
    obtain ⟨_, hbefore⟩ := hreach
    exact ⟨_, hbefore.step (.addDispatcher s₀ hnew)⟩
  refine ⟨inOrder_of_reachable (hmade.run hrun) _, ?_⟩
  induction hrun with
  | start =>
      refine ⟨.new (Dispatcher.asMade hnew).jobs s₀, ?_⟩
      rw [s₀.dispatcher_addDispatcher, (Dispatcher.asMade hnew).poolSize]
  | step hrun hstep ih =>
      obtain ⟨hrecord, hpool⟩ := ih
      have hjobStep := jobStep_of_step s₀.dispatchers.size hstep
      obtain ⟨_, _, horder⟩ := inOrder_of_reachable (hmade.run hrun) s₀.dispatchers.size
      exact ⟨hrecord.step horder hjobStep, (hjobStep.parts hrecord.made).1.trans hpool⟩

/-- Along every run that starts when a dispatcher was made, its jobs are conserved. -/
theorem jobs_conserved (hreach : Reachable direct s₀)
    (hnew : Dispatcher.new? engine federation poolSize capacity = some d)
    (hrun : Run direct ((addDispatcher d).run s₀).2 history s) :
    JobsConserved (max poolSize 1) s₀.dispatchers.size history s := by
  obtain ⟨⟨granted, asked, horder⟩, hrecord, hpool⟩ := conserved_invariant hreach hnew hrun
  have hstanding := horder.standing
  have hholders : (s.dispatcher s₀.dispatchers.size).stageCount Stage.holdsPermit ≤ max poolSize 1 := by
    rw [← hpool, ← hstanding.permits]
    exact Nat.le_add_left _ _
  have hordered : ∀ (i j : JobIndex) first second, i < j →
      (s.dispatcher s₀.dispatchers.size).jobs[i]? = some first →
      (s.dispatcher s₀.dispatchers.size).jobs[j]? = some second →
      second.stage.isGranted = true → first.stage.isGranted = true :=
    fun i j first second hlt hfirst hsecond hgranted =>
      hstanding.given i (Nat.lt_trans hlt (hstanding.lt_granted hsecond hgranted)) first hfirst
  have hovertaken : ∀ (i j : JobIndex) first second, i < j →
      (s.dispatcher s₀.dispatchers.size).jobs[i]? = some first →
      (s.dispatcher s₀.dispatchers.size).jobs[j]? = some second →
      second.stage.isInvoked = true → first.stage.isInvoked = true ∨ first.stage = .permitted := by
    intro i j first second hlt hfirst hsecond hinvoked
    have hgranted := hordered i j first second hlt hfirst hsecond (Stage.isGranted_of_isInvoked hinvoked)
    revert hgranted
    cases first.stage <;> simp [Stage.isGranted, Stage.isInvoked]
  exact {
    counts := hstanding.submitted_eq
    jobs := hrecord.accepted
    invoked_at_most_once := hrecord.invoked_le
    ended := hstanding.outcomes
    invoked_eq := fun i job hjob => hrecord.invoked_eq hjob
    accepted_of_invoked := hrecord.accepted_of_invoked
    not_invoked_of_rejected := hrecord.not_invoked_of_rejected
    bounded := hholders
    running_le := hpool ▸ hstanding.running_le
    ordered := hordered
    running_eq := fun hready => hpool ▸ hstanding.running_eq (horder.none_waiting hready)
    carried_out := fun deadline index rest job hready hinvokes =>
      turn_carried_out deadline hready hinvokes
    continued := fun deadline index rest hready hinvokes => turn_continues deadline hready hinvokes
    overtaken := hovertaken
    invoked_in_order := fun hready i j first second hlt hfirst hsecond hinvoked =>
      (hovertaken i j first second hlt hfirst hsecond hinvoked).resolve_right
        (horder.none_waiting hready i first hfirst).2 }

/-- A work item whose processor waits for a moment. -/
def WorkItem.nap : WorkItem Processor :=
  ⟨⟨⟨"inbox", .root⟩, ⟨"outbox", .root⟩, ⟨"nap", none, [], none, "nap", [], []⟩, 0⟩,
    fun _ => ⟨[.sleep 1], .reported []⟩⟩

/-- A dispatcher with one permit whose first job waits for a moment. -/
def System.napping : System :=
  ((turn 0).run ((submitWork 0 .nap).run ((startDispatcher 0).run ((addDispatcher
    ((Dispatcher.new? "engine" 0 0 1).getD default)).run .empty).2).2).2).2

theorem jobs_conserved_napping :
    JobsConserved (max 0 1) 0 [.accepted 0 0, .invoked 0 0] System.napping :=
  jobs_conserved (show Reachable (fun _ => True) .empty from ⟨[], .start⟩)
    (show Dispatcher.new? "engine" 0 0 1 = some ((Dispatcher.new? "engine" 0 0 1).getD default)
      from rfl)
    (((Run.start.step (.startDispatcher 0 _)).step (.submit 0 .nap _)).step (.turn 0 _))

/-- The processors of the jobs of a dispatcher were invoked in the order in which the jobs were accepted. -/
def StartedInOrder (id : DispatcherId) (history : List JobEvent) : Prop :=
  (history.filterMap (JobEvent.invokedBy? id)).Sublist (history.filterMap (JobEvent.acceptedBy? id))

/-- A dispatcher with two permits before anything was submitted. -/
def System.staffed : System :=
  ((addDispatcher ((Dispatcher.new? "engine" 0 2 1).getD default)).run .empty).2

/-- Two jobs wait for the same moment, and a third one waits in line. -/
def System.crowded : System :=
  let submitted := ((submitWork 0 .nap).run ((submitWork 0 .nap).run ((submitWork 0 .nap).run
    ((startDispatcher 0).run .staffed).2).2).2).2
  ((turn 0).run ((turn 0).run ((turn 0).run submitted).2).2).2

/-- At that moment a fourth job is submitted, and all of them go on. -/
def System.outpaced : System :=
  let submitted := ((submitWork 0 .nap).run ((turn 2).run .crowded).2).2
  ((turn 0).run ((turn 0).run ((turn 0).run ((turn 0).run submitted).2).2).2).2

private theorem crowded_run : Run (fun _ => True) .staffed
    [.accepted 0 0, .accepted 0 1, .accepted 0 2, .invoked 0 0, .invoked 0 1] .crowded :=
  ((((((Run.start.step (.startDispatcher 0 _)).step (.submit 0 .nap _)).step (.submit 0 .nap _)).step
    (.submit 0 .nap _)).step (.turn 0 _)).step (.turn 0 _)).step (.turn 0 _)

/-- Both permits come back before the third job, which is handed the first one, has gone on, so the fourth
finds the second one free and begins before the third. -/
theorem jobs_overtaken :
    ∃ d history, Dispatcher.new? "engine" 0 2 1 = some d ∧
      Run (fun _ => True) ((addDispatcher d).run .empty).2 history .outpaced ∧
      ¬StartedInOrder 0 history :=
  ⟨_, [.accepted 0 0, .accepted 0 1, .accepted 0 2, .invoked 0 0, .invoked 0 1, .accepted 0 3,
      .invoked 0 3, .invoked 0 2],
    rfl, (((((crowded_run.step (.turn 2 _)).step (.submit 0 .nap _)).step (.turn 0 _)).step
      (.turn 0 _)).step (.turn 0 _)).step (.turn 0 _), by unfold StartedInOrder; decide⟩

end conservation

end ContentEngine
