import ContentEngine.Proofs.Bus.Acts
import ContentEngine.Proofs.Run.JobRecord

/-!
# The problems of jobs

A dispatcher keeps what the jobs that ended left behind: the problems that their processors reported,
or the one problem that they failed.  A problem that names no resource is made to name the job and its
rule.  One that does keeps the resource that its processor gave it, and does not tell which job it
comes from.

`Dispatcher.Records` says which jobs a dispatcher has on record and what for.  Only the end of a job
extends the record; the line below the job that ends moves up in the same turn, and `Standing` tells
that whoever gets the permit has not ended.  `job_problems_traced` is what this comes to along a run.
-/

namespace ContentEngine

/-! ## What a job leaves behind -/

/-- A job that ended, and how. -/
structure EndedJob where
  index : JobIndex
  job : Job Processor
  ending : Ending

namespace EndedJob

/-- What there is to say about the job: the problems that its processor reported, or that it failed. -/
def findings (e : EndedJob) : Problems :=
  match e.ending with
  | .reported problems => problems
  | .failed failure => [Dispatcher.failureProblem e.job failure.text]
  | .panicked payload => [Dispatcher.failureProblem e.job ("panicked: " ++ payload.message)]

/-- What is put on record about the job. -/
def problems (e : EndedJob) : Problems :=
  e.findings.map (Dispatcher.tagged e.job)

/-- A problem on record names the job and its rule, unless the processor reported just this problem
with a resource. -/
theorem resource_of_mem {e : EndedJob} {p : Problem} (h : p ∈ e.problems) :
    p.resource = some e.job.resource ∨
      ∃ reported, e.ending = .reported reported ∧ p ∈ reported ∧ p.resource.isSome = true := by
  obtain ⟨q, hq, rfl⟩ := List.mem_map.mp h
  cases hresource : q.resource with
  | none =>
      left
      simp only [Dispatcher.tagged, hresource, Option.getD_none]
  | some resource =>
      right
      have hsame : Dispatcher.tagged e.job q = q := by
        simp only [Dispatcher.tagged, hresource, Option.getD_some]
        rw [← hresource]
      rw [hsame]
      unfold findings at hq
      split at hq
      · rename_i reported hending
        exact ⟨reported, hending, hq, by rw [hresource]; rfl⟩
      -- the problem of a job that failed names no resource
      · obtain rfl := List.mem_singleton.mp hq
        cases hresource
      · obtain rfl := List.mem_singleton.mp hq
        cases hresource

end EndedJob

namespace Dispatcher

variable {d d' : Dispatcher} {room : Nat} {ended : List EndedJob} {i : JobIndex}

theorem record_problems (d : Dispatcher) (e : EndedJob) :
    (d.record e.job e.ending).1.problems =
      Problems.pushAllBounded d.problems e.problems d.problemCapacity := by
  obtain ⟨index, job, ending⟩ := e
  cases ending with
  | reported problems =>
      unfold record judge
      dsimp only
      split <;> rfl
  | failed failure => rfl
  | panicked payload => rfl

/-- A dispatcher that was just made has no problems. -/
theorem problems_of_new? {engine : String} {federation : FederationId} {poolSize capacity : Nat}
    (h : new? engine federation poolSize capacity = some d) :
    d.problems = [] ∧ d.problemCapacity = max capacity 1 := by
  unfold new? at h
  split at h
  · cases h
  · obtain rfl := Option.some.inj h
    exact ⟨rfl, rfl⟩

/-! ## The record of a dispatcher -/

/-- The jobs of a dispatcher that ended, in the order in which they did, and what they left behind, as
far as there is room for it. -/
structure Records (d : Dispatcher) (room : Nat) (ended : List EndedJob) : Prop where
  finished : ∀ e ∈ ended, d.jobs[e.index]? = some ⟨e.job, .finished⟩
  listed : ∀ (i : JobIndex) job, d.jobs[i]? = some ⟨job, .finished⟩ → ∃ e ∈ ended, e.index = i
  once : (ended.map EndedJob.index).Nodup
  endings : ∀ e ∈ ended, e.job.ending.MayBecome e.ending
  /-- Whatever a job did so far, it is going to end as its processor says. -/
  planned : ∀ (i : JobIndex) j, d.jobs[i]? = some j → j.ending = j.job.ending
  capacity : d.problemCapacity = room
  problems : d.problems = Problems.pushAllBounded [] (ended.flatMap EndedJob.problems) room

namespace Records

theorem of_empty (hjobs : d.jobs = #[]) (hproblems : d.problems = []) :
    d.Records d.problemCapacity [] where
  finished e he := absurd he List.not_mem_nil
  listed i job hjob := by simp [hjobs] at hjob
  once := List.nodup_nil
  endings e he := absurd he List.not_mem_nil
  planned i j hj := by simp [hjobs] at hj
  capacity := rfl
  problems := hproblems

theorem congr (h : d.Records room ended) (hjobs : d'.jobs = d.jobs) (hproblems : d'.problems = d.problems)
    (hcapacity : d'.problemCapacity = d.problemCapacity) : d'.Records room ended where
  finished e he := by rw [hjobs]; exact h.finished e he
  listed i job hjob := h.listed i job (hjobs ▸ hjob)
  once := h.once
  endings := h.endings
  planned i j hj := h.planned i j (hjobs ▸ hj)
  capacity := hcapacity.trans h.capacity
  problems := hproblems.trans h.problems

theorem accept (h : d.Records room ended) (job : Job Processor) : (d.accept job).Records room ended := by
  have hjobs : ∀ k : JobIndex, (d.accept job).jobs[k]? =
      if k = d.jobs.size then some ⟨job, .accepted⟩ else d.jobs[k]? := fun k => Array.getElem?_push
  refine ⟨fun e he => ?_, fun k other hk => ?_, h.once, h.endings, fun k j hk => ?_, h.capacity,
    h.problems⟩
  · have hfinished := h.finished e he
    have hlt := (Array.getElem?_eq_some_iff.mp hfinished).1
    rw [hjobs, if_neg (Nat.ne_of_lt hlt)]
    exact hfinished
  · rw [hjobs] at hk
    split at hk
    · cases hk
    · exact h.listed k other hk
  · rw [hjobs] at hk
    split at hk
    · obtain rfl := Option.some.inj hk
      rfl
    · exact h.planned k j hk

section job

variable {j : DispatchedJob} (h : d.Records room ended) (hjob : d.jobs[i]? = some j)
  (hopen : j.stage.isFinished = false)
include h hjob hopen

/-- A job that has not ended is not on record. -/
private theorem ne_index {e : EndedJob} (he : e ∈ ended) : i ≠ e.index := by
  rintro rfl
  obtain rfl := Option.some.inj (hjob.symm.trans (h.finished e he))
  cases hopen

/-- A job may go on, but is going to end in the same way. -/
theorem setStage (stage : Stage) (hstage : stage.isFinished = false)
    (hending : DispatchedJob.ending ⟨j.job, stage⟩ = j.ending) :
    (d.setStage i stage).Records room ended := by
  refine ⟨fun e he => ?_, fun k other hk => ?_, h.once, h.endings, fun k other hk => ?_, h.capacity,
    h.problems⟩
  · rw [jobs_setStage_of_ne _ (h.ne_index hjob hopen he)]
    exact h.finished e he
  · rcases Nat.decEq i k with hne | rfl
    · rw [jobs_setStage_of_ne _ hne] at hk
      exact h.listed k other hk
    · obtain rfl := (DispatchedJob.mk.inj (Option.some.inj ((jobs_setStage_self hjob stage).symm.trans hk))).2
      cases hstage
  · rcases Nat.decEq i k with hne | rfl
    · rw [jobs_setStage_of_ne _ hne] at hk
      exact h.planned k other hk
    · obtain rfl := Option.some.inj ((jobs_setStage_self hjob stage).symm.trans hk)
      exact hending.trans (h.planned i j hjob)

/-- A job that ends is put on record. -/
theorem finish {ending : Ending} (hending : j.ending.MayBecome ending) :
    ((d.record j.job ending).1.setStage i .finished).Records room (ended ++ [⟨i, j.job, ending⟩]) := by
  have hself : ((d.record j.job ending).1.setStage i .finished).jobs[i]? = some ⟨j.job, .finished⟩ :=
    jobs_setStage_self (d := (d.record j.job ending).1) hjob .finished
  have hother : ∀ {k}, i ≠ k → ((d.record j.job ending).1.setStage i .finished).jobs[k]? = d.jobs[k]? :=
    fun hk => jobs_setStage_of_ne (d.record j.job ending).1 hk .finished
  refine ⟨fun e he => ?_, fun k other hk => ?_, ?_, fun e he => ?_, fun k other hk => ?_, h.capacity, ?_⟩
  · rcases List.mem_append.mp he with he | he
    · rw [hother (h.ne_index hjob hopen he)]
      exact h.finished e he
    · obtain rfl := List.mem_singleton.mp he
      exact hself
  · rcases Nat.decEq i k with hne | rfl
    · rw [hother hne] at hk
      obtain ⟨e, he, heq⟩ := h.listed k other hk
      exact ⟨e, List.mem_append_left _ he, heq⟩
    · exact ⟨_, List.mem_append_right _ (List.mem_singleton_self _), rfl⟩
  · rw [List.map_append, List.nodup_append]
    refine ⟨h.once, List.nodup_singleton _, fun a ha b hb => ?_⟩
    obtain ⟨e, he, rfl⟩ := List.mem_map.mp ha
    obtain rfl := List.mem_singleton.mp hb
    exact (h.ne_index hjob hopen he).symm
  · rcases List.mem_append.mp he with he | he
    · exact h.endings e he
    · obtain rfl := List.mem_singleton.mp he
      rw [← h.planned i j hjob]
      exact hending
  · rcases Nat.decEq i k with hne | rfl
    · exact h.planned k other (hother hne ▸ hk)
    · obtain rfl := Option.some.inj (hself.symm.trans hk)
      rfl
  · change (d.record j.job ending).1.problems = _
    rw [d.record_problems ⟨i, j.job, ending⟩, h.problems, h.capacity, List.flatMap_append,
      Problems.pushAllBounded_append, List.flatMap_singleton]

end job

theorem requestPermit (h : d.Records room ended) {job : Job Processor}
    (hjob : d.jobs[i]? = some ⟨job, .accepted⟩) : (d.requestPermit i).Records room ended := by
  unfold Dispatcher.requestPermit
  split
  · exact (h.setStage hjob rfl .queued rfl rfl).congr rfl rfl rfl
  · exact (h.setStage hjob rfl .permitted rfl rfl).congr rfl rfl rfl

/-- The permit goes to a job that stands in line, if one does. -/
theorem returnPermit (h : d.Records room ended)
    (hline : ∀ next rest, d.line = next :: rest → ∃ job, d.jobs[next]? = some ⟨job, .queued⟩) :
    d.returnPermit.2.Records room ended := by
  cases hfront : d.line with
  | nil =>
      rw [returnPermit_nil hfront]
      exact h.congr rfl rfl rfl
  | cons next rest =>
      rw [returnPermit_cons hfront]
      obtain ⟨job, hjob⟩ := hline next rest hfront
      exact (h.setStage hjob rfl .permitted rfl rfl).congr rfl rfl rfl

end Records

end Dispatcher

/-! ## What a turn puts on record -/

section turns

variable {s s' : System} {id : DispatcherId} {index : JobIndex} {room : Nat} {ended : List EndedJob}

/-- A job that has a permit goes on or ends. -/
private theorem records_leaves {granted asked : Nat} {job : Job Processor} {stage : Stage}
    (h : (s.dispatcher id).Records room ended) (hstanding : Standing (s.dispatcher id) granted asked)
    (hjob : (s.dispatcher id).jobs[index]? = some ⟨job, stage⟩) (hholds : stage.holdsPermit = true)
    (hleaves : Leaves id index job s s') : ∃ more, (s'.dispatcher id).Records room (ended ++ more) := by
  have hopen := Stage.not_isFinished_of_holdsPermit hholds
  rcases hleaves.dispatcher (s.dispatcher_lt_of_job hjob) with ⟨ending, hending, heq⟩ | ⟨a, ha, heq⟩
  · rw [heq]
    refine ⟨_, (h.finish hjob hopen (hending _ hjob)).returnPermit fun next rest hline => ?_⟩
    obtain ⟨rfl, -, -, other, hnext⟩ := hstanding.front hline
    refine ⟨other, ?_⟩
    -- the job in front stands in line, so it is not the one that ended
    have hne : index ≠ next := by
      rintro rfl
      obtain ⟨-, rfl⟩ := DispatchedJob.mk.inj (Option.some.inj (hjob.symm.trans hnext))
      cases hholds
    exact (Dispatcher.jobs_setStage_of_ne ((s.dispatcher id).record job ending).1 hne _).trans hnext
  · refine ⟨[], ?_⟩
    rw [heq, List.append_nil]
    exact h.setStage hjob hopen (.running a) rfl (ha _ hjob)

/-- A turn of a job ends that job or puts nothing on record. -/
private theorem records_turn {granted asked : Nat} {rest : List Errand}
    (h : (s.dispatcher id).Records room ended) (horder : InOrder s id granted asked [])
    (hready : s.ready = .job id index :: rest)
    (hturn : JobTurn id index { s with ready := rest } s') :
    ∃ more, (s'.dispatcher id).Records room (ended ++ more) := by
  have hnone : ∀ {d : Dispatcher}, d.Records room ended → ∃ more, d.Records room (ended ++ more) :=
    fun hd => ⟨[], (List.append_nil ended).symm ▸ hd⟩
  have hasked : ∀ {job}, (s.dispatcher id).jobs[index]? = some ⟨job, .accepted⟩ →
      (System.dispatcher (System.setDispatcher { s with ready := rest } id
        ((s.dispatcher id).requestPermit index)) id).Records room ended := by
    intro job hjob
    have hself := System.dispatcher_setDispatcher_self { s with ready := rest }
      (s.dispatcher_lt_of_job hjob) ((s.dispatcher id).requestPermit index)
    exact hself.symm ▸ h.requestPermit hjob
  cases hturn with
  | idle _ => exact hnone h
  | queue hjob hfree => exact hnone (hasked hjob)
  | @goOn job s₁ s₂ s' hbegins hquiet hleaves =>
      obtain ⟨granted', asked', horder', stage, hjob, hholds⟩ := horder.begins hready hbegins
      have hbefore : (s₁.dispatcher id).Records room ended := by
        cases hbegins with
        | running _ => exact h
        | permitted _ => exact h
        | granted haccepted _ => exact hasked haccepted
      have hsame : s₂.dispatcher id = s₁.dispatcher id := by
        rw [System.dispatcher, hquiet.dispatchers, System.dispatcher]
      rw [← hsame] at hbefore hjob
      exact records_leaves hbefore (hsame ▸ horder'.standing) hjob hholds hleaves

end turns

/-! ## Along a run -/

section runs

variable {direct : FederationId → Prop} {s₀ s s' : System} {history events : List JobEvent}
  {engine : String} {federation : FederationId} {poolSize capacity : Nat} {d : Dispatcher}
  {id : DispatcherId} {room : Nat} {ended : List EndedJob}

/-- No step takes anything off the record of a dispatcher. -/
private theorem records_step {granted asked : Nat} (h : (s.dispatcher id).Records room ended)
    (hid : id < s.dispatchers.size) (horder : InOrder s id granted asked [])
    (hstep : JobStep id s events s') : ∃ more, (s'.dispatcher id).Records room (ended ++ more) := by
  have hsame : SameWork (s.dispatcher id) (s'.dispatcher id) →
      ∃ more, (s'.dispatcher id).Records room (ended ++ more) := fun hwork =>
    ⟨[], (List.append_nil ended).symm ▸ h.congr hwork.jobs hwork.problems hwork.problemCapacity⟩
  cases hstep with
  | same hjobs _ => exact hsame hjobs.work
  | rejected hjobs _ => exact hsame hjobs.work
  | accepted work _ _ =>
      refine ⟨[], ?_⟩
      rw [System.dispatcher_accept hid, List.append_nil]
      exact h.accept _
  | went hready hturn => exact records_turn h horder hready hturn
  | made _ hmade => exact absurd hid (hmade ▸ Nat.lt_irrefl _)

/-- Along every run that starts when a dispatcher was made, the jobs that ended are on record. -/
private theorem records_of_run (hreach : Reachable direct s₀)
    (hnew : Dispatcher.new? engine federation poolSize capacity = some d)
    (hrun : Run direct ((addDispatcher d).run s₀).2 history s) :
    ∃ ended, (s.dispatcher s₀.dispatchers.size).Records (max capacity 1) ended := by
  have hmade : Reachable direct ((addDispatcher d).run s₀).2 := by
    obtain ⟨_, hbefore⟩ := hreach
    exact ⟨_, hbefore.step (.addDispatcher s₀ hnew)⟩
  induction hrun with
  | start =>
      obtain ⟨hproblems, hcapacity⟩ := Dispatcher.problems_of_new? hnew
      rw [s₀.dispatcher_addDispatcher, ← hcapacity]
      exact ⟨[], .of_empty (Dispatcher.asMade hnew).jobs hproblems⟩
  | step hrun hstep ih =>
      obtain ⟨ended, hrecords⟩ := ih
      obtain ⟨_, _, horder⟩ := inOrder_of_reachable (hmade.run hrun) s₀.dispatchers.size
      have hid := (conserved_invariant hreach hnew hrun).2.1.made
      obtain ⟨more, hmore⟩ := records_step hrecords hid horder (jobStep_of_step _ hstep)
      exact ⟨_, hmore⟩

/-- The problems of a dispatcher come from its jobs: they are the newest of what the jobs that ended
left behind, and name the jobs that they come from, unless processors have them name something else. -/
structure ProblemsTraced (room : Nat) (id : DispatcherId) (history : List JobEvent) (s : System)
    (ended : List EndedJob) : Prop where
  /-- The jobs that have ended were accepted, and their processors invoked; each is counted once. -/
  accepted : ∀ e ∈ ended, .accepted id e.job.id ∈ history ∧ .invoked id e.job.id ∈ history
  finished : ∀ (i : JobIndex) job, (s.dispatcher id).jobs[i]? = some ⟨job, .finished⟩ ↔
    ∃ e ∈ ended, e.index = i ∧ e.job = job
  once : (ended.map EndedJob.index).Nodup
  /-- A job ends as its processor says, or with the failure of one of its actions. -/
  endings : ∀ e ∈ ended, e.job.ending.MayBecome e.ending
  /-- The newest problems of all jobs are kept, in the order in which the jobs ended. -/
  kept : (s.dispatcher id).problems = (ended.flatMap EndedJob.problems).drop
    ((ended.flatMap EndedJob.problems).length - room)
  /-- Each names its job and the job's rule, unless the processor reported it with a resource. -/
  named : ∀ p ∈ (s.dispatcher id).problems, ∃ e ∈ ended, p ∈ e.problems ∧
    (p.resource = some e.job.resource ∨
      ∃ reported, e.job.ending = .reported reported ∧ p ∈ reported ∧ p.resource.isSome = true)

/-- Along every run that starts when a dispatcher was made, its problems come from its jobs. -/
theorem job_problems_traced (hreach : Reachable direct s₀)
    (hnew : Dispatcher.new? engine federation poolSize capacity = some d)
    (hrun : Run direct ((addDispatcher d).run s₀).2 history s) :
    ∃ ended, ProblemsTraced (max capacity 1) s₀.dispatchers.size history s ended := by
  obtain ⟨ended, hrecords⟩ := records_of_run hreach hnew hrun
  obtain ⟨-, hrecord, -⟩ := conserved_invariant hreach hnew hrun
  have hkept : (s.dispatcher s₀.dispatchers.size).problems =
      (ended.flatMap EndedJob.problems).drop
        ((ended.flatMap EndedJob.problems).length - max capacity 1) := by
    have := Problems.pushAllBounded_eq [] (ended.flatMap EndedJob.problems) (Nat.zero_le (max capacity 1))
    rw [List.nil_append] at this
    exact hrecords.problems.trans this
  refine ⟨ended, ?_, fun i job => ⟨fun hjob => ?_, ?_⟩, hrecords.once, hrecords.endings, hkept, ?_⟩
  · intro e he
    have hinvoked : .invoked s₀.dispatchers.size e.job.id ∈ history := by
      have hone := hrecord.invoked_eq (hrecords.finished e he)
      exact List.count_pos_iff.mp (hone.symm ▸ Nat.one_pos)
    exact ⟨hrecord.accepted_of_invoked _ hinvoked, hinvoked⟩
  · obtain ⟨e, he, rfl⟩ := hrecords.listed i job hjob
    have hsame := Option.some.inj ((hrecords.finished e he).symm.trans hjob)
    exact ⟨e, he, rfl, (DispatchedJob.mk.inj hsame).1⟩
  · rintro ⟨e, he, rfl, rfl⟩
    exact hrecords.finished e he
  · intro p hp
    rw [hkept] at hp
    obtain ⟨e, he, hp⟩ := List.mem_flatMap.mp (List.mem_of_mem_drop hp)
    refine ⟨e, he, hp, e.resource_of_mem hp |>.imp_right ?_⟩
    rintro ⟨reported, hreported, hmem, hsome⟩
    refine ⟨reported, ?_, hmem, hsome⟩
    -- a job whose processor reported anything did not fail, so this is what the processor says
    rcases hrecords.endings e he with hplanned | ⟨failure, hfailed⟩
    · exact hplanned.symm.trans hreported
    · rw [hfailed] at hreported
      cases hreported

/-! ### A job that complains -/

/-- A work item whose processor finds two problems, of which the second names what it is about. -/
def WorkItem.complain : WorkItem Processor :=
  ⟨⟨⟨"inbox", .root⟩, ⟨"outbox", .root⟩, ⟨"rule", none, [], none, "complain", [], []⟩, 0⟩,
    fun a => ⟨[], .reported [.plain .warning "\x7b\x7d is large" [a.input.text],
      .errorAbout a.input.source "\x7b\x7d is not a valid document" [a.input.text]]⟩⟩

/-- A dispatcher whose first job found two problems. -/
def System.complained : System :=
  ((turn 0).run ((submitWork 0 .complain).run ((startDispatcher 0).run ((addDispatcher
    ((Dispatcher.new? "engine" 0 1 8).getD default)).run .empty).2).2).2).2

private theorem complained_run : Run (fun _ => True)
    ((addDispatcher ((Dispatcher.new? "engine" 0 1 8).getD default)).run .empty).2
    [.accepted 0 0, .invoked 0 0] System.complained :=
  ((Run.start.step (.startDispatcher 0 _)).step (.submit 0 .complain _)).step (.turn 0 _)

theorem job_problems_traced_complained :
    (System.complained.dispatcher 0).problems.length = 2 ∧
      ∃ ended, ProblemsTraced (max 8 1) 0 [.accepted 0 0, .invoked 0 0] System.complained ended :=
  ⟨by decide +kernel,
    job_problems_traced (show Reachable (fun _ => True) .empty from ⟨[], .start⟩)
      (show Dispatcher.new? "engine" 0 1 8 = some ((Dispatcher.new? "engine" 0 1 8).getD default)
        from rfl) complained_run⟩

/-- The second problem is about the source of the job's input, and names none of the jobs. -/
theorem job_problem_unnamed :
    Run (fun _ => True)
      ((addDispatcher ((Dispatcher.new? "engine" 0 1 8).getD default)).run .empty).2
      [.accepted 0 0, .invoked 0 0] System.complained ∧
    ∃ p ∈ (System.complained.dispatcher 0).problems, p.resource = some "inbox" ∧
      ∀ job ∈ (System.complained.dispatcher 0).accepted, p.resource ≠ some job.resource :=
  ⟨complained_run, by decide +kernel⟩

end runs

end ContentEngine
