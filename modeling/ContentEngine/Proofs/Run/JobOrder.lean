import ContentEngine.Proofs.Run.JobStep

/-!
# Jobs and their errands

Along every run the jobs of each dispatcher stand in order (`Standing`), and the errands that are
ready are in step with that: the jobs that have yet to ask for a permit will do so in the order in
which they were submitted, and a job that was given a permit is about to begin.

## Strategy

`InOrder` is upheld by every step.  A turn of a job takes its errand off the list first, and from
then until the job has left its turn the job is in somebody's hand; `InOrder` has a list of such jobs,
which is empty between steps.
-/

namespace ContentEngine

/-- The jobs of a dispatcher stand in order, and so do their errands, except for those of the jobs in
hand. -/
structure InOrder (s : System) (id : DispatcherId) (granted asked : Nat) (hand : List JobIndex) :
    Prop where
  standing : Standing (s.dispatcher id) granted asked
  ready : (s.readyJobs id).filter (asked ≤ ·) =
    List.range' asked ((s.dispatcher id).jobs.size - asked)
  permitted : ∀ (i : JobIndex) job, (s.dispatcher id).jobs[i]? = some job →
    job.stage = .permitted → i ∈ hand ++ s.readyJobs id
  waits : ∀ i, s.Waits id i → i < asked

namespace InOrder

variable {s s' : System} {id : DispatcherId} {granted asked : Nat} {hand : List JobIndex}
  {index : JobIndex}

private theorem filter_append_lt {jobs woken : List JobIndex} (h : ∀ i ∈ woken, i < asked) :
    (jobs ++ woken).filter (asked ≤ ·) = jobs.filter (asked ≤ ·) := by
  have hnone : woken.filter (asked ≤ ·) = [] := by
    refine List.filter_eq_nil_iff.mpr fun i hi => ?_
    rw [decide_eq_true_eq]
    exact Nat.not_le_of_lt (h i hi)
  rw [List.filter_append, hnone, List.append_nil]

private theorem filter_succ {jobs : List JobIndex} {n : Nat}
    (h : jobs.filter (asked ≤ ·) = List.range' (asked + 1) n) :
    jobs.filter (asked + 1 ≤ ·) = List.range' (asked + 1) n := by
  have hsame : (jobs.filter (asked ≤ ·)).filter (asked + 1 ≤ ·) = jobs.filter (asked + 1 ≤ ·) := by
    rw [List.filter_filter]
    refine List.filter_congr fun i _ => ?_
    rw [← Bool.decide_and]
    exact decide_eq_decide.mpr ⟨fun hi => hi.1, fun hi => ⟨hi, Nat.le_of_succ_le hi⟩⟩
  rw [← hsame, h, List.filter_eq_self]
  intro i hi
  exact decide_eq_true (List.mem_range'_1.mp hi).1

/-- Jobs and errands in order, for a system whose dispatcher and errands are known. -/
theorem of_parts {d : Dispatcher} {jobs : List JobIndex} (hdispatcher : s.dispatcher id = d)
    (hjobs : s.readyJobs id = jobs) (hstanding : Standing d granted asked)
    (hready : jobs.filter (asked ≤ ·) = List.range' asked (d.jobs.size - asked))
    (hpermitted : ∀ (i : JobIndex) job, d.jobs[i]? = some job → job.stage = .permitted →
      i ∈ hand ++ jobs)
    (hwaits : ∀ i, s.Waits id i → i < asked) : InOrder s id granted asked hand := by
  subst hdispatcher hjobs
  exact ⟨hstanding, hready, hpermitted, hwaits⟩

/-- Nothing is out of order where there are no jobs. -/
theorem of_no_jobs (hstanding : Standing (s.dispatcher id) 0 0)
    (hjobs : (s.dispatcher id).jobs = #[]) (hready : s.readyJobs id = [])
    (hwaits : ∀ i, ¬s.Waits id i) : InOrder s id 0 0 [] where
  standing := hstanding
  ready := by rw [hready, hjobs]; rfl
  permitted := by simp [hjobs]
  waits := fun i hi => absurd hi (hwaits i)

theorem same (h : InOrder s id granted asked hand) (hsame : SameJobs id s s') :
    InOrder s' id granted asked hand := by
  obtain ⟨woken, hwoken, hready⟩ := hsame.ready
  have hwork := hsame.work
  refine ⟨?_, ?_, ?_, fun i hi => h.waits i (hsame.waits i hi)⟩
  · exact h.standing.congr hwork.jobs hwork.line hwork.freePermits hwork.poolSize hwork.submitted
      hwork.completed hwork.failed
  · rw [hready, filter_append_lt fun i hi => h.waits i (hwoken i hi), hwork.jobs]
    exact h.ready
  · intro i job hjob hpermitted
    rw [hwork.jobs] at hjob
    rw [hready, ← List.append_assoc]
    exact List.mem_append_left _ (h.permitted i job hjob hpermitted)

/-- When no errand is ready, no job is about to ask for a permit or to begin. -/
theorem none_waiting (h : InOrder s id granted asked []) (hready : s.ready = []) (i : JobIndex)
    (job : DispatchedJob) (hjob : (s.dispatcher id).jobs[i]? = some job) :
    job.stage ≠ .accepted ∧ job.stage ≠ .permitted := by
  have hnone : s.readyJobs id = [] := by
    rw [System.readyJobs, hready]
    rfl
  refine ⟨fun hstage => ?_, fun hstage => ?_⟩
  · have hjob' : (s.dispatcher id).jobs[i]? = some ⟨job.job, .accepted⟩ := by rw [hjob, ← hstage]
    have hle := h.standing.asked_le_of_accepted hjob'
    have hlt := (Array.getElem?_eq_some_iff.mp hjob).1
    have hrange := h.ready
    rw [hnone] at hrange
    have := congrArg List.length hrange
    simp only [List.filter_nil, List.length_nil, List.length_range'] at this
    omega
  · have := h.permitted i job hjob hstage
    rw [hnone] at this
    cases this

/-! ## Submitting -/

theorem accept (h : InOrder s id granted asked []) (work : WorkItem Processor)
    (hlt : id < s.dispatchers.size) : InOrder (s.accept id work) id granted asked [] := by
  have hsize := h.standing.asked_le
  refine of_parts (System.dispatcher_accept hlt work) (s.readyJobs_accept id work)
    (h.standing.submit ⟨s.nextJob, work⟩) ?_ ?_ h.waits
  · rw [List.filter_append, h.ready, Dispatcher.accept, Array.size_push,
      show (s.dispatcher id).jobs.size + 1 - asked = ((s.dispatcher id).jobs.size - asked) + 1 by omega,
      List.range'_concat, show asked + 1 * ((s.dispatcher id).jobs.size - asked) =
        (s.dispatcher id).jobs.size by omega]
    simp [hsize]
  · intro i job hjob hpermitted
    rw [Dispatcher.accept, Array.getElem?_push] at hjob
    split at hjob
    · obtain rfl := Option.some.inj hjob
      cases hpermitted
    · change i ∈ s.readyJobs id ++ [_]
      exact List.mem_append_left _ (h.permitted i job hjob hpermitted)

/-! ## A turn of one of the jobs -/

/-- A job in hand may be let go unless it was given a permit. -/
theorem letGo (h : InOrder s id granted asked [index])
    (hindex : ∀ job ∈ (s.dispatcher id).jobs[index]?, job.stage ≠ .permitted) :
    InOrder s id granted asked [] where
  standing := h.standing
  ready := h.ready
  permitted i job hjob hpermitted := by
    rcases List.mem_append.mp (h.permitted i job hjob hpermitted) with hi | hi
    · obtain rfl := List.mem_singleton.mp hi
      exact absurd hpermitted (hindex job hjob)
    · exact hi
  waits := h.waits

private theorem readyJobs_pop {rest : List Errand} (hready : s.ready = .job id index :: rest) :
    s.readyJobs id = index :: System.readyJobs { s with ready := rest } id := by
  unfold System.readyJobs
  rw [hready, List.filterMap_cons_some (Errand.job?_self id index)]

section turn

variable {rest : List Errand} (h : InOrder s id granted asked [])
  (hready : s.ready = .job id index :: rest)
include h hready

/-- A job that has yet to ask and whose errand comes first is the first one that has yet to ask. -/
private theorem eq_asked (hle : asked ≤ index) :
    index = asked ∧ asked < (s.dispatcher id).jobs.size ∧
      (System.readyJobs { s with ready := rest } id).filter (asked ≤ ·) =
        List.range' (asked + 1) ((s.dispatcher id).jobs.size - (asked + 1)) := by
  have hrange := h.ready
  rw [readyJobs_pop hready, List.filter_cons_of_pos (by simpa using hle)] at hrange
  cases hsize : (s.dispatcher id).jobs.size - asked with
  | zero =>
      rw [hsize] at hrange
      cases hrange
  | succ n =>
      rw [hsize, List.range'_succ] at hrange
      obtain ⟨rfl, htail⟩ := List.cons.inj hrange
      refine ⟨rfl, by omega, htail.trans ?_⟩
      congr 1
      omega

/-- A job that has asked is taken in hand. -/
private theorem hold (hlt : index < asked) :
    InOrder { s with ready := rest } id granted asked [index] where
  standing := h.standing
  ready := by
    have hrange := h.ready
    rw [readyJobs_pop hready, List.filter_cons_of_neg (by simpa using hlt)] at hrange
    exact hrange
  permitted i job hjob hpermitted := by
    have := h.permitted i job hjob hpermitted
    rwa [readyJobs_pop hready] at this
  waits := h.waits

/-- The job that has its turn has asked, or it is the first that has yet to. -/
private theorem lt_asked_of_not_accepted
    (hjob : ∀ job ∈ (s.dispatcher id).jobs[index]?, job.stage ≠ .accepted) : index < asked := by
  rcases Nat.lt_or_ge index asked with hlt | hge
  · exact hlt
  · obtain ⟨rfl, hsize, -⟩ := h.eq_asked hready hge
    have hget := Array.getElem?_eq_getElem hsize
    exact absurd (h.standing.accepted _ (Nat.le_refl _) _ hget) (hjob _ hget)

/-- A job asks for a permit. -/
private theorem ask {job : Job Processor}
    (hjob : (s.dispatcher id).jobs[index]? = some ⟨job, .accepted⟩) :
    ∃ granted', InOrder (System.setDispatcher { s with ready := rest } id
      ((s.dispatcher id).requestPermit index)) id granted' (asked + 1) [index] := by
  obtain ⟨rfl, hsize, htail⟩ := h.eq_asked hready (h.standing.asked_le_of_accepted hjob)
  have hlt := s.dispatcher_lt_of_job hjob
  obtain ⟨granted', hstanding⟩ :
      ∃ granted', Standing ((s.dispatcher id).requestPermit index) granted' (index + 1) := by
    by_cases hfree : (s.dispatcher id).freePermits = 0
    · exact ⟨_, h.standing.queue hjob hfree⟩
    · exact ⟨_, h.standing.grant hjob hfree⟩
  refine ⟨granted', of_parts (System.dispatcher_setDispatcher_self _ hlt _) rfl hstanding ?_ ?_ ?_⟩
  · rw [Dispatcher.size_requestPermit]
    exact filter_succ htail
  · intro i other hother hpermitted
    rcases Nat.decEq index i with hne | rfl
    · rw [Dispatcher.jobs_requestPermit_of_ne _ hne] at hother
      have := h.permitted i other hother hpermitted
      rwa [readyJobs_pop hready] at this
    · exact List.mem_cons_self
  · exact fun i hi => Nat.lt_succ_of_lt (h.waits i hi)

/-- When its processor goes on, the job in hand has a permit. -/
theorem begins {job : Job Processor} {s₁ : System}
    (hbegins : Begins id index job { s with ready := rest } s₁) :
    ∃ granted' asked', InOrder s₁ id granted' asked' [index] ∧
      ∃ stage, (s₁.dispatcher id).jobs[index]? = some ⟨job, stage⟩ ∧ stage.holdsPermit = true := by
  have hold' : ∀ {stage : Stage}, (s.dispatcher id).jobs[index]? = some ⟨job, stage⟩ →
      stage ≠ .accepted → InOrder { s with ready := rest } id granted asked [index] := by
    intro stage hjob hstage
    refine h.hold hready (h.lt_asked_of_not_accepted hready fun other hother => ?_)
    obtain rfl := Option.some.inj (hjob.symm.trans hother)
    exact hstage
  cases hbegins with
  | @running a hjob => exact ⟨_, _, hold' hjob (by simp), _, hjob, rfl⟩
  | permitted hjob => exact ⟨_, _, hold' hjob (by simp), _, hjob, rfl⟩
  | granted hjob hfree =>
      obtain ⟨granted', horder⟩ := h.ask hready hjob
      refine ⟨granted', _, horder, .permitted, ?_, rfl⟩
      rw [System.dispatcher_setDispatcher_self _ (System.dispatcher_lt_of_job _ hjob),
        Dispatcher.jobs_requestPermit_self hjob, if_neg hfree]

end turn

section leave

variable {job : Job Processor} {stage : Stage} (h : InOrder s id granted asked [index])
  (hjob : (s.dispatcher id).jobs[index]? = some ⟨job, stage⟩) (hholds : stage.holdsPermit = true)
include h hjob hholds

/-- The job in hand has a permit, so it asked for one. -/
private theorem hand_lt_asked : index < asked :=
  Nat.lt_of_lt_of_le (h.standing.lt_granted hjob (Stage.isGranted_of_holdsPermit hholds))
    h.standing.granted_le

/-- The job in hand is let go when it runs. -/
private theorem run (a : Activity) {s' : System}
    (hdispatcher : s'.dispatcher id = (s.dispatcher id).setStage index (.running a))
    (hready : s'.ready = s.ready) (hwaits : ∀ i, s'.Waits id i → s.Waits id i ∨ i = index) :
    InOrder s' id granted asked [] := by
  refine of_parts hdispatcher (by rw [System.readyJobs, hready]) (h.standing.run hjob hholds a) ?_ ?_ ?_
  · rw [Dispatcher.size_setStage]
    exact h.ready
  · intro i other hother hpermitted
    rcases Nat.decEq index i with hne | rfl
    · rw [Dispatcher.jobs_setStage_of_ne _ hne] at hother
      rcases List.mem_append.mp (h.permitted i other hother hpermitted) with hi | hi
      · exact absurd (List.mem_singleton.mp hi).symm hne
      · exact hi
    · rw [Dispatcher.jobs_setStage_self hjob] at hother
      obtain rfl := Option.some.inj hother
      cases hpermitted
  · intro i hi
    rcases hwaits i hi with hi | rfl
    · exact h.waits i hi
    · exact h.hand_lt_asked hjob hholds

/-- The job in hand is let go when it ends, and the first job in line may begin. -/
private theorem finish (ending : Ending) :
    ∃ granted', InOrder ((endJob id index job ending).run s).2 id granted' asked [] := by
  have hlt := s.dispatcher_lt_of_job hjob
  obtain ⟨lines, drains, hdrains, heq⟩ := endJob_run id index job ending s
  rw [heq]
  generalize hended :
    (((s.dispatcher id).record job ending).1.setStage index .finished).returnPermit = ended at *
  have hjobs : ((((s.setDispatcher id ended.2).addLog lines).enqueue
      (ended.1.toList.map (.job id))).enqueue drains).readyJobs id =
        s.readyJobs id ++ ended.1.toList := by
    rw [System.readyJobs_enqueue, System.readyJobs_enqueue, Errand.filterMap_jobs,
      Errand.filterMap_drains hdrains, List.append_nil]
    rfl
  have hsize : ended.2.jobs.size = (s.dispatcher id).jobs.size := by
    rw [← hended, Dispatcher.size_returnPermit, Dispatcher.size_setStage]
    rfl
  -- whoever has a permit without running either was given it now or had it before
  have hpermitted : ∀ (i : JobIndex) other, ended.2.jobs[i]? = some other →
      other.stage = .permitted → i ∈ [] ++ (s.readyJobs id ++ ended.1.toList) := by
    intro i other hother hstage
    change i ∈ s.readyJobs id ++ _
    rw [← hended] at hother ⊢
    rcases Dispatcher.jobs_returnPermit hother with hnext | hbefore
    · rw [hnext]
      exact List.mem_append_right _ (List.mem_singleton_self i)
    · rcases Nat.decEq index i with hne | rfl
      · have := (Dispatcher.jobs_setStage_of_ne _ hne _).symm.trans hbefore
        rcases List.mem_append.mp (h.permitted i other this hstage) with hi | hi
        · exact absurd (List.mem_singleton.mp hi).symm hne
        · exact List.mem_append_left _ hi
      · have := Dispatcher.jobs_setStage_self (d := ((s.dispatcher id).record job ending).1) hjob .finished
        obtain rfl := Option.some.inj (this.symm.trans hbefore)
        cases hstage
  have hfinish := h.standing.finish hjob hholds ending
  rw [hended] at hfinish
  obtain ⟨granted', hstanding, hnext⟩ : ∃ granted', Standing ended.2 granted' asked ∧
      ∀ i ∈ ended.1.toList, i < asked := by
    rcases hfinish with ⟨-, hnone, hstanding⟩ | ⟨hlt', hsome, hstanding⟩
    · exact ⟨_, hstanding, by simp [hnone]⟩
    · refine ⟨_, hstanding, fun i hi => ?_⟩
      rw [hsome] at hi
      obtain rfl := List.mem_singleton.mp hi
      exact hlt'
  refine ⟨granted', of_parts (System.dispatcher_setDispatcher_self _ hlt _) hjobs hstanding ?_
    hpermitted h.waits⟩
  rw [filter_append_lt hnext, hsize]
  exact h.ready

end leave

/-- A turn of one of the jobs keeps all of them in order. -/
theorem turn {rest : List Errand} (h : InOrder s id granted asked [])
    (hready : s.ready = .job id index :: rest)
    (hturn : JobTurn id index { s with ready := rest } s') :
    ∃ granted' asked', InOrder s' id granted' asked' [] := by
  cases hturn with
  | idle hidle =>
      have hlt := h.lt_asked_of_not_accepted hready fun job hjob hstage => by
        have := hidle job hjob
        rw [hstage] at this
        cases this
      refine ⟨_, _, (h.hold hready hlt).letGo fun job hjob hstage => ?_⟩
      have := hidle job hjob
      rw [hstage] at this
      cases this
  | queue hjob hfree =>
      obtain ⟨granted', horder⟩ := h.ask hready hjob
      refine ⟨granted', _, horder.letGo fun job hqueued hstage => ?_⟩
      rw [System.dispatcher_setDispatcher_self _ (System.dispatcher_lt_of_job _ hjob)] at hqueued
      have := (Dispatcher.jobs_requestPermit_self hjob).symm.trans hqueued
      rw [if_pos hfree] at this
      obtain rfl := Option.some.inj this
      cases hstage
  | @goOn job s₁ s₂ s' hbegins hquiet hleaves =>
      obtain ⟨granted', asked', horder, stage, hjob, hholds⟩ := h.begins hready hbegins
      have horder := horder.same (.of_quiet hquiet)
      have hjob : (s₂.dispatcher id).jobs[index]? = some ⟨job, stage⟩ := by
        rw [System.dispatcher, hquiet.dispatchers]
        exact hjob
      have hlt := System.dispatcher_lt_of_job _ hjob
      cases hleaves with
      | ended ending =>
          obtain ⟨granted'', horder⟩ := horder.finish hjob hholds ending
          exact ⟨granted'', asked', horder⟩
      | timed a millis =>
          refine ⟨granted', asked', horder.run hjob hholds a
            (System.dispatcher_setDispatcher_self _ hlt _) rfl ?_⟩
          rintro i (⟨t, ht, hi⟩ | hi)
          · rcases List.mem_append.mp ht with ht | ht
            · exact .inl (.inl ⟨t, ht, hi⟩)
            · obtain rfl := List.mem_singleton.mp ht
              exact .inr (Errand.job.inj hi).2.symm
          · exact .inl (.inr hi)
      | lined a name =>
          refine ⟨granted', asked', horder.run hjob hholds a
            (System.dispatcher_setDispatcher_self _ hlt _) rfl ?_⟩
          rintro i (hi | ⟨gate, hi⟩)
          · exact .inl (.inl hi)
          · rw [System.gate_setGate] at hi
            split at hi
            · rename_i hgate
              subst hgate
              rcases List.mem_append.mp hi with hi | hi
              · exact .inl (.inr ⟨gate, hi⟩)
              · exact .inr (Prod.mk.inj (List.mem_singleton.mp hi)).2
            · exact .inl (.inr ⟨gate, hi⟩)

/-- A new dispatcher has no jobs, and so far there were no errands of it. -/
private theorem made {engine : String} {federation : FederationId} {poolSize capacity : Nat}
    {d : Dispatcher} (h : InOrder s s.dispatchers.size granted asked [])
    (hnew : Dispatcher.new? engine federation poolSize capacity = some d) :
    InOrder ((addDispatcher d).run s).2 s.dispatchers.size 0 0 [] := by
  have hout := s.dispatcher_out (Nat.le_refl _)
  have hasked : asked = 0 := by
    have := h.standing.asked_le
    rw [hout] at this
    exact Nat.le_zero.mp this
  subst hasked
  have hdispatcher := s.dispatcher_addDispatcher d
  have hready : s.readyJobs s.dispatchers.size = [] := by
    have := h.ready
    rw [hout, List.filter_eq_self.mpr fun i _ => decide_eq_true (Nat.zero_le i)] at this
    exact this
  refine of_parts hdispatcher hready (.new hnew) ?_ ?_ h.waits
  · rw [(Dispatcher.asMade hnew).jobs]
    rfl
  · rw [(Dispatcher.asMade hnew).jobs]
    simp

end InOrder

/-! ## Along a run -/

variable {direct : FederationId → Prop} {s s' : System} {events : List JobEvent}

theorem inOrder_step (h : ∀ id, ∃ granted asked, InOrder s id granted asked [])
    (hstep : Step direct s events s') (id : DispatcherId) :
    ∃ granted asked, InOrder s' id granted asked [] := by
  obtain ⟨granted, asked, horder⟩ := h id
  cases jobStep_of_step id hstep with
  | same hsame _ => exact ⟨_, _, horder.same hsame⟩
  | rejected hsame _ => exact ⟨_, _, horder.same hsame⟩
  | accepted work hlt _ => exact ⟨_, _, horder.accept work hlt⟩
  | went hready hturn => exact horder.turn hready hturn
  | made hnew hid =>
      subst hid
      exact ⟨0, 0, horder.made hnew⟩

/-- A dispatcher that has terminated has ended its jobs, and one that never started has none. -/
structure Dispatcher.Settled (d : Dispatcher) : Prop where
  terminated : d.lifecycle.state = .terminated → d.isDrained = true
  notStarted : d.lifecycle.state = .notStarted → d.jobs = #[]

/-- Every job of a dispatcher that is drained has ended. -/
theorem Dispatcher.finished_of_isDrained {d : Dispatcher} (h : d.isDrained = true) {i : JobIndex}
    {job : DispatchedJob} (hjob : d.jobs[i]? = some job) : job.stage.isFinished = true := by
  have hnone := List.countP_eq_zero.mp (beq_iff_eq.mp h) job
  rw [← Array.getElem?_toList] at hjob
  simpa using hnone (List.mem_of_getElem? hjob)

/-- A turn of a job leaves a dispatcher alone that has no jobs that could go on. -/
private theorem jobTurn_settled {id : DispatcherId} {index : JobIndex}
    (h : (s.dispatcher id).Settled) (hturn : JobTurn id index s s') : (s'.dispatcher id).Settled := by
  have hoffice := hturn.office.2 id
  -- a job that is not idle keeps the dispatcher from being settled
  have hbusy : ∀ {job : DispatchedJob}, (s.dispatcher id).jobs[index]? = some job →
      job.stage.isFinished = false → (s'.dispatcher id).Settled := by
    intro job hjob hstage
    refine ⟨fun hstate => ?_, fun hstate => ?_⟩
    · rw [hoffice.lifecycle] at hstate
      have := Dispatcher.finished_of_isDrained (h.terminated hstate) hjob
      rw [hstage] at this
      cases this
    · rw [hoffice.lifecycle] at hstate
      rw [h.notStarted hstate] at hjob
      cases hjob
  cases hturn with
  | idle _ => exact h
  | queue hjob _ => exact hbusy hjob rfl
  | goOn hbegins _ _ =>
      cases hbegins with
      | running hjob => exact hbusy hjob rfl
      | permitted hjob => exact hbusy hjob rfl
      | granted hjob _ => exact hbusy hjob rfl

theorem settled_of_reachable (h : Reachable direct s) (id : DispatcherId) :
    (s.dispatcher id).Settled := by
  obtain ⟨_, hrun⟩ := h
  refine hrun.invariant (I := fun s => (s.dispatcher id).Settled) ?_ fun {s events s'} hstep hs => ?_
  · exact ⟨fun h => (nomatch h), fun _ => rfl⟩
  have hsame : SameWork (s.dispatcher id) (s'.dispatcher id) → (s'.dispatcher id).Settled := by
    intro hwork
    refine ⟨fun hstate => ?_, fun hstate => ?_⟩
    · rw [hwork.isDrained]
      rcases hwork.ended hstate with hstate | hstate | hdrained
      · exact hs.terminated hstate
      · rw [Dispatcher.isDrained, Dispatcher.inFlight, hs.notStarted hstate]
        rfl
      · exact hdrained
    · rw [hwork.jobs]
      exact hs.notStarted (hwork.lifecycle.begun hstate)
  cases jobStep_of_step id hstep with
  | same hsame' _ => exact hsame hsame'.work
  | rejected hsame' _ => exact hsame hsame'.work
  | accepted work hlt hrunning =>
      rw [System.dispatcher_accept hlt]
      have hother : ∀ state, state ≠ .running →
          ((s.dispatcher id).accept ⟨s.nextJob, work⟩).lifecycle.state ≠ state :=
        fun state hne hstate => hne (hstate.symm.trans hrunning)
      exact ⟨fun hstate => absurd hstate (hother _ (by decide)),
        fun hstate => absurd hstate (hother _ (by decide))⟩
  | @went index rest s' hready hturn =>
      have hpopped : (System.dispatcher { s with ready := rest } id).Settled := hs
      exact jobTurn_settled hpopped hturn
  | @made engine federation poolSize capacity d hnew hid =>
      rw [hid, s.dispatcher_addDispatcher]
      refine ⟨fun hstate => ?_, fun _ => (Dispatcher.asMade hnew).jobs⟩
      rw [(Dispatcher.asMade hnew).lifecycle] at hstate
      cases hstate

/-- In every system that is reached the jobs of each dispatcher are in order. -/
theorem inOrder_of_reachable (h : Reachable direct s) (id : DispatcherId) :
    ∃ granted asked, InOrder s id granted asked [] := by
  obtain ⟨_, hrun⟩ := h
  refine hrun.invariant (I := fun s => ∀ id, ∃ granted asked, InOrder s id granted asked []) ?_ ?_ id
  · refine fun id => ⟨0, 0, .of_no_jobs (.of_empty rfl rfl rfl rfl rfl rfl) rfl rfl ?_⟩
    rintro i (⟨t, ht, -⟩ | ⟨name, hi⟩)
    · cases ht
    · cases hi
  · exact fun hstep hs id => inOrder_step hs hstep id

end ContentEngine
