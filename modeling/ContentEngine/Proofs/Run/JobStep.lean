import ContentEngine.Proofs.Lifecycle
import ContentEngine.Proofs.Program.Engines
import ContentEngine.Proofs.Run.Turn

/-!
# What a step does to the jobs of one dispatcher

Most steps do nothing to the jobs of a given dispatcher, apart from letting some go on that waited:
`SameJobs`.  The others submit a job to it or let one of its jobs have a turn.  `JobStep` lists the
cases, and `jobStep_of_step` says that there are no more.
-/

namespace ContentEngine

/-- The job of a dispatcher that an errand goes on with. -/
def Errand.job? (id : DispatcherId) : Errand → Option JobIndex
  | .job dispatcher index => if dispatcher = id then some index else none
  | .drain _ => none
  | .close _ => none

theorem Errand.eq_of_job? {id : DispatcherId} {index : JobIndex} {e : Errand}
    (h : e.job? id = some index) : e = .job id index := by
  cases e with
  | job dispatcher i =>
      change (if dispatcher = id then some i else none) = some index at h
      split at h
      · rename_i hid
        rw [hid, Option.some.inj h]
      · cases h
  | drain dispatcher => cases h
  | close engine => cases h

theorem Errand.job?_self (id : DispatcherId) (index : JobIndex) :
    (Errand.job id index).job? id = some index :=
  if_pos rfl

theorem Errand.job?_of_ne {id other : DispatcherId} (h : other ≠ id) (index : JobIndex) :
    (Errand.job other index).job? id = none :=
  if_neg h

theorem Errand.filterMap_jobs (id : DispatcherId) (jobs : List JobIndex) :
    (jobs.map (Errand.job id)).filterMap (Errand.job? id) = jobs := by
  induction jobs with
  | nil => rfl
  | cons index rest ih =>
      rw [List.map_cons, List.filterMap_cons_some (Errand.job?_self id index), ih]

theorem Errand.filterMap_drains {id other : DispatcherId} {drains : List Errand}
    (h : ∀ e ∈ drains, e = Errand.drain other) : drains.filterMap (Errand.job? id) = [] := by
  refine List.filterMap_eq_nil_iff.mpr fun e he => ?_
  rw [h e he]
  rfl

/-- The dispatcher whose job an event is about. -/
def JobEvent.dispatcher : JobEvent → DispatcherId
  | .accepted dispatcher _ => dispatcher
  | .rejected dispatcher _ => dispatcher
  | .invoked dispatcher _ => dispatcher

namespace System

/-- The jobs of a dispatcher that can go on, in the order in which they will. -/
def readyJobs (s : System) (id : DispatcherId) : List JobIndex :=
  s.ready.filterMap (Errand.job? id)

/-- Whether a job waits for a moment or for a gate to open. -/
def Waits (s : System) (id : DispatcherId) (index : JobIndex) : Prop :=
  (∃ t ∈ s.timers, t.errand = .job id index) ∨ ∃ name, (id, index) ∈ (s.gate name).line

theorem readyJobs_enqueue (s : System) (errands : List Errand) (id : DispatcherId) :
    (s.enqueue errands).readyJobs id = s.readyJobs id ++ errands.filterMap (Errand.job? id) :=
  List.filterMap_append

end System

/-! ## Steps that do nothing to the jobs -/

/-- Two dispatchers differ at most in their lifecycle, their intake and the jobs they rejected; the
lifecycle goes forward, and does not end before the jobs have. -/
structure SameWork (d d' : Dispatcher) : Prop where
  lifecycle : d.lifecycle.Forward d'.lifecycle
  ended : d'.lifecycle.state = .terminated →
    d.lifecycle.state = .terminated ∨ d.lifecycle.state = .notStarted ∨ d.isDrained = true
  poolSize : d'.poolSize = d.poolSize
  federation : d'.federation = d.federation
  jobs : d'.jobs = d.jobs
  freePermits : d'.freePermits = d.freePermits
  line : d'.line = d.line
  submitted : d'.submitted = d.submitted
  completed : d'.completed = d.completed
  failed : d'.failed = d.failed
  problems : d'.problems = d.problems
  problemCapacity : d'.problemCapacity = d.problemCapacity

namespace SameWork

theorem refl (d : Dispatcher) : SameWork d d :=
  ⟨.refl _, .inl, rfl, rfl, rfl, rfl, rfl, rfl, rfl, rfl, rfl, rfl⟩

theorem isDrained {d d' : Dispatcher} (h : SameWork d d') : d'.isDrained = d.isDrained := by
  unfold Dispatcher.isDrained Dispatcher.inFlight
  rw [h.jobs]

theorem trans {d d' d'' : Dispatcher} (h : SameWork d d') (h' : SameWork d' d'') :
    SameWork d d'' where
  lifecycle := h.lifecycle.trans h'.lifecycle
  ended hd := by
    rcases h'.ended hd with hd | hd | hd
    · exact h.ended hd
    · exact .inr (.inl (h.lifecycle.begun hd))
    · exact .inr (.inr (h.isDrained ▸ hd))
  poolSize := h'.poolSize.trans h.poolSize
  federation := h'.federation.trans h.federation
  jobs := h'.jobs.trans h.jobs
  freePermits := h'.freePermits.trans h.freePermits
  line := h'.line.trans h.line
  submitted := h'.submitted.trans h.submitted
  completed := h'.completed.trans h.completed
  failed := h'.failed.trans h.failed
  problems := h'.problems.trans h.problems
  problemCapacity := h'.problemCapacity.trans h.problemCapacity

theorem start {d d' : Dispatcher} {lines : List LogLine} (h : d.start = (.ok d', lines)) :
    SameWork d d' := by
  have of_lifecycle : ∀ l : Lifecycle, d.lifecycle.Forward l →
      (l.state.isClosed = true → l.state = d.lifecycle.state) →
        SameWork d { d with lifecycle := l } := fun l hforward hclosed =>
    ⟨hforward, fun hl => .inl ((hclosed (by rw [hl]; rfl)).symm.trans hl), rfl, rfl, rfl, rfl, rfl,
      rfl, rfl, rfl, rfl, rfl⟩
  unfold Dispatcher.start at h
  split at h
  · cases h
  · rename_i lifecycle hstart
    cases h
    have hne : d.lifecycle.state ≠ .notStarted := fun hstate => by
      rw [Lifecycle.beginStart_of_notStarted hstate] at hstart
      cases hstart
    obtain rfl : lifecycle = d.lifecycle := by
      rw [← (Lifecycle.beginStart_of_ne hne).1, hstart]
    exact of_lifecycle _ (.refl _) fun _ => rfl
  · rename_i lifecycle hstart
    cases h
    have hforward := d.lifecycle.forward_start
    have hclosed := @Lifecycle.start_closed d.lifecycle
    rw [hstart] at hforward hclosed
    exact of_lifecycle _ hforward hclosed

theorem beginShutdown (d : Dispatcher) : SameWork d d.beginShutdown.2.1 :=
  ⟨d.lifecycle.forward_beginShutdown, fun h => by
    rcases Lifecycle.beginShutdown_terminated h with h | h
    · exact .inl h
    · exact .inr (.inl h), rfl, rfl, rfl, rfl, rfl, rfl, rfl, rfl, rfl, rfl⟩

theorem reject (d : Dispatcher) : SameWork d { d with rejected := d.rejected + 1 } :=
  ⟨.refl _, .inl, rfl, rfl, rfl, rfl, rfl, rfl, rfl, rfl, rfl, rfl⟩

theorem drain {d : Dispatcher} (h : d.isDrained = true) :
    SameWork d { d with lifecycle := d.lifecycle.markTerminated } :=
  ⟨d.lifecycle.forward_markTerminated, fun _ => .inr (.inr h), rfl, rfl, rfl, rfl, rfl, rfl, rfl, rfl,
    rfl, rfl⟩

end SameWork

/-- The jobs of a dispatcher stand as before, except that some may go on that waited. -/
structure SameJobs (id : DispatcherId) (s s' : System) : Prop where
  work : SameWork (s.dispatcher id) (s'.dispatcher id)
  size : s.dispatchers.size ≤ s'.dispatchers.size
  ready : ∃ woken, (∀ i ∈ woken, s.Waits id i) ∧ s'.readyJobs id = s.readyJobs id ++ woken
  waits : ∀ i, s'.Waits id i → s.Waits id i
  nextJob : s.nextJob ≤ s'.nextJob

namespace SameJobs

variable {id : DispatcherId} {s s' s'' : System}

theorem trans (h : SameJobs id s s') (h' : SameJobs id s' s'') : SameJobs id s s'' where
  work := h.work.trans h'.work
  size := Nat.le_trans h.size h'.size
  ready := by
    obtain ⟨woken, hwoken, heq⟩ := h.ready
    obtain ⟨woken', hwoken', heq'⟩ := h'.ready
    refine ⟨woken ++ woken', ?_, by rw [heq', heq, List.append_assoc]⟩
    intro i hi
    rcases List.mem_append.mp hi with hi | hi
    · exact hwoken i hi
    · exact h.waits i (hwoken' i hi)
  waits := fun i hi => h.waits i (h'.waits i hi)
  nextJob := Nat.le_trans h.nextJob h'.nextJob

/-- A change after which all jobs that can go on could go on before. -/
theorem of_ready (hwork : SameWork (s.dispatcher id) (s'.dispatcher id))
    (hsize : s.dispatchers.size ≤ s'.dispatchers.size) (hready : s'.readyJobs id = s.readyJobs id)
    (hwaits : ∀ i, s'.Waits id i → s.Waits id i) (hnextJob : s.nextJob ≤ s'.nextJob) :
    SameJobs id s s' where
  work := hwork
  size := hsize
  ready := ⟨[], by simp, by simp [hready]⟩
  waits := hwaits
  nextJob := hnextJob

theorem of_quiet (h : Quiet s s') : SameJobs id s s' := by
  refine .of_ready ?_ (Nat.le_of_eq (by rw [h.dispatchers])) ?_ ?_
    (Nat.le_of_eq h.nextJob.symm)
  · simp only [System.dispatcher, h.dispatchers]
    exact .refl _
  · simp only [System.readyJobs, h.ready]
  · intro i hi
    simpa only [System.Waits, h.timers, h.lines] using hi

theorem refl (s : System) : SameJobs id s s :=
  of_quiet (.refl s)

/-- Errands that are nobody's jobs may become ready. -/
theorem enqueue (s : System) {errands : List Errand} (h : ∀ e ∈ errands, e.job? id = none) :
    SameJobs id s (s.enqueue errands) := by
  refine .of_ready (.refl _) (Nat.le_refl _) ?_ (fun _ hi => hi) (Nat.le_refl _)
  unfold System.readyJobs System.enqueue
  rw [List.filterMap_append, List.filterMap_eq_nil_iff.mpr h, List.append_nil]

/-- An errand that is nobody's job may wait for a moment. -/
theorem after (s : System) (millis : Nat) {errand : Errand} (h : errand.job? id = none) :
    SameJobs id s (s.after millis errand) := by
  refine .of_ready (.refl _) (Nat.le_refl _) rfl ?_ (Nat.le_refl _)
  rintro i (⟨t, ht, hi⟩ | hi)
  · rcases List.mem_append.mp ht with ht | ht
    · exact .inl ⟨t, ht, hi⟩
    · obtain rfl := List.mem_singleton.mp ht
      rw [show errand = .job id i from hi, Errand.job?_self] at h
      cases h
  · exact .inr hi

/-- Another dispatcher, or the lifecycle of this one, may change. -/
theorem setDispatcher (s : System) (other : DispatcherId) (d : Dispatcher)
    (h : other = id → SameWork (s.dispatcher id) d) :
    SameJobs id s (s.setDispatcher other d) := by
  refine .of_ready ?_ (Nat.le_of_eq (s.dispatchers_size_setDispatcher other d).symm) rfl
    (fun _ hi => hi) (Nat.le_refl _)
  rw [s.dispatcher_setDispatcher]
  split
  · rename_i hother
    exact h hother.1.symm
  · exact .refl _

theorem setEngine (s : System) (engine : EngineId) (e : Engine) :
    SameJobs id s (s.setEngine engine e) :=
  .of_ready (.refl _) (Nat.le_refl _) rfl (fun _ hi => hi) (Nat.le_refl _)

end SameJobs

section calls

variable {id : DispatcherId} {s₀ : System}

/-- A condition that keeps the jobs of a dispatcher as they were at first. -/
private theorem keep {α : Type} {x : InSystem α} (h : ∀ s, SameJobs id s (x.run s).2) :
    Ensures (SameJobs id s₀) x fun _ => SameJobs id s₀ :=
  fun s hs => hs.trans (h s)

private theorem keep_writeLog (lines : List LogLine) :
    Ensures (SameJobs id s₀) (writeLog lines) fun _ => SameJobs id s₀ :=
  keep fun _ => .of_quiet (.of_aside (.addLog _ _))

theorem sameJobs_startFederation (federation : FederationId) :
    Ensures (SameJobs id s₀) (startFederation federation) fun _ => SameJobs id s₀ := by
  refine .seq (.part (Q := fun _ => SameJobs id s₀) fun _ hs => hs) fun f => ?_
  split
  · exact .answer fun _ hs => hs
  · refine .andThen (.update fun s hs => hs.trans ?_) fun _ => .answer fun _ hs => hs
    exact .of_ready (.refl _) (Nat.le_refl _) rfl (fun _ hi => hi) (Nat.le_refl _)

theorem sameJobs_shutdownFederation (federation : FederationId) :
    Ensures (SameJobs id s₀) (shutdownFederation federation) fun _ => SameJobs id s₀ := by
  refine .andThen (keep fun s => ?_) fun lines => keep_writeLog lines
  exact .of_ready (.refl _) (Nat.le_refl _) rfl (fun _ hi => hi) (Nat.le_refl _)

theorem sameJobs_startDispatcher (dispatcher : DispatcherId) :
    Ensures (SameJobs id s₀) (startDispatcher dispatcher) fun _ => SameJobs id s₀ := by
  intro s hs
  refine hs.trans ?_
  rcases startDispatcher_run dispatcher s with heq | ⟨d, lines, hstart, heq⟩
  · rw [heq]
    exact .refl s
  · rw [heq]
    refine .trans (.setDispatcher s dispatcher d fun hid => ?_) (.of_quiet (.of_aside (.addLog _ _)))
    subst hid
    exact .start hstart

theorem sameJobs_shutdownDispatcher (dispatcher : DispatcherId) :
    Ensures (SameJobs id s₀) (shutdownDispatcher dispatcher) fun _ => SameJobs id s₀ := by
  refine .andThen (keep fun s => ?_) fun answer => ?_
  · exact .setDispatcher s dispatcher _ fun hid => hid ▸ .beginShutdown _
  refine .andThen (keep_writeLog _) fun _ => ?_
  split
  · exact keep fun s => .enqueue s fun e he => by
      obtain rfl := List.mem_singleton.mp he
      rfl
  · exact .answer fun _ hs => hs

private theorem keep_quiet {α : Type} {x : InSystem α} (h : ∀ s, Quiet s (x.run s).2) :
    Ensures (SameJobs id s₀) x fun _ => SameJobs id s₀ :=
  keep fun s => .of_quiet (h s)

private theorem sameJobs_upholding (engine : EngineId) (e : Engine) :
    Upholding (SameJobs id s₀) engine e where
  writeLog := keep_writeLog
  withLifecycle _ := keep fun s => .setEngine s engine _
  startFederation := sameJobs_startFederation e.federation
  startDispatcher := sameJobs_startDispatcher e.dispatcher
  startService := keep_quiet fun s => .of_aside (.startService e.service s)
  shutdownFederation := sameJobs_shutdownFederation e.federation
  shutdownDispatcher := sameJobs_shutdownDispatcher e.dispatcher
  shutdownService := keep_quiet fun s => .of_aside (.shutdownService e.service s)

theorem sameJobs_startEngine (engine : EngineId) (s : System) :
    SameJobs id s ((startEngine engine).run s).2 :=
  (sameJobs_upholding engine _).startEngine (.refl s)

theorem sameJobs_shutdownEngine (engine : EngineId) (s : System) :
    SameJobs id s ((shutdownEngine engine).run s).2 := by
  refine (sameJobs_upholding engine _).shutdownEngine (fun t ht => ht.trans ?_) (.refl s)
  refine .trans (.setEngine t engine _) (.enqueue _ fun e he => ?_)
  obtain rfl := List.mem_singleton.mp he
  rfl

end calls

/-! ## Turns that do nothing to the jobs -/

section turns

variable {id other : DispatcherId} {index : JobIndex} {s s' : System}

private theorem append_closes (id : DispatcherId) (jobs : List JobIndex) (engines : List EngineId) :
    jobs ++ (engines.map Errand.close).filterMap (Errand.job? id) = jobs := by
  rw [List.filterMap_eq_nil_iff.mpr, List.append_nil]
  intro e he
  obtain ⟨_, _, rfl⟩ := List.mem_map.mp he
  rfl

theorem sameJobs_drainTurn (h : DrainTurn other s s') : SameJobs id s s' := by
  cases h with
  | idle _ => exact .refl s
  | drained _ hdrained =>
      have hset : SameJobs id s (s.setDispatcher other { s.dispatcher other with
          lifecycle := (s.dispatcher other).lifecycle.markTerminated }) :=
        .setDispatcher s other _ fun hid => hid ▸ .drain hdrained
      refine hset.trans (.of_ready (.refl _) (Nat.le_refl _) ?_ ?_ (Nat.le_refl _))
      · exact List.filterMap_append.trans (append_closes id _ _)
      · rintro i (⟨t, ht, hi⟩ | hi)
        · exact .inl ⟨t, (List.mem_filter.mp ht).1, hi⟩
        · exact .inr hi

theorem sameJobs_closeEngine (engine : EngineId) (s : System) :
    SameJobs id s ((closeEngine engine).run s).2 := by
  suffices h : Ensures (SameJobs id s) (closeEngine engine) fun _ => SameJobs id s from
    h s (.refl s)
  refine .seq (.part (Q := fun _ => SameJobs id s) fun _ hs => hs) fun e => ?_
  refine .andThen (sameJobs_shutdownFederation e.federation) fun _ => ?_
  exact .update fun s hs => hs.trans (.setEngine s engine _)

theorem sameJobs_closeTurn {engine : EngineId} (h : CloseTurn engine s s') : SameJobs id s s' := by
  cases h with
  | idle _ => exact .refl s
  | close _ _ => exact sameJobs_closeEngine engine s
  | wait _ _ => exact .trans (.setEngine s engine _) (.after _ _ rfl)
  | overdue _ _ => exact .trans (.of_quiet (.of_aside (.addLog _ _))) (sameJobs_closeEngine engine _)

/-- Taking an errand of another dispatcher's job, or of none, off the list. -/
theorem sameJobs_pop {errand : Errand} {rest : List Errand} (hready : s.ready = errand :: rest)
    (h : errand.job? id = none) : SameJobs id s { s with ready := rest } := by
  refine .of_ready (.refl _) (Nat.le_refl _) ?_ (fun _ hi => hi) (Nat.le_refl _)
  unfold System.readyJobs
  rw [hready, List.filterMap_cons_none h]

/-- When the clock moves on some jobs may go on that waited. -/
theorem sameJobs_wake (id : DispatcherId) (moment : Nat) (s : System) :
    SameJobs id s (s.wake moment) where
  work := .refl _
  size := Nat.le_refl _
  ready := by
    refine ⟨_, ?_, List.filterMap_append⟩
    intro i hi
    obtain ⟨e, he, hjob⟩ := List.mem_filterMap.mp hi
    obtain ⟨t, ht, rfl⟩ := List.mem_map.mp he
    refine .inl ⟨t, (List.mem_filter.mp ht).1, ?_⟩
    exact Errand.eq_of_job? hjob
  waits := by
    rintro i (⟨t, ht, hi⟩ | hi)
    · exact .inl ⟨t, (List.mem_filter.mp ht).1, hi⟩
    · exact .inr hi
  nextJob := Nat.le_refl _

theorem sameJobs_openGate (id : DispatcherId) (name : String) (permits : Nat) (s : System) :
    SameJobs id s ((openGate name permits).run s).2 where
  work := .refl _
  size := Nat.le_refl _
  ready := by
    refine ⟨_, ?_, List.filterMap_append⟩
    intro i hi
    obtain ⟨e, he, hjob⟩ := List.mem_filterMap.mp hi
    obtain ⟨entry, hentry, rfl⟩ := List.mem_map.mp he
    have heq := Errand.eq_of_job? hjob
    refine .inr ⟨name, ?_⟩
    obtain ⟨rfl, rfl⟩ := Errand.job.inj heq
    exact List.mem_of_mem_take hentry
  waits := by
    rintro i (hi | ⟨other, hi⟩)
    · exact .inl hi
    · refine .inr ⟨other, ?_⟩
      change (id, i) ∈ ((s.setGate name _).gate other).line at hi
      rw [s.gate_setGate] at hi
      split at hi
      · rename_i hother
        subst hother
        exact List.mem_of_mem_drop hi
      · exact hi
  nextJob := Nat.le_refl _

/-! ### Turns of other jobs -/

private theorem sameJobs_endJob (h : other ≠ id) (job : Job Processor) (ending : Ending) :
    SameJobs id s ((endJob other index job ending).run s).2 := by
  obtain ⟨lines, drains, hdrains, heq⟩ := endJob_run other index job ending s
  rw [heq]
  refine .trans (.trans (.trans (.setDispatcher s other _ fun hid => absurd hid h)
    (.of_quiet (.of_aside (.addLog _ lines)))) (.enqueue _ fun e he => ?_)) (.enqueue _ fun e he => ?_)
  · obtain ⟨_, _, rfl⟩ := List.mem_map.mp he
    exact Errand.job?_of_ne h _
  · rw [hdrains e he]
    rfl

/-- A turn of a job does nothing to the jobs of other dispatchers. -/
theorem sameJobs_jobTurn (h : other ≠ id) (hturn : JobTurn other index s s') : SameJobs id s s' := by
  have hset : ∀ (t : System) d, SameJobs id t (t.setDispatcher other d) :=
    fun t d => .setDispatcher t other d fun hid => absurd hid h
  cases hturn with
  | idle _ => exact .refl s
  | queue _ _ => exact hset s _
  | @goOn job s₁ s₂ s' hbegins hquiet hleaves =>
      have hbefore : SameJobs id s s₂ := by
        refine .trans ?_ (.of_quiet hquiet)
        cases hbegins with
        | running _ => exact .refl s
        | permitted _ => exact .refl s
        | granted _ _ => exact hset s _
      refine hbefore.trans ?_
      cases hleaves with
      | ended ending => exact sameJobs_endJob h job ending
      | timed a millis => exact (hset s₂ _).trans (.after _ _ (Errand.job?_of_ne h _))
      | lined a name =>
          refine (hset s₂ _).trans (.of_ready (.refl _) (Nat.le_refl _) rfl ?_ (Nat.le_refl _))
          rintro i (hi | ⟨gate, hi⟩)
          · exact .inl hi
          · refine .inr ⟨gate, ?_⟩
            rw [System.gate_setGate] at hi
            split at hi
            · rename_i hgate
              subst hgate
              rcases List.mem_append.mp hi with hi | hi
              · exact hi
              · exact absurd (Prod.mk.inj (List.mem_singleton.mp hi)).1.symm h
            · exact hi

end turns

/-! ## All steps -/

/-- The system where a work item was accepted as the next job of a dispatcher. -/
def System.accept (s : System) (id : DispatcherId) (work : WorkItem Processor) : System :=
  ({ s with nextJob := s.nextJob + 1 }.setDispatcher id
    ((s.dispatcher id).accept ⟨s.nextJob, work⟩)).enqueue [.job id (s.dispatcher id).jobs.size]

theorem System.dispatcher_accept {s : System} {id : DispatcherId} (h : id < s.dispatchers.size)
    (work : WorkItem Processor) :
    (s.accept id work).dispatcher id = (s.dispatcher id).accept ⟨s.nextJob, work⟩ :=
  System.dispatcher_setDispatcher_self { s with nextJob := s.nextJob + 1 } h _

theorem System.readyJobs_accept (s : System) (id : DispatcherId) (work : WorkItem Processor) :
    (s.accept id work).readyJobs id = s.readyJobs id ++ [(s.dispatcher id).jobs.size] := by
  unfold System.accept
  rw [System.readyJobs_enqueue, List.filterMap_cons_some (Errand.job?_self id _)]
  rfl

/-- What a step can do to the jobs of one dispatcher. -/
inductive JobStep (id : DispatcherId) (s : System) : List JobEvent → System → Prop
  | same {events s'} : SameJobs id s s' → (∀ e ∈ events, e.dispatcher ≠ id) → JobStep id s events s'
  | rejected {s'} : SameJobs id s s' → s.nextJob < s'.nextJob →
      JobStep id s [.rejected id s.nextJob] s'
  | accepted (work) : id < s.dispatchers.size → (s.dispatcher id).lifecycle.state = .running →
      JobStep id s [.accepted id s.nextJob] (s.accept id work)
  | went {index rest s'} : s.ready = .job id index :: rest →
      JobTurn id index { s with ready := rest } s' → JobStep id s s.invocations s'
  | made {engine federation poolSize capacity d} :
      Dispatcher.new? engine federation poolSize capacity = some d → id = s.dispatchers.size →
      JobStep id s [] ((addDispatcher d).run s).2

/-- A dispatcher that accepts jobs was made. -/
private theorem lt_of_accepting {id : DispatcherId} {s : System}
    (h : (s.dispatcher id).accepting = true) : id < s.dispatchers.size := by
  rcases Nat.lt_or_ge id s.dispatchers.size with hlt | hge
  · exact hlt
  · rw [s.dispatcher_out hge] at h
    cases h

/-- What a submission is answered, and what it does, if the dispatcher accepts the job. -/
theorem submitWork_run_of_accepts {id : DispatcherId} {s : System} (work : WorkItem Processor)
    (h : ((s.dispatcher id).accepting && (s.dispatcher id).lifecycle.isRunning) = true) :
    (submitWork id work).run s =
      ((⟨s.nextJob, work⟩, .ok (s.dispatcher id).jobs.size), s.accept id work) := by
  unfold submitWork
  rw [get_bind, modify_bind, withDispatcher_bind]
  unfold Dispatcher.submit
  rw [show System.dispatcher { s with nextJob := s.nextJob + 1 } id = s.dispatcher id from rfl, if_pos h]
  rfl

/-- What a submission is answered, and what it does, if the dispatcher rejects the job. -/
theorem submitWork_run_of_rejects {id : DispatcherId} {s : System} (work : WorkItem Processor)
    (h : ¬((s.dispatcher id).accepting && (s.dispatcher id).lifecycle.isRunning) = true) :
    (submitWork id work).run s =
      ((⟨s.nextJob, work⟩, .error (.jobRejected work.assignment.rule.name work.assignment.input.text)),
        { s with nextJob := s.nextJob + 1 }.setDispatcher id { s.dispatcher id with
          rejected := (s.dispatcher id).rejected + 1 }) := by
  unfold submitWork
  rw [get_bind, modify_bind, withDispatcher_bind]
  unfold Dispatcher.submit
  rw [show System.dispatcher { s with nextJob := s.nextJob + 1 } id = s.dispatcher id from rfl, if_neg h]
  rfl

/-- Submitting a job, if the dispatcher accepts it. -/
theorem submitWork_accepted {id : DispatcherId} {s : System} (work : WorkItem Processor)
    (h : ((s.dispatcher id).accepting && (s.dispatcher id).lifecycle.isRunning) = true) :
    ((submitWork id work).run s).2 = s.accept id work :=
  congrArg Prod.snd (submitWork_run_of_accepts work h)

/-- Submitting a job, if the dispatcher rejects it. -/
theorem submitWork_rejected {id : DispatcherId} {s : System} (work : WorkItem Processor)
    (h : ¬((s.dispatcher id).accepting && (s.dispatcher id).lifecycle.isRunning) = true) :
    ((submitWork id work).run s).2 =
      { s with nextJob := s.nextJob + 1 }.setDispatcher id { s.dispatcher id with
        rejected := (s.dispatcher id).rejected + 1 } :=
  congrArg Prod.snd (submitWork_run_of_rejects work h)

private theorem sameJobs_nextJob (id : DispatcherId) (s : System) :
    SameJobs id s { s with nextJob := s.nextJob + 1 } :=
  .of_ready (.refl _) (Nat.le_refl _) rfl (fun _ hi => hi) (Nat.le_succ _)

private theorem jobStep_submit (id other : DispatcherId) (work : WorkItem Processor) (s : System) :
    JobStep id s (s.submission other) ((submitWork other work).run s).2 := by
  unfold System.submission
  by_cases haccepts : ((s.dispatcher other).accepting &&
      (s.dispatcher other).lifecycle.isRunning) = true
  · rw [if_pos haccepts, submitWork_accepted work haccepts]
    by_cases hid : other = id
    · subst hid
      obtain ⟨haccepting, hrunning⟩ := (Bool.and_eq_true _ _).mp haccepts
      exact .accepted work (lt_of_accepting haccepting) (of_decide_eq_true hrunning)
    · refine .same ?_ ?_
      · refine .trans (.trans (sameJobs_nextJob id s) (.setDispatcher _ other _ fun h => absurd h hid))
          (.enqueue _ fun e he => ?_)
        obtain rfl := List.mem_singleton.mp he
        exact Errand.job?_of_ne hid _
      · intro e he
        obtain rfl := List.mem_singleton.mp he
        exact hid
  · rw [if_neg haccepts, submitWork_rejected work haccepts]
    have hsame : SameJobs id s ({ s with nextJob := s.nextJob + 1 }.setDispatcher other
        { s.dispatcher other with rejected := (s.dispatcher other).rejected + 1 }) :=
      (sameJobs_nextJob id s).trans
        (.setDispatcher _ other _ fun h => h ▸ .reject _)
    by_cases hid : other = id
    · subst hid
      exact .rejected hsame (Nat.lt_succ_self _)
    · refine .same hsame fun e he => ?_
      obtain rfl := List.mem_singleton.mp he
      exact hid

private theorem jobStep_turn (id : DispatcherId) (deadline : Nat) (s : System) :
    JobStep id s s.invocations ((turn deadline).run s).2 := by
  have hnone : s.ready = [] → s.invocations = [] := fun hready => by
    unfold System.invocations
    rw [hready]
  rcases turn_cases deadline s with ⟨hready, heq⟩ | ⟨hready, moment, -, heq⟩ |
    ⟨errand, rest, hready, heq⟩
  · rw [heq, hnone hready]
    exact .same (.refl s) (by simp)
  · rw [heq, hnone hready]
    exact .same (sameJobs_wake id moment s) (by simp)
  · rw [heq]
    cases errand with
    | job other index =>
        by_cases hid : other = id
        · subst hid
          exact .went hready (runJob_turn other index _)
        · refine .same (.trans (sameJobs_pop hready (Errand.job?_of_ne hid index))
            (sameJobs_jobTurn hid (runJob_turn other index _))) fun e he => ?_
          unfold System.invocations at he
          rw [hready] at he
          obtain ⟨job, -, rfl⟩ := Option.map_eq_some_iff.mp (Option.mem_toList.mp he)
          exact hid
    | drain other =>
        refine .same (.trans (sameJobs_pop hready rfl) (sameJobs_drainTurn (runDrain_turn other _))) ?_
        unfold System.invocations
        simp [hready]
    | close engine =>
        refine .same (.trans (sameJobs_pop hready rfl) (sameJobs_closeTurn (runClose_turn engine _))) ?_
        unfold System.invocations
        simp [hready]

private theorem jobStep_addDispatcher {engine : String} {federation : FederationId}
    {poolSize capacity : Nat} {d : Dispatcher} (id : DispatcherId) (s : System)
    (h : Dispatcher.new? engine federation poolSize capacity = some d) :
    JobStep id s [] ((addDispatcher d).run s).2 := by
  by_cases hid : id = s.dispatchers.size
  · exact .made h hid
  · refine .same (.of_ready ?_ ?_ rfl (fun _ hi => hi) (Nat.le_refl _)) (by simp)
    · rw [System.dispatcher_addDispatcher_of_ne hid]
      exact .refl _
    · exact Nat.le_trans (Nat.le_succ _) (Nat.le_of_eq (Array.size_push d).symm)

/-- Dispatchers that were made stay. -/
theorem JobStep.size_le {id : DispatcherId} {s s' : System} {events : List JobEvent}
    (h : JobStep id s events s') : s.dispatchers.size ≤ s'.dispatchers.size := by
  cases h with
  | same hsame _ => exact hsame.size
  | rejected hsame _ => exact hsame.size
  | accepted work _ _ => exact Nat.le_of_eq (System.dispatchers_size_setDispatcher _ id _).symm
  | went hready hturn => exact Nat.le_of_eq hturn.office.1.symm
  | made _ _ => exact Nat.le_trans (Nat.le_succ _) (Nat.le_of_eq (Array.size_push _).symm)

/-- A dispatcher keeps its size and its federation. -/
theorem JobStep.parts {id : DispatcherId} {s s' : System} {events : List JobEvent}
    (h : JobStep id s events s') (hid : id < s.dispatchers.size) :
    (s'.dispatcher id).poolSize = (s.dispatcher id).poolSize ∧
      (s'.dispatcher id).federation = (s.dispatcher id).federation := by
  cases h with
  | same hsame _ => exact ⟨hsame.work.poolSize, hsame.work.federation⟩
  | rejected hsame _ => exact ⟨hsame.work.poolSize, hsame.work.federation⟩
  | accepted work hlt _ =>
      rw [System.dispatcher_accept hlt]
      exact ⟨rfl, rfl⟩
  | went hready hturn => exact ⟨(hturn.office.2 id).poolSize, (hturn.office.2 id).federation⟩
  | made _ hmade => exact absurd hid (hmade ▸ Nat.lt_irrefl _)

/-- The lifecycle of a dispatcher goes forward. -/
theorem JobStep.lifecycle {id : DispatcherId} {s s' : System} {events : List JobEvent}
    (h : JobStep id s events s') (hid : id < s.dispatchers.size) :
    (s.dispatcher id).lifecycle.Forward (s'.dispatcher id).lifecycle := by
  cases h with
  | same hsame _ => exact hsame.work.lifecycle
  | rejected hsame _ => exact hsame.work.lifecycle
  | accepted work hlt _ =>
      rw [System.dispatcher_accept hlt]
      exact .refl _
  | went hready hturn =>
      rw [(hturn.office.2 id).lifecycle]
      exact .refl _
  | made _ hmade => exact absurd hid (hmade ▸ Nat.lt_irrefl _)

/-- What a step does to the jobs of a dispatcher. -/
theorem jobStep_of_step {direct : FederationId → Prop} {s s' : System} {events : List JobEvent}
    (id : DispatcherId) (h : Step direct s events s') : JobStep id s events s' := by
  have calm : ∀ {s'}, SameJobs id s s' → JobStep id s [] s' := fun h => .same h (by simp)
  cases h with
  | quiet hquiet => exact calm (.of_quiet hquiet)
  | turn deadline => exact jobStep_turn id deadline s
  | pass moment => exact calm (.of_ready (.refl _) (Nat.le_refl _) rfl (fun _ hi => hi) (Nat.le_refl _))
  | submit other work => exact jobStep_submit id other work s
  | openGate name permits => exact calm (sameJobs_openGate id name permits s)
  | startFederation federation => exact calm (sameJobs_startFederation federation s (.refl s))
  | shutdownFederation federation _ =>
      exact calm (sameJobs_shutdownFederation federation s (.refl s))
  | startDispatcher dispatcher => exact calm (sameJobs_startDispatcher dispatcher s (.refl s))
  | shutdownDispatcher dispatcher => exact calm (sameJobs_shutdownDispatcher dispatcher s (.refl s))
  | startEngine _ => exact calm (sameJobs_startEngine _ s)
  | shutdownEngine _ => exact calm (sameJobs_shutdownEngine _ s)
  | addDispatcher _ hnew => exact jobStep_addDispatcher id s hnew
  | addEngine _ => exact calm (.of_ready (.refl _) (Nat.le_refl _) rfl (fun _ hi => hi) (Nat.le_refl _))

end ContentEngine
