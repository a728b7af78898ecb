import ContentEngine.Proofs.Run.Background
import ContentEngine.Proofs.Run.JobOrder
import ContentEngine.Proofs.Run.Drain

/-!
# What happens to an engine meanwhile

Between the calls that start an engine and shut it down jobs are submitted and have their turns, time
passes, and others use the system.  As long as nobody else starts or shuts down the engine's parts, this
can do three things to their states: nothing; terminate a dispatcher that was shut down; or let the
errand go on that closes the engine.

## Strategy

Errands stay until their turn (`ready_of_turn`, `ready_of_step`), and a dispatcher that was shut down and
has no jobs left is `Attentive`: the errand is there that terminates it.  `Drifts` is what is true of an
engine after everything but a turn of the errand that closes it.
-/

namespace ContentEngine

/-! ## Errands stay until their turn -/

section ready

variable {direct : FederationId → Prop} {s₀ s s' : System} {events : List JobEvent}

theorem JobTurn.ready {id : DispatcherId} {index : JobIndex} (h : JobTurn id index s s') :
    s.ready ⊆ s'.ready := by
  cases h with
  | idle _ => exact List.Subset.refl _
  | queue _ _ => exact List.Subset.refl _
  | @goOn job s₁ s₂ s' hbegins hquiet hleaves =>
      have hbefore : s₂.ready = s.ready := by
        rw [hquiet.ready]
        cases hbegins <;> rfl
      rw [← hbefore]
      cases hleaves with
      | ended ending =>
          obtain ⟨lines, drains, -, heq⟩ := endJob_run id index job ending s₂
          rw [heq]
          intro e he
          exact List.mem_append_left _ (List.mem_append_left _ he)
      | timed a millis => exact List.Subset.refl _
      | lined a name => exact List.Subset.refl _

private theorem ready_of_drainTurn {id : DispatcherId} {s s' : System} (h : DrainTurn id s s') :
    s.ready ⊆ s'.ready := by
  cases h with
  | idle _ => exact List.Subset.refl _
  | drained _ _ => exact List.subset_append_left _ _

private theorem runClose_ready (id : EngineId) (s : System) :
    System.ready ((runClose id).run s).2 = s.ready := by
  rcases runClose_cases id s with ⟨-, heq⟩ | ⟨-, hterminates⟩ | ⟨-, heq⟩
  · rw [heq]
  · exact hterminates.ready
  · rw [heq]
    rfl

/-- In a turn only the first errand goes on. -/
theorem ready_of_turn {deadline : Nat} {e : Errand} (he : e ∈ s.ready)
    (hlater : s.ready.head? ≠ some e) : e ∈ System.ready ((turn deadline).run s).2 := by
  rcases turn_cases deadline s with ⟨-, heq⟩ | ⟨-, moment, -, heq⟩ | ⟨errand, rest, hready, heq⟩
  · rwa [heq]
  · rw [heq]
    exact List.mem_append_left _ he
  · rw [heq]
    have hrest : e ∈ rest := by
      rw [hready] at he hlater
      rcases List.mem_cons.mp he with rfl | he
      · exact absurd rfl hlater
      · exact he
    cases errand with
    | job id index => exact (runJob_turn id index { s with ready := rest }).ready hrest
    | drain id => exact ready_of_drainTurn (runDrain_turn id { s with ready := rest }) hrest
    | close id =>
        change e ∈ System.ready ((runClose id).run { s with ready := rest }).2
        rw [runClose_ready]
        exact hrest

/-- A condition that errands have not gone. -/
private theorem linger {α : Type} {errands : List Errand} {x : InSystem α}
    (h : ∀ s, s.ready ⊆ System.ready (x.run s).2) :
    Ensures (errands ⊆ ·.ready) x fun _ s => errands ⊆ s.ready :=
  fun s hs => List.Subset.trans hs (h s)

private theorem linger_startFederation {errands : List Errand} (id : FederationId) :
    Ensures (errands ⊆ ·.ready) (startFederation id) fun _ s => errands ⊆ s.ready := by
  refine linger fun s => ?_
  rcases startFederation_run id s with ⟨heq, -⟩ | ⟨f, lines, -, heq⟩
  · rw [heq]
    exact List.Subset.refl _
  · rw [heq]
    exact List.Subset.refl _

private theorem linger_startDispatcher {errands : List Errand} (id : DispatcherId) :
    Ensures (errands ⊆ ·.ready) (startDispatcher id) fun _ s => errands ⊆ s.ready := by
  refine linger fun s e he => ?_
  rcases startDispatcher_run id s with heq | ⟨d, lines, -, heq⟩
  all_goals
    rw [heq]
    exact he

private theorem linger_shutdownDispatcher {errands : List Errand} (id : DispatcherId) :
    Ensures (errands ⊆ ·.ready) (shutdownDispatcher id) fun _ s => errands ⊆ s.ready := by
  refine .andThen (linger fun s => List.Subset.refl _) fun answer => ?_
  refine .andThen (linger fun s => List.Subset.refl _) fun _ => ?_
  split
  · exact linger fun s => List.subset_append_left _ _
  · exact linger fun s => List.Subset.refl _

private theorem linger_upholding {errands : List Errand} (id : EngineId) (e : Engine) :
    Upholding (errands ⊆ ·.ready) id e where
  writeLog _ := linger fun _ => List.Subset.refl _
  withLifecycle _ := linger fun _ => List.Subset.refl _
  startFederation := linger_startFederation e.federation
  startDispatcher := linger_startDispatcher e.dispatcher
  startService := linger fun s => by
    rw [(Aside.startService e.service s).ready]
    exact List.Subset.refl _
  shutdownFederation := linger fun _ => List.Subset.refl _
  shutdownDispatcher := linger_shutdownDispatcher e.dispatcher
  shutdownService := linger fun s => by
    rw [(Aside.shutdownService e.service s).ready]
    exact List.Subset.refl _

/-- In a step other than a turn no errand goes on. -/
theorem ready_of_step (h : Step direct s events s') :
    (∃ deadline, s' = ((turn deadline).run s).2) ∨ s.ready ⊆ s'.ready := by
  cases h with
  | turn deadline => exact .inl ⟨deadline, rfl⟩
  | quiet hquiet =>
      rw [hquiet.ready]
      exact .inr (List.Subset.refl _)
  | pass moment => exact .inr (List.Subset.refl _)
  | submit id work =>
      right
      by_cases haccepts : ((s.dispatcher id).accepting && (s.dispatcher id).lifecycle.isRunning) = true
      · rw [submitWork_accepted work haccepts]
        exact List.subset_append_left _ _
      · rw [submitWork_rejected work haccepts]
        exact List.Subset.refl _
  | openGate name permits => exact .inr (List.subset_append_left _ _)
  | startFederation id => exact .inr (linger_startFederation id s (List.Subset.refl _))
  | shutdownFederation id _ => exact .inr (List.Subset.refl _)
  | startDispatcher id => exact .inr (linger_startDispatcher id s (List.Subset.refl _))
  | shutdownDispatcher id => exact .inr (linger_shutdownDispatcher id s (List.Subset.refl _))
  | startEngine _ => exact .inr ((linger_upholding _ _).startEngine (List.Subset.refl _))
  | shutdownEngine _ =>
      exact .inr ((linger_upholding _ _).shutdownEngine
        (fun t ht => List.Subset.trans ht (List.subset_append_left _ _)) (List.Subset.refl _))
  | addDispatcher _ _ => exact .inr (List.Subset.refl _)
  | addEngine _ => exact .inr (List.Subset.refl _)

end ready

/-! ## Dispatchers that are to be drained -/

/-- If a dispatcher was shut down and has no jobs left, the errand is there that terminates it. -/
def System.Attentive (s : System) (id : DispatcherId) : Prop :=
  (s.dispatcher id).lifecycle.state = .stopping → (s.dispatcher id).isDrained = true →
    .drain id ∈ s.ready

section attentive

variable {direct : FederationId → Prop} {id : DispatcherId} {index : JobIndex} {s s' : System}
  {events : List JobEvent}

/-- Whoever ends the last job sees to it that the dispatcher is terminated. -/
private theorem attentive_endJob (job : Job Processor) (ending : Ending) :
    System.Attentive ((endJob id index job ending).run s).2 id := by
  rcases Nat.lt_or_ge id s.dispatchers.size with hlt | hge
  · unfold endJob
    rw [withDispatcher_bind]
    dsimp only
    generalize ((Dispatcher.record (s.dispatcher id) job ending).1.setStage index .finished).returnPermit
      = ended
    have hafter : (s.setDispatcher id ended.2).dispatcher id = ended.2 :=
      s.dispatcher_setDispatcher_self hlt _
    split
    · intro _ _
      exact List.mem_append_right _ (List.mem_singleton_self _)
    · rename_i hnot
      intro hstopping hdrained
      change ((s.setDispatcher id ended.2).dispatcher id).lifecycle.state = .stopping at hstopping
      change ((s.setDispatcher id ended.2).dispatcher id).isDrained = true at hdrained
      rw [hafter] at hstopping hdrained
      rw [hstopping, hdrained] at hnot
      exact absurd rfl hnot
  · -- a dispatcher that was not made is not shut down
    intro hstopping
    obtain ⟨lines, drains, -, heq⟩ := endJob_run id index job ending s
    rw [heq] at hstopping
    change ((s.setDispatcher id _).dispatcher id).lifecycle.state = .stopping at hstopping
    have hmade := System.dispatcher_lt_of_state _ fun hnew => nomatch hstopping.symm.trans hnew
    rw [s.dispatchers_size_setDispatcher] at hmade
    exact absurd hmade (Nat.not_lt_of_ge hge)

/-- A dispatcher is attentive as long as it has a job that has not ended. -/
private theorem attentive_of_job {job : DispatchedJob} (hjob : (s.dispatcher id).jobs[index]? = some job)
    (hstage : job.stage.isFinished = false) : s.Attentive id := by
  intro _ hdrained
  have := Dispatcher.finished_of_isDrained hdrained hjob
  rw [hstage] at this
  cases this

/-- A job that goes on has not ended, and whatever becomes of it, its dispatcher stays attentive. -/
private theorem attentive_jobTurn (h : JobTurn id index s s') (hs : s.Attentive id) :
    s'.Attentive id := by
  cases h with
  | idle _ => exact hs
  | @queue job hjob hfree =>
      have hlt := s.dispatcher_lt_of_job hjob
      have hqueued := Dispatcher.jobs_requestPermit_self hjob
      rw [if_pos hfree, ← s.dispatcher_setDispatcher_self hlt ((s.dispatcher id).requestPermit index)]
        at hqueued
      exact attentive_of_job hqueued rfl
  | @goOn job s₁ s₂ s' hbegins hquiet hleaves =>
      obtain ⟨stage, hjob⟩ : ∃ stage, (s₂.dispatcher id).jobs[index]? = some ⟨job, stage⟩ := by
        rw [System.dispatcher, hquiet.dispatchers]
        cases hbegins with
        | running hjob => exact ⟨_, hjob⟩
        | permitted hjob => exact ⟨_, hjob⟩
        | granted hjob hfree =>
            have hlt := s.dispatcher_lt_of_job hjob
            change ∃ stage, ((s.setDispatcher id _).dispatcher id).jobs[index]? = _
            rw [s.dispatcher_setDispatcher_self hlt]
            exact ⟨_, Dispatcher.jobs_requestPermit_self hjob⟩
      have hlt := s₂.dispatcher_lt_of_job hjob
      have hwaits : ∀ a, ((s₂.setDispatcher id ((s₂.dispatcher id).setStage index
          (.running a))).dispatcher id).jobs[index]? = some ⟨job, .running a⟩ := by
        intro a
        rw [s₂.dispatcher_setDispatcher_self hlt]
        exact Dispatcher.jobs_setStage_self hjob _
      cases hleaves with
      | ended ending => exact attentive_endJob job ending
      | timed a millis => exact attentive_of_job (hwaits a) rfl
      | lined a name => exact attentive_of_job (hwaits a) rfl

/-- In a step that neither shuts a dispatcher down nor goes on with the errand that terminates it the
dispatcher stays attentive. -/
private theorem attentive_of_step (hstep : Step direct s events s') (hid : id < s.dispatchers.size)
    (hstate : (s'.dispatcher id).lifecycle.state = (s.dispatcher id).lifecycle.state)
    (hready : .drain id ∈ s.ready → .drain id ∈ s'.ready) (hs : s.Attentive id) : s'.Attentive id := by
  have hsame : SameJobs id s s' → s'.Attentive id := by
    intro hjobs hstopping hdrained
    rw [hstate] at hstopping
    rw [hjobs.work.isDrained] at hdrained
    exact hready (hs hstopping hdrained)
  cases jobStep_of_step id hstep with
  | same hjobs _ => exact hsame hjobs
  | rejected hjobs _ => exact hsame hjobs
  | accepted work _ hrunning =>
      intro hstopping
      rw [hstate, hrunning] at hstopping
      cases hstopping
  | @went index rest _ hpopped hturn =>
      refine attentive_jobTurn hturn fun hstopping hdrained => ?_
      have hmem := hs hstopping hdrained
      rw [hpopped] at hmem
      exact (List.mem_cons.mp hmem).resolve_left fun h => nomatch h
  | made _ hmade => exact absurd hid (hmade ▸ Nat.lt_irrefl _)

end attentive

/-! ## What may happen to an engine -/

/-- Nobody starts or shuts down the engine or one of its parts. -/
structure Unmoved (id : EngineId) (s s' : System) : Prop where
  engine : s'.engine id = s.engine id
  federation : (s'.federation (s.engine id).federation).state =
    (s.federation (s.engine id).federation).state
  dispatcher : (s'.dispatcher (s.engine id).dispatcher).lifecycle.state =
    (s.dispatcher (s.engine id).dispatcher).lifecycle.state
  service : (s'.service (s.engine id).service).lifecycle.state =
    (s.service (s.engine id).service).lifecycle.state
  services : s.services.size ≤ s'.services.size

/-- What happens between the calls that start an engine and shut it down: jobs are submitted and have
their turns, time passes, and others do as they like, except with the engine and its parts. -/
inductive Meanwhile (id : EngineId) (s : System) : System → Prop
  | turn (deadline) : Meanwhile id s ((turn deadline).run s).2
  | pass (moment) : Meanwhile id s { s with clock := max s.clock moment }
  | submit (dispatcher work) : Meanwhile id s ((submitWork dispatcher work).run s).2
  | openGate (name permits) : Meanwhile id s ((openGate name permits).run s).2
  | other {events s'} : Step (· ≠ (s.engine id).federation) s events s' → Unmoved id s s' →
      Meanwhile id s s'

/-- The engine and its parts are as they were, except that its dispatcher may have terminated.  Then the
engine is woken, if it waits for that. -/
structure Drifts (id : EngineId) (s s' : System) : Prop where
  engine : s'.engine id = s.engine id
  federation : (s'.federation (s.engine id).federation).state =
    (s.federation (s.engine id).federation).state
  dispatcher : (s'.dispatcher (s.engine id).dispatcher).lifecycle.state =
      (s.dispatcher (s.engine id).dispatcher).lifecycle.state ∨
    (s.dispatcher (s.engine id).dispatcher).lifecycle.state = .stopping ∧
      (s'.dispatcher (s.engine id).dispatcher).lifecycle.state = .terminated ∧
      ∀ deadline, (s.engine id).closing = .waiting deadline → .close id ∈ s'.ready
  service : (s'.service (s.engine id).service).lifecycle.state =
    (s.service (s.engine id).service).lifecycle.state
  services : s.services.size ≤ s'.services.size
  close : .close id ∈ s.ready → .close id ∈ s'.ready
  attentive : s.Attentive (s.engine id).dispatcher → s'.Attentive (s.engine id).dispatcher

section drifts

variable {id : EngineId} {s s' : System} {events : List JobEvent}

/-- A step that is not about the engine or its parts, in which the errands about them do not go on. -/
private theorem drifts_of_step {direct : FederationId → Prop} (hstep : Step direct s events s')
    (hmade : (s.engine id).dispatcher < s.dispatchers.size) (hunmoved : Unmoved id s s')
    (hdrain : .drain (s.engine id).dispatcher ∈ s.ready → .drain (s.engine id).dispatcher ∈ s'.ready)
    (hclose : .close id ∈ s.ready → .close id ∈ s'.ready) : Drifts id s s' where
  engine := hunmoved.engine
  federation := hunmoved.federation
  dispatcher := .inl hunmoved.dispatcher
  service := hunmoved.service
  services := hunmoved.services
  close := hclose
  attentive := attentive_of_step hstep hmade hunmoved.dispatcher hdrain

private theorem Unmoved.of_eq (hengines : s'.engines = s.engines)
    (hfederations : s'.federations = s.federations)
    (hdispatcher : (s'.dispatcher (s.engine id).dispatcher).lifecycle.state =
      (s.dispatcher (s.engine id).dispatcher).lifecycle.state)
    (hservices : s'.services = s.services) : Unmoved id s s' where
  engine := by rw [System.engine, hengines, System.engine]
  federation := by rw [System.federation, hfederations, System.federation]
  dispatcher := hdispatcher
  service := by rw [System.service, hservices, System.service]
  services := Nat.le_of_eq (by rw [hservices])

/-- Jobs change no states. -/
private theorem unmoved_jobTurn {dispatcher : DispatcherId} {index : JobIndex}
    (h : JobTurn dispatcher index s s') (hservices : s'.services = s.services) : Unmoved id s s' where
  engine :=
    have hsame : SameEngine (fun _ => True) id s s' := sameEngine_jobTurn h
    hsame.engine
  federation := h.state _
  dispatcher := by rw [(h.office.2 _).lifecycle]
  service := by rw [System.service, hservices, System.service]
  services := Nat.le_of_eq (by rw [hservices])

/-- Closing another engine. -/
private theorem unmoved_runClose (happart : s.Apart) (hid : id < s.engines.size) {other : EngineId}
    (hne : other ≠ id) : Unmoved id s ((runClose other).run s).2 := by
  rcases runClose_cases other s with ⟨-, heq⟩ | ⟨-, hterminates⟩ | ⟨-, heq⟩
  · rw [heq]
    exact .of_eq rfl rfl rfl rfl
  · rcases Nat.lt_or_ge other s.engines.size with hlt | hge
    · refine ⟨hterminates.others id hne.symm, ?_, ?_, ?_, ?_⟩
      · rw [hterminates.federations _ (happart id other hid hlt hne.symm)]
      · rw [System.dispatcher, hterminates.dispatchers, System.dispatcher]
      · rw [System.service, hterminates.services, System.service]
      · exact Nat.le_of_eq (by rw [hterminates.services])
    · -- an engine that was not made has nothing to close
      have hidle : (s.engine other).closing = .idle := by
        rw [s.engine_out hge]
        rfl
      rw [(runClose_turn other s).eq_of_idle hidle]
      exact .of_eq rfl rfl rfl rfl
  · rw [heq]
    refine ⟨?_, rfl, rfl, rfl, Nat.le_refl _⟩
    exact (s.engine_setEngine other id _).trans (if_neg fun h => hne h.1.symm)

/-- An engine that waits is one of those that wait for its dispatcher. -/
private theorem mem_waitingEngines {deadline : Nat} (h : (s.engine id).closing = .waiting deadline) :
    id ∈ waitingEngines s (s.engine id).dispatcher := by
  have hid : id < s.engines.size := by
    apply s.engine_lt_of_closing
    rw [h]
    exact nofun
  refine List.mem_filter.mpr ⟨List.mem_range.mpr hid, ?_⟩
  simp [h]

/-- After the errand that terminates a dispatcher nothing is left to do for it. -/
private theorem attentive_of_drainTurn {dispatcher : DispatcherId} (h : DrainTurn dispatcher s s') :
    s'.Attentive dispatcher := by
  cases h with
  | idle hnot => exact fun hstopping hdrained => absurd ⟨hstopping, hdrained⟩ hnot
  | drained hbefore _ =>
      exact fun hstopping => nomatch hstopping.symm.trans (s.state_of_drained hbefore)

/-- When its dispatcher terminates, an engine that waits for it is woken. -/
private theorem drifts_drainTurn (h : DrainTurn (s.engine id).dispatcher s s') : Drifts id s s' := by
  have hattentive := attentive_of_drainTurn h
  cases h with
  | idle _ => exact ⟨rfl, rfl, .inl rfl, rfl, Nat.le_refl _, fun h => h, fun h => h⟩
  | drained hstopping _ =>
      refine ⟨rfl, rfl, .inr ⟨hstopping, s.state_of_drained hstopping, fun deadline hwaiting => ?_⟩, rfl,
        Nat.le_refl _, fun h => List.mem_append_left _ h, fun _ => hattentive⟩
      refine List.mem_append_right _ (List.mem_map_of_mem ?_)
      exact mem_waitingEngines (s := s.setDispatcher (s.engine id).dispatcher _) hwaiting

/-- A turn in which the errands about the engine and its dispatcher do not go on. -/
private theorem unmoved_turn (happart : s.Apart) (hid : id < s.engines.size) {deadline : Nat}
    (hclose : s.ready.head? ≠ some (.close id))
    (hdrain : s.ready.head? ≠ some (.drain (s.engine id).dispatcher)) :
    Unmoved id s ((turn deadline).run s).2 := by
  have hservices := ((Background.enduring s).turn deadline s (.refl s)).services
  rcases turn_cases deadline s with ⟨-, heq⟩ | ⟨-, moment, -, heq⟩ | ⟨errand, rest, hready, heq⟩
  · rw [heq]
    exact .of_eq rfl rfl rfl rfl
  · rw [heq]
    exact .of_eq rfl rfl rfl rfl
  rw [hready] at hclose hdrain
  rw [heq] at hservices ⊢
  cases errand with
  | job dispatcher index =>
      have hturn : Unmoved id { s with ready := rest } _ :=
        unmoved_jobTurn (runJob_turn dispatcher index { s with ready := rest }) hservices
      exact ⟨hturn.engine, hturn.federation, hturn.dispatcher, hturn.service, hturn.services⟩
  | drain dispatcher =>
      have hne : (s.engine id).dispatcher ≠ dispatcher := fun h => hdrain (h ▸ rfl)
      change Unmoved id s (if _ then _ else { s with ready := rest })
      split
      · refine .of_eq rfl rfl ?_ rfl
        change (({ s with ready := rest }.setDispatcher dispatcher _).dispatcher _).lifecycle.state = _
        rw [System.dispatcher_setDispatcher, if_neg fun h => hne h.1]
        rfl
      · exact .of_eq rfl rfl rfl rfl
  | close other =>
      have hne : other ≠ id := fun h => hclose (h ▸ rfl)
      have hclosed := unmoved_runClose (s := { s with ready := rest }) happart hid hne
      exact ⟨hclosed.engine, hclosed.federation, hclosed.dispatcher, hclosed.service, hclosed.services⟩

/-- The errand that closes the engine goes on. -/
def Closes (id : EngineId) (s s' : System) : Prop :=
  ∃ rest, s.ready = .close id :: rest ∧ s' = ((runClose id).run { s with ready := rest }).2

/-- What a turn can do to an engine. -/
private theorem closes_or_drifts_turn (happart : s.Apart) (hid : id < s.engines.size)
    (hmade : (s.engine id).dispatcher < s.dispatchers.size) (deadline : Nat) :
    Closes id s ((turn deadline).run s).2 ∨ Drifts id s ((turn deadline).run s).2 := by
  -- the errand that goes on, if it is about the engine or its dispatcher
  have hfirst : ∀ errand, s.ready.head? = some errand → ∃ rest, s.ready = errand :: rest ∧
      ((turn deadline).run s).2 = ((runErrand errand).run { s with ready := rest }).2 := by
    intro errand hhead
    rcases turn_cases deadline s with ⟨hnone, -⟩ | ⟨hnone, -⟩ | ⟨first, rest, hready, heq⟩
    · rw [hnone] at hhead
      cases hhead
    · rw [hnone] at hhead
      cases hhead
    · rw [hready] at hhead
      obtain rfl := Option.some.inj hhead
      exact ⟨rest, hready, heq⟩
  by_cases hclose : s.ready.head? = some (.close id)
  · left
    exact hfirst _ hclose
  right
  by_cases hdrain : s.ready.head? = some (.drain (s.engine id).dispatcher)
  · obtain ⟨rest, hready, heq⟩ := hfirst _ hdrain
    have hturn := runDrain_turn (s.engine id).dispatcher { s with ready := rest }
    have hdrifts : Drifts id { s with ready := rest } _ := drifts_drainTurn hturn
    have hattentive := attentive_of_drainTurn hturn
    rw [heq]
    refine ⟨hdrifts.engine, hdrifts.federation, hdrifts.dispatcher, hdrifts.service, hdrifts.services,
      fun hmem => hdrifts.close ?_, fun _ => hattentive⟩
    rw [hready] at hmem
    exact (List.mem_cons.mp hmem).resolve_left fun h => nomatch h
  · have hstep : Step (fun _ => True) s _ _ := .turn deadline s
    exact drifts_of_step hstep hmade
      (unmoved_turn happart hid hclose hdrain) (fun hmem => ready_of_turn hmem hdrain)
      fun hmem => ready_of_turn hmem hclose

theorem Meanwhile.step (h : Meanwhile id s s') :
    ∃ events, Step (· ≠ (s.engine id).federation) s events s' := by
  cases h with
  | turn deadline => exact ⟨_, .turn deadline s⟩
  | pass moment => exact ⟨_, .pass moment s⟩
  | submit dispatcher work => exact ⟨_, .submit dispatcher work s⟩
  | openGate name permits => exact ⟨_, .openGate name permits s⟩
  | other hstep _ => exact ⟨_, hstep⟩

private theorem unmoved_submit (dispatcher : DispatcherId) (work : WorkItem Processor) (s : System) :
    Unmoved id s ((submitWork dispatcher work).run s).2 := by
  have hset : ∀ d : Dispatcher, d.lifecycle = (s.dispatcher dispatcher).lifecycle →
      (({ s with nextJob := s.nextJob + 1 }.setDispatcher dispatcher d).dispatcher
        (s.engine id).dispatcher).lifecycle.state =
          (s.dispatcher (s.engine id).dispatcher).lifecycle.state := by
    intro d hd
    rw [System.dispatcher_setDispatcher]
    split
    · rename_i hown
      rw [hd, hown.1]
    · rfl
  by_cases haccepts : ((s.dispatcher dispatcher).accepting &&
      (s.dispatcher dispatcher).lifecycle.isRunning) = true
  · rw [submitWork_accepted work haccepts]
    exact .of_eq rfl rfl (hset _ rfl) rfl
  · rw [submitWork_rejected work haccepts]
    exact .of_eq rfl rfl (hset _ rfl) rfl

/-- What can happen to an engine between the calls that start it and shut it down. -/
theorem Meanwhile.closes_or_drifts (h : Meanwhile id s s') (happart : s.Apart)
    (hid : id < s.engines.size) (hmade : (s.engine id).dispatcher < s.dispatchers.size) :
    Closes id s s' ∨ Drifts id s s' := by
  have hunmoved : (∃ deadline, s' = ((ContentEngine.turn deadline).run s).2) ∨ Unmoved id s s' := by
    cases h with
    | turn deadline => exact .inl ⟨deadline, rfl⟩
    | pass moment => exact .inr (.of_eq rfl rfl rfl rfl)
    | submit dispatcher work => exact .inr (unmoved_submit dispatcher work s)
    | openGate name permits => exact .inr (.of_eq rfl rfl rfl rfl)
    | other _ hunmoved => exact .inr hunmoved
  obtain ⟨events, hstep⟩ := h.step
  rcases ready_of_step hstep with ⟨deadline, rfl⟩ | hready
  · exact closes_or_drifts_turn happart hid hmade deadline
  · rcases hunmoved with ⟨deadline, rfl⟩ | hunmoved
    · exact closes_or_drifts_turn happart hid hmade deadline
    · right
      exact drifts_of_step hstep hmade hunmoved (fun h => hready h) fun h => hready h

end drifts

end ContentEngine
