import ContentEngine.Proofs.Run.Drain

/-!
# Engines that are built

What holds of all systems that are reached holds of engines as they are built: building one is a run,
which makes a federation of its own, registers sources with it, and makes the rest at its end.
-/

namespace ContentEngine

/-! ## Steps that make no engine -/

/-- No engine is made, and federations stay. -/
structure Idle (s s' : System) : Prop where
  engines : s'.engines.size = s.engines.size
  federations : s.federations.size ≤ s'.federations.size

namespace Idle

variable {s s' : System}

theorem refl (s : System) : Idle s s :=
  ⟨rfl, Nat.le_refl _⟩

theorem trans {s'' : System} (h : Idle s s') (h' : Idle s' s'') : Idle s s'' :=
  ⟨h'.engines.trans h.engines, Nat.le_trans h.federations h'.federations⟩

theorem of_quiet (h : Quiet s s') : Idle s s' :=
  ⟨congrArg Array.size h.engines, h.federations⟩

private theorem jobTurn {id : DispatcherId} {index : JobIndex} (h : JobTurn id index s s') :
    Idle s s' := by
  cases h with
  | idle _ => exact refl s
  | queue _ _ => exact ⟨rfl, Nat.le_refl _⟩
  | @goOn job s₁ s₂ s' hbegins hquiet hleaves =>
      have hbefore : Idle s s₁ := by
        cases hbegins with
        | running _ => exact refl s
        | permitted _ => exact refl s
        | granted _ _ => exact ⟨rfl, Nat.le_refl _⟩
      refine (hbefore.trans (of_quiet hquiet)).trans ?_
      cases hleaves with
      | ended ending =>
          obtain ⟨_, _, -, heq⟩ := endJob_run id index job ending s₂
          rw [heq]
          exact ⟨rfl, Nat.le_refl _⟩
      | timed a millis => exact ⟨rfl, Nat.le_refl _⟩
      | lined a name => exact ⟨rfl, Nat.le_refl _⟩

private theorem closeEngine (id : EngineId) (s : System) : Idle s ((closeEngine id).run s).2 :=
  ⟨Array.size_setIfInBounds, Nat.le_of_eq Array.size_setIfInBounds.symm⟩

private theorem drainTurn {id : DispatcherId} (h : DrainTurn id s s') : Idle s s' := by
  cases h with
  | idle _ => exact refl s
  | drained _ _ => exact ⟨rfl, Nat.le_refl _⟩

private theorem closeTurn {id : EngineId} (h : CloseTurn id s s') : Idle s s' := by
  cases h with
  | idle _ => exact refl s
  | close _ _ => exact closeEngine id s
  | wait _ _ => exact ⟨Array.size_setIfInBounds, Nat.le_refl _⟩
  | overdue _ _ => exact .trans (of_quiet (.of_aside (.addLog s _))) (closeEngine id _)

theorem turn (deadline : Nat) (s : System) : Idle s ((turn deadline).run s).2 := by
  rcases turn_cases deadline s with ⟨-, heq⟩ | ⟨-, moment, -, heq⟩ | ⟨errand, rest, -, heq⟩
  · rw [heq]
    exact refl s
  · rw [heq]
    exact ⟨rfl, Nat.le_refl _⟩
  rw [heq]
  refine .trans (?_ : Idle s { s with ready := rest }) ?_
  · exact ⟨rfl, Nat.le_refl _⟩
  cases errand with
  | job id index => exact jobTurn (runJob_turn id index _)
  | drain id => exact drainTurn (runDrain_turn id _)
  | close id => exact closeTurn (runClose_turn id _)

theorem submit (id : DispatcherId) (work : WorkItem Processor) (s : System) :
    Idle s ((submitWork id work).run s).2 := by
  by_cases haccepts : ((s.dispatcher id).accepting && (s.dispatcher id).lifecycle.isRunning) = true
  · rw [submitWork_accepted work haccepts]
    exact ⟨rfl, Nat.le_refl _⟩
  · rw [submitWork_rejected work haccepts]
    exact ⟨rfl, Nat.le_refl _⟩

end Idle

/-! ## Federations stay -/

section federations

variable {direct : FederationId → Prop} {s s' : System} {events : List JobEvent}

/-- A condition that there are so many federations. -/
private theorem house {α : Type} {n : Nat} {x : InSystem α}
    (h : ∀ s, s.federations.size ≤ (System.federations (x.run s).2).size) :
    Ensures (n ≤ ·.federations.size) x fun _ s => n ≤ s.federations.size :=
  fun s hs => Nat.le_trans hs (h s)

private theorem house_startFederation {n : Nat} (id : FederationId) :
    Ensures (n ≤ ·.federations.size) (startFederation id) fun _ s => n ≤ s.federations.size := by
  refine house fun s => ?_
  rcases startFederation_run id s with ⟨heq, -⟩ | ⟨f, lines, -, heq⟩
  · exact heq ▸ Nat.le_refl _
  · exact heq ▸ Nat.le_of_eq Array.size_setIfInBounds.symm

private theorem house_shutdownFederation {n : Nat} (id : FederationId) :
    Ensures (n ≤ ·.federations.size) (shutdownFederation id) fun _ s => n ≤ s.federations.size :=
  house fun _ => Nat.le_of_eq Array.size_setIfInBounds.symm

private theorem house_startDispatcher {n : Nat} (id : DispatcherId) :
    Ensures (n ≤ ·.federations.size) (startDispatcher id) fun _ s => n ≤ s.federations.size := by
  refine house fun s => ?_
  rcases startDispatcher_run id s with heq | ⟨d, lines, -, heq⟩
  · exact Nat.le_of_eq (congrArg (·.federations.size) heq).symm
  · exact Nat.le_of_eq (congrArg (·.federations.size) heq).symm

private theorem house_shutdownDispatcher {n : Nat} (id : DispatcherId) :
    Ensures (n ≤ ·.federations.size) (shutdownDispatcher id) fun _ s => n ≤ s.federations.size := by
  refine .andThen (house fun s => Nat.le_refl _) fun answer => ?_
  refine .andThen (house fun s => Nat.le_refl _) fun _ => ?_
  split <;> exact house fun s => Nat.le_refl _

private theorem house_upholding {n : Nat} (id : EngineId) (e : Engine) :
    Upholding (n ≤ ·.federations.size) id e where
  writeLog _ := house fun _ => Nat.le_refl _
  withLifecycle _ := house fun _ => Nat.le_refl _
  startFederation := house_startFederation e.federation
  startDispatcher := house_startDispatcher e.dispatcher
  startService := house fun s => Nat.le_of_eq (Aside.startService _ s).federations_size.symm
  shutdownFederation := house_shutdownFederation e.federation
  shutdownDispatcher := house_shutdownDispatcher e.dispatcher
  shutdownService := house fun s => Nat.le_of_eq (Aside.shutdownService _ s).federations_size.symm

/-- Federations that were made stay. -/
theorem federations_size_le (h : Step direct s events s') :
    s.federations.size ≤ s'.federations.size := by
  cases h with
  | quiet hquiet => exact hquiet.federations
  | turn deadline => exact (Idle.turn deadline s).federations
  | pass moment => exact Nat.le_refl _
  | submit id work => exact (Idle.submit id work s).federations
  | openGate name permits => exact Nat.le_refl _
  | startFederation id => exact house_startFederation id s (Nat.le_refl _)
  | shutdownFederation id _ => exact house_shutdownFederation id s (Nat.le_refl _)
  | startDispatcher id => exact house_startDispatcher id s (Nat.le_refl _)
  | shutdownDispatcher id => exact house_shutdownDispatcher id s (Nat.le_refl _)
  | startEngine _ => exact (house_upholding _ _).startEngine (Nat.le_refl _)
  | shutdownEngine _ =>
      exact (house_upholding _ _).shutdownEngine (fun _ ht => ht) (Nat.le_refl _)
  | addDispatcher _ _ => exact Nat.le_refl _
  | addEngine _ => exact Nat.le_refl _

/-- Each engine has a federation that was made. -/
theorem housed_of_reachable (h : Reachable direct s) :
    ∀ id < s.engines.size, (s.engine id).federation < s.federations.size := by
  obtain ⟨_, hrun⟩ := h
  refine (hrun.invariant (I := fun s => s.Apart ∧
    ∀ id < s.engines.size, (s.engine id).federation < s.federations.size) ?_ ?_).2
  · exact ⟨fun i _ hi => absurd hi (Nat.not_lt_zero i), fun i hi => absurd hi (Nat.not_lt_zero i)⟩
  · intro s events s' hstep ⟨happart, hs⟩
    refine ⟨happart.step hstep, fun id hid => Nat.lt_of_lt_of_le ?_ (federations_size_le hstep)⟩
    have hstays := (engineStep_of_step id happart hstep).stays
    rcases hstays.made hid with hid | ⟨-, hfresh⟩
    · rw [(hstays.parts hid).2.federation]
      exact hs id hid
    · exact hfresh.federation

end federations

/-! ## Building -/

/-- While an engine is being built its federation is nobody else's. -/
structure Building (direct : FederationId → Prop) (federation : FederationId) (s : System) : Prop where
  reachable : Reachable direct s
  made : federation < s.federations.size
  alone : ∀ id < s.engines.size, (s.engine id).federation ≠ federation

section build

variable {direct : FederationId → Prop} {federation : FederationId} {s s' : System}
  {events : List JobEvent}

theorem Building.step (h : Building direct federation s) (hidle : Idle s s')
    (hstep : Step direct s events s') : Building direct federation s' where
  reachable := h.reachable.run (.step .start hstep)
  made := Nat.lt_of_lt_of_le h.made hidle.federations
  alone id hid := by
    have hid : id < s.engines.size := hidle.engines ▸ hid
    have hstays := (engineStep_of_step id (apart_of_reachable h.reachable) hstep).stays
    rw [(hstays.parts hid).2.federation]
    exact h.alone id hid

theorem Building.quiet (h : Building direct federation s) (hquiet : Quiet s s') :
    Building direct federation s' :=
  h.step (.of_quiet hquiet) (.quiet hquiet)

/-- Nothing that is done while an engine is being built makes another engine. -/
theorem lasting_building :
    Lasting fun _ => Building direct federation where
  aside haside := fun h => h.quiet (.of_aside haside)
  turn deadline _ s := fun h => h.step (.turn deadline s) (.turn deadline s)
  pass moment := fun {_ s} h => h.step ⟨rfl, Nat.le_refl _⟩ (.pass moment s)
  install id _ _ _ _ s := fun h => h.quiet (.withFederation id (fun f d => install_state f d _ _ _) s)
  remove id name _ s := fun h => h.quiet (.withFederation id (fun f d => remove_state f d name) s)
  request id _ _ s := fun h => h.quiet (.withFederation id (fun _ _ => rfl) s)
  resume id _ _ s := fun h => h.quiet (.withFederation id (fun _ _ => rfl) s)
  abandon := id
  giveBack _ _ _ := fun h => h.quiet (.of_eq rfl rfl rfl rfl rfl rfl rfl rfl)
  submit id work _ s := fun h => h.step (.submit id work s) (.submit id work s)

/-- A federation that is made for an engine is nobody else's. -/
theorem building_addFederation (h : Reachable direct s) {f : Federation}
    (hf : f.state = .notStarted) :
    Building direct s.federations.size ((addFederation f).run s).2 := by
  refine ⟨h.run (.step .start (.quiet (.addFederation hf s))), ?_, fun id hid => ?_⟩
  · exact Nat.lt_of_lt_of_eq (Nat.lt_succ_self _) (Array.size_push f).symm
  · exact Nat.ne_of_lt (housed_of_reachable h id hid)

/-- An engine is made after its dispatcher, on the federation that was made for it. -/
private theorem reachable_addEngine {engine : String} {poolSize capacity : Nat} {d : Dispatcher}
    {e : Engine} (h : Building direct federation s)
    (hnew : Dispatcher.new? engine federation poolSize capacity = some d)
    (hquiet : Quiet ((addDispatcher d).run s).2 s') (hlifecycle : e.lifecycle.state = .notStarted)
    (hclosing : e.closing = .idle) (hdispatcher : e.dispatcher = s.dispatchers.size)
    (hfederation : e.federation = federation) :
    Reachable direct { s' with engines := s'.engines.push e } := by
  have hmade : Reachable direct s' :=
    h.reachable.run ((Run.start.step (.addDispatcher s hnew)).step (.quiet hquiet))
  have hdispatchers : s'.dispatchers = s.dispatchers.push d := hquiet.dispatchers
  have hengines : s'.engines = s.engines := hquiet.engines
  refine hmade.run (.step .start (.addEngine ⟨hlifecycle, hclosing, ?_, ?_, ?_, ?_⟩))
  · rw [hdispatcher, hdispatchers, Array.size_push]
    exact Nat.lt_succ_self _
  · rw [hdispatcher, hfederation, System.dispatcher, hdispatchers, System.getD_push, if_pos rfl]
    exact (Dispatcher.asMade hnew).federation
  · rw [hfederation]
    exact Nat.lt_of_lt_of_le h.made hquiet.federations
  · rw [hfederation, hengines]
    simpa only [System.engine, hengines] using h.alone

/-- The parts of an engine and the engine itself are made in the end. -/
private theorem reachable_buildOn (blueprint : Blueprint) (root : NodePath) (bus : BusId)
    (graph : Graph) :
    Ensures (Building direct federation) (buildOn blueprint root bus federation graph)
      fun _ => Reachable direct := by
  have hlasting : Lasting fun _ => Building direct federation := lasting_building
  unfold buildOn
  refine .andThen (hlasting.scanConfiguration [] graph root) fun scan => ?_
  refine .andThen (hlasting.applyDescriptors [] federation scan.sources) fun applied => ?_
  dsimp only
  refine .andThen (hlasting.changeBus [] bus _) fun observer => ?_
  split
  · exact .answer fun _ hs => hs.reachable
  · rename_i d hnew
    intro s hs
    exact reachable_addEngine hs hnew (.of_eq rfl rfl rfl rfl rfl rfl rfl rfl) rfl rfl rfl rfl

/-- Looking at the configuration source changes nothing. -/
theorem Repository.ensures_configurationGraph {P : System → Prop} (r : Repository) :
    Ensures P r.configurationGraph fun _ => P := by
  unfold Repository.configurationGraph Repository.graph Graph.ofSource
  refine .seq (.part (Q := fun _ => P) fun _ hs => hs) fun f => ?_
  refine .seq (.part (Q := fun _ => P) fun _ hs => hs) fun f' => ?_
  refine .andThen (R := P) ?_ fun source => ?_
  · refine .seq (.part (Q := fun _ => P) fun _ hs => hs) fun f'' => ?_
    exact .answer fun _ hs => hs
  · cases source <;> exact .answer fun _ hs => hs

/-- An engine is built on a bus and a federation that are made for it.  What holds of them is upheld while
the configuration source is registered, and then the rest is made. -/
theorem ensures_buildEngine {I : System → Prop} {J : BusId → System → Prop}
    {K : BusId → FederationId → System → Prop} {Q : Except BuildFailure EngineId → System → Prop}
    (blueprint : Blueprint) (hrefused : ∀ failure s, I s → Q (.error failure) s)
    (hbus : ∀ engine capacity, Ensures I (addBus (.new engine capacity)) J)
    (hfederation : ∀ bus f, f.state = .notStarted → Ensures (J bus) (addFederation f) (K bus))
    (hregister : ∀ bus federation name plan, Ensures (K bus federation)
      (registerConnector federation name plan) fun _ => K bus federation)
    (hfailed : ∀ bus federation failure s, K bus federation s → Q (.error failure) s)
    (hrest : ∀ root bus federation graph,
      Ensures (K bus federation) (buildOn blueprint root bus federation graph) Q) :
    Ensures I (buildEngine blueprint) Q := by
  unfold buildEngine
  dsimp only
  split
  · exact .answer (hrefused _)
  · exact .answer (hrefused _)
  · rename_i root _ _
    refine .seq (hbus _ _) fun bus => ?_
    refine .seq (hfederation bus _ rfl) fun federation => ?_
    refine .andThen (hregister bus federation _ _) fun registered => ?_
    cases registered with
    | error fault => exact .answer (hfailed bus federation _)
    | ok _ =>
        refine .andThen (Repository.ensures_configurationGraph _) fun graph => ?_
        cases graph with
        | error fault => exact .answer (hfailed bus federation _)
        | ok graph => exact hrest root bus federation graph

/-- Building an engine leads from a system that is reached to another one. -/
theorem reachable_buildEngine (blueprint : Blueprint) (h : Reachable direct s) :
    Reachable direct ((buildEngine blueprint).run s).2 := by
  have hlasting : ∀ federation, Lasting fun _ => Building direct federation := fun _ => lasting_building
  refine ensures_buildEngine (J := fun _ => Reachable direct) (K := fun _ => Building direct)
    (Q := fun _ => Reachable direct) blueprint (fun _ _ hs => hs) (fun engine capacity s hs => ?_)
    (fun bus f hf s hs => building_addFederation hs hf)
    (fun bus federation name plan => (hlasting federation).registerConnector [] federation name plan)
    (fun _ _ _ _ hs => hs.reachable) (fun root bus federation graph => ?_) s h
  · exact hs.run (.step .start (.quiet (.of_eq rfl rfl rfl rfl rfl rfl rfl rfl)))
  · exact reachable_buildOn blueprint root bus graph

end build

end ContentEngine
