import ContentEngine.Proofs.Run.Dormant

/-!
# Errors in the configuration block an engine

An engine whose configuration has errors can be built, so that its problems can be looked at, but it never
runs.  Whoever starts it is told so, before and after any shutdown; accessors let nobody pass; and while
stores are edited and events published, its configuration is followed but no jobs are made.

## Strategy

`Use` is what can be done with an engine while its calls go on, and `UseRun` are the runs of calls and uses.
An engine that was built with errors is `Dormant`, and it stays so after each piece of a call and each use,
by induction on the run.  What is seen of it at any moment (`Blocked`) follows from that.
-/

namespace ContentEngine

/-! ## Uses of an engine -/

/-- What others do that leaves the engine and its parts to themselves: no job is offered to its dispatcher,
its bus stays as it is, and no service that works for its dispatcher comes to observe another bus. -/
structure Elsewhere (id : EngineId) (s s' : System) : Prop where
  step : ∃ events, Step (· ≠ (s.engine id).federation) s events s' ∧
    events.countP (JobEvent.offers (s.engine id).dispatcher) = 0
  unmoved : Unmoved id s s'
  bus : s'.bus (s.engine id).bus = s.bus (s.engine id).bus
  services : s.Hears (fun v => (s.service v).dispatcher ≠ (s.engine id).dispatcher) →
    s'.Hears fun v => (s'.service v).dispatcher ≠ (s.engine id).dispatcher

/-- What happens to an engine besides the calls that start it and shut it down. -/
inductive Use (id : EngineId) (s : System) : System → Prop
  | turn (deadline) : Use id s ((turn deadline).run s).2
  | pass (moment) : Use id s { s with clock := max s.clock moment }
  | edit (store) (e : StoreEdit) : Use id s ((e.perform store).run s).2
  | publish (bus event) : Use id s ((publish bus event).run s).2
  /-- Observers come to a bus and go. -/
  | act (bus act) : Bus.Act.enlists act = none → Use id s (s.setBus bus ((s.bus bus).after act))
  | access {α : Type} (access : Engine → InSystem (Except Fault α)) :
      Use id s ((guarded id access).run s).2
  | configurationGraph : Use id s ((engineConfigurationGraph id).run s).2
  | read (graph : Graph) (root depth) : Use id s ((graph.subgraph root depth).run s).2
  | await (millis) : Use id s ((awaitEngine id millis).run s).2
  | other {s'} : Elsewhere id s s' → Use id s s'

/-- The systems that are reached from a first one by calls to start or shut down an engine and by other
uses of it, with the calls that have come to their end and the one that is under way. -/
inductive UseRun (id : EngineId) (s₀ : System) : List EngineCall → Option PendingCall → System → Prop
  | start : UseRun id s₀ [] none s₀
  | call {calls s} (op : Operation) : UseRun id s₀ calls none s →
      UseRun id s₀ calls (some ⟨op, s.clock, op.pieces id⟩) s
  | goOn {calls op begun s} {β : Type} {first : InSystem β} {rest} :
      UseRun id s₀ calls (some ⟨op, begun, .piece first rest⟩) s →
        UseRun id s₀ calls (some ⟨op, begun, rest (first.run s).1⟩) (first.run s).2
  | finish {calls op begun answer s} : UseRun id s₀ calls (some ⟨op, begun, .done answer⟩) s →
      UseRun id s₀ (calls ++ [⟨op, begun, answer⟩]) none s
  | use {calls pending s s'} : UseRun id s₀ calls pending s → Use id s s' →
      UseRun id s₀ calls pending s'

/-! ## What is seen -/

/-- Whoever asks for something is told that the engine does not run, and nothing changes. -/
def IsRefused {α : Type} (s : System) (accessor : InSystem (Except Fault α)) : Prop :=
  ∃ reason, accessor.run s = (.error (.notRunning reason), s)

/-- What is sure about an engine that was built with the given problems, given the calls that have come to
their end.  It is `alone` if services on other buses worked for other dispatchers from the beginning. -/
structure Blocked (id : EngineId) (problems : Problems) (alone : Prop) (calls : List EngineCall)
    (s : System) : Prop where
  /-- Each start was answered that the engine does not run, ... -/
  answers : ∀ call ∈ calls, call.operation = .start → ∃ reason, call.answer = .error (.notRunning reason)
  /-- ... and one more would be, and would change nothing but the log. -/
  start : ∃ reason, (startEngine id).run s =
    (.error (.notRunning reason), s.addLog (refusalLines (s.engine id)))
  states : (s.states id).AreDown
  /-- No service observes the engine's bus. -/
  unobserved : ∀ entry ∈ (s.bus (s.engine id).bus).observers, ∀ v, entry.2 ≠ .processing v
  /-- No job was ever accepted by the engine's dispatcher, and none was run, ... -/
  unused : (s.dispatcher (s.engine id).dispatcher).Unused
  /-- ... and if it is alone, none was offered to it. -/
  unoffered : alone → (s.dispatcher (s.engine id).dispatcher).offered = 0
  connection : ∀ name, IsRefused s (engineConnection id name)
  federation : IsRefused s (engineFederation id)
  repository : IsRefused s (engineRepository id)
  service : IsRefused s (engineService id)
  detectors : IsRefused s (engineDetectors id)
  graph : ∀ name, IsRefused s (engineGraph id name)
  problems : (s.engine id).problems = problems

section use

variable {e : Engine} {id : EngineId} {alone : Prop} {s₀ s s' : System} {calls : List EngineCall}
  {pending : Option PendingCall}

/-- The accessors of an engine that is down let nobody pass. -/
theorem guarded_refused {α : Type} (h : (s.states id).AreDown)
    (access : Engine → InSystem (Except Fault α)) : IsRefused s (guarded id access) := by
  have hnot : (s.guard (s.engine id)).isRunning = false := by
    have hfederation : (s.federation (s.engine id).federation).state ≠ .running :=
      h.federation.not_running
    unfold System.guard StateGuard.isRunning
    simp [hfederation]
  unfold IsRefused guarded StateGuard.requireRunning
  rw [get_bind]
  dsimp only
  rw [if_neg (by rw [hnot]; exact Bool.false_ne_true)]
  exact ⟨_, rfl⟩

/-- What is done elsewhere brings no observer to the engine's bus, and none that works for its
dispatcher to another. -/
theorem Dormant.hears_elsewhere (h : Dormant e id alone s) (helsewhere : Elsewhere id s s') :
    s'.HearsAt fun bus v => bus ≠ e.bus ∧ (alone → (s'.service v).dispatcher ≠ e.dispatcher) := by
  intro bus entry hentry
  -- nothing was changed on the engine's bus, and the services that came to others are not its own
  by_cases hown : bus = e.bus
  · rw [hown, ← h.later.bus, helsewhere.bus, h.later.bus] at hentry
    exact (h.hears e.bus entry hentry).mono fun v hv => absurd rfl hv.1
  by_cases halone : alone
  · have hbefore : s.Hears fun v => (s.service v).dispatcher ≠ (s.engine id).dispatcher := by
      rw [h.later.dispatcher]
      exact fun other o ho => (h.hears other o ho).mono fun v hv => hv.2 halone
    have hafter := helsewhere.services hbefore bus entry hentry
    rw [h.later.dispatcher] at hafter
    exact hafter.mono fun v hv => ⟨hown, fun _ => hv⟩
  · exact entry.2.isHeard_all.mono fun v _ => ⟨hown, fun h => absurd h halone⟩

theorem Dormant.elsewhere (h : Dormant e id alone s) (helsewhere : Elsewhere id s s') :
    Dormant e id alone s' := by
  obtain ⟨events, hstep, hoffers⟩ := helsewhere.step
  rw [h.later.dispatcher] at hoffers
  exact h.meanwhile (.other hstep helsewhere.unmoved) hstep (fun _ => hoffers)
    (h.hears_elsewhere helsewhere)

/-- Whatever else is done with it, a dormant engine stays so. -/
theorem Dormant.use (h : Dormant e id alone s) (huse : Use id s s') : Dormant e id alone s' := by
  have hrobust : Robust (fun v => alone → (s.service v).dispatcher ≠ e.dispatcher)
      fun _ t => t.services = s.services ∧ Dormant e id alone t := robust_dormant
  have hsturdy := hrobust.toSturdy
  cases huse with
  | turn deadline => exact (hsturdy.turn deadline [] s ⟨rfl, h⟩).2
  | pass moment => exact (@Tough.pass _ hsturdy.toTough moment [] s ⟨rfl, h⟩).2
  | edit store edit => exact (edit.ensures_perform hrobust [] store s ⟨rfl, h⟩).2
  | publish bus event => exact (hrobust.publish [] bus event s ⟨rfl, h⟩).2
  | act bus act hact => exact h.act bus hact
  | access access =>
      obtain ⟨reason, hrefused⟩ := guarded_refused h.areDown access
      rw [hrefused]
      exact h
  | configurationGraph =>
      unfold engineConfigurationGraph
      rw [fromSystem_bind]
      exact Repository.ensures_configurationGraph _ s h
  | read graph root depth => exact (hsturdy.subgraph [] graph root depth s ⟨rfl, h⟩).2
  | await millis =>
      unfold awaitEngine awaitTermination
      rw [get_bind]
      split
      · exact h
      · exact ((hsturdy.enduring []).waitFor millis _ s ⟨rfl, h⟩).2
      · exact h
  | other helsewhere => exact h.elsewhere helsewhere

/-- Along a run the engine is dormant, each start that came to its end was refused, and a call that is
under way will leave it so. -/
theorem UseRun.dormant (hrun : UseRun id s₀ calls pending s) (hstart : Dormant e id alone s₀)
    (herrors : Problems.hasErrors e.problems = true) :
    Dormant e id alone s ∧
      (∀ call ∈ calls, call.operation = .start → call.answer = .error (refusalFault e)) ∧
      ∀ underWay ∈ pending, underWay.left.Keeps (Dormant e id alone) fun answer =>
        underWay.operation = .start → answer = .error (refusalFault e) := by
  -- on the run, with what is left of a call that is under way, so that each piece is known to keep this
  induction hrun with
  | start => exact ⟨hstart, fun _ hcall => absurd hcall List.not_mem_nil, nofun⟩
  | call op _ ih =>
      refine ⟨ih.1, ih.2.1, ?_⟩
      rintro _ ⟨⟩
      exact op.keeps herrors
  | goOn _ ih =>
      obtain ⟨hs, hcalls, hpending⟩ := ih
      obtain ⟨hafter, hrest⟩ := hpending _ rfl _ hs
      refine ⟨hafter, hcalls, ?_⟩
      rintro _ ⟨⟩
      exact hrest
  | finish _ ih =>
      obtain ⟨hs, hcalls, hpending⟩ := ih
      refine ⟨hs, fun call hcall => ?_, nofun⟩
      rcases List.mem_append.mp hcall with hcall | hcall
      · exact hcalls call hcall
      · obtain rfl := List.mem_singleton.mp hcall
        exact hpending _ rfl
  | use _ huse ih => exact ⟨ih.1.use huse, ih.2⟩

/-- What is seen of an engine that is dormant. -/
theorem Dormant.blocked (h : Dormant e id alone s) (herrors : Problems.hasErrors e.problems = true)
    (hcalls : ∀ call ∈ calls, call.operation = .start → call.answer = .error (refusalFault e)) :
    Blocked id e.problems alone calls s where
  answers call hcall hstart := ⟨_, hcalls call hcall hstart⟩
  start := ⟨_, startEngine_refused (h.later.problems ▸ herrors)⟩
  states := h.areDown
  unobserved entry hentry v hservice := by
    rw [h.later.bus] at hentry
    have hheard := h.hears e.bus entry hentry
    rw [hservice] at hheard
    exact hheard.1 rfl
  unused := h.later.dispatcher ▸ h.unused
  unoffered := h.later.dispatcher ▸ h.unoffered
  connection _ := guarded_refused h.areDown _
  federation := guarded_refused h.areDown _
  repository := guarded_refused h.areDown _
  service := guarded_refused h.areDown _
  detectors := guarded_refused h.areDown _
  graph _ := guarded_refused h.areDown _
  problems := h.later.problems

end use

/-! ## Engines that are built -/

/-- Services that observe buses were made, and work for dispatchers that were made. -/
def System.Enlisted (s : System) : Prop :=
  s.Hears fun v => v < s.services.size ∧ (s.service v).dispatcher < s.dispatchers.size

/-- While an engine is being built no service observes its bus. -/
private def Prepared (bus : BusId) (alone : Prop) (s : System) : Prop :=
  s.HearsAt fun other v =>
    other ≠ bus ∧ (alone → v < s.services.size ∧ (s.service v).dispatcher < s.dispatchers.size)

section build

variable {direct : FederationId → Prop} {bus : BusId} {id : EngineId} {alone : Prop} {s s' : System}

private theorem Prepared.of_eq (h : Prepared bus alone s) (hservices : s'.services = s.services)
    (hbuses : s'.buses = s.buses) (hsize : s.dispatchers.size ≤ s'.dispatchers.size) :
    Prepared bus alone s' := by
  refine (h.of_buses hbuses).mono fun other v hv => ?_
  rw [System.service, hservices]
  refine ⟨hv.1, fun halone => ?_⟩
  obtain ⟨hmade, hworks⟩ := hv.2 halone
  exact ⟨hmade, Nat.lt_of_lt_of_le hworks hsize⟩

private theorem sturdy_prepared : Sturdy fun _ => Prepared bus alone := by
  refine .of_quiet (fun hquiet hservices hbuses hs => ?_) ?_ ?_ ?_
  · exact hs.of_eq hservices hbuses (Nat.le_of_eq (congrArg Array.size hquiet.dispatchers.symm))
  · exact fun id act hact hs => System.HearsAt.act hs id hact
  · intro deadline s hs
    have hbackground := (Background.enduring s).turn deadline s (.refl s)
    have hstep : Step (fun _ => True) s s.invocations ((turn deadline).run s).2 := .turn deadline s
    exact hs.of_eq hbackground.services hbackground.buses (jobStep_of_step 0 hstep).size_le
  · exact fun _ _ hs => hs.of_eq rfl rfl (Nat.le_refl _)

/-- A new bus is observed by nobody. -/
private theorem prepared_addBus (h : alone → s.Enlisted) (engine : String) (capacity : Nat) :
    Prepared s.buses.size alone ((addBus (.new engine capacity)).run s).2 := by
  intro other entry hentry
  change entry ∈ ((s.buses.push _).getD other default).observers at hentry
  rw [System.getD_push] at hentry
  split at hentry
  · cases hentry
  · rename_i hother
    by_cases halone : alone
    · exact (h halone other entry hentry).mono fun v hv => ⟨hother, fun _ => hv⟩
    · exact entry.2.isHeard_all.mono fun v _ => ⟨hother, fun h => absurd h halone⟩

/-- The parts of an engine that was just made have nothing to do with jobs. -/
private structure Detached (id : EngineId) (alone : Prop) (s : System) : Prop where
  unused : (s.dispatcher (s.engine id).dispatcher).Unused
  unoffered : (s.dispatcher (s.engine id).dispatcher).offered = 0
  hears : s.HearsAt fun other v =>
    other ≠ (s.engine id).bus ∧ (alone → (s.service v).dispatcher ≠ (s.engine id).dispatcher)

/-- An engine that is made of a new dispatcher and a new service. -/
private theorem detached_addEngine (h : Prepared bus alone s) {d : Dispatcher} {v : Service} {e : Engine}
    (hunused : d.Unused) (hoffered : d.offered = 0) (hdispatcher : e.dispatcher = s.dispatchers.size)
    (hbus : e.bus = bus) (log : Array LogLine) :
    Detached s.engines.size alone { s with
      dispatchers := s.dispatchers.push d, services := s.services.push v, log := log,
      engines := s.engines.push e } := by
  generalize ht : { s with
    dispatchers := s.dispatchers.push d, services := s.services.push v, log := log,
    engines := s.engines.push e } = t
  have hengine : t.engine s.engines.size = e := by
    rw [← ht, System.engine, System.getD_push, if_pos rfl]
  have hmade : t.dispatcher s.dispatchers.size = d := by
    rw [← ht, System.dispatcher, System.getD_push, if_pos rfl]
  refine ⟨?_, ?_, ?_⟩
  · rwa [hengine, hdispatcher, hmade]
  · rwa [hengine, hdispatcher, hmade]
  rw [hengine, hdispatcher, hbus]
  have hbuses : t.buses = s.buses := by rw [← ht]
  refine (System.HearsAt.of_buses h hbuses).mono fun other w hw => ⟨hw.1, fun halone => ?_⟩
  obtain ⟨hlt, hworks⟩ := hw.2 halone
  have hsame : t.service w = s.service w := by
    rw [← ht, System.service, System.getD_push, if_neg (Nat.ne_of_lt hlt)]
    rfl
  rw [hsame]
  exact Nat.ne_of_lt hworks

private theorem detached_buildOn (blueprint : Blueprint) (root : NodePath) (federation : FederationId)
    (graph : Graph) :
    Ensures (Prepared bus alone) (buildOn blueprint root bus federation graph)
      fun answer s => ∀ id, answer = .ok id → Detached id alone s := by
  have hsturdy : Sturdy fun _ => Prepared bus alone := sturdy_prepared
  unfold buildOn
  refine .andThen (hsturdy.scanConfiguration [] graph root) fun scan => ?_
  refine .andThen (hsturdy.applyDescriptors [] federation scan.sources) fun applied => ?_
  dsimp only
  refine .andThen (hsturdy.actOn [] bus (.register (.configuration federation root _)) rfl fun _ => rfl)
    fun observer => ?_
  split
  · exact .answer fun _ _ id hid => nomatch hid
  · rename_i d hnew
    intro s hs id hid
    obtain rfl := Except.ok.inj hid
    obtain ⟨hunused, hoffered⟩ := Dispatcher.unused_of_new hnew
    exact detached_addEngine hs hunused hoffered rfl rfl _

private theorem detached_buildEngine (blueprint : Blueprint) (h : alone → s.Enlisted)
    (hbuilt : ((buildEngine blueprint).run s).1 = .ok id) :
    Detached id alone ((buildEngine blueprint).run s).2 := by
  have hsturdy : ∀ bus, Sturdy fun _ => Prepared bus alone := fun _ => sturdy_prepared
  refine ensures_buildEngine (J := fun bus => Prepared bus alone) (K := fun bus _ => Prepared bus alone)
    (Q := fun answer s => ∀ id, answer = .ok id → Detached id alone s) blueprint
    (fun _ _ _ id hid => nomatch hid) (fun engine capacity s hs => prepared_addBus hs engine capacity)
    (fun bus f _ s hs => hs.of_eq rfl rfl (Nat.le_refl _))
    (fun bus federation name plan => (hsturdy bus).registerConnector [] federation name plan)
    (fun _ _ _ _ _ id hid => nomatch hid) (fun root bus federation graph => ?_) s h id hbuilt
  exact detached_buildOn blueprint root federation graph

/-- An engine that was built is dormant. -/
theorem dormant_buildEngine (blueprint : Blueprint) (hreach : Reachable direct s)
    (hbuilt : ((buildEngine blueprint).run s).1 = .ok id) :
    Dormant (((buildEngine blueprint).run s).2.engine id) id s.Enlisted
      ((buildEngine blueprint).run s).2 := by
  have hdetached : Detached id s.Enlisted ((buildEngine blueprint).run s).2 :=
    detached_buildEngine blueprint (fun h => h) hbuilt
  have hnew : LifecycleState.notStarted.IsDown := .inl rfl
  cases rests_buildEngine blueprint hreach hbuilt with
  | notStarted _ hphase =>
      exact ⟨⟨⟨.notStarted, .notStarted, .notStarted, .notStarted⟩, ⟨hnew, hnew, hnew, hnew⟩, hphase⟩,
        hdetached.unused, fun _ => hdetached.unoffered, hdetached.hears⟩
  | running hcalls _ _ => exact absurd rfl hcalls
  | closed hsince _ => cases hsince

end build

/-! ## Engines with boot errors -/

section engines

variable {direct : FederationId → Prop} {blueprint : Blueprint} {id : EngineId} {s₀ s s' : System}
  {calls : List EngineCall} {pending : Option PendingCall}

/-- Whatever calls start an engine with boot errors and shut it down, and however it is used besides: at
any moment, also while a call is under way, it is blocked. -/
theorem boot_errors_block (hreach : Reachable direct s)
    (hbuilt : ((buildEngine blueprint).run s).1 = .ok id)
    (herrors : Problems.hasErrors (((buildEngine blueprint).run s).2.engine id).problems = true)
    (hrun : UseRun id ((buildEngine blueprint).run s).2 calls pending s') :
    Blocked id (((buildEngine blueprint).run s).2.engine id).problems s.Enlisted calls s' := by
  obtain ⟨hdormant, hcalls, -⟩ := hrun.dormant (dormant_buildEngine blueprint hreach hbuilt) herrors
  exact hdormant.blocked herrors hcalls

/-- A call that nobody interrupts any more. -/
private theorem UseRun.goesOn {op : Operation} {begun : Nat} {left : Pieces (Except Fault Unit)}
    (h : UseRun id s₀ calls (some ⟨op, begun, left⟩) s) :
    UseRun id s₀ (calls ++ [⟨op, begun, (left.whole.run s).1⟩]) none (left.whole.run s).2 := by
  induction left generalizing s with
  | done answer => exact h.finish
  | piece first rest ih => exact ih _ h.goOn

/-- A call that nobody interrupts. -/
private theorem UseRun.uninterrupted (h : UseRun id s₀ calls none s) (op : Operation) :
    UseRun id s₀ (calls ++ [⟨op, s.clock, ((op.pieces id).whole.run s).1⟩]) none
      ((op.pieces id).whole.run s).2 :=
  (h.call op).goesOn

end engines

/-- A small engine whose rule names an implementation that is not registered. -/
def Blueprint.lacking : Blueprint :=
  { Blueprint.small with processors := .processors }

/-- One more source is configured. -/
def StoreEdit.configure : StoreEdit :=
  .put none "/cairn:sources/more" [("cairn:connectorType", .text "memory")]

/-- Such an engine when it was started, configured, shut down, and started again. -/
def System.insisted : System :=
  ((Operation.start.pieces 0).whole.run ((Operation.shutdown.pieces 0).whole.run
    ((StoreEdit.configure.perform 0).run ((Operation.start.pieces 0).whole.run
      ((buildEngine .lacking).run .empty).2).2).2).2).2

theorem boot_errors_block_lacking :
    let built := ((buildEngine .lacking).run .empty).2
    ((buildEngine .lacking).run .empty).1 = .ok 0 ∧
      Problems.hasErrors (built.engine 0).problems = true ∧
      System.insisted.states 0 = ⟨.terminated, .terminated, .terminated, .terminated⟩ ∧
      (System.insisted.federation 0).sources = ["cairn:configuration", "docs", "more"] ∧
      System.empty.Enlisted ∧
      ∃ calls, calls.map EngineCall.operation = [.start, .shutdown, .start] ∧
        Blocked 0 (built.engine 0).problems System.empty.Enlisted calls .insisted := by
  intro built
  have hrun : ((buildEngine .lacking).run .empty).1 = .ok 0 ∧
      Problems.hasErrors (((buildEngine .lacking).run .empty).2.engine 0).problems = true ∧
      System.insisted.states 0 = ⟨.terminated, .terminated, .terminated, .terminated⟩ ∧
      (System.insisted.federation 0).sources = ["cairn:configuration", "docs", "more"] := by
    decide +kernel
  obtain ⟨hbuilt, herrors, hstates, hsources⟩ := hrun
  have hbegin : UseRun 0 ((buildEngine .lacking).run .empty).2 [] none
      ((buildEngine .lacking).run .empty).2 := .start
  have hcalls := (((hbegin.uninterrupted .start).use (.edit 0 .configure)).uninterrupted
    .shutdown).uninterrupted .start
  have hempty : Reachable (fun _ => False) .empty := ⟨[], .start⟩
  have henlisted : System.empty.Enlisted := fun bus entry hentry => absurd hentry List.not_mem_nil
  exact ⟨hbuilt, herrors, hstates, hsources, henlisted, _, rfl,
    boot_errors_block hempty hbuilt herrors hcalls⟩

end ContentEngine
