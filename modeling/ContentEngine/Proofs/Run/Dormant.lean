import ContentEngine.Proofs.Run.Delivery
import ContentEngine.Proofs.Run.States

/-!
# Engines with boot errors stay down

An engine that was built with errors among its problems does nothing, whatever is asked of it.  Each call
that starts it is refused and changes nothing; the engine and its parts never leave the states of what was
not started or has terminated; nobody on its bus makes jobs; and no accessor lets anybody pass.

## Strategy

`Dormant` is what is true of such an engine at any time.  It outlasts what happens in the background and
offers the engine's dispatcher no jobs (`Dormant.meanwhile`), and so all operations on sources, stores and
buses (`robust_dormant`).  Then it is carried through each piece of a start or a shutdown
(`Operation.keeps`), so that the engine is dormant also while a call is under way.
-/

namespace ContentEngine

/-! ## States of what does not run -/

/-- Not started, or terminated. -/
def LifecycleState.IsDown (state : LifecycleState) : Prop :=
  state = .notStarted ∨ state = .terminated

theorem LifecycleState.IsDown.not_running {state : LifecycleState} (h : state.IsDown) :
    state ≠ .running := by
  rcases h with rfl | rfl <;> exact nofun

theorem LifecycleState.IsDown.not_stopping {state : LifecycleState} (h : state.IsDown) :
    state ≠ .stopping := by
  rcases h with rfl | rfl <;> exact nofun

/-- The shutdown of a component that does not run has nothing to wait for. -/
theorem Lifecycle.beginShutdown_of_isDown {l : Lifecycle} (h : l.state.IsDown) :
    l.beginShutdown.1.state = .terminated ∧ l.beginShutdown.2 ≠ .drain := by
  rcases h with hnew | hterminated
  · rw [beginShutdown_of_notStarted hnew]
    exact ⟨rfl, nofun⟩
  · have hclosed : l.state.isClosed = true := by
      rw [hterminated]
      rfl
    rw [beginShutdown_of_closed hclosed]
    exact ⟨hterminated, nofun⟩

/-- Neither the engine nor one of its parts runs, or is about to start or to stop. -/
structure States.AreDown (t : States) : Prop where
  engine : t.engine.IsDown
  federation : t.federation.IsDown
  dispatcher : t.dispatcher.IsDown
  service : t.service.IsDown

/-! ## Dispatchers without jobs -/

/-- A dispatcher accepted no job ever, and ran none. -/
structure Dispatcher.Unused (d : Dispatcher) : Prop where
  jobs : d.jobs = #[]
  submitted : d.submitted = 0
  completed : d.completed = 0
  failed : d.failed = 0

section unused

variable {direct : FederationId → Prop} {id : DispatcherId} {index : JobIndex} {d : Dispatcher}
  {s s' : System} {events : List JobEvent}

theorem Dispatcher.unused_of_new {engine : String} {federation : FederationId}
    {poolSize capacity : Nat} (h : Dispatcher.new? engine federation poolSize capacity = some d) :
    d.Unused ∧ d.offered = 0 := by
  unfold Dispatcher.new? at h
  split at h
  · cases h
  · obtain rfl := Option.some.inj h
    exact ⟨⟨rfl, rfl, rfl, rfl⟩, rfl⟩

/-- A dispatcher without jobs has none that could go on. -/
theorem JobTurn.eq_of_no_jobs (h : JobTurn id index s s') (hjobs : (s.dispatcher id).jobs = #[]) :
    s' = s := by
  have hnone : ∀ job, (s.dispatcher id).jobs[index]? ≠ some job := by
    intro job
    rw [hjobs]
    exact nofun
  cases h with
  | idle _ => rfl
  | queue hjob _ => exact absurd hjob (hnone _)
  | goOn hbegins _ _ =>
      cases hbegins with
      | running hjob => exact absurd hjob (hnone _)
      | permitted hjob => exact absurd hjob (hnone _)
      | granted hjob _ => exact absurd hjob (hnone _)

/-- A dispatcher that does not run stays unused. -/
theorem Dispatcher.Unused.step (h : (s.dispatcher id).Unused) (hid : id < s.dispatchers.size)
    (hdown : (s.dispatcher id).lifecycle.state ≠ .running) (hstep : Step direct s events s') :
    (s'.dispatcher id).Unused := by
  have hsame : SameWork (s.dispatcher id) (s'.dispatcher id) → (s'.dispatcher id).Unused := by
    intro hwork
    exact ⟨hwork.jobs.trans h.jobs, hwork.submitted.trans h.submitted,
      hwork.completed.trans h.completed, hwork.failed.trans h.failed⟩
  cases jobStep_of_step id hstep with
  | same hjobs _ => exact hsame hjobs.work
  | rejected hjobs _ => exact hsame hjobs.work
  | accepted work _ hrunning => exact absurd hrunning hdown
  | went _ hturn =>
      rw [hturn.eq_of_no_jobs h.jobs]
      exact h
  | made _ hmade => exact absurd hid (hmade ▸ Nat.lt_irrefl _)

end unused

/-! ## Dormant engines -/

/-- The engine `e` as it is found at any time if it was built with errors: it and its parts are down and
nothing is to be done about that, and no service observes its bus.  If it was `alone`, so that services on
other buses work for other dispatchers, nobody offers its dispatcher any jobs. -/
structure Dormant (e : Engine) (id : EngineId) (alone : Prop) (s : System) : Prop where
  phase : ∃ t : States, t.AreDown ∧
    Unclosing e id 0 t.engine t.federation t.service (· = t.dispatcher) s
  unused : (s.dispatcher e.dispatcher).Unused
  unoffered : alone → (s.dispatcher e.dispatcher).offered = 0
  hears : s.HearsAt fun bus v => bus ≠ e.bus ∧ (alone → (s.service v).dispatcher ≠ e.dispatcher)

section dormant

variable {e : Engine} {id : EngineId} {alone : Prop} {s s' s₁ : System}

namespace Dormant

theorem later (h : Dormant e id alone s) : e.Later (s.engine id) := by
  obtain ⟨t, -, hphase⟩ := h.phase
  exact hphase.later

/-- The states that are seen are those of the phase. -/
theorem areDown (h : Dormant e id alone s) : (s.states id).AreDown := by
  obtain ⟨t, ht, hphase⟩ := h.phase
  rw [hphase.toPhase.states, hphase.dispatcher]
  exact ht

theorem federation_isDown (h : Dormant e id alone s) : (s.federation e.federation).state.IsDown := by
  rw [← h.later.federation]
  exact h.areDown.federation

theorem dispatcher_isDown (h : Dormant e id alone s) :
    (s.dispatcher e.dispatcher).lifecycle.state.IsDown := by
  rw [← h.later.dispatcher]
  exact h.areDown.dispatcher

theorem service_isDown (h : Dormant e id alone s) :
    (s.service e.service).lifecycle.state.IsDown := by
  rw [← h.later.service]
  exact h.areDown.service

theorem hears_of_eq (h : Dormant e id alone s) (hbuses : s'.buses = s.buses)
    (hservices : s'.services = s.services) :
    s'.HearsAt fun bus v => bus ≠ e.bus ∧ (alone → (s'.service v).dispatcher ≠ e.dispatcher) := by
  have hservice : ∀ v, s'.service v = s.service v := by
    intro v
    rw [System.service, hservices, System.service]
  simp only [hservice]
  exact h.hears.of_buses hbuses

/-- What happens meanwhile and offers the dispatcher no jobs leaves the engine dormant. -/
theorem meanwhile {direct : FederationId → Prop} {events : List JobEvent} (h : Dormant e id alone s)
    (hmeanwhile : Meanwhile id s s') (hstep : Step direct s events s')
    (hoffers : alone → events.countP (JobEvent.offers e.dispatcher) = 0)
    (hhears : s'.HearsAt fun bus v => bus ≠ e.bus ∧ (alone → (s'.service v).dispatcher ≠ e.dispatcher)) :
    Dormant e id alone s' := by
  obtain ⟨t, ht, hphase⟩ := h.phase
  have hafter := withstands_open ht.dispatcher.not_stopping s s' hmeanwhile hphase
  refine ⟨⟨t, ht, hafter⟩, ?_, fun halone => ?_, hhears⟩
  · exact h.unused.step hphase.dispatchers h.dispatcher_isDown.not_running hstep
  · have hbefore : Offered e.dispatcher 0 s := ⟨hphase.dispatchers, h.unoffered halone⟩
    have hafter := (hbefore.step hstep).count
    rwa [hoffers halone] at hafter

/-- Quiet changes move nothing. -/
theorem quiet (h : Dormant e id alone s) (hquiet : Quiet s s') (hservices : s'.services = s.services)
    (hhears : s'.HearsAt fun bus v => bus ≠ e.bus ∧ (alone → (s'.service v).dispatcher ≠ e.dispatcher)) :
    Dormant e id alone s' := by
  have hunmoved : Unmoved id s s' := by
    refine ⟨?_, hquiet.states _, ?_, ?_, Nat.le_of_eq (congrArg Array.size hservices.symm)⟩
    · rw [System.engine, hquiet.engines, System.engine]
    · rw [System.dispatcher, hquiet.dispatchers, System.dispatcher]
    · rw [System.service, hservices, System.service]
  have hstep : Step (· ≠ (s.engine id).federation) s [] s' := .quiet hquiet
  exact h.meanwhile (.other hstep hunmoved) hstep (fun _ => rfl) hhears

theorem act (h : Dormant e id alone s) (bus : BusId) {act : Bus.Act} (hact : act.enlists = none) :
    Dormant e id alone (s.setBus bus ((s.bus bus).after act)) :=
  h.quiet (.of_aside (.setBus s bus _)) rfl (h.hears.act bus hact)

/-- Submissions to another dispatcher are no matter of the engine, and to its own one they are in vain. -/
theorem submit (h : Dormant e id alone s) {d : DispatcherId} (hother : alone → d ≠ e.dispatcher)
    (work : WorkItem Processor) : Dormant e id alone ((submitWork d work).run s).2 := by
  obtain ⟨hbuses, hservices, -⟩ := buses_submitWork d work s
  have hstep : Step (fun _ => True) s (s.submission d) ((submitWork d work).run s).2 :=
    .submit d work s
  refine h.meanwhile (.submit d work) hstep (fun halone => ?_) (h.hears_of_eq hbuses hservices)
  unfold System.submission
  split <;> simp [JobEvent.offers, hother halone]

end Dormant

/-- A dormant engine outlasts operations on sources. -/
theorem sturdy_dormant : Sturdy fun _ s => s.services = s₁.services ∧ Dormant e id alone s := by
  refine .of_quiet ?_ ?_ ?_ ?_
  · rintro s s' hquiet hsame hbuses ⟨hservices, hs⟩
    exact ⟨hsame.trans hservices, hs.quiet hquiet hsame (hs.hears_of_eq hbuses hsame)⟩
  · rintro s bus act hact ⟨hservices, hs⟩
    exact ⟨hservices, hs.act bus hact⟩
  · rintro deadline s ⟨hservices, hs⟩
    have hbackground := (Background.enduring s).turn deadline s (.refl s)
    have hstep : Step (fun _ => True) s s.invocations ((turn deadline).run s).2 := .turn deadline s
    refine ⟨hbackground.services.trans hservices, hs.meanwhile (.turn deadline) hstep ?_ ?_⟩
    · exact fun _ => not_offers_invocations s
    · exact hs.hears_of_eq hbackground.buses hbackground.services
  · rintro moment s ⟨hservices, hs⟩
    have hstep : Step (fun _ => True) s [] { s with clock := max s.clock moment } := .pass moment s
    exact ⟨hservices, hs.meanwhile (.pass moment) hstep (fun _ => rfl) (hs.hears_of_eq rfl rfl)⟩

/-- It outlasts what the services that observe buses do about events as well. -/
theorem robust_dormant : Robust (fun v => alone → (s₁.service v).dispatcher ≠ e.dispatcher)
    fun _ s => s.services = s₁.services ∧ Dormant e id alone s where
  toSturdy := sturdy_dormant
  process v event _ hheard := by
    refine ensures_processEvent (alone → ·.dispatcher ≠ e.dispatcher) (sturdy_dormant.writeLog []) ?_ ?_
    · rintro s ⟨hservices, -⟩
      rwa [System.service, hservices]
    · rintro service hother work - s ⟨hservices, hs⟩
      obtain ⟨-, hsame, -⟩ := buses_submitWork service.dispatcher work s
      exact ⟨hsame.trans hservices, hs.submit hother work⟩
  listed := by
    rintro _ s ⟨hservices, hs⟩ bus entry hentry
    refine (hs.hears bus entry hentry).mono fun v hv => ?_
    have hother := hv.2
    rwa [System.service, hservices] at hother

/-! ## Calls -/

theorem Engine.Later.refusal {e e' : Engine} (h : e.Later e') :
    refusalFault e' = refusalFault e ∧ refusalLines e' = refusalLines e := by
  obtain ⟨_, _, rfl⟩ := h
  exact ⟨rfl, rfl⟩

/-- A start is refused before it does anything. -/
theorem claimStart_refused (h : Problems.hasErrors (s.engine id).problems = true) :
    (claimStart id).run s =
      (.error (refusalFault (s.engine id)), s.addLog (refusalLines (s.engine id))) := by
  unfold claimStart
  rw [fromSystem_bind, if_pos h]
  rfl

theorem startEngine_refused (h : Problems.hasErrors (s.engine id).problems = true) :
    (startEngine id).run s =
      (.error (refusalFault (s.engine id)), s.addLog (refusalLines (s.engine id))) := by
  rw [← whole_startPieces]
  unfold startPieces
  rw [Pieces.whole_bind, Pieces.whole_one, run_bind, claimStart_refused h]
  rfl

namespace Dormant

theorem addLog (h : Dormant e id alone s) (lines : List LogLine) : Dormant e id alone (s.addLog lines) :=
  h.quiet (.of_aside (.addLog s lines)) rfl (h.hears_of_eq rfl rfl)

/-- The dispatcher is changed, and has still no jobs. -/
theorem setDispatcher (h : Dormant e id alone s) {d : Dispatcher} (hdown : d.lifecycle.state.IsDown)
    (hunused : d.Unused) (hoffered : d.offered = (s.dispatcher e.dispatcher).offered) :
    Dormant e id alone (s.setDispatcher e.dispatcher d) := by
  obtain ⟨t, ht, hphase⟩ := h.phase
  have hself := s.dispatcher_setDispatcher_self hphase.dispatchers d
  refine ⟨⟨{ t with dispatcher := d.lifecycle.state }, { ht with dispatcher := hdown }, ?_⟩, ?_, ?_, ?_⟩
  · exact hphase.setDispatcher d rfl fun hstopping => absurd hstopping hdown.not_stopping
  · rw [hself]
    exact hunused
  · rw [hself, hoffered]
    exact h.unoffered
  · exact h.hears_of_eq rfl rfl

theorem setFederation (h : Dormant e id alone s) {f : Federation} (hdown : f.state.IsDown)
    (depot : Depot) : Dormant e id alone ((s.setFederation e.federation f).setDepot depot) := by
  obtain ⟨t, ht, hphase⟩ := h.phase
  have hset : Dormant e id alone (s.setFederation e.federation f) :=
    ⟨⟨{ t with federation := f.state }, { ht with federation := hdown }, hphase.setFederation f⟩,
      h.unused, h.unoffered, h.hears_of_eq rfl rfl⟩
  exact hset.quiet (.of_eq rfl rfl rfl rfl rfl rfl rfl rfl) rfl (hset.hears_of_eq rfl rfl)

/-- The service is changed, and works for the same dispatcher. -/
theorem setService (h : Dormant e id alone s) {v : Service} (hdown : v.lifecycle.state.IsDown)
    (hsame : v.dispatcher = (s.service e.service).dispatcher) :
    Dormant e id alone (s.setService e.service v) := by
  obtain ⟨t, ht, hphase⟩ := h.phase
  refine ⟨⟨{ t with service := v.lifecycle.state }, { ht with service := hdown },
    hphase.setService v⟩, h.unused, h.unoffered, ?_⟩
  have hservice : ∀ other, ((s.setService e.service v).service other).dispatcher =
      (s.service other).dispatcher := by
    intro other
    change ((s.services.setIfInBounds e.service v).getD other default).dispatcher = _
    rw [System.getD_set]
    split
    · rename_i hother
      rw [hother.1, hsame]
    · rfl
  simp only [hservice]
  exact h.hears

theorem setLifecycle (h : Dormant e id alone s) {l : Lifecycle} (hdown : l.state.IsDown) :
    Dormant e id alone (s.setEngine id { s.engine id with lifecycle := l }) := by
  obtain ⟨t, ht, hphase⟩ := h.phase
  exact ⟨⟨{ t with engine := l.state }, { ht with engine := hdown }, hphase.setEngine l⟩, h.unused,
    h.unoffered, h.hears_of_eq rfl rfl⟩

end Dormant

/-! ### Pieces of a shutdown -/

theorem shutdownDispatcher_dormant :
    Ensures (Dormant e id alone) (shutdownDispatcher e.dispatcher) fun _ => Dormant e id alone := by
  intro s h
  obtain ⟨hterminated, hstep⟩ := Lifecycle.beginShutdown_of_isDown h.dispatcher_isDown
  have hnone : (s.dispatcher e.dispatcher).beginShutdown.1 ≠ .drain := hstep
  have hset : Dormant e id alone
      (s.setDispatcher e.dispatcher (s.dispatcher e.dispatcher).beginShutdown.2.1) :=
    h.setDispatcher (.inr hterminated) { h.unused with } rfl
  unfold shutdownDispatcher
  rw [withDispatcher_bind]
  -- there are no jobs to be drained
  refine (?_ : Ensures (Dormant e id alone) _ fun _ => Dormant e id alone) _ hset
  refine .andThen (.update fun t ht => ht.addLog _) fun _ => ?_
  rw [if_neg hnone]
  exact .answer fun _ ht => ht

theorem shutdownService_dormant :
    Ensures (Dormant e id alone) (shutdownService e.service) fun _ => Dormant e id alone := by
  refine .update fun s h => ?_
  have hterminated := (Lifecycle.beginShutdown_of_isDown h.service_isDown).1
  split
  · rename_i v hbegun
    obtain rfl : (s.service e.service).beginShutdown.2 = v := congrArg Prod.snd hbegun
    exact h.setService (.inr hterminated) rfl
  · rename_i v _ hbegun
    obtain rfl : (s.service e.service).beginShutdown.2 = v := congrArg Prod.snd hbegun
    dsimp only
    unfold Service.finishShutdown
    split
    · rename_i number _
      have hact : Bus.Act.enlists (.unregister number) = none := rfl
      refine .addLog (.setService (h.act _ hact) (.inr ?_) ?_) _
      · rfl
      · rfl
    · dsimp only
      rw [System.setBus_self]
      refine .addLog (.setService h (.inr ?_) ?_) _
      · rfl
      · rfl

theorem shutdownFederation_dormant :
    Ensures (Dormant e id alone) (shutdownFederation e.federation) fun _ => Dormant e id alone := by
  refine .andThen (R := Dormant e id alone) (.exchange fun s h => ?_) fun lines =>
    .update fun s h => h.addLog lines
  refine h.setFederation ?_ _
  rcases (s.federation e.federation).shutdown_cases s.depot with ⟨-, hsame, -⟩ | ⟨hopen, -⟩
  · rw [hsame]
    exact h.federation_isDown
  · exact .inr (Federation.state_shutdown _ hopen)

theorem claimShutdown_dormant : Ensures (Dormant e id alone) (claimShutdown id) fun answer s =>
    (e.Later answer.1 ∧ answer.2 ≠ .drain) ∧ Dormant e id alone s := by
  intro s h
  obtain ⟨hterminated, hstep⟩ := Lifecycle.beginShutdown_of_isDown h.areDown.engine
  unfold claimShutdown
  rw [fromSystem_bind, withLifecycle_bind, if_neg hstep]
  exact ⟨⟨h.later, hstep⟩, h.setLifecycle (.inr hterminated)⟩

/-- A start answers that there are errors, and leaves the engine dormant. -/
theorem startPieces_keeps (herrors : Problems.hasErrors e.problems = true) :
    (startPieces id).Keeps (Dormant e id alone) (· = .error (refusalFault e)) := by
  have hclaim : Ensures (Dormant e id alone) (claimStart id) fun answer s =>
      answer = .error (refusalFault e) ∧ Dormant e id alone s := by
    intro s h
    rw [claimStart_refused (h.later.problems ▸ herrors)]
    exact ⟨congrArg Except.error h.later.refusal.1, h.addLog _⟩
  refine .seq (.one hclaim) ?_
  rintro _ rfl
  exact rfl

/-- However far a shutdown has come, the engine is dormant. -/
theorem shutdownPieces_keeps : (shutdownPieces id).Keeps (Dormant e id alone) fun _ => True := by
  have hpart : ∀ {x : InSystem Unit}, Ensures (Dormant e id alone) x (fun _ => Dormant e id alone) →
      (Pieces.one x).Keeps (Dormant e id alone) fun _ => True :=
    fun hx => .one fun s h => ⟨trivial, hx s h⟩
  refine .seq (.one claimShutdown_dormant) ?_
  rintro ⟨e', step⟩ ⟨hlater, hstep⟩
  cases step with
  | drain => exact absurd rfl hstep -- the engine did not run
  | alreadyShuttingDown => trivial
  | terminated =>
      dsimp only
      rw [hlater.dispatcher, hlater.service, hlater.federation]
      refine .seq (hpart shutdownDispatcher_dormant) fun _ _ => ?_
      refine .seq (hpart shutdownService_dormant) fun _ _ => ?_
      exact hpart shutdownFederation_dormant

/-- Whatever a call does, the engine stays dormant, and if the call is to start it, it is refused. -/
theorem Operation.keeps (herrors : Problems.hasErrors e.problems = true) (op : Operation) :
    (op.pieces id).Keeps (Dormant e id alone) fun answer =>
      op = .start → answer = .error (refusalFault e) := by
  cases op with
  | start => exact (startPieces_keeps herrors).weaken fun _ hanswer _ => hanswer
  | shutdown => exact .seq shutdownPieces_keeps fun _ _ => nofun

end dormant

end ContentEngine
