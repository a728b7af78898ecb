import ContentEngine.Proofs.Program.Pieces
import ContentEngine.Proofs.Run.Attending
import ContentEngine.Proofs.Run.Build
import ContentEngine.Proofs.Run.Meanwhile

/-!
# Phases of an engine

Where an engine stands, and its parts with it.  Each piece of a start or a shutdown leads from one phase
to another one; between the pieces, and between the calls, the engine stays in its phase whatever happens
meanwhile, except that an engine that winds down comes to its end.

## Strategy

A `Phase` gives the states of the engine, its federation and its service, and says in which states its
dispatcher may be: once that was shut down it may terminate at any time.  Until the last piece of a
shutdown nobody has asked the engine to close its sources (`Unclosing`), so there is nothing that could
change its phase meanwhile.  After it the engine `WindsDown`, and then it is `Over`.
-/

namespace ContentEngine

/-- The engine `e` as it may be found later: it differs in its state and in how far it has closed. -/
def Engine.Later (e e' : Engine) : Prop :=
  ∃ lifecycle closing, e' = { e with lifecycle := lifecycle, closing := closing }

namespace Engine.Later

variable {e e' : Engine}

theorem federation (h : e.Later e') : e'.federation = e.federation := by
  obtain ⟨_, _, rfl⟩ := h
  rfl

theorem dispatcher (h : e.Later e') : e'.dispatcher = e.dispatcher := by
  obtain ⟨_, _, rfl⟩ := h
  rfl

theorem service (h : e.Later e') : e'.service = e.service := by
  obtain ⟨_, _, rfl⟩ := h
  rfl

theorem bus (h : e.Later e') : e'.bus = e.bus := by
  obtain ⟨_, _, rfl⟩ := h
  rfl

theorem problems (h : e.Later e') : e'.problems = e.problems := by
  obtain ⟨_, _, rfl⟩ := h
  rfl

theorem parts (h : e.Later e') : SameParts e e' := by
  obtain ⟨_, _, rfl⟩ := h
  exact ⟨rfl, rfl, rfl⟩

theorem changed (h : e.Later e') (l : Lifecycle) (c : Closing) :
    e.Later { e' with lifecycle := l, closing := c } := by
  obtain ⟨_, _, rfl⟩ := h
  exact ⟨l, c, rfl⟩

end Engine.Later

/-! ## Phases -/

/-- An engine with parts of its own, at some moment after `since`. -/
structure Founded (e : Engine) (id : EngineId) (since : Nat) (s : System) : Prop where
  apart : s.Apart
  made : id < s.engines.size
  later : e.Later (s.engine id)
  federations : e.federation < s.federations.size
  dispatchers : e.dispatcher < s.dispatchers.size
  services : e.service < s.services.size
  begun : since ≤ s.clock
  attentive : s.Attentive e.dispatcher

/-- The states of an engine and its parts. -/
structure Phase (e : Engine) (id : EngineId) (since : Nat) (engine federation service : LifecycleState)
    (dispatcher : LifecycleState → Prop) (s : System) : Prop extends Founded e id since s where
  engine : (s.engine id).lifecycle.state = engine
  federation : (s.federation e.federation).state = federation
  service : (s.service e.service).lifecycle.state = service
  dispatcher : dispatcher (s.dispatcher e.dispatcher).lifecycle.state

/-- The states of an engine and its parts, while nobody has asked it to close its sources. -/
structure Unclosing (e : Engine) (id : EngineId) (since : Nat)
    (engine federation service : LifecycleState) (dispatcher : LifecycleState → Prop) (s : System) : Prop
    extends Phase e id since engine federation service dispatcher s, Unasked id s

section meanwhile

variable {e : Engine} {id : EngineId} {since : Nat} {a f v : LifecycleState} {D : LifecycleState → Prop}
  {s s' : System} {events : List JobEvent}

theorem Founded.step {direct : FederationId → Prop} (h : Founded e id since s)
    (hstep : Step direct s events s') (hlater : e.Later (s'.engine id))
    (hservices : s.services.size ≤ s'.services.size) (hattentive : s'.Attentive e.dispatcher) :
    Founded e id since s' where
  apart := h.apart.step hstep
  made := ((engineStep_of_step id h.apart hstep).stays.parts h.made).1
  later := hlater
  federations := Nat.lt_of_lt_of_le h.federations (federations_size_le hstep)
  dispatchers := Nat.lt_of_lt_of_le h.dispatchers (jobStep_of_step e.dispatcher hstep).size_le
  services := Nat.lt_of_lt_of_le h.services hservices
  begun := Nat.le_trans h.begun (engineStep_of_step id h.apart hstep).stays.clock
  attentive := hattentive

theorem Founded.drift {direct : FederationId → Prop} (h : Founded e id since s)
    (hstep : Step direct s events s') (hdrifts : Drifts id s s') : Founded e id since s' := by
  have hattentive := hdrifts.attentive
  rw [h.later.dispatcher] at hattentive
  exact h.step hstep (hdrifts.engine ▸ h.later) hdrifts.services (hattentive h.attentive)

/-- A phase in which the dispatcher may terminate, if it was shut down. -/
theorem Phase.drift {direct : FederationId → Prop} (h : Phase e id since a f v D s)
    (hD : D .stopping → D .terminated) (hstep : Step direct s events s') (hdrifts : Drifts id s s') :
    Phase e id since a f v D s' where
  toFounded := h.toFounded.drift hstep hdrifts
  engine := hdrifts.engine ▸ h.engine
  federation := by
    rw [← h.federation, ← h.later.federation]
    exact hdrifts.federation
  service := by
    rw [← h.service, ← h.later.service]
    exact hdrifts.service
  dispatcher := by
    have hbefore := h.dispatcher
    have hdispatcher := hdrifts.dispatcher
    rw [h.later.dispatcher] at hdispatcher
    rcases hdispatcher with hsame | ⟨hstopping, hterminated, -⟩
    · rw [hsame]
      exact hbefore
    · rw [hterminated]
      rw [hstopping] at hbefore
      exact hD hbefore

/-- Nothing comes to close an engine by itself. -/
theorem Unasked.drift {direct : FederationId → Prop} (h : Unasked id s) (happart : s.Apart)
    (hid : id < s.engines.size) (hstep : Step direct s events s') (hdrifts : Drifts id s s') :
    Unasked id s' := by
  have hkept : s'.ready.count (.close id) = s.ready.count (.close id) →
      (∀ t ∈ s'.timers, t.errand = .close id → t ∈ s.timers) → Unasked id s' := by
    intro hready htimers
    refine ⟨hdrifts.engine ▸ h.closing, hready.trans h.ready, fun t ht hclose => ?_⟩
    exact h.timers t (htimers t ht hclose) hclose
  cases engineStep_of_step id happart hstep with
  | same hsame => exact hkept hsame.ready hsame.timers
  | woken _ ht hclose _ => exact absurd hclose (h.timers _ ht)
  | drained _ hwaiting _ => exact nomatch h.closing.symm.trans hwaiting
  | closing hready =>
      have hnone := h.ready
      rw [hready, List.count_cons_self] at hnone
      cases hnone
  | started _ hstarted => exact hkept hstarted.ready hstarted.timers
  | asked _ hasked =>
      have hclosed := hasked.after
      rw [hdrifts.engine, hasked.before] at hclosed
      cases hclosed
  | made _ hmade => exact absurd hid (hmade ▸ Nat.lt_irrefl _)

/-- As long as nobody has asked an engine to close it stays in its phase. -/
theorem Unclosing.withstands (hD : D .stopping → D .terminated) :
    Withstands (Meanwhile id) (Unclosing e id since a f v D) := by
  intro s s' hmeanwhile h
  obtain ⟨events, hstep⟩ := hmeanwhile.step
  rcases hmeanwhile.closes_or_drifts h.apart h.made (h.later.dispatcher ▸ h.dispatchers) with
    ⟨rest, hready, -⟩ | hdrifts
  · have hnone := h.ready
    rw [hready, List.count_cons_self] at hnone
    cases hnone
  · exact ⟨h.toPhase.drift hD hstep hdrifts, h.toUnasked.drift h.apart h.made hstep hdrifts⟩

end meanwhile

/-! ## From the shutdown to the end -/

/-- The engine waits for its jobs, and will close its sources then or when the time is up. -/
structure WindsDown (e : Engine) (id : EngineId) (since : Nat) (s : System) : Prop
    extends Phase e id since .stopping .running .terminated (·.isClosed = true) s where
  drain : Drain e since id s
  asked : (s.engine id).closing ≠ .idle
  close : (s.engine id).closing = .due ∨ (s.dispatcher e.dispatcher).lifecycle.state = .terminated →
    .close id ∈ s.ready

/-- The engine has terminated.  If its dispatcher has not, the time was up. -/
structure Ended (e : Engine) (id : EngineId) (since : Nat) (s : System) : Prop
    extends Phase e id since .terminated .terminated .terminated (·.isClosed = true) s where
  closing : (s.engine id).closing = .idle
  overdue : (s.dispatcher e.dispatcher).lifecycle.state = .stopping →
    since + e.settings.dispatcher.drainTimeoutMillis ≤ s.clock

/-- The engine was shut down. -/
def Over (e : Engine) (id : EngineId) (since : Nat) (s : System) : Prop :=
  WindsDown e id since s ∨ Ended e id since s

section closing

variable {e : Engine} {id : EngineId} {since : Nat} {s s' : System} {events : List JobEvent}

theorem Over.founded (h : Over e id since s) : Founded e id since s :=
  h.elim (·.toFounded) (·.toFounded)

theorem Over.closed (h : Over e id since s) : (s.engine id).lifecycle.state.isClosed = true := by
  rcases h with h | h
  · rw [h.engine]
    rfl
  · rw [h.engine]
    rfl

/-- A federation that ran is terminated by its shutdown. -/
theorem Federation.state_shutdown {f : Federation} (d : Depot) (h : f.state.isClosed = false) :
    (f.shutdown d).1.state = .terminated := by
  have hopen := Lifecycle.beginShutdown_of_open h
  unfold Federation.shutdown
  split
  · rename_i hclosed
    rw [hclosed] at hopen
    exact absurd rfl hopen
  · rfl

theorem Ended.drift {direct : FederationId → Prop} (h : Ended e id since s)
    (hstep : Step direct s events s') (hdrifts : Drifts id s s') : Ended e id since s' where
  toPhase := h.toPhase.drift (fun _ => rfl) hstep hdrifts
  closing := hdrifts.engine ▸ h.closing
  overdue hstopping := by
    have hclock := (engineStep_of_step id h.apart hstep).stays.clock
    have hdispatcher := hdrifts.dispatcher
    rw [h.later.dispatcher] at hdispatcher
    rcases hdispatcher with hsame | ⟨-, hterminated, -⟩
    · exact Nat.le_trans (h.overdue (hsame.symm.trans hstopping)) hclock
    · exact nomatch hstopping.symm.trans hterminated

/-- An engine that winds down goes on with that. -/
theorem WindsDown.drift (h : WindsDown e id since s)
    (hstep : Step (· ≠ (s.engine id).federation) s events s') (hdrifts : Drifts id s s') :
    WindsDown e id since s' where
  toPhase := h.toPhase.drift (fun _ => rfl) hstep hdrifts
  drain := h.drain.step (fun hother => hother h.later.federation.symm)
    (engineStep_of_step id h.apart hstep) (jobStep_of_step _ hstep)
  asked := hdrifts.engine ▸ h.asked
  close := by
    have hdispatcher := hdrifts.dispatcher
    rw [h.later.dispatcher] at hdispatcher
    rw [hdrifts.engine]
    rcases hdispatcher with hsame | ⟨-, hterminated, hwoken⟩
    · rw [hsame]
      exact fun hreason => hdrifts.close (h.close hreason)
    · -- the dispatcher has terminated: the errand was there, or the engine is woken
      intro _
      cases hclosing : (s.engine id).closing with
      | idle => exact absurd hclosing h.asked
      | due => exact hdrifts.close (h.close (.inl hclosing))
      | waiting deadline => exact hwoken deadline hclosing

/-- Errands that do not close the engine are no matter of its phase. -/
theorem Founded.pop {rest : List Errand} (h : Founded e id since s) (hready : s.ready = .close id :: rest) :
    Founded e id since { s with ready := rest } :=
  { h with
    attentive := by
      intro hstopping hdrained
      have hmem := h.attentive hstopping hdrained
      rw [hready] at hmem
      exact (List.mem_cons.mp hmem).resolve_left fun heq => nomatch heq }

/-- When the sources are closed the engine has terminated, and unless its jobs have ended the time is
up. -/
private theorem ended_of_terminates
    (h : Phase e id since .stopping .running .terminated (·.isClosed = true) s)
    (hterminates : Terminates id s s') (hdrain : Drain e since id s')
    (hfounded : e.Later (s'.engine id) → s'.Attentive e.dispatcher → Founded e id since s') :
    Ended e id since s' := by
  have hengine := hterminates.engine h.made
  have hdispatcher : s'.dispatcher e.dispatcher = s.dispatcher e.dispatcher := by
    rw [System.dispatcher, hterminates.dispatchers, System.dispatcher]
  have hfederation : (s'.federation e.federation).state = .terminated := by
    rw [← h.later.federation, hterminates.federation (h.later.federation.symm ▸ h.federations)]
    apply Federation.state_shutdown
    rw [h.later.federation, h.federation]
    rfl
  refine ⟨⟨hfounded ?_ ?_, ?_, hfederation, ?_, ?_⟩, ?_, fun hstopping => ?_⟩
  · rw [hengine]
    exact h.later.changed _ _
  · unfold System.Attentive
    rw [hdispatcher, hterminates.ready]
    exact h.attentive
  · rw [hengine]
    rfl
  · rw [System.service, hterminates.services]
    exact h.service
  · rw [hdispatcher]
    exact h.dispatcher
  · rw [hengine]
  · -- the federation was shut down, which an engine that drains does not do
    cases hdrain with
    | draining hdraining =>
        have hopen := hdraining.isOpen
        rw [System.IsOpen, hfederation] at hopen
        cases hopen
    | terminated hterminated => cases hstopping.symm.trans hterminated
    | overdue hoverdue => exact hoverdue

/-- The errand that closes the engine ends its shutdown, or begins to wait. -/
theorem WindsDown.closes (h : WindsDown e id since s)
    (hstep : Step (· ≠ (s.engine id).federation) s events s') (hcloses : Closes id s s') :
    Over e id since s' := by
  have hdrain := h.drain.step (fun hother => hother h.later.federation.symm)
    (engineStep_of_step id h.apart hstep) (jobStep_of_step _ hstep)
  have hfounded : s.services.size = s'.services.size → e.Later (s'.engine id) →
      s'.Attentive e.dispatcher → Founded e id since s' := fun hservices hlater =>
    h.toFounded.step hstep hlater (Nat.le_of_eq hservices)
  obtain ⟨rest, hready, rfl⟩ := hcloses
  have hpopped : Phase e id since .stopping .running .terminated (·.isClosed = true)
      { s with ready := rest } :=
    ⟨h.toFounded.pop hready, h.engine, h.federation, h.service, h.dispatcher⟩
  have hasked : (System.engine { s with ready := rest } id).closing ≠ .idle := h.asked
  have hservices : s.services.size = (System.services { s with ready := rest }).size := rfl
  generalize { s with ready := rest } = t at hdrain hfounded hpopped hasked hservices ⊢
  rcases runClose_cases id t with ⟨hidle, -⟩ | ⟨-, hterminates⟩ | ⟨⟨-, hstopping⟩, heq⟩
  · exact absurd hidle hasked
  · right
    exact ended_of_terminates hpopped hterminates hdrain
      (hfounded (hservices.trans (by rw [hterminates.services])))
  · left
    rw [heq] at hdrain hfounded ⊢
    rw [hpopped.later.dispatcher] at hstopping
    have hengine : ∀ e' millis, ((t.setEngine id e').after millis (.close id)).engine id = e' :=
      fun e' _ => t.engine_setEngine_self hpopped.made e'
    refine ⟨⟨hfounded hservices ?_ hpopped.attentive, ?_, hpopped.federation, hpopped.service,
      hpopped.dispatcher⟩, hdrain, ?_, fun hreason => ?_⟩
    · rw [hengine]
      exact hpopped.later.changed _ _
    · rw [hengine]
      exact hpopped.engine
    · rw [hengine]
      exact fun hidle => nomatch hidle
    · rw [hengine] at hreason
      rcases hreason with hdue | hterminated
      · exact nomatch hdue
      · exact nomatch hstopping.symm.trans hterminated

/-- An engine that was shut down winds down or has terminated, whatever happens. -/
theorem Over.withstands : Withstands (Meanwhile id) (Over e id since) := by
  intro s s' hmeanwhile hs
  obtain ⟨events, hstep⟩ := hmeanwhile.step
  have hfounded := hs.founded
  rcases hmeanwhile.closes_or_drifts hfounded.apart hfounded.made
    (hfounded.later.dispatcher ▸ hfounded.dispatchers) with hcloses | hdrifts
  · rcases hs with hs | hs
    · exact hs.closes hstep hcloses
    · -- there is nothing left to close
      obtain ⟨rest, hready, rfl⟩ := hcloses
      have hidle : (System.engine { s with ready := rest } id).closing = .idle := hs.closing
      rw [(runClose_turn id _).eq_of_idle hidle]
      exact .inr ⟨⟨hfounded.pop hready, hs.engine, hs.federation, hs.service, hs.dispatcher⟩, hs.closing,
        hs.overdue⟩
  · rcases hs with hs | hs
    · exact .inl (hs.drift hstep hdrifts)
    · exact .inr (hs.drift hstep hdrifts)

end closing

/-! ## The pieces of calls -/

section changes

variable {e : Engine} {id : EngineId} {since : Nat} {a f v : LifecycleState}
  {D D' : LifecycleState → Prop} {s s' : System}

/-- A change of records, buses or the depot. -/
private theorem Unclosing.besides (h : Unclosing e id since a f v D s) (depot : Depot)
    (buses : Array Bus) (log : Array LogLine) :
    Unclosing e id since a f v D { s with depot := depot, buses := buses, log := log } :=
  ⟨⟨⟨h.apart, h.made, h.later, h.federations, h.dispatchers, h.services, h.begun, h.attentive⟩,
    h.engine, h.federation, h.service, h.dispatcher⟩, ⟨h.closing, h.ready, h.timers⟩⟩

private theorem Unclosing.setBus (h : Unclosing e id since a f v D s) (bus : BusId) (b : Bus) :
    Unclosing e id since a f v D (s.setBus bus b) :=
  h.besides _ _ _

private theorem Unclosing.addLog (h : Unclosing e id since a f v D s) (lines : List LogLine) :
    Unclosing e id since a f v D (s.addLog lines) :=
  h.besides _ _ _

private theorem Founded.setEngine (h : Founded e id since s) (l : Lifecycle) (c : Closing) :
    Founded e id since (s.setEngine id { s.engine id with lifecycle := l, closing := c }) := by
  generalize hother : { s.engine id with lifecycle := l, closing := c } = other
  have hlater : e.Later other := hother ▸ h.later.changed l c
  have hsize : (s.setEngine id other).engines.size = s.engines.size := Array.size_setIfInBounds
  have hsame : ∀ i, ((s.setEngine id other).engine i).federation = (s.engine i).federation := by
    intro i
    rw [s.engine_setEngine]
    split
    · rename_i hi
      rw [hi.1, hlater.federation, h.later.federation]
    · rfl
  refine ⟨?_, hsize.symm ▸ h.made, ?_, h.federations, h.dispatchers, h.services, h.begun, h.attentive⟩
  · intro i j hi hj
    rw [hsame, hsame]
    rw [hsize] at hi hj
    exact h.apart i j hi hj
  · rw [s.engine_setEngine_self h.made]
    exact hlater

theorem Unclosing.setEngine (h : Unclosing e id since a f v D s) (l : Lifecycle) :
    Unclosing e id since l.state f v D (s.setEngine id { s.engine id with lifecycle := l }) := by
  have hengine := s.engine_setEngine_self h.made { s.engine id with lifecycle := l }
  refine ⟨⟨h.toFounded.setEngine l _, ?_, h.federation, h.service, h.dispatcher⟩,
    ⟨?_, h.ready, h.timers⟩⟩
  · rw [hengine]
  · rw [hengine]
    exact h.closing

theorem Unclosing.setFederation (h : Unclosing e id since a f v D s) (federation : Federation) :
    Unclosing e id since a federation.state v D (s.setFederation e.federation federation) where
  toPhase := { h with
    federations := Nat.lt_of_lt_of_eq h.federations Array.size_setIfInBounds.symm
    federation := by rw [s.federation_setFederation_self h.federations] }
  toUnasked := ⟨h.closing, h.ready, h.timers⟩

theorem Unclosing.setService (h : Unclosing e id since a f v D s) (service : Service) :
    Unclosing e id since a f service.lifecycle.state D (s.setService e.service service) where
  toPhase := { h with
    services := Nat.lt_of_lt_of_eq h.services Array.size_setIfInBounds.symm
    service := by rw [s.service_setService_self h.services] }
  toUnasked := ⟨h.closing, h.ready, h.timers⟩

/-- A dispatcher that was shut down may need to be drained. -/
theorem Unclosing.setDispatcher (h : Unclosing e id since a f v D s) (d : Dispatcher)
    (hD : D' d.lifecycle.state)
    (hattentive : d.lifecycle.state = .stopping → .drain e.dispatcher ∈ s.ready) :
    Unclosing e id since a f v D' (s.setDispatcher e.dispatcher d) := by
  have hself := s.dispatcher_setDispatcher_self h.dispatchers d
  refine ⟨⟨⟨h.apart, h.made, h.later, h.federations, ?_, h.services, h.begun, ?_⟩, h.engine,
    h.federation, h.service, ?_⟩, ⟨h.closing, h.ready, h.timers⟩⟩
  · rw [s.dispatchers_size_setDispatcher]
    exact h.dispatchers
  · intro hstopping _
    rw [hself] at hstopping
    exact hattentive hstopping
  · rw [hself]
    exact hD

/-- An errand that does not close the engine may become ready. -/
private theorem Unclosing.enqueue (h : Unclosing e id since a f v D s) {errands : List Errand}
    (hclose : .close id ∉ errands) : Unclosing e id since a f v D (s.enqueue errands) := by
  refine ⟨⟨⟨h.apart, h.made, h.later, h.federations, h.dispatchers, h.services, h.begun,
    fun hstopping hdrained => ?_⟩, h.engine, h.federation, h.service, h.dispatcher⟩,
    ⟨h.closing, ?_, h.timers⟩⟩
  · exact List.mem_append_left _ (h.attentive hstopping hdrained)
  · unfold System.enqueue
    rw [List.count_append, h.ready, List.count_eq_zero.mpr hclose]

end changes

/-! ### Components -/

theorem Federation.start_of_notStarted {f : Federation} (h : f.state = .notStarted) :
    ∃ f' lines, f.start = (.ok f', lines) ∧ f'.state = .running := by
  have hbegun := Lifecycle.beginStart_of_notStarted h
  unfold Federation.start
  rw [hbegun]
  exact ⟨_, _, rfl, rfl⟩

theorem Dispatcher.start_of_notStarted {d : Dispatcher} (h : d.lifecycle.state = .notStarted) :
    ∃ d' lines, d.start = (.ok d', lines) ∧ d'.lifecycle.state = .running := by
  have hbegun := Lifecycle.beginStart_of_notStarted h
  unfold Dispatcher.start
  rw [hbegun]
  exact ⟨_, _, rfl, rfl⟩

theorem Dispatcher.beginShutdown_of_notStarted {d : Dispatcher}
    (h : d.lifecycle.state = .notStarted) :
    ∃ d' lines, d.beginShutdown = (.terminated, d', lines) ∧ d'.lifecycle.state = .terminated := by
  unfold Dispatcher.beginShutdown
  rw [Lifecycle.beginShutdown_of_notStarted h]
  exact ⟨_, _, rfl, rfl⟩

theorem Dispatcher.beginShutdown_of_running {d : Dispatcher} (h : d.lifecycle.state = .running) :
    ∃ d' lines, d.beginShutdown = (.drain, d', lines) ∧ d'.lifecycle.state = .stopping := by
  unfold Dispatcher.beginShutdown
  rw [Lifecycle.beginShutdown_of_begun (.inr h)]
  exact ⟨_, _, rfl, rfl⟩

/-- A service that is on its way to running does not stop to register its observer. -/
theorem Service.state_finishStart {v : Service} (h : v.lifecycle.state = .starting) (self : ServiceId)
    (bus : Bus) : (v.attach self bus).1.finishStart.lifecycle.state = .running := by
  change v.lifecycle.markRunning.state = .running
  unfold Lifecycle.markRunning
  rw [if_pos h]

theorem Service.beginShutdown_of_open {v : Service} (h : v.lifecycle.state.isClosed = false) :
    v.beginShutdown.1 ≠ .alreadyShuttingDown :=
  Lifecycle.beginShutdown_of_open h

theorem Service.state_finishShutdown (v : Service) (bus : Bus) :
    (v.finishShutdown bus).1.lifecycle.state = .terminated := by
  unfold Service.finishShutdown
  split <;> rfl

section pieces

variable {e : Engine} {id : EngineId} {since : Nat} {a f v : LifecycleState}
  {D : LifecycleState → Prop}

/-! ### Starting and shutting down parts -/

theorem startFederation_phase : Ensures (Unclosing e id since a .notStarted v D)
    (startFederation e.federation) fun answer s =>
      answer = .ok () ∧ Unclosing e id since a .running v D s := by
  intro s h
  obtain ⟨f', lines, hstart, hrunning⟩ := Federation.start_of_notStarted h.federation
  unfold startFederation
  rw [fromSystem_bind, hstart]
  refine ⟨rfl, ?_⟩
  rw [← hrunning]
  exact (h.setFederation f').addLog lines

theorem startDispatcher_phase : Ensures (Unclosing e id since a f v (· = .notStarted))
    (startDispatcher e.dispatcher) fun answer s =>
      answer = .ok () ∧ Unclosing e id since a f v (· = .running) s := by
  intro s h
  obtain ⟨d, lines, hstart, hrunning⟩ := Dispatcher.start_of_notStarted h.dispatcher
  unfold startDispatcher
  rw [fromSystem_bind, hstart]
  refine ⟨rfl, ?_⟩
  have hopen : d.lifecycle.state = .stopping → .drain e.dispatcher ∈ s.ready := by
    intro hstopping
    rw [hrunning] at hstopping
    cases hstopping
  exact (h.setDispatcher d hrunning hopen).addLog lines

theorem startService_phase : Ensures (Unclosing e id since a f .notStarted D)
    (startService e.service) fun answer s =>
      answer = .ok () ∧ Unclosing e id since a f .running D s := by
  refine .exchange fun s h => ?_
  have hbegun := Service.beginStart_of_notStarted h.service
  split
  · rename_i hfault
    rw [hbegun] at hfault
    cases hfault
  · rename_i hbefore
    rw [hbegun] at hbefore
    cases hbefore
  · rename_i v' hstarting
    have hbefore : v'.lifecycle.state = .starting := by
      rw [← (Prod.mk.inj (hbegun.symm.trans hstarting)).2]
    refine ⟨rfl, ?_⟩
    rw [← Service.state_finishStart hbefore e.service (s.bus v'.bus)]
    exact ((h.setBus _ _).setService _).addLog _

theorem shutdownFederation_phase : Ensures (Unclosing e id since a .notStarted v D)
    (shutdownFederation e.federation) fun _ => Unclosing e id since a .terminated v D := by
  intro s h
  have hterminated : ((s.federation e.federation).shutdown s.depot).1.state = .terminated := by
    apply Federation.state_shutdown
    rw [h.federation]
    rfl
  rw [← hterminated]
  exact ((h.setFederation _).besides _ _ _).addLog _

/-- A dispatcher that never started is terminated at once. -/
theorem shutdownDispatcher_phase_notStarted :
    Ensures (Unclosing e id since a f v (· = .notStarted)) (shutdownDispatcher e.dispatcher)
      fun _ => Unclosing e id since a f v (· = .terminated) := by
  intro s h
  obtain ⟨d, lines, hshutdown, hterminated⟩ := Dispatcher.beginShutdown_of_notStarted h.dispatcher
  have hopen : d.lifecycle.state = .stopping → .drain e.dispatcher ∈ s.ready := by
    intro hstopping
    rw [hterminated] at hstopping
    cases hstopping
  unfold shutdownDispatcher
  rw [withDispatcher_bind, hshutdown]
  exact (h.setDispatcher d hterminated hopen).addLog lines

/-- A dispatcher that ran has jobs to wait for, or the errand is there that terminates it. -/
theorem shutdownDispatcher_phase_running :
    Ensures (Unclosing e id since a f v (· = .running)) (shutdownDispatcher e.dispatcher)
      fun _ => Unclosing e id since a f v (·.isClosed = true) := by
  intro s h
  obtain ⟨d, lines, hshutdown, hstopping⟩ := Dispatcher.beginShutdown_of_running h.dispatcher
  have hclosed : d.lifecycle.state.isClosed = true := by
    rw [hstopping]
    rfl
  have hdrain : Unclosing e id since a f v (· = .running) (s.enqueue [.drain e.dispatcher]) :=
    h.enqueue (by simp)
  unfold shutdownDispatcher
  rw [withDispatcher_bind, hshutdown]
  exact (hdrain.setDispatcher d hclosed fun _ => List.mem_append_right _
    (List.mem_singleton_self _)).addLog lines

theorem shutdownService_phase (hv : v.isClosed = false) : Ensures (Unclosing e id since a f v D)
    (shutdownService e.service) fun _ => Unclosing e id since a f .terminated D := by
  refine .update fun s h => ?_
  have hopen := Service.beginShutdown_of_open (h.service.symm ▸ hv)
  split
  · rename_i hclosed
    rw [hclosed] at hopen
    exact absurd rfl hopen
  · rename_i v' _ _
    dsimp only
    rw [← Service.state_finishShutdown v' (s.bus v'.bus)]
    exact ((h.setBus _ _).setService _).addLog _

/-! ### The engine itself -/

theorem claimStart_phase (hno : Problems.hasErrors e.problems = false) :
    Ensures (Unclosing e id since .notStarted f v D) (claimStart id) fun answer s =>
      (∃ e', e.Later e' ∧ answer = .ok (some e')) ∧ Unclosing e id since .starting f v D s := by
  intro s h
  have hbegun := Lifecycle.beginStart_of_notStarted h.engine
  have hno' : ¬Problems.hasErrors (s.engine id).problems = true := by
    rw [h.later.problems, hno]
    exact Bool.false_ne_true
  unfold claimStart
  rw [fromSystem_bind, if_neg hno', withLifecycle_bind, hbegun]
  exact ⟨⟨s.engine id, h.later, rfl⟩,
    (h.setEngine { (s.engine id).lifecycle with state := .starting }).addLog _⟩

theorem markRunning_phase : Ensures (Unclosing e id since .starting f v D)
    (withLifecycle id fun l => (l.markRunning, ())) fun _ => Unclosing e id since .running f v D := by
  intro s h
  have hrunning : (s.engine id).lifecycle.markRunning.state = .running := by
    unfold Lifecycle.markRunning
    rw [if_pos h.engine]
  rw [← hrunning]
  exact h.setEngine _

theorem claimShutdown_phase_notStarted : Ensures (Unclosing e id since .notStarted f v D)
    (claimShutdown id) fun answer s =>
      (∃ e', e.Later e' ∧ answer = (e', .terminated)) ∧ Unclosing e id since .terminated f v D s := by
  intro s h
  have hbegun := Lifecycle.beginShutdown_of_notStarted h.engine
  unfold claimShutdown
  rw [fromSystem_bind, withLifecycle_bind, hbegun]
  exact ⟨⟨s.engine id, h.later, rfl⟩,
    h.setEngine { (s.engine id).lifecycle with state := .terminated }⟩

theorem claimShutdown_phase_running : Ensures (Unclosing e id since .running f v D)
    (claimShutdown id) fun answer s =>
      (∃ e', e.Later e' ∧ answer = (e', .drain)) ∧ Unclosing e id since .stopping f v D s := by
  intro s h
  have hbegun := Lifecycle.beginShutdown_of_begun (.inr h.engine)
  unfold claimShutdown
  rw [fromSystem_bind, withLifecycle_bind, hbegun]
  exact ⟨⟨s.engine id, h.later, rfl⟩,
    (h.setEngine { (s.engine id).lifecycle with state := .stopping }).addLog _⟩

/-- The last piece of a shutdown: the engine is to close its sources. -/
theorem askToClose_phase :
    Ensures (Unclosing e id since .stopping .running .terminated (·.isClosed = true))
      (modify fun s => (s.setEngine id { s.engine id with closing := .due }).enqueue [.close id])
      fun _ => WindsDown e id since := by
  refine .update fun s h => ?_
  have hset := h.toFounded.setEngine (s.engine id).lifecycle .due
  have hengine : ((s.setEngine id { s.engine id with closing := .due }).enqueue [.close id]).engine id =
      { s.engine id with closing := .due } := s.engine_setEngine_self h.made _
  have hclose : .close id ∈
      ((s.setEngine id { s.engine id with closing := .due }).enqueue [.close id]).ready :=
    List.mem_append_right _ (List.mem_singleton_self _)
  have hfounded : Founded e id since
      ((s.setEngine id { s.engine id with closing := .due }).enqueue [.close id]) :=
    { hset with
      attentive := fun hstopping hdrained => List.mem_append_left _ (h.attentive hstopping hdrained) }
  refine ⟨⟨hfounded, ?_, h.federation, h.service, h.dispatcher⟩, .draining ⟨hfounded.made,
    hfounded.later.parts, ?_, h.dispatcher, ?_, h.begun, ?_, fun t ht heq => ?_⟩, ?_, fun _ => hclose⟩
  · rw [hengine]
    exact h.engine
  · rw [hengine]
    exact congrArg LifecycleState.isClosed h.engine
  · exact congrArg LifecycleState.isClosed h.federation
  · -- it is the only errand that closes the engine
    rw [hengine, if_pos rfl]
    change (s.ready ++ [Errand.close id]).count (.close id) ≤ 1
    exact Nat.le_of_eq (by rw [List.count_append, h.ready, List.count_singleton_self])
  · exact absurd heq (h.timers t ht)
  · rw [hengine]
    exact fun hidle => nomatch hidle

end pieces

/-! ### Calls -/

section calls

variable {e : Engine} {id : EngineId} {since : Nat} {a f v : LifecycleState}
  {D : LifecycleState → Prop} {P : System → Prop} {s : System}

/-- A dispatcher that was not shut down stays so. -/
theorem withstands_open {state : LifecycleState} (h : state ≠ .stopping) :
    Withstands (Meanwhile id) (Unclosing e id since a f v (· = state)) :=
  Unclosing.withstands fun hstopping => absurd hstopping.symm h

/-- A dispatcher that was shut down may terminate, and is closed then. -/
private theorem withstands_closed :
    Withstands (Meanwhile id) (Unclosing e id since a f v (·.isClosed = true)) :=
  Unclosing.withstands fun _ => rfl

/-- What is known besides of no system withstands everything. -/
private theorem withstands_given {φ : Prop} (h : Withstands (Meanwhile id) P) :
    Withstands (Meanwhile id) fun s => φ ∧ P s :=
  fun s s' hmeanwhile hs => ⟨hs.1, h s s' hmeanwhile hs.2⟩

/-- The first start of an engine without boot errors starts all its parts. -/
theorem starts (hno : Problems.hasErrors e.problems = false) :
    (startPieces id).Ensures (Meanwhile id)
      (Unclosing e id since .notStarted .notStarted .notStarted (· = .notStarted))
      fun answer s => answer = .ok () ∧
        Unclosing e id since .running .running .running (· = .running) s := by
  have hnew : LifecycleState.notStarted ≠ .stopping := nofun
  have hrunning : LifecycleState.running ≠ .stopping := nofun
  refine .seq (.one (claimStart_phase hno) fun _ => withstands_given (withstands_open hnew))
    fun answer => .given ?_
  rintro ⟨e', hlater, rfl⟩
  dsimp only
  refine .seq (Q := fun answer s => answer = .ok () ∧
    Unclosing e id since .starting .running .running (· = .running) s) ?_ fun answer => .given ?_
  · -- the parts, one after the other
    unfold partsPieces
    rw [hlater.federation, hlater.dispatcher, hlater.service]
    refine .seq (.one startFederation_phase fun _ => withstands_given (withstands_open hnew))
      fun answer => .given ?_
    rintro rfl
    refine .seq (.one startDispatcher_phase fun _ => withstands_given (withstands_open hrunning))
      fun answer => .given ?_
    rintro rfl
    exact .one startService_phase fun _ => withstands_given (withstands_open hrunning)
  · rintro rfl
    refine .seq (.one markRunning_phase fun _ => withstands_open hrunning) fun _ => ?_
    exact .answer fun _ hs => ⟨rfl, hs⟩

/-- A lifecycle that stays as it is. -/
private theorem withLifecycle_bind_same {α β : Type} {f : Lifecycle → Lifecycle × α} {answer : α}
    (h : f (s.engine id).lifecycle = ((s.engine id).lifecycle, answer)) (g : α → InSystem β) :
    (withLifecycle id f >>= g).run s = (g answer).run s := by
  have hself : s.setEngine id { s.engine id with lifecycle := (s.engine id).lifecycle } = s :=
    s.setEngine_self id
  rw [withLifecycle_bind, h, hself]

/-- What begins a start changes nothing if the engine runs. -/
private theorem claimStart_running (hno : Problems.hasErrors (s.engine id).problems = false)
    (hrunning : (s.engine id).lifecycle.state = .running) : (claimStart id).run s = (.ok none, s) := by
  unfold claimStart
  rw [fromSystem_bind, if_neg (Bool.eq_false_iff.mp hno),
    withLifecycle_bind_same (Lifecycle.beginStart_of_running hrunning)]
  rfl

/-- Nor does it if the engine was shut down. -/
private theorem claimStart_closed (hno : Problems.hasErrors (s.engine id).problems = false)
    (hclosed : (s.engine id).lifecycle.state.isClosed = true) :
    ∃ reason, (claimStart id).run s = (.error (.notRunning reason), s) := by
  obtain ⟨reason, hrefused⟩ := Lifecycle.beginStart_of_closed hclosed
  refine ⟨reason, ?_⟩
  unfold claimStart
  rw [fromSystem_bind, if_neg (Bool.eq_false_iff.mp hno), withLifecycle_bind_same hrefused]
  rfl

/-- A start of an engine that runs changes nothing. -/
theorem starts_running (hP : Withstands (Meanwhile id) P)
    (hrunning : ∀ s, P s → Problems.hasErrors (s.engine id).problems = false ∧
      (s.engine id).lifecycle.state = .running) :
    (startPieces id).Ensures (Meanwhile id) P fun answer s => answer = .ok () ∧ P s := by
  have hclaim : Ensures P (claimStart id) fun answer s => answer = .ok none ∧ P s := by
    intro s hs
    rw [claimStart_running (hrunning s hs).1 (hrunning s hs).2]
    exact ⟨rfl, hs⟩
  refine .seq (.one hclaim fun _ => withstands_given hP) fun answer => .given ?_
  rintro rfl
  exact .answer fun _ hs => ⟨rfl, hs⟩

/-- A start of an engine that was shut down is refused. -/
theorem starts_closed (hP : Withstands (Meanwhile id) P)
    (hclosed : ∀ s, P s → Problems.hasErrors (s.engine id).problems = false ∧
      (s.engine id).lifecycle.state.isClosed = true) :
    (startPieces id).Ensures (Meanwhile id) P fun answer s =>
      (∃ reason, answer = .error (.notRunning reason)) ∧ P s := by
  have hclaim : Ensures P (claimStart id) fun answer s =>
      (∃ reason, answer = .error (.notRunning reason)) ∧ P s := by
    intro s hs
    obtain ⟨reason, hrefused⟩ := claimStart_closed (hclosed s hs).1 (hclosed s hs).2
    rw [hrefused]
    exact ⟨⟨reason, rfl⟩, hs⟩
  refine .seq (.one hclaim fun _ => withstands_given hP) fun answer => .given ?_
  rintro ⟨reason, rfl⟩
  exact .answer fun _ hs => ⟨⟨reason, rfl⟩, hs⟩

/-- A shutdown of an engine that never started terminates it and its parts. -/
theorem shutsDown_unstarted :
    (shutdownPieces id).Ensures (Meanwhile id)
      (Unclosing e id since .notStarted .notStarted .notStarted (· = .notStarted))
      fun _ => Over e id since := by
  have hnew : LifecycleState.notStarted ≠ .stopping := nofun
  have hterminated : LifecycleState.terminated ≠ .stopping := nofun
  refine .seq (.one claimShutdown_phase_notStarted fun _ => withstands_given (withstands_open hnew))
    fun answer => .given ?_
  rintro ⟨e', hlater, rfl⟩
  dsimp only
  rw [hlater.dispatcher, hlater.service, hlater.federation]
  refine .seq (.one shutdownDispatcher_phase_notStarted fun _ => withstands_open hterminated)
    fun _ => ?_
  refine .seq (.one (shutdownService_phase rfl) fun _ => withstands_open hterminated) fun _ => ?_
  refine .one (shutdownFederation_phase.weaken (fun _ hs => hs) fun _ s hs => ?_) fun _ =>
    Over.withstands
  -- the dispatcher is not waited for, since it has terminated
  refine .inr ⟨⟨hs.toFounded, hs.engine, hs.federation, hs.service, ?_⟩, hs.closing, fun hstopping => ?_⟩
  · exact congrArg LifecycleState.isClosed hs.dispatcher
  · exact nomatch hstopping.symm.trans hs.dispatcher

/-- A shutdown of an engine that runs lets it wind down. -/
theorem shutsDown_running :
    (shutdownPieces id).Ensures (Meanwhile id)
      (Unclosing e id since .running .running .running (· = .running)) fun _ => Over e id since := by
  have hrunning : LifecycleState.running ≠ .stopping := nofun
  refine .seq (.one claimShutdown_phase_running fun _ => withstands_given (withstands_open hrunning))
    fun answer => .given ?_
  rintro ⟨e', hlater, rfl⟩
  dsimp only
  rw [hlater.dispatcher, hlater.service]
  refine .seq (.one shutdownDispatcher_phase_running fun _ => withstands_closed) fun _ => ?_
  refine .seq (.one (shutdownService_phase rfl) fun _ => withstands_closed) fun _ => ?_
  exact .one (fun s hs => .inl (askToClose_phase s hs)) fun _ => Over.withstands

/-- What begins a shutdown changes nothing if the engine was shut down before. -/
private theorem claimShutdown_closed (hclosed : (s.engine id).lifecycle.state.isClosed = true) :
    (claimShutdown id).run s = ((s.engine id, .alreadyShuttingDown), s) := by
  unfold claimShutdown
  rw [fromSystem_bind, withLifecycle_bind_same (Lifecycle.beginShutdown_of_closed hclosed)]
  rfl

/-- A shutdown of an engine that was shut down changes nothing. -/
theorem shutsDown_closed (hP : Withstands (Meanwhile id) P)
    (hclosed : ∀ s, P s → (s.engine id).lifecycle.state.isClosed = true) :
    (shutdownPieces id).Ensures (Meanwhile id) P fun _ => P := by
  have hclaim : Ensures P (claimShutdown id) fun answer s =>
      answer.2 = .alreadyShuttingDown ∧ P s := by
    intro s hs
    rw [claimShutdown_closed (hclosed s hs)]
    exact ⟨rfl, hs⟩
  refine .seq (.one hclaim fun _ => withstands_given hP) fun answer => .given fun hanswer => ?_
  obtain ⟨e, step⟩ := answer
  obtain rfl : step = .alreadyShuttingDown := hanswer
  exact .answer fun _ hs => hs

/-! ### Calls that nobody interrupts -/

/-- Starting an engine that runs answers at once and changes nothing. -/
theorem startEngine_running (hno : Problems.hasErrors (s.engine id).problems = false)
    (hrunning : (s.engine id).lifecycle.state = .running) : (startEngine id).run s = (.ok (), s) := by
  rw [← whole_startPieces]
  unfold startPieces
  rw [Pieces.whole_bind, Pieces.whole_one, run_bind, claimStart_running hno hrunning]
  rfl

/-- An engine that was shut down does not start. -/
theorem startEngine_closed (hno : Problems.hasErrors (s.engine id).problems = false)
    (hclosed : (s.engine id).lifecycle.state.isClosed = true) :
    ∃ reason, (startEngine id).run s = (.error (.notRunning reason), s) := by
  obtain ⟨reason, hrefused⟩ := claimStart_closed hno hclosed
  refine ⟨reason, ?_⟩
  rw [← whole_startPieces]
  unfold startPieces
  rw [Pieces.whole_bind, Pieces.whole_one, run_bind, hrefused]
  rfl

/-- Shutting an engine down again changes nothing. -/
theorem shutdownEngine_closed (hclosed : (s.engine id).lifecycle.state.isClosed = true) :
    (shutdownEngine id).run s = ((), s) := by
  rw [← whole_shutdownPieces]
  unfold shutdownPieces
  rw [Pieces.whole_bind, Pieces.whole_one, run_bind, claimShutdown_closed hclosed]
  rfl

end calls

end ContentEngine
