import ContentEngine.Proofs.Run.Boot
import ContentEngine.Proofs.Run.Phases

/-!
# The states of an engine and its parts agree

Of all combinations of states that an engine, its federation, its dispatcher and its processing service
could be in, only five are ever seen while no call is under way and nothing is left to do in the
background: nothing was started; everything runs; the engine waits for its jobs; everything has
terminated; or the time was up before the jobs had ended.  So the accessors, which look at the federation
and the dispatcher, let pass exactly while the engine runs.

## Strategy

Calls to start or shut down an engine are made in any number and at any time.  Each holds the lock of the
engine from its first piece to its last, and whoever calls meanwhile waits for that: so there is one call
under way, or none, and between the pieces of a call anything else may happen.  `EngineRun` is that.  It
carries from one piece to the next what the call still ensures, and when no call is under way the engine
`Rests` in one of its phases.
-/

namespace ContentEngine

/-! ## Runs of calls -/

/-- What an operation on an engine does. -/
def Operation.pieces (id : EngineId) : Operation → Pieces (Except Fault Unit)
  | .start => startPieces id
  | .shutdown => do
    shutdownPieces id
    pure (.ok ())

/-- A call to start or shut down an engine that has come to its end. -/
structure EngineCall where
  operation : Operation
  /-- When the call got the lock of the engine. -/
  begun : Nat
  answer : Except Fault Unit

/-- A call that is under way. -/
structure PendingCall where
  operation : Operation
  begun : Nat
  left : Pieces (Except Fault Unit)

/-- When the first shutdown began. -/
def firstShutdown? (calls : List EngineCall) : Option Nat :=
  (calls.find? fun call => call.operation = .shutdown).map EngineCall.begun

/-- The systems that are reached from a first one by calls to start or shut down an engine and by what
happens meanwhile, with the calls that have come to their end and the one that is under way. -/
inductive EngineRun (id : EngineId) (s₀ : System) :
    List EngineCall → Option PendingCall → System → Prop
  | start : EngineRun id s₀ [] none s₀
  | call {calls s} (op : Operation) : EngineRun id s₀ calls none s →
      EngineRun id s₀ calls (some ⟨op, s.clock, op.pieces id⟩) s
  | goOn {calls op begun s} {β : Type} {first : InSystem β} {rest} :
      EngineRun id s₀ calls (some ⟨op, begun, .piece first rest⟩) s →
        EngineRun id s₀ calls (some ⟨op, begun, rest (first.run s).1⟩) (first.run s).2
  | finish {calls op begun answer s} : EngineRun id s₀ calls (some ⟨op, begun, .done answer⟩) s →
      EngineRun id s₀ (calls ++ [⟨op, begun, answer⟩]) none s
  | meanwhile {calls pending s s'} : EngineRun id s₀ calls pending s → Meanwhile id s s' →
      EngineRun id s₀ calls pending s'

/-! ## What is seen -/

/-- The states of an engine, its federation, its dispatcher and its processing service. -/
structure States where
  engine : LifecycleState
  federation : LifecycleState
  dispatcher : LifecycleState
  service : LifecycleState
  deriving DecidableEq, Repr

namespace System

/-- The states of an engine and its parts. -/
def states (s : System) (id : EngineId) : States where
  engine := (s.engine id).lifecycle.state
  federation := (s.federation (s.engine id).federation).state
  dispatcher := (s.dispatcher (s.engine id).dispatcher).lifecycle.state
  service := (s.service (s.engine id).service).lifecycle.state

/-- No errand can go on that closes an engine or terminates its dispatcher. -/
def Quiescent (s : System) (id : EngineId) : Prop :=
  .close id ∉ s.ready ∧ .drain (s.engine id).dispatcher ∉ s.ready

end System

/-- The states in which an engine and its parts are found after some calls. -/
inductive Settled (calls : List EngineCall) (id : EngineId) (s : System) : Prop
  | notStarted : calls = [] →
      s.states id = ⟨.notStarted, .notStarted, .notStarted, .notStarted⟩ → Settled calls id s
  | running : calls ≠ [] → firstShutdown? calls = none →
      s.states id = ⟨.running, .running, .running, .running⟩ → Settled calls id s
  | draining {since} : firstShutdown? calls = some since →
      s.states id = ⟨.stopping, .running, .stopping, .terminated⟩ → Settled calls id s
  | terminated {since} : firstShutdown? calls = some since →
      s.states id = ⟨.terminated, .terminated, .terminated, .terminated⟩ → Settled calls id s
  /-- The time was up before all jobs had ended. -/
  | overdue {since} : firstShutdown? calls = some since →
      since + (s.engine id).settings.dispatcher.drainTimeoutMillis ≤ s.clock →
      (s.dispatcher (s.engine id).dispatcher).inFlight ≠ 0 →
      s.states id = ⟨.terminated, .terminated, .stopping, .terminated⟩ → Settled calls id s

/-- An accessor of an engine does what it is for while the engine runs, and else is refused and changes
nothing. -/
def PassesIfRunning {α : Type} (id : EngineId) (s : System) (accessor inner : InSystem (Except Fault α)) :
    Prop :=
  if (s.engine id).lifecycle.state = .running then accessor.run s = inner.run s
  else ∃ reason, accessor.run s = (.error (.notRunning reason), s)

/-- The accessors of an engine. -/
structure Guarded (id : EngineId) (s : System) : Prop where
  connection : ∀ name,
    PassesIfRunning id s (engineConnection id name) (borrowConnection (s.engine id).federation name)
  federation : PassesIfRunning id s (engineFederation id) (pure (.ok (s.engine id).federation))
  repository : PassesIfRunning id s (engineRepository id) (pure (.ok (s.engine id).repository))
  service : PassesIfRunning id s (engineService id) (pure (.ok (s.engine id).service))
  detectors : PassesIfRunning id s (engineDetectors id) (pure (.ok (s.engine id).detectors))
  graph : ∀ name, PassesIfRunning id s (engineGraph id name) ((s.engine id).repository.graph name)

/-- The answers of calls: up to the first shutdown a start succeeds, and then it is refused. -/
inductive Answered : List EngineCall → Prop
  | nil : Answered []
  | started {calls begun} : Answered calls → firstShutdown? calls = none →
      Answered (calls ++ [⟨.start, begun, .ok ()⟩])
  | refused {calls begun since reason} : Answered calls → firstShutdown? calls = some since →
      Answered (calls ++ [⟨.start, begun, .error (.notRunning reason)⟩])
  | shutDown {calls begun} : Answered calls → Answered (calls ++ [⟨.shutdown, begun, .ok ()⟩])

/-- What is sure about an engine while no call is under way. -/
structure Consistent (calls : List EngineCall) (id : EngineId) (s : System) : Prop where
  settled : s.Quiescent id → Settled calls id s
  guarded : Guarded id s
  answered : Answered calls
  /-- Starting it again changes nothing. -/
  startsAgain : (s.engine id).lifecycle.state = .running → (startEngine id).run s = (.ok (), s)
  /-- Shutting it down again changes nothing. -/
  shutsDownAgain : (s.engine id).lifecycle.state = .stopping ∨
    (s.engine id).lifecycle.state = .terminated → (shutdownEngine id).run s = ((), s)
  /-- It does not start after a shutdown. -/
  notRestarted : firstShutdown? calls ≠ none →
    ∃ reason, (startEngine id).run s = (.error (.notRunning reason), s)

/-! ## Between calls -/

section calls

variable {calls : List EngineCall} {begun since : Nat} {answer : Except Fault Unit}

theorem firstShutdown?_start :
    firstShutdown? (calls ++ [⟨.start, begun, answer⟩]) = firstShutdown? calls := by
  unfold firstShutdown?
  simp

theorem firstShutdown?_shutdown (h : firstShutdown? calls = none) :
    firstShutdown? (calls ++ [⟨.shutdown, begun, answer⟩]) = some begun := by
  unfold firstShutdown? at h ⊢
  rw [List.find?_append, Option.map_eq_none_iff.mp h]
  rfl

theorem firstShutdown?_later (h : firstShutdown? calls = some since) (call : EngineCall) :
    firstShutdown? (calls ++ [call]) = some since := by
  unfold firstShutdown? at h ⊢
  obtain ⟨first, hfirst, hbegun⟩ := Option.map_eq_some_iff.mp h
  rw [List.find?_append, hfirst]
  exact congrArg some hbegun

end calls

/-- The phases in which an engine is while no call is under way. -/
inductive Rests (e : Engine) (id : EngineId) (calls : List EngineCall) (s : System) : Prop
  | notStarted : calls = [] →
      Unclosing e id 0 .notStarted .notStarted .notStarted (· = .notStarted) s → Rests e id calls s
  | running : calls ≠ [] → firstShutdown? calls = none →
      Unclosing e id 0 .running .running .running (· = .running) s → Rests e id calls s
  | closed {since} : firstShutdown? calls = some since → Over e id since s → Rests e id calls s

section rests

variable {e : Engine} {id : EngineId} {since : Nat} {calls : List EngineCall} {s s' : System}

theorem Rests.founded (h : Rests e id calls s) : Founded e id 0 s := by
  cases h with
  | notStarted _ h => exact h.toFounded
  | running _ _ h => exact h.toFounded
  | closed _ h => exact { h.founded with begun := Nat.zero_le _ }

theorem Rests.withstands : Withstands (Meanwhile id) (Rests e id calls) := by
  intro s s' hmeanwhile h
  cases h with
  | notStarted hcalls h => exact .notStarted hcalls (withstands_open (by decide) s s' hmeanwhile h)
  | running hcalls hnone h => exact .running hcalls hnone (withstands_open (by decide) s s' hmeanwhile h)
  | closed hsince h => exact .closed hsince (Over.withstands s s' hmeanwhile h)

/-- What a call ensures that is under way: when it ends, it has a right answer, and the engine rests. -/
def Proceeds (e : Engine) (id : EngineId) (calls : List EngineCall) (pending : PendingCall)
    (s : System) : Prop :=
  ∃ P : System → Prop, P s ∧ Withstands (Meanwhile id) P ∧
    pending.left.Ensures (Meanwhile id) P fun answer s =>
      Answered (calls ++ [⟨pending.operation, pending.begun, answer⟩]) ∧
        Rests e id (calls ++ [⟨pending.operation, pending.begun, answer⟩]) s

/-- A call that begins while the engine rests. -/
theorem Rests.proceeds (h : Rests e id calls s) (hno : Problems.hasErrors e.problems = false)
    (hanswered : Answered calls) (op : Operation) :
    Proceeds e id calls ⟨op, s.clock, op.pieces id⟩ s := by
  have hnew : ∀ {since}, Withstands (Meanwhile id)
      (Unclosing e id since .notStarted .notStarted .notStarted (· = .notStarted)) :=
    withstands_open nofun
  have hruns : ∀ {since}, Withstands (Meanwhile id)
      (Unclosing e id since .running .running .running (· = .running)) :=
    withstands_open nofun
  have hno' : ∀ {since s}, Founded e id since s → Problems.hasErrors (s.engine id).problems = false := by
    intro since s h
    rw [h.later.problems]
    exact hno
  cases op with
  | start =>
      cases h with
      | notStarted hcalls h =>
          refine ⟨_, h, hnew, (starts hno).weaken (fun _ hs => hs) ?_⟩
          rintro _ s' ⟨rfl, hs'⟩
          subst hcalls
          exact ⟨.started hanswered rfl, .running (List.cons_ne_nil _ _) rfl hs'⟩
      | running hcalls hnone h =>
          refine ⟨_, h, hruns, (starts_running hruns fun s h => ⟨hno' h.toFounded, h.engine⟩).weaken
            (fun _ hs => hs) ?_⟩
          rintro _ s' ⟨rfl, hs'⟩
          exact ⟨.started hanswered hnone,
            .running (by simp) (firstShutdown?_start.trans hnone) hs'⟩
      | closed hsince h =>
          refine ⟨_, h, Over.withstands,
            (starts_closed Over.withstands fun s h => ⟨hno' h.founded, h.closed⟩).weaken
              (fun _ hs => hs) ?_⟩
          rintro _ s' ⟨⟨reason, rfl⟩, hs'⟩
          exact ⟨.refused hanswered hsince, .closed (firstShutdown?_later hsince _) hs'⟩
  | shutdown =>
      -- a shutdown that ends the engine's run begins now
      have hcall : ∀ {P : System → Prop} {since}, P s → Withstands (Meanwhile id) P →
          (shutdownPieces id).Ensures (Meanwhile id) P (fun _ => Over e id since) →
          (∀ answer, firstShutdown? (calls ++ [⟨.shutdown, s.clock, answer⟩]) = some since) →
          Proceeds e id calls ⟨.shutdown, s.clock, Operation.shutdown.pieces id⟩ s := by
        intro P since hs hP hends hsince
        refine ⟨P, hs, hP, .seq hends fun _ => .answer fun s' hs' => ⟨.shutDown hanswered, ?_⟩⟩
        exact .closed (hsince _) hs'
      cases h with
      | notStarted hcalls h =>
          subst hcalls
          exact hcall { h with begun := Nat.le_refl _ } hnew shutsDown_unstarted fun _ => rfl
      | running hcalls hnone h =>
          exact hcall { h with begun := Nat.le_refl _ } hruns shutsDown_running
            fun _ => firstShutdown?_shutdown hnone
      | closed hsince h =>
          exact hcall h Over.withstands (shutsDown_closed Over.withstands fun s h => h.closed)
            fun _ => firstShutdown?_later hsince _

/-- Along a run the engine rests, or a call is under way that will leave it so. -/
theorem EngineRun.rests {s₀ : System} {pending : Option PendingCall}
    (hrun : EngineRun id s₀ calls pending s) (hstart : Rests e id [] s₀)
    (hno : Problems.hasErrors e.problems = false) :
    match pending with
    | none => Answered calls ∧ Rests e id calls s
    | some underWay => Proceeds e id calls underWay s := by
  induction hrun with
  | start => exact ⟨.nil, hstart⟩
  | call op _ ih => exact ih.2.proceeds hno ih.1 op
  | goOn _ ih =>
      obtain ⟨P, hs, -, R, hfirst, hrest⟩ := ih
      exact ⟨_, hfirst _ hs, (hrest _).1, (hrest _).2⟩
  | finish _ ih =>
      obtain ⟨P, hs, -, hends⟩ := ih
      exact hends _ hs
  | @meanwhile calls pending s s' _ hmeanwhile ih =>
      cases pending with
      | none => exact ⟨ih.1, Rests.withstands s s' hmeanwhile ih.2⟩
      | some underWay =>
          obtain ⟨P, hs, hP, hends⟩ := ih
          exact ⟨P, hP s s' hmeanwhile hs, hP, hends⟩

theorem Phase.states {a f v : LifecycleState} {D : LifecycleState → Prop}
    (h : Phase e id since a f v D s) :
    s.states id = ⟨a, f, (s.dispatcher e.dispatcher).lifecycle.state, v⟩ := by
  unfold System.states
  rw [h.later.federation, h.later.dispatcher, h.later.service, h.engine, h.federation, h.service]

/-- When nothing is left to do in the background an engine that rests has settled. -/
theorem Rests.settled (h : Rests e id calls s) (hquiet : s.Quiescent id) : Settled calls id s := by
  obtain ⟨hclose, hdrain⟩ := hquiet
  rw [h.founded.later.dispatcher] at hdrain
  cases h with
  | notStarted hcalls h =>
      refine .notStarted hcalls ?_
      rw [h.toPhase.states, h.dispatcher]
  | running hcalls hnone h =>
      refine .running hcalls hnone ?_
      rw [h.toPhase.states, h.dispatcher]
  | closed hsince h =>
      rcases h with h | h
      · -- the engine would close its sources if the dispatcher had terminated
        have hstopping : (s.dispatcher e.dispatcher).lifecycle.state = .stopping := by
          rcases LifecycleState.isClosed_iff.mp h.dispatcher with hstopping | hterminated
          · exact hstopping
          · exact absurd (h.close (.inr hterminated)) hclose
        refine .draining hsince ?_
        rw [h.toPhase.states, hstopping]
      · rcases LifecycleState.isClosed_iff.mp h.dispatcher with hstopping | hterminated
        · refine .overdue hsince ?_ ?_ ?_
          · rw [h.later.parts.settings]
            exact h.overdue hstopping
          · -- the dispatcher would be drained if its jobs had ended
            rw [h.later.dispatcher]
            intro hnone
            exact hdrain (h.attentive hstopping (beq_iff_eq.mpr hnone))
          · rw [h.toPhase.states, hstopping]
        · refine .terminated hsince ?_
          rw [h.toPhase.states, hterminated]

/-- The federation and the dispatcher run exactly while the engine does. -/
theorem Rests.guard (h : Rests e id calls s) :
    (s.guard (s.engine id)).isRunning = true ↔ (s.engine id).lifecycle.state = .running := by
  have hguard : ∀ {a f v D since}, Phase e id since a f v D s →
      ((s.guard (s.engine id)).isRunning = true ↔
        f = .running ∧ (s.dispatcher e.dispatcher).lifecycle.state = .running) := by
    intro a f v D since h
    unfold System.guard StateGuard.isRunning
    rw [h.later.federation, h.later.dispatcher, h.federation]
    simp
  cases h with
  | notStarted _ h => rw [hguard h.toPhase, h.engine]; simp
  | running _ _ h => rw [hguard h.toPhase, h.engine, h.dispatcher]; simp
  | closed _ h =>
      rcases h with h | h
      · -- the dispatcher was shut down with the engine
        have hnot : (s.dispatcher e.dispatcher).lifecycle.state ≠ .running := by
          intro hrunning
          have hclosed := h.dispatcher
          rw [hrunning] at hclosed
          cases hclosed
        rw [hguard h.toPhase, h.engine]
        simp [hnot]
      · rw [hguard h.toPhase, h.engine]
        simp

theorem passesIfRunning_guarded {α : Type}
    (h : (s.guard (s.engine id)).isRunning = true ↔ (s.engine id).lifecycle.state = .running)
    (access : Engine → InSystem (Except Fault α)) :
    PassesIfRunning id s (guarded id access) (access (s.engine id)) := by
  unfold PassesIfRunning guarded StateGuard.requireRunning
  rw [get_bind]
  dsimp only
  split
  · rename_i hrunning
    rw [if_pos (h.mpr hrunning)]
  · rename_i hnot
    rw [if_neg fun hguard => hnot (h.mp hguard)]
    exact ⟨_, rfl⟩

/-- What is sure about an engine that rests. -/
theorem Rests.consistent (h : Rests e id calls s) (hno : Problems.hasErrors e.problems = false)
    (hanswered : Answered calls) : Consistent calls id s := by
  have hno' : Problems.hasErrors (s.engine id).problems = false := by
    rw [h.founded.later.problems]
    exact hno
  refine ⟨h.settled, ⟨fun name => passesIfRunning_guarded h.guard _,
    passesIfRunning_guarded h.guard _, passesIfRunning_guarded h.guard _,
    passesIfRunning_guarded h.guard _, passesIfRunning_guarded h.guard _,
    fun name => passesIfRunning_guarded h.guard _⟩, hanswered, startEngine_running hno',
    fun hclosed => shutdownEngine_closed (LifecycleState.isClosed_iff.mpr hclosed),
    fun hshutdown => startEngine_closed hno' ?_⟩
  cases h with
  | notStarted hcalls _ => exact absurd (hcalls ▸ rfl) hshutdown
  | running _ hnone _ => exact absurd hnone hshutdown
  | closed _ h => exact h.closed

end rests

/-! ## Engines that were built -/

/-- An engine that was made but not started, with parts that were not started either. -/
structure Unstarted (id : EngineId) (s : System) : Prop where
  made : id < s.engines.size
  states : s.states id = ⟨.notStarted, .notStarted, .notStarted, .notStarted⟩
  service : (s.engine id).service < s.services.size

section build

variable {direct : FederationId → Prop} {federation : FederationId} {s s' : System} {id : EngineId}

/-- While an engine is being built its federation is nobody else's, and is not started. -/
private def Founding (direct : FederationId → Prop) (federation : FederationId) (s : System) : Prop :=
  Building direct federation s ∧ (s.federation federation).state = .notStarted

private theorem Founding.quiet (h : Founding direct federation s) (hquiet : Quiet s s') :
    Founding direct federation s' :=
  ⟨h.1.quiet hquiet, (hquiet.states federation).trans h.2⟩

private theorem lasting_founding : Lasting fun _ => Founding direct federation where
  aside haside := fun h => h.quiet (.of_aside haside)
  turn deadline _ s := fun h => by
    have hspared := ((Background.enduring s).turn deadline s (.refl s)).spared federation h.1.unthreatened
    refine ⟨h.1.step (.turn deadline s) (.turn deadline s), ?_⟩
    rw [hspared]
    exact h.2
  pass moment := fun {_ s} h => ⟨h.1.step ⟨rfl, Nat.le_refl _⟩ (.pass moment s), h.2⟩
  install id _ _ _ _ s := fun h => h.quiet (.withFederation id (fun f d => install_state f d _ _ _) s)
  remove id name _ s := fun h => h.quiet (.withFederation id (fun f d => remove_state f d name) s)
  request id _ _ s := fun h => h.quiet (.withFederation id (fun _ _ => rfl) s)
  resume id _ _ s := fun h => h.quiet (.withFederation id (fun _ _ => rfl) s)
  abandon := id
  giveBack _ _ _ := fun h => h.quiet (.of_eq rfl rfl rfl rfl rfl rfl rfl rfl)
  submit id work _ s := fun h => by
    refine ⟨h.1.step (.submit id work s) (.submit id work s), ?_⟩
    by_cases haccepts : ((s.dispatcher id).accepting && (s.dispatcher id).lifecycle.isRunning) = true
    · rw [submitWork_accepted work haccepts]
      exact h.2
    · rw [submitWork_rejected work haccepts]
      exact h.2

/-- A federation that is made for an engine is not started. -/
private theorem founding_addFederation (h : Reachable direct s) {f : Federation}
    (hf : f.state = .notStarted) :
    Founding direct s.federations.size ((addFederation f).run s).2 := by
  refine ⟨building_addFederation h hf, ?_⟩
  change ((s.federations.push f).getD s.federations.size default).state = _
  rw [System.getD_push, if_pos rfl]
  exact hf

/-- An engine that is made of parts that were not started. -/
private theorem unstarted_addEngine {e : Engine} (hlifecycle : e.lifecycle.state = .notStarted)
    (hfederation : (s.federation e.federation).state = .notStarted)
    (hdispatcher : (s.dispatcher e.dispatcher).lifecycle.state = .notStarted)
    (hservice : (s.service e.service).lifecycle.state = .notStarted)
    (hmade : e.service < s.services.size) :
    Unstarted s.engines.size { s with engines := s.engines.push e } := by
  have hengine : System.engine { s with engines := s.engines.push e } s.engines.size = e := by
    rw [System.engine, System.getD_push, if_pos rfl]
  refine ⟨?_, ?_, ?_⟩
  · exact Nat.lt_of_lt_of_eq (Nat.lt_succ_self _) (Array.size_push e).symm
  · unfold System.states
    rw [hengine]
    exact States.mk.injEq .. |>.mpr ⟨hlifecycle, hfederation, hdispatcher, hservice⟩
  · rw [hengine]
    exact hmade

/-- The rest of an engine is made at the end, and is not started. -/
private theorem unstarted_buildOn (blueprint : Blueprint) (root : NodePath) (bus : BusId)
    (graph : Graph) :
    Ensures (Founding direct federation) (buildOn blueprint root bus federation graph)
      fun answer s => ∀ id, answer = .ok id → Unstarted id s := by
  have hlasting : Lasting fun _ => Founding direct federation := lasting_founding
  unfold buildOn
  refine .andThen (hlasting.scanConfiguration [] graph root) fun scan => ?_
  refine .andThen (hlasting.applyDescriptors [] federation scan.sources) fun applied => ?_
  dsimp only
  refine .andThen (hlasting.changeBus [] bus _) fun observer => ?_
  split
  · exact .answer fun _ _ id hid => nomatch hid
  · rename_i d hnew
    intro s hs id hid
    obtain rfl := Except.ok.inj hid
    refine unstarted_addEngine rfl hs.2 ?_ ?_ ?_
    · change ((s.dispatchers.push d).getD s.dispatchers.size default).lifecycle.state = _
      rw [System.getD_push, if_pos rfl]
      exact (Dispatcher.asMade hnew).lifecycle
    · change ((s.services.push _).getD s.services.size default).lifecycle.state = _
      rw [System.getD_push, if_pos rfl]
      rfl
    · exact Nat.lt_of_lt_of_eq (Nat.lt_succ_self _) (Array.size_push _).symm

/-- An engine that is built was not started, and none of its parts was. -/
theorem unstarted_buildEngine (blueprint : Blueprint) (h : Reachable direct s)
    (hbuilt : ((buildEngine blueprint).run s).1 = .ok id) :
    Unstarted id ((buildEngine blueprint).run s).2 := by
  have hlasting : ∀ federation, Lasting fun _ => Founding direct federation := fun _ => lasting_founding
  refine ensures_buildEngine (J := fun _ => Reachable direct) (K := fun _ => Founding direct)
    (Q := fun answer s => ∀ id, answer = .ok id → Unstarted id s) blueprint (fun _ _ _ id hid => nomatch hid)
    (fun engine capacity s hs => ?_) (fun bus f hf s hs => founding_addFederation hs hf)
    (fun bus federation name plan => (hlasting federation).registerConnector [] federation name plan)
    (fun _ _ _ _ _ id hid => nomatch hid) (fun root bus federation graph => ?_) s h id hbuilt
  · exact hs.run (.step .start (.quiet (.of_eq rfl rfl rfl rfl rfl rfl rfl rfl)))
  · exact unstarted_buildOn blueprint root bus graph

/-- An engine that is built rests, and was not started. -/
theorem rests_buildEngine (blueprint : Blueprint) (h : Reachable direct s)
    (hbuilt : ((buildEngine blueprint).run s).1 = .ok id) :
    Rests (((buildEngine blueprint).run s).2.engine id) id [] ((buildEngine blueprint).run s).2 := by
  have hreach := reachable_buildEngine blueprint h
  obtain ⟨hmade, hstates, hservice⟩ := unstarted_buildEngine blueprint h hbuilt
  generalize ((buildEngine blueprint).run s).2 = t at *
  obtain ⟨hengine, hfederation, hdispatcher, hservices⟩ := States.mk.inj hstates
  refine .notStarted rfl ⟨⟨⟨apart_of_reachable hreach, hmade, ⟨_, _, rfl⟩,
    housed_of_reachable hreach id hmade, (joined_of_reachable hreach id hmade).1, hservice,
    Nat.zero_le _, ?_⟩, hengine, hfederation, hservices, hdispatcher⟩, ?_⟩
  · -- the dispatcher was not shut down
    intro hstopping
    cases hdispatcher.symm.trans hstopping
  · apply (upright_of_reachable hreach id).unasked
    rw [hengine]
    rfl

end build

/-! ## What is seen of engines -/

section engines

variable {direct : FederationId → Prop} {blueprint : Blueprint} {id : EngineId} {s₀ s s' : System}
  {calls : List EngineCall}

/-- Whatever calls start an engine without boot errors and shut it down, and whatever happens to it
besides: while no call is under way the states of the engine and its parts are consistent. -/
theorem engine_states_consistent (hreach : Reachable direct s)
    (hbuilt : ((buildEngine blueprint).run s).1 = .ok id)
    (hno : Problems.hasErrors (((buildEngine blueprint).run s).2.engine id).problems = false)
    (hrun : EngineRun id ((buildEngine blueprint).run s).2 calls none s') : Consistent calls id s' := by
  obtain ⟨hanswered, hrests⟩ := hrun.rests (rests_buildEngine blueprint hreach hbuilt) hno
  exact hrests.consistent hno hanswered

/-- A call that nobody interrupts any more. -/
private theorem EngineRun.goesOn {op : Operation} {begun : Nat} {left : Pieces (Except Fault Unit)}
    (h : EngineRun id s₀ calls (some ⟨op, begun, left⟩) s) :
    EngineRun id s₀ (calls ++ [⟨op, begun, (left.whole.run s).1⟩]) none (left.whole.run s).2 := by
  induction left generalizing s with
  | done answer => exact h.finish
  | piece first rest ih => exact ih _ h.goOn

/-- A call that nobody interrupts. -/
private theorem EngineRun.uninterrupted (h : EngineRun id s₀ calls none s) (op : Operation) :
    EngineRun id s₀ (calls ++ [⟨op, s.clock, ((op.pieces id).whole.run s).1⟩]) none
      ((op.pieces id).whole.run s).2 :=
  (h.call op).goesOn

end engines

/-- A job that sleeps longer than an engine waits for its jobs. -/
def WorkItem.sleeping : WorkItem Processor :=
  ⟨⟨⟨"inbox", .root⟩, ⟨"outbox", .root⟩, ⟨"sleep", none, [], none, "sleep", [], []⟩, 0⟩,
    fun _ => ⟨[.sleep 100000], .reported []⟩⟩

/-- An engine that was started, with such a job. -/
def System.sleeping : System :=
  ((turn 0).run ((submitWork 0 .sleeping).run ((Operation.start.pieces 0).whole.run
    ((buildEngine .small).run .empty).2).2).2).2

/-- That engine when it was shut down and has not waited any longer. -/
def System.impatient : System :=
  ((turn 40000).run ((turn 40000).run ((turn 40000).run ((turn 40000).run
    ((Operation.shutdown.pieces 0).whole.run .sleeping).2).2).2).2).2

theorem engine_states_consistent_impatient :
    ((buildEngine .small).run .empty).1 = .ok 0 ∧
      System.impatient.states 0 = ⟨.terminated, .terminated, .stopping, .terminated⟩ ∧
      System.impatient.Quiescent 0 ∧
      ∃ calls, calls.map EngineCall.operation = [.start, .shutdown] ∧
        Consistent calls 0 System.impatient := by
  have hrun : ((buildEngine .small).run .empty).1 = .ok 0 ∧
      Problems.hasErrors (((buildEngine .small).run .empty).2.engine 0).problems = false ∧
      System.impatient.states 0 = ⟨.terminated, .terminated, .stopping, .terminated⟩ ∧
      System.impatient.ready = [] := by
    decide +kernel
  obtain ⟨hbuilt, hno, hstates, hready⟩ := hrun
  have hbegin : EngineRun 0 ((buildEngine .small).run .empty).2 [] none
      ((buildEngine .small).run .empty).2 := .start
  have hcalls := (((hbegin.uninterrupted .start).meanwhile (.submit 0 .sleeping)).meanwhile
    (.turn 0)).uninterrupted .shutdown
  have hturns := (((hcalls.meanwhile (.turn 40000)).meanwhile (.turn 40000)).meanwhile
    (.turn 40000)).meanwhile (.turn 40000)
  have hempty : Reachable (fun _ => False) .empty := ⟨[], .start⟩
  refine ⟨hbuilt, hstates, ?_, _, ?_, engine_states_consistent hempty hbuilt hno hturns⟩
  · unfold System.Quiescent
    rw [hready]
    exact ⟨List.not_mem_nil, List.not_mem_nil⟩
  · rfl

end ContentEngine
