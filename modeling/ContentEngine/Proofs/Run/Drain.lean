import ContentEngine.Proofs.Run.EngineStep
import ContentEngine.Proofs.Run.JobOrder

/-!
# Jobs are drained before sources are closed

An engine that is shut down while it runs closes its sources only when its dispatcher has terminated,
so that all its jobs have ended, or when the time is up that its settings allow for that.  Until then
no job is told that the federation is shut down.

## Strategy

Before the shutdown nothing waits to close the engine and its federation is open (`Upright`).  From
the shutdown on the engine is `Draining`: at most one errand is there to close it, which either has not
begun to wait or waits for the deadline.  A step leaves it so unless the dispatcher terminates or the
deadline comes, and neither is ever undone.
-/

namespace ContentEngine

/-! ## The errand that closes an engine -/

/-- The engine is terminated and its federation shut down, and no time has passed. -/
structure Terminates (id : EngineId) (s s' : System) : Prop where
  engine : id < s.engines.size → s'.engine id = { s.engine id with
    lifecycle := (s.engine id).lifecycle.markTerminated, closing := .idle }
  others : ∀ other ≠ id, s'.engine other = s.engine other
  size : s'.engines.size = s.engines.size
  federation : (s.engine id).federation < s.federations.size →
    s'.federation (s.engine id).federation =
      ((s.federation (s.engine id).federation).shutdown s.depot).1
  federations : ∀ f ≠ (s.engine id).federation, s'.federation f = s.federation f
  dispatchers : s'.dispatchers = s.dispatchers
  services : s'.services = s.services
  clock : s'.clock = s.clock
  ready : s'.ready = s.ready

private theorem closeEngine_terminates (id : EngineId) (s : System) :
    Terminates id s ((closeEngine id).run s).2 where
  engine hid := (System.engine_setEngine _ id id _).trans (if_pos ⟨rfl, hid⟩)
  others _ hother := (System.engine_setEngine _ id _ _).trans (if_neg fun h => hother h.1)
  size := Array.size_setIfInBounds
  federations _ hf := (s.federation_setFederation _ _ _).trans (if_neg fun h => hf h.1)
  federation hmade := (s.federation_setFederation _ _ _).trans (if_pos ⟨rfl, hmade⟩)
  dispatchers := rfl
  services := rfl
  clock := rfl
  ready := rfl

/-- The errand ends the shutdown, unless there is nothing to end or it begins to wait. -/
theorem runClose_cases (id : EngineId) (s : System) :
    ((s.engine id).closing = .idle ∧ ((runClose id).run s).2 = s) ∨
      (((s.dispatcher (s.engine id).dispatcher).lifecycle.state = .terminated ∨
          ¬((s.engine id).closing = .due ∧
            (s.dispatcher (s.engine id).dispatcher).lifecycle.state = .stopping ∧
            (s.engine id).settings.dispatcher.drainTimeoutMillis ≠ 0)) ∧
        Terminates id s ((runClose id).run s).2) ∨
      ((s.engine id).closing = .due ∧
          (s.dispatcher (s.engine id).dispatcher).lifecycle.state = .stopping) ∧
        ((runClose id).run s).2 = (s.setEngine id { s.engine id with
          closing := .waiting (s.clock + (s.engine id).settings.dispatcher.drainTimeoutMillis) }).after
            (s.engine id).settings.dispatcher.drainTimeoutMillis (.close id) := by
  have hturn := runClose_turn id s
  generalize ((runClose id).run s).2 = s' at hturn ⊢
  cases hturn with
  | idle hidle => exact .inl ⟨hidle, rfl⟩
  | close _ hterminated => exact .inr (.inl ⟨.inl hterminated, closeEngine_terminates id s⟩)
  | wait hdue hstopping => exact .inr (.inr ⟨⟨hdue, hstopping⟩, rfl⟩)
  | overdue _ hoverdue =>
      have hclosed := closeEngine_terminates id (s.addLog [overdueWarning (s.engine id)
        (s.dispatcher (s.engine id).dispatcher).stats])
      exact .inr (.inl ⟨.inr hoverdue, { hclosed with }⟩)

/-- What the errand leaves as it is. -/
private theorem runClose_keeps (id : EngineId) (s : System) :
    System.clock ((runClose id).run s).2 = s.clock ∧
      (System.engines ((runClose id).run s).2).size = s.engines.size ∧
      (id < s.engines.size →
        SameParts (s.engine id) (System.engine ((runClose id).run s).2 id) ∧
        ((s.engine id).lifecycle.state.isClosed = true →
          (System.engine ((runClose id).run s).2 id).lifecycle.state.isClosed = true)) := by
  rcases runClose_cases id s with ⟨-, heq⟩ | ⟨-, hterminates⟩ | ⟨-, heq⟩
  · rw [heq]
    exact ⟨rfl, rfl, fun _ => ⟨.refl _, fun h => h⟩⟩
  · refine ⟨hterminates.clock, hterminates.size, fun hid => ?_⟩
    rw [hterminates.engine hid]
    exact ⟨⟨rfl, rfl, rfl⟩, fun _ => rfl⟩
  · rw [heq]
    refine ⟨rfl, Array.size_setIfInBounds, fun hid => ?_⟩
    have hengine : ∀ e, ((s.setEngine id e).after
        (s.engine id).settings.dispatcher.drainTimeoutMillis (.close id)).engine id = e :=
      fun e => (s.engine_setEngine id id e).trans (if_pos ⟨rfl, hid⟩)
    rw [hengine]
    exact ⟨⟨rfl, rfl, rfl⟩, fun h => h⟩

/-! ## Engines stay, and time goes on -/

/-- An engine that was made stays, with its parts, and time does not go back. -/
structure Stays (id : EngineId) (s s' : System) : Prop where
  clock : s.clock ≤ s'.clock
  parts : id < s.engines.size → id < s'.engines.size ∧ SameParts (s.engine id) (s'.engine id)
  made : id < s'.engines.size → id < s.engines.size ∨ id = s.engines.size ∧ Fresh s (s'.engine id)

section steps

variable {direct : FederationId → Prop} {id : EngineId} {s s' : System} {events : List JobEvent}

theorem Alike.stays (h : Alike direct id s s') : Stays id s s' :=
  ⟨h.clock, fun hid => ⟨h.made.mpr hid, h.engine ▸ .refl _⟩, fun hid => .inl (h.made.mp hid)⟩

theorem EngineStep.stays (h : EngineStep direct id s s') : Stays id s s' := by
  cases h with
  | same hsame => exact hsame.stays
  | woken halike _ _ _ => exact halike.stays
  | drained halike _ _ => exact halike.stays
  | @closing rest hready =>
      obtain ⟨hclock, hsize, hengine⟩ := runClose_keeps id { s with ready := rest }
      exact ⟨Nat.le_of_eq hclock.symm, fun hid => ⟨hsize ▸ hid, (hengine hid).1⟩,
        fun hid => .inl (hsize ▸ hid)⟩
  | started _ hstarted =>
      exact ⟨hstarted.clock, fun hid => ⟨hstarted.made.mpr hid, hstarted.parts⟩,
        fun hid => .inl (hstarted.made.mp hid)⟩
  | asked _ hasked =>
      exact ⟨hasked.clock, fun hid => ⟨hasked.made.mpr hid, hasked.parts⟩,
        fun hid => .inl (hasked.made.mp hid)⟩
  | @made e hfresh hid =>
      subst hid
      refine ⟨Nat.le_refl _, fun hid => absurd hid (Nat.lt_irrefl _), fun _ => .inr ⟨rfl, ?_⟩⟩
      change Fresh s ((s.engines.push e).getD s.engines.size default)
      rw [System.getD_push, if_pos rfl]
      exact hfresh

/-- No two engines come to use the same federation. -/
theorem System.Apart.step (happart : s.Apart) (hstep : Step direct s events s') : s'.Apart := by
  have hstays := fun id => (engineStep_of_step id happart hstep).stays
  have hlast : ∀ i, i < s.engines.size → Fresh s (s'.engine s.engines.size) →
      (s'.engine i).federation ≠ (s'.engine s.engines.size).federation := fun i hi hfresh => by
    rw [((hstays i).parts hi).2.federation]
    exact hfresh.alone i hi
  intro i j hi hj hne
  rcases (hstays i).made hi with hi | ⟨rfl, hfresh⟩
  · rcases (hstays j).made hj with hj | ⟨rfl, hfresh⟩
    · rw [((hstays i).parts hi).2.federation, ((hstays j).parts hj).2.federation]
      exact happart i j hi hj hne
    · exact hlast i hi hfresh
  · rcases (hstays j).made hj with hj | ⟨rfl, -⟩
    · exact (hlast j hj hfresh).symm
    · exact absurd rfl hne

theorem apart_of_reachable (h : Reachable direct s) : s.Apart := by
  obtain ⟨_, hrun⟩ := h
  exact hrun.invariant (I := System.Apart) (fun i _ hi => absurd hi (Nat.not_lt_zero i))
    fun hstep happart => happart.step hstep

/-- Each engine has a dispatcher that was made, and that gives its jobs the engine's federation. -/
def System.Joined (s : System) : Prop :=
  ∀ id < s.engines.size, (s.engine id).dispatcher < s.dispatchers.size ∧
    (s.dispatcher (s.engine id).dispatcher).federation = (s.engine id).federation

theorem System.Joined.step (hjoined : s.Joined) (happart : s.Apart)
    (hstep : Step direct s events s') : s'.Joined := by
  have hkeeps : ∀ e : Engine, e.dispatcher < s.dispatchers.size ∧
      (s.dispatcher e.dispatcher).federation = e.federation →
      e.dispatcher < s'.dispatchers.size ∧
        (s'.dispatcher e.dispatcher).federation = e.federation := fun e ⟨hlt, hserves⟩ => by
    have hjobs := jobStep_of_step e.dispatcher hstep
    exact ⟨Nat.lt_of_lt_of_le hlt hjobs.size_le, (hjobs.parts hlt).2.trans hserves⟩
  intro id hid
  have hstays := (engineStep_of_step id happart hstep).stays
  rcases hstays.made hid with hid | ⟨rfl, hfresh⟩
  · have hparts := (hstays.parts hid).2
    rw [hparts.dispatcher, hparts.federation]
    exact hkeeps _ (hjoined id hid)
  · exact hkeeps _ ⟨hfresh.dispatcher, hfresh.serves⟩

theorem joined_of_reachable (h : Reachable direct s) : s.Joined := by
  obtain ⟨_, hrun⟩ := h
  refine (hrun.invariant (I := fun s => s.Apart ∧ s.Joined) ?_ ?_).2
  · exact ⟨fun i _ hi => absurd hi (Nat.not_lt_zero i), fun i hi => absurd hi (Nat.not_lt_zero i)⟩
  · exact fun hstep hs => ⟨hs.1.step hstep, hs.2.step hs.1 hstep⟩

/-! ## Before the shutdown -/

/-- Nothing waits to close the engine. -/
structure Unasked (id : EngineId) (s : System) : Prop where
  closing : (s.engine id).closing = .idle
  ready : s.ready.count (.close id) = 0
  timers : ∀ t ∈ s.timers, t.errand ≠ .close id

/-- Nothing waits to close an engine that nobody shut down, and while it runs its federation is open,
unless that may be shut down directly. -/
structure Upright (direct : FederationId → Prop) (id : EngineId) (s : System) : Prop where
  unasked : (s.engine id).lifecycle.state.isClosed = false → Unasked id s
  isOpen : ¬direct (s.engine id).federation → (s.engine id).lifecycle.state = .running →
    s.IsOpen (s.engine id).federation

/-- Only an engine that was made runs. -/
private theorem lt_of_running (h : (s.engine id).lifecycle.state = .running) : id < s.engines.size := by
  apply s.engine_lt_of_state
  rw [h]
  exact nofun

/-- Only a dispatcher that was made is closed. -/
private theorem lt_of_closed {dispatcher : DispatcherId}
    (h : (s.dispatcher dispatcher).lifecycle.state.isClosed = true) :
    dispatcher < s.dispatchers.size := by
  apply s.dispatcher_lt_of_state
  intro hnew
  rw [hnew] at h
  cases h

/-- A step that leaves the engine alone, and after which it is closed or nothing waits to close it. -/
private theorem Upright.alike (h : Upright direct id s) (halike : Alike direct id s s')
    (hunasked : Unasked id s → Unasked id s') : Upright direct id s' where
  unasked hclosed := hunasked (h.unasked (halike.engine ▸ hclosed))
  isOpen hdirect hrunning := by
    rw [halike.engine] at hdirect hrunning ⊢
    exact halike.isOpen (lt_of_running hrunning) hdirect (h.isOpen hdirect hrunning)

/-- An engine that is closed is upright. -/
private theorem upright_of_closed (h : (s.engine id).lifecycle.state.isClosed = true) :
    Upright direct id s where
  unasked hopen := by
    rw [h] at hopen
    cases hopen
  isOpen _ hrunning := by
    rw [hrunning] at h
    cases h

theorem Upright.step (h : Upright direct id s) (hstep : EngineStep direct id s s') :
    Upright direct id s' := by
  cases hstep with
  | same hsame =>
      refine h.alike hsame.toAlike fun hu => ⟨?_, ?_, fun t ht hclose => ?_⟩
      · rw [hsame.engine]
        exact hu.closing
      · rw [hsame.ready]
        exact hu.ready
      · exact hu.timers t (hsame.timers t ht hclose) hclose
  | woken halike ht hclose _ => exact h.alike halike fun hu => absurd hclose (hu.timers _ ht)
  | drained halike hwaiting _ =>
      exact h.alike halike fun hu => nomatch hu.closing.symm.trans hwaiting
  | @closing rest hready =>
      -- the engine was shut down, for else there would be no errand to close it
      have hclosed : (s.engine id).lifecycle.state.isClosed = true := by
        refine eq_true_of_ne_false fun hopen => ?_
        have := (h.unasked hopen).ready
        rw [hready, List.count_cons_self] at this
        cases this
      have hid : id < s.engines.size := by
        apply s.engine_lt_of_state
        intro hnew
        rw [hnew] at hclosed
        cases hclosed
      exact upright_of_closed (((runClose_keeps id { s with ready := rest }).2.2 hid).2 hclosed)
  | started hid hstarted =>
      have hu := h.unasked (hstarted.notStarted ▸ rfl)
      refine ⟨fun _ => ⟨?_, ?_, fun t ht hclose => ?_⟩, fun _ hrunning => ?_⟩
      · rw [hstarted.closing]
        exact hu.closing
      · rw [hstarted.ready]
        exact hu.ready
      · exact hu.timers t (hstarted.timers t ht hclose) hclose
      · rw [hstarted.parts.federation]
        exact hstarted.running hrunning
  | asked _ hasked => exact upright_of_closed hasked.after
  | @made e hfresh hid =>
      have hengine : System.engine { s with engines := s.engines.push e } id = e := by
        change (s.engines.push e).getD id default = e
        rw [System.getD_push, if_pos hid]
      have hu := h.unasked (by
        rw [s.engine_out (Nat.le_of_eq hid.symm)]
        rfl)
      refine ⟨fun _ => ⟨?_, hu.ready, hu.timers⟩, fun _ hrunning => ?_⟩
      · rw [hengine]
        exact hfresh.closing
      · rw [hengine, hfresh.lifecycle] at hrunning
        cases hrunning

theorem upright_of_reachable (h : Reachable direct s) (id : EngineId) : Upright direct id s := by
  obtain ⟨_, hrun⟩ := h
  refine (hrun.invariant (I := fun s => s.Apart ∧ Upright direct id s) ?_ ?_).2
  · refine ⟨fun i _ hi => absurd hi (Nat.not_lt_zero i), fun _ => ⟨rfl, rfl, ?_⟩, ?_⟩
    · exact fun t ht => absurd ht List.not_mem_nil
    · exact fun _ hrunning => nomatch hrunning
  · exact fun hstep hs => ⟨hs.1.step hstep, hs.2.step (engineStep_of_step id hs.1 hstep)⟩

/-! ## From the shutdown on -/

/-- The engine waits for the jobs of its dispatcher, and does so at least until the time is up. -/
structure Draining (e : Engine) (since : Nat) (id : EngineId) (s : System) : Prop where
  made : id < s.engines.size
  parts : SameParts e (s.engine id)
  closed : (s.engine id).lifecycle.state.isClosed = true
  dispatcher : (s.dispatcher e.dispatcher).lifecycle.state.isClosed = true
  isOpen : s.IsOpen e.federation
  begun : since ≤ s.clock
  ready : s.ready.count (.close id) ≤ if (s.engine id).closing = .due then 1 else 0
  timers : ∀ t ∈ s.timers, t.errand = .close id →
    since + e.settings.dispatcher.drainTimeoutMillis ≤ t.deadline

/-- How far the shutdown of an engine has come. -/
inductive Drain (e : Engine) (since : Nat) (id : EngineId) (s : System) : Prop
  | draining : Draining e since id s → Drain e since id s
  | terminated : (s.dispatcher e.dispatcher).lifecycle.state = .terminated → Drain e since id s
  | overdue : since + e.settings.dispatcher.drainTimeoutMillis ≤ s.clock → Drain e since id s

/-- A shutdown of an engine that runs leaves it draining. -/
theorem draining_of_shutdownEngine (hupright : Upright direct id s) (hjoined : s.Joined)
    (hdirect : ¬direct (s.engine id).federation)
    (hrunning : (s.engine id).lifecycle.state = .running) :
    Draining (s.engine id) s.clock id ((shutdownEngine id).run s).2 := by
  have hid := lt_of_running hrunning
  have hu := hupright.unasked (hrunning ▸ rfl)
  obtain ⟨s₁, hsame, hclosed, heq⟩ := shutdownEngine_drain (.inr hrunning)
  have hsize : id < s₁.engines.size :=
    hsame.made.mpr (Nat.lt_of_lt_of_eq hid Array.size_setIfInBounds.symm)
  have hbefore := s.engine_setEngine id id { s.engine id with
    lifecycle := { (s.engine id).lifecycle with state := .stopping } }
  rw [if_pos ⟨rfl, hid⟩] at hbefore
  have hengine : System.engine ((shutdownEngine id).run s).2 id = { s.engine id with
      lifecycle := { (s.engine id).lifecycle with state := .stopping }, closing := .due } := by
    rw [heq]
    refine (s₁.engine_setEngine id id _).trans ?_
    rw [if_pos ⟨rfl, hsize⟩, hsame.engine, hbefore]
  have hopen := hsame.isOpen (Nat.lt_of_lt_of_eq hid Array.size_setIfInBounds.symm) not_false
  rw [hbefore] at hopen
  refine ⟨?_, ?_, ?_, ?_, ?_, ?_, ?_, fun t ht hclose => ?_⟩
  · rw [heq]
    exact Nat.lt_of_lt_of_eq hsize Array.size_setIfInBounds.symm
  · rw [hengine]
    exact ⟨rfl, rfl, rfl⟩
  · rw [hengine]
    rfl
  · rw [heq]
    exact hclosed (hjoined id hid).1
  · rw [heq]
    exact hopen (hupright.isOpen hdirect hrunning)
  · rw [heq]
    exact hsame.clock
  · rw [hengine, if_pos rfl, heq]
    have hcount : s₁.ready.count (.close id) = 0 := hsame.ready.trans hu.ready
    change (s₁.ready ++ [Errand.close id]).count (Errand.close id) ≤ 1
    exact Nat.le_of_eq (by rw [List.count_append, hcount, List.count_singleton_self])
  · rw [heq] at ht
    exact absurd hclose (hu.timers t (hsame.timers t ht hclose))

/-- While an engine drains, an errand that could close it has not begun to wait, and it is the only
one. -/
private theorem Draining.pop {e : Engine} {since : Nat} {rest : List Errand}
    (h : Draining e since id s) (hready : s.ready = .close id :: rest) :
    (s.engine id).closing = .due ∧ rest.count (.close id) = 0 ∧
      Draining e since id { s with ready := rest } := by
  have hcount := h.ready
  rw [hready, List.count_cons_self] at hcount
  have hdue : (s.engine id).closing = .due := by
    refine Decidable.byContradiction fun hne => ?_
    rw [if_neg hne] at hcount
    exact Nat.not_succ_le_zero _ hcount
  rw [if_pos hdue] at hcount
  have hrest := Nat.le_zero.mp (Nat.le_of_succ_le_succ hcount)
  exact ⟨hdue, hrest, { h with ready := Nat.le_trans (Nat.le_of_eq hrest) (Nat.zero_le _) }⟩

/-- The errand begins to wait, unless there is no reason to. -/
private theorem Draining.runClose {e : Engine} {since : Nat} (h : Draining e since id s)
    (hdue : (s.engine id).closing = .due) (hnone : s.ready.count (.close id) = 0) :
    Drain e since id ((runClose id).run s).2 := by
  rcases runClose_cases id s with ⟨hidle, -⟩ | ⟨hreason, hterminates⟩ | ⟨-, heq⟩
  · exact nomatch hdue.symm.trans hidle
  · rw [h.parts.dispatcher, h.parts.settings] at hreason
    by_cases hterminated : (s.dispatcher e.dispatcher).lifecycle.state = .terminated
    · refine .terminated ?_
      rw [System.dispatcher, hterminates.dispatchers]
      exact hterminated
    · have hstopping := LifecycleState.stopping_of_isClosed h.dispatcher hterminated
      have hzero : e.settings.dispatcher.drainTimeoutMillis = 0 :=
        Decidable.byContradiction fun hne =>
          (hreason.resolve_left hterminated) ⟨hdue, hstopping, hne⟩
      refine .overdue ?_
      rw [hterminates.clock, hzero]
      exact h.begun
  · rw [heq]
    have hengine : ∀ e' millis, ((s.setEngine id e').after millis (.close id)).engine id = e' :=
      fun e' _ => (s.engine_setEngine id id e').trans (if_pos ⟨rfl, h.made⟩)
    refine .draining ⟨?_, ?_, ?_, h.dispatcher, h.isOpen, h.begun, ?_, fun t ht hclose => ?_⟩
    · exact Nat.lt_of_lt_of_eq h.made Array.size_setIfInBounds.symm
    · rw [hengine]
      exact ⟨h.parts.federation, h.parts.dispatcher, h.parts.settings⟩
    · rw [hengine]
      exact h.closed
    · exact Nat.le_trans (Nat.le_of_eq hnone) (Nat.zero_le _)
    · rcases List.mem_append.mp ht with ht | ht
      · exact h.timers t ht hclose
      · obtain rfl := List.mem_singleton.mp ht
        rw [← h.parts.settings]
        exact Nat.add_le_add_right h.begun _

/-- What a step does to an engine that drains. -/
private theorem Draining.step {e : Engine} {since : Nat} (h : Draining e since id s)
    (hdirect : ¬direct e.federation) (hstep : EngineStep direct id s s')
    (hjobs : JobStep e.dispatcher s events s') : Drain e since id s' := by
  have hlifecycle := hjobs.lifecycle (lt_of_closed h.dispatcher)
  have hopen : Alike direct id s s' → s'.IsOpen e.federation := fun halike => by
    have := halike.isOpen h.made
    rw [h.parts.federation] at this
    exact this hdirect h.isOpen
  cases hstep with
  | same hsame =>
      refine .draining ⟨hsame.made.mpr h.made, ?_, ?_, hlifecycle.closed h.dispatcher,
        hopen hsame.toAlike, Nat.le_trans h.begun hsame.clock, ?_, fun t ht hclose => ?_⟩
      · rw [hsame.engine]
        exact h.parts
      · rw [hsame.engine]
        exact h.closed
      · rw [hsame.engine, hsame.ready]
        exact h.ready
      · exact h.timers t (hsame.timers t ht hclose) hclose
  | woken halike ht hclose hdeadline => exact .overdue (Nat.le_trans (h.timers _ ht hclose) hdeadline)
  | drained halike _ hterminated => exact .terminated (h.parts.dispatcher ▸ hterminated)
  | closing hready =>
      obtain ⟨hdue, hnone, hpopped⟩ := h.pop hready
      exact hpopped.runClose hdue hnone
  | started _ hstarted =>
      have hclosed := h.closed
      rw [hstarted.notStarted] at hclosed
      cases hclosed
  | asked _ hasked => exact nomatch h.closed.symm.trans hasked.before
  | made _ hid => exact absurd h.made (hid ▸ Nat.lt_irrefl _)

theorem Drain.step {e : Engine} {since : Nat} (h : Drain e since id s) (hdirect : ¬direct e.federation)
    (hstep : EngineStep direct id s s') (hjobs : JobStep e.dispatcher s events s') :
    Drain e since id s' := by
  cases h with
  | draining hdraining => exact hdraining.step hdirect hstep hjobs
  | terminated hterminated =>
      exact .terminated ((hjobs.lifecycle (lt_of_closed (hterminated ▸ rfl))).terminated hterminated)
  | overdue hoverdue => exact .overdue (Nat.le_trans hoverdue hstep.stays.clock)

end steps

/-! ## Connections -/

/-- Nobody who asks the federation for a connection, or asked before and is answered now, is told that
it is shut down. -/
def Federation.Serves (f : Federation) : Prop :=
  ∀ depot message, (∀ source, (f.borrow depot source).1 ≠ .failed (.notRunning message)) ∧
    ∀ opening, (f.resumeBorrow depot opening).1 ≠ .failed (.notRunning message)

section connections

variable {f : Federation} {d : Depot} {message : String}

private theorem borrowWith_serves {name : String} {last : Bool}
    {refused : Depot → PoolId → Failure → Borrowing × Depot} (h : f.state.isClosed = false)
    (hrefused : ∀ d pool failure, (refused d pool failure).1 ≠ .failed (.notRunning message)) :
    (f.borrowWith d name last refused).1 ≠ .failed (.notRunning message) := by
  unfold Federation.borrowWith Federation.requireOpen
  rw [h, if_neg Bool.false_ne_true]
  dsimp only
  split
  · exact fun hfailed => nomatch hfailed
  · split
    · exact fun hfailed => nomatch hfailed
    · exact hrefused _ _ _
    · exact fun hfailed => nomatch hfailed

private theorem afterRefusal_serves {name : String} (h : f.state.isClosed = false) (pool : PoolId)
    (failure : Failure) : (f.afterRefusal name d pool failure).1 ≠ .failed (.notRunning message) := by
  unfold Federation.afterRefusal
  split
  · exact borrowWith_serves h fun _ _ _ hfailed => nomatch hfailed
  · exact fun hfailed => nomatch hfailed

/-- A federation serves as long as it is open. -/
theorem Federation.serves_of_open (h : f.state.isClosed = false) : f.Serves := by
  refine fun depot message => ⟨fun source => ?_, fun opening => ?_⟩
  · exact borrowWith_serves h fun d pool failure => afterRefusal_serves h pool failure
  · unfold resumeBorrow
    split
    · exact fun hfailed => nomatch hfailed
    · split
      · exact fun hfailed => nomatch hfailed
      · exact afterRefusal_serves h _ _

/-- Whoever is answered only now is told that the federation is shut down only if no connection could
be opened. -/
theorem Federation.refused_of_notRunning {opening : Opening}
    (h : (f.resumeBorrow d opening).1 = .failed (.notRunning message)) :
    ∃ failure, (d.finishOpening opening.pool).1 = .error failure := by
  unfold resumeBorrow at h
  split at h
  · cases h
  · rename_i failure d' hopening
    exact ⟨failure, congrArg Prod.fst hopening⟩

end connections

/-! ## Drained before closed -/

/-- What is sure about an engine `e` that was shut down, while it ran, at the moment `since`. -/
structure DrainedBeforeClosed (e : Engine) (since : Nat) (s : System) : Prop where
  /-- When its sources are closed, its jobs have ended, or the time is up. -/
  closed : ¬s.IsOpen e.federation →
    ((s.dispatcher e.dispatcher).lifecycle.state = .terminated ∧
      ∀ (i : JobIndex) job, (s.dispatcher e.dispatcher).jobs[i]? = some job →
        job.stage.isFinished = true) ∨
      since + e.settings.dispatcher.drainTimeoutMillis ≤ s.clock
  /-- Before the time is up a job that has not ended is served, whatever it does in its turn. -/
  serves : ∀ (i : JobIndex) job, (s.dispatcher e.dispatcher).jobs[i]? = some job →
    job.stage.isFinished = false → s.clock < since + e.settings.dispatcher.drainTimeoutMillis →
      ∀ ending actions loan,
        (System.federation ((runActions (s.dispatcher e.dispatcher).federation ending actions loan).run
          s).2 (s.dispatcher e.dispatcher).federation).Serves
  /-- A job that asked before and is answered late is refused only if no connection was opened. -/
  refused : ∀ (i : JobIndex) job, (s.dispatcher e.dispatcher).jobs[i]? = some job →
    job.stage.isFinished = false → ∀ opening message,
      ((s.federation (s.dispatcher e.dispatcher).federation).resumeBorrow s.depot opening).1 =
          .failed (.notRunning message) →
        since + e.settings.dispatcher.drainTimeoutMillis ≤ s.clock ∧
          ∃ failure, (s.depot.finishOpening opening.pool).1 = .error failure

section

variable {direct : FederationId → Prop} {id : EngineId} {s₀ s : System} {history : List JobEvent}

/-- A dispatcher that was made stays, with its federation. -/
private theorem serves_step {dispatcher : DispatcherId} {federation : FederationId} {s' : System}
    {events : List JobEvent} (hstep : Step direct s events s')
    (h : dispatcher < s.dispatchers.size ∧ (s.dispatcher dispatcher).federation = federation) :
    dispatcher < s'.dispatchers.size ∧ (s'.dispatcher dispatcher).federation = federation := by
  have hjobs := jobStep_of_step dispatcher hstep
  exact ⟨Nat.lt_of_lt_of_le h.1 hjobs.size_le, (hjobs.parts h.1).2.trans h.2⟩

/-- Along a run from the shutdown on the engine drains until its dispatcher terminates or the time is
up. -/
private theorem drain_of_run (hreach : Reachable direct s₀)
    (hdirect : ¬direct (s₀.engine id).federation)
    (hrunning : (s₀.engine id).lifecycle.state = .running)
    (hrun : Run direct ((shutdownEngine id).run s₀).2 history s) :
    Reachable direct s ∧ Drain (s₀.engine id) s₀.clock id s ∧
      (s.dispatcher (s₀.engine id).dispatcher).federation = (s₀.engine id).federation := by
  have hid := lt_of_running hrunning
  have hjoined := joined_of_reachable hreach
  have hstart := draining_of_shutdownEngine (upright_of_reachable hreach id) hjoined hdirect hrunning
  have hshutdown : Step direct s₀ [] ((shutdownEngine id).run s₀).2 := .shutdownEngine hid
  suffices h : Reachable direct s ∧ Drain (s₀.engine id) s₀.clock id s ∧
      (s₀.engine id).dispatcher < s.dispatchers.size ∧
      (s.dispatcher (s₀.engine id).dispatcher).federation = (s₀.engine id).federation from
    ⟨h.1, h.2.1, h.2.2.2⟩
  induction hrun with
  | start =>
      exact ⟨hreach.run (.step .start hshutdown), .draining hstart,
        serves_step hshutdown (hjoined id hid)⟩
  | step _ hstep ih =>
      obtain ⟨hbefore, hdrain, hserves⟩ := ih
      exact ⟨hbefore.run (.step .start hstep), hdrain.step hdirect
        (engineStep_of_step id (apart_of_reachable hbefore) hstep) (jobStep_of_step _ hstep),
        serves_step hstep hserves⟩

/-- If nobody shuts down the federation of a running engine directly, a shutdown of the engine closes
it only after the jobs have ended or the time is up. -/
theorem drained_before_closed (hreach : Reachable direct s₀)
    (hdirect : ¬direct (s₀.engine id).federation)
    (hrunning : (s₀.engine id).lifecycle.state = .running)
    (hrun : Run direct ((shutdownEngine id).run s₀).2 history s) :
    DrainedBeforeClosed (s₀.engine id) s₀.clock s := by
  obtain ⟨hafter, hdrain, hfederation⟩ := drain_of_run hreach hdirect hrunning hrun
  have hsettled := settled_of_reachable hafter (s₀.engine id).dispatcher
  -- while a job has not ended, the dispatcher has not terminated
  have hopen : ∀ (i : JobIndex) job, (s.dispatcher (s₀.engine id).dispatcher).jobs[i]? = some job →
      job.stage.isFinished = false →
      s.clock < s₀.clock + (s₀.engine id).settings.dispatcher.drainTimeoutMillis →
      s.IsOpen (s₀.engine id).federation := by
    intro i job hjob hstage hclock
    cases hdrain with
    | draining hdraining => exact hdraining.isOpen
    | terminated hterminated =>
        have := Dispatcher.finished_of_isDrained (hsettled.terminated hterminated) hjob
        rw [hstage] at this
        cases this
    | overdue hoverdue => exact absurd hclock (Nat.not_lt_of_le hoverdue)
  refine ⟨fun hclosed => ?_, fun i job hjob hstage hclock ending actions loan => ?_,
    fun i job hjob hstage opening message hrefused => ⟨?_, Federation.refused_of_notRunning hrefused⟩⟩
  · cases hdrain with
    | draining hdraining => exact absurd hdraining.isOpen hclosed
    | terminated hterminated =>
        exact .inl ⟨hterminated, fun i job hjob =>
          Dispatcher.finished_of_isDrained (hsettled.terminated hterminated) hjob⟩
    | overdue hoverdue => exact .inr hoverdue
  · refine Federation.serves_of_open ?_
    have hquiet := quiet_runActions (s.dispatcher (s₀.engine id).dispatcher).federation ending actions
      loan s (.refl s)
    rw [hquiet.states, hfederation]
    exact hopen i job hjob hstage hclock
  · refine Nat.le_of_not_lt fun hclock => ?_
    have hserves := Federation.serves_of_open (hopen i job hjob hstage hclock) s.depot message
    rw [hfederation] at hrefused
    exact hserves.2 opening hrefused

end

/-! ### A source that refuses late -/

/-- A work item whose processor asks for a connection. -/
def WorkItem.asking : WorkItem Processor :=
  ⟨⟨⟨"inbox", .root⟩, ⟨"outbox", .root⟩, ⟨"ask", none, [], none, "ask", [], []⟩, 0⟩,
    fun _ => ⟨[.borrow "inbox"], .reported []⟩⟩

/-- An engine that does not wait long for its jobs. -/
def Engine.hasty : Engine :=
  { (default : Engine) with
    settings := { (default : Engine).settings with
      dispatcher := { (default : Engine).settings.dispatcher with drainTimeoutMillis := 20 } } }

/-- A federation with a source that refuses connections, but not at once. -/
def System.reluctant : System :=
  { System.empty with
    federations := #[{ (default : Federation) with pools := [("inbox", 0)] }]
    depot := { Depot.empty with
      pools := #[.new "inbox" ⟨0, ⟨"slow", 50, none, some (.of "refused"), .always⟩⟩ none 1] } }

/-- That system with an engine on it, whose job has asked for a connection. -/
def System.asking : System :=
  ((turn 0).run ((submitWork 0 .asking).run ((startEngine 0).run
    { ((addDispatcher ((Dispatcher.new? "engine" 0 0 1).getD default)).run .reluctant).2 with
      engines := #[.hasty] }).2).2).2

/-- That system after the engine was shut down, when the job is to be answered. -/
def System.overdue : System :=
  ((turn 51).run ((turn 51).run ((turn 51).run ((turn 51).run ((turn 51).run
    ((shutdownEngine 0).run .asking).2).2).2).2).2).2

private theorem quiet_reluctant : Quiet .empty .reluctant where
  clock := rfl
  federations := Nat.zero_le _
  states id := by
    cases id with
    | zero => rfl
    | succ id => rfl
  dispatchers := rfl
  engines := rfl
  lines _ := rfl
  ready := rfl
  timers := rfl
  nextJob := rfl

private theorem reachable_asking : Reachable (· ≠ 0) .asking := by
  have hnew : Dispatcher.new? "engine" 0 0 1 =
    some ((Dispatcher.new? "engine" 0 0 1).getD default) := rfl
  have hfresh : Fresh ((addDispatcher ((Dispatcher.new? "engine" 0 0 1).getD default)).run
      .reluctant).2 .hasty :=
    ⟨rfl, rfl, Nat.one_pos, rfl, Nat.one_pos, fun _ h => absurd h (Nat.not_lt_zero _)⟩
  exact ⟨_, (((((Run.start.step (.quiet quiet_reluctant)).step (.addDispatcher _ hnew)).step
    (.addEngine hfresh)).step (.startEngine Nat.one_pos)).step (.submit 0 .asking _)).step (.turn 0 _)⟩

private theorem run_overdue :
    ∃ history, Run (· ≠ 0) ((shutdownEngine 0).run System.asking).2 history .overdue :=
  ⟨_, ((((Run.start.step (.turn 51 _)).step (.turn 51 _)).step (.turn 51 _)).step (.turn 51 _)).step
    (.turn 51 _)⟩

theorem drained_before_closed_overdue :
    ∃ message, DrainedBeforeClosed (System.asking.engine 0) System.asking.clock System.overdue ∧
      ((System.overdue.federation 0).resumeBorrow System.overdue.depot ⟨"inbox", 0, false⟩).1 =
        .failed (.notRunning message) :=
  let ⟨_, hrun⟩ := run_overdue
  ⟨_, drained_before_closed reachable_asking (fun h => h rfl) rfl hrun, rfl⟩

/-- A job that asks for a connection before the time is up may be told that the federation is shut
down, when the source takes longer than that and then refuses. -/
theorem notRunning_after_asking_in_time :
    Reachable (· ≠ 0) System.asking ∧ (System.asking.engine 0).federation = 0 ∧
      (System.asking.engine 0).lifecycle.state = .running ∧
      (∃ history, Run (· ≠ 0) ((shutdownEngine 0).run System.asking).2 history .overdue) ∧
      ∃ job message,
        (System.asking.dispatcher 0).jobs[0]? =
          some ⟨job, .running ⟨[], .reported [], none, some ⟨"inbox", 0, false⟩⟩⟩ ∧
        System.asking.clock < System.asking.clock +
          (System.asking.engine 0).settings.dispatcher.drainTimeoutMillis ∧
        (System.overdue.dispatcher 0).jobs[0]? =
          some ⟨job, .running ⟨[], .reported [], none, some ⟨"inbox", 0, false⟩⟩⟩ ∧
        System.overdue.ready = [.job 0 0] ∧
        ((System.overdue.federation 0).resumeBorrow System.overdue.depot ⟨"inbox", 0, false⟩).1 =
          .failed (.notRunning message) :=
  ⟨reachable_asking, rfl, rfl, run_overdue, _, _, rfl, by decide, rfl, rfl, rfl⟩

end ContentEngine
