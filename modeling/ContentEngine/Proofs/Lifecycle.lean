import ContentEngine.Lifecycle

/-!
# Phases of a lifecycle

What starting and shutting down do to the state of a component, by the state that it is in.
-/

namespace ContentEngine

theorem LifecycleState.isClosed_iff {state : LifecycleState} :
    state.isClosed = true ↔ state = .stopping ∨ state = .terminated := by
  cases state <;> simp [isClosed]

theorem LifecycleState.stopping_of_isClosed {state : LifecycleState} (h : state.isClosed = true)
    (hne : state ≠ .terminated) : state = .stopping :=
  (isClosed_iff.mp h).resolve_right hne

namespace Lifecycle

variable {l : Lifecycle}

theorem beginStart_of_notStarted (h : l.state = .notStarted) :
    l.beginStart = ({ l with state := .starting }, .ok true) := by
  unfold beginStart
  rw [h]
  rfl

/-- Only a component that never started begins to. -/
theorem beginStart_of_ne (h : l.state ≠ .notStarted) :
    l.beginStart.1 = l ∧ l.beginStart.2 ≠ .ok true := by
  unfold beginStart
  cases hstate : l.state with
  | notStarted => exact absurd hstate h
  | starting => exact ⟨rfl, by simp [LifecycleState.transition]⟩
  | running => exact ⟨rfl, by simp [LifecycleState.transition]⟩
  | stopping => exact ⟨rfl, by simp [LifecycleState.transition]⟩
  | terminated => exact ⟨rfl, by simp [LifecycleState.transition]⟩

theorem beginStart_of_running (h : l.state = .running) : l.beginStart = (l, .ok false) := by
  unfold beginStart
  rw [h]
  rfl

theorem beginStart_of_closed (h : l.state.isClosed = true) :
    ∃ reason, l.beginStart = (l, .error (.notRunning reason)) := by
  unfold beginStart
  cases hstate : l.state with
  | notStarted => rw [hstate] at h; cases h
  | starting => rw [hstate] at h; cases h
  | running => rw [hstate] at h; cases h
  | stopping => exact ⟨_, rfl⟩
  | terminated => exact ⟨_, rfl⟩

/-- A component that is closed does not start. -/
theorem not_closed_of_beginStart {begun : Bool} (h : l.beginStart.2 = .ok begun) :
    l.beginStart.1.state.isClosed = false ∧ l.beginStart.1.markRunning.state.isClosed = false := by
  revert h
  unfold beginStart markRunning
  cases hstate : l.state <;> simp [LifecycleState.transition, LifecycleState.isClosed, hstate]

theorem beginShutdown_of_notStarted (h : l.state = .notStarted) :
    l.beginShutdown = ({ l with state := .terminated }, .terminated) := by
  unfold beginShutdown
  rw [h]
  rfl

theorem beginShutdown_of_begun (h : l.state = .starting ∨ l.state = .running) :
    l.beginShutdown = ({ l with state := .stopping }, .drain) := by
  unfold beginShutdown
  rcases h with h | h <;> rw [h] <;> rfl

theorem beginShutdown_of_closed (h : l.state.isClosed = true) :
    l.beginShutdown = (l, .alreadyShuttingDown) := by
  unfold beginShutdown
  cases hstate : l.state with
  | notStarted => rw [hstate] at h; cases h
  | starting => rw [hstate] at h; cases h
  | running => rw [hstate] at h; cases h
  | stopping => rfl
  | terminated => rfl

theorem beginShutdown_of_open (h : l.state.isClosed = false) :
    l.beginShutdown.2 ≠ .alreadyShuttingDown := by
  revert h
  unfold beginShutdown
  cases hstate : l.state <;> simp [LifecycleState.transition, LifecycleState.isClosed]

/-- The phases of a lifecycle go forward: what has begun does not go back, what is closed stays so, and
what is terminated too. -/
structure Forward (l l' : Lifecycle) : Prop where
  begun : l'.state = .notStarted → l.state = .notStarted
  closed : l.state.isClosed = true → l'.state.isClosed = true
  terminated : l.state = .terminated → l'.state = .terminated

namespace Forward

theorem refl (l : Lifecycle) : Forward l l :=
  ⟨fun h => h, fun h => h, fun h => h⟩

theorem trans {l l' l'' : Lifecycle} (h : Forward l l') (h' : Forward l' l'') : Forward l l'' :=
  ⟨fun hl => h.begun (h'.begun hl), fun hl => h'.closed (h.closed hl),
    fun hl => h'.terminated (h.terminated hl)⟩

end Forward

theorem forward_start (l : Lifecycle) : Forward l l.beginStart.1.markRunning := by
  unfold beginStart markRunning
  cases hstate : l.state <;>
    constructor <;> simp [LifecycleState.transition, LifecycleState.isClosed, hstate]

theorem forward_beginShutdown (l : Lifecycle) : Forward l l.beginShutdown.1 := by
  unfold beginShutdown
  cases hstate : l.state <;>
    constructor <;> simp [LifecycleState.transition, LifecycleState.isClosed, hstate]

theorem forward_markTerminated (l : Lifecycle) : Forward l l.markTerminated where
  begun h := nomatch h
  closed _ := rfl
  terminated _ := rfl

/-- A start closes nothing. -/
theorem start_closed (h : l.beginStart.1.markRunning.state.isClosed = true) :
    l.beginStart.1.markRunning.state = l.state := by
  revert h
  unfold beginStart markRunning
  cases hstate : l.state <;> simp [LifecycleState.transition, LifecycleState.isClosed, hstate]

/-- A component that a shutdown terminates at once never started. -/
theorem beginShutdown_terminated (h : l.beginShutdown.1.state = .terminated) :
    l.state = .terminated ∨ l.state = .notStarted := by
  revert h
  unfold beginShutdown
  cases hstate : l.state <;> simp [LifecycleState.transition, hstate]

/-- After a shutdown has begun the component is closed. -/
theorem beginShutdown_closed (l : Lifecycle) : l.beginShutdown.1.state.isClosed = true := by
  unfold beginShutdown
  cases hstate : l.state <;> simp [LifecycleState.transition, LifecycleState.isClosed, hstate]

end Lifecycle

end ContentEngine
