import ContentEngine.Proofs.Lifecycle

/-!
# The owners of phases

A lifecycle is called by many, in any order: its clones share one state, and each call reads and changes
that state at once.  Whatever the calls are, the phases go forward, each is begun by one caller at most,
and after a shutdown has begun nothing starts or runs any more.

## Strategy

`history` are the calls with the lifecycle that each of them met.  One call does not lower the rank of the
state (`rank_le_after`), so by induction each call meets a state of at least the rank that an earlier one
left (`history_forward`).  A call that begins a phase meets a state of smaller rank than it leaves, hence
there cannot be two of them.
-/

namespace ContentEngine

/-- What is closed is what has the rank of a stopping component at least. -/
theorem LifecycleState.isClosed_iff_rank {state : LifecycleState} :
    state.isClosed = true ↔ LifecycleState.stopping.rank ≤ state.rank := by
  cases state <;> simp [isClosed, rank]

namespace Lifecycle

/-! ## Calls -/

/-- A call on a lifecycle. -/
inductive Call where
  | beginStart
  | markRunning
  | beginShutdown
  | markTerminated
  deriving DecidableEq, Repr

/-- What a call answers. -/
inductive Answer where
  | start (begun : Except Fault Bool)
  | shutdown (step : ShutdownStep)
  /-- Calls that end a phase answer nothing. -/
  | marked

/-- What a call answers, and the lifecycle after it. -/
def perform (l : Lifecycle) : Call → Answer × Lifecycle
  | .beginStart => (.start l.beginStart.2, l.beginStart.1)
  | .markRunning => (.marked, l.markRunning)
  | .beginShutdown => (.shutdown l.beginShutdown.2, l.beginShutdown.1)
  | .markTerminated => (.marked, l.markTerminated)

/-- A call with the lifecycle that it meets. -/
structure Moment where
  before : Lifecycle
  call : Call

namespace Moment

/-- What the call answers. -/
def answer (m : Moment) : Answer :=
  (m.before.perform m.call).1

/-- The lifecycle after the call. -/
def after (m : Moment) : Lifecycle :=
  (m.before.perform m.call).2

/-- Whether the caller owns the start from now on. -/
def ownsStart (m : Moment) : Bool :=
  match m.answer with
  | .start (.ok begun) => begun
  | .start (.error _) | .shutdown _ | .marked => false

/-- Whether the caller owns the shutdown from now on. -/
def ownsShutdown (m : Moment) : Bool :=
  match m.answer with
  | .shutdown .drain | .shutdown .terminated => true
  | .shutdown .alreadyShuttingDown | .start _ | .marked => false

/-- Whether the call shuts the component down: it begins a shutdown, or ends one. -/
def closes (m : Moment) : Bool :=
  m.ownsShutdown || m.call = .markTerminated

end Moment

/-- The calls of a sequence, each with the lifecycle that it meets. -/
def history (l : Lifecycle) : List Call → List Moment
  | [] => []
  | call :: rest => ⟨l, call⟩ :: (l.perform call).2.history rest

/-- The states that a lifecycle goes through: the first one, and the one after each call. -/
def states (l : Lifecycle) (calls : List Call) : List LifecycleState :=
  l.state :: (l.history calls).map (·.after.state)

/-! ## One call -/

namespace Moment

variable {m : Moment}

/-- No call goes back. -/
theorem rank_le_after (m : Moment) : m.before.state.rank ≤ m.after.state.rank := by
  obtain ⟨⟨component, id, state⟩, call⟩ := m
  unfold after
  cases call with
  | beginStart => cases state <;>
      simp [perform, beginStart, LifecycleState.transition, LifecycleState.rank]
  | markRunning => cases state <;> simp [perform, markRunning, LifecycleState.rank]
  | beginShutdown => cases state <;>
      simp [perform, beginShutdown, LifecycleState.transition, LifecycleState.rank]
  | markTerminated => cases state <;> simp [perform, markTerminated, LifecycleState.rank]

/-- Whoever owns a start met a component that had not started. -/
theorem starting_of_ownsStart (h : m.ownsStart = true) :
    m.before.state = .notStarted ∧ m.after.state = .starting := by
  obtain ⟨⟨component, id, state⟩, call⟩ := m
  cases call with
  | beginStart =>
      cases state with
      | notStarted => exact ⟨rfl, rfl⟩
      | starting | running | stopping | terminated => exact nomatch h
  | markRunning | beginShutdown | markTerminated => exact nomatch h

/-- Whoever owns a shutdown met a component that was not shut down, and leaves one that is. -/
theorem closed_of_ownsShutdown (h : m.ownsShutdown = true) :
    m.before.state.isClosed = false ∧ m.after.state.isClosed = true := by
  obtain ⟨⟨component, id, state⟩, call⟩ := m
  cases call with
  | beginShutdown =>
      cases state with
      | notStarted | starting | running => exact ⟨rfl, rfl⟩
      | stopping | terminated => exact nomatch h
  | beginStart | markRunning | markTerminated => exact nomatch h

/-- What shuts a component down leaves it closed. -/
theorem closed_of_closes (h : m.closes = true) : m.after.state.isClosed = true := by
  unfold closes at h
  rcases Bool.or_eq_true_iff.mp h with howns | hcall
  · exact (closed_of_ownsShutdown howns).2
  · have hterminated : m.after = m.before.markTerminated := by
      rw [after, of_decide_eq_true hcall]
      rfl
    rw [hterminated]
    rfl

/-- A component runs only after it was starting. -/
theorem starting_of_running (hafter : m.after.state = .running) (hbefore : m.before.state ≠ .running) :
    m.before.state = .starting ∧ m.call = .markRunning := by
  obtain ⟨⟨component, id, state⟩, call⟩ := m
  cases call with
  | markRunning =>
      cases state with
      | starting => exact ⟨rfl, rfl⟩
      | running => exact absurd rfl hbefore
      | notStarted | stopping | terminated => exact nomatch hafter
  | beginStart =>
      cases state with
      | running => exact absurd rfl hbefore
      | notStarted | starting | stopping | terminated => exact nomatch hafter
  | beginShutdown => cases state <;> exact nomatch hafter
  | markTerminated => exact nomatch hafter

/-- A component that is shut down cannot start. -/
theorem start_refused (hclosed : m.before.state.isClosed = true) (hcall : m.call = .beginStart) :
    ∃ reason, m.answer = .start (.error (.notRunning reason)) := by
  obtain ⟨reason, hreason⟩ := beginStart_of_closed hclosed
  refine ⟨reason, ?_⟩
  rw [answer, hcall, perform, hreason]

/-- Nor does it run. -/
theorem running_ignored (hclosed : m.before.state.isClosed = true) (hcall : m.call = .markRunning) :
    m.after = m.before := by
  have hne : m.before.state ≠ .starting := by
    intro hstarting
    rw [hstarting] at hclosed
    exact nomatch hclosed
  rw [after, hcall, perform, markRunning, if_neg hne]

end Moment

/-! ## All calls -/

variable {l : Lifecycle} {calls : List Call}

/-- Every call meets a state of at least the first rank. -/
theorem rank_le_of_mem_history {m : Moment} (hm : m ∈ l.history calls) :
    l.state.rank ≤ m.before.state.rank := by
  induction calls generalizing l with
  | nil => exact absurd hm List.not_mem_nil
  | cons call rest ih =>
      rcases List.mem_cons.mp hm with rfl | hm
      · exact Nat.le_refl _
      · calc l.state.rank
            ≤ (l.perform call).2.state.rank := Moment.rank_le_after ⟨l, call⟩
          _ ≤ m.before.state.rank := ih hm

/-- Every call meets a state of at least the rank that an earlier one left. -/
theorem history_forward (l : Lifecycle) (calls : List Call) :
    (l.history calls).Pairwise fun m m' => m.after.state.rank ≤ m'.before.state.rank := by
  induction calls generalizing l with
  | nil => exact .nil
  | cons call rest ih => exact .cons (fun _ hm => rank_le_of_mem_history hm) (ih _)

/-- What holds of no later call once it held of one, holds of one at most. -/
theorem countP_le_one {p : Moment → Bool} {history : List Moment}
    (h : history.Pairwise fun m m' => p m = true → p m' = false) : history.countP p ≤ 1 := by
  induction h with
  | nil => simp
  | @cons m rest hm _ ih =>
      cases hp : p m with
      | false => rwa [List.countP_cons_of_neg (by simp [hp])]
      | true =>
          have hnone : rest.countP p = 0 :=
            List.countP_eq_zero.mpr fun m' hm' => Bool.eq_false_iff.mp (hm m' hm' hp)
          rw [List.countP_cons_of_pos hp]
          omega

/-- The phases of a lifecycle have one owner each and go forward. -/
structure Owned (l : Lifecycle) (calls : List Call) : Prop where
  forward : (l.states calls).Pairwise fun state state' => state.rank ≤ state'.rank
  starts : (l.history calls).countP Moment.ownsStart ≤ 1
  shutdowns : (l.history calls).countP Moment.ownsShutdown ≤ 1
  /-- Running is entered from starting only. -/
  entered : ∀ m ∈ l.history calls, m.after.state = .running → m.before.state ≠ .running →
    m.before.state = .starting
  /-- After a shutdown has begun or ended, each start fails ... -/
  refused : (l.history calls).Pairwise fun m m' => m.closes = true → m'.call = .beginStart →
    ∃ reason, m'.answer = .start (.error (.notRunning reason))
  /-- ... and nothing begins to run. -/
  ignored : (l.history calls).Pairwise fun m m' => m.closes = true → m'.call = .markRunning →
    m'.after = m'.before

/-- After a call that shuts the component down, every call meets a closed one. -/
theorem history_closed (l : Lifecycle) (calls : List Call) :
    (l.history calls).Pairwise fun m m' => m.closes = true → m'.before.state.isClosed = true := by
  refine (history_forward l calls).imp fun {m m'} hforward hcloses => ?_
  have hclosed := LifecycleState.isClosed_iff_rank.mp (Moment.closed_of_closes hcloses)
  exact LifecycleState.isClosed_iff_rank.mpr (Nat.le_trans hclosed hforward)

/-- **Each phase has one owner**, whatever the calls on a lifecycle are. -/
theorem phases_owned (l : Lifecycle) (calls : List Call) : l.Owned calls := by
  refine ⟨?_, countP_le_one ?_, countP_le_one ?_, ?_, ?_, ?_⟩
  · refine List.pairwise_cons.mpr ⟨fun state hstate => ?_, List.pairwise_map.mpr ?_⟩
    · obtain ⟨m, hm, rfl⟩ := List.mem_map.mp hstate
      exact Nat.le_trans (rank_le_of_mem_history hm) m.rank_le_after
    · exact (history_forward l calls).imp fun {m m'} h => Nat.le_trans h m'.rank_le_after
  · refine (history_forward l calls).imp fun {m m'} hforward howns => ?_
    -- a second owner would meet a component that has not started
    refine Bool.eq_false_iff.mpr fun howns' => ?_
    rw [(Moment.starting_of_ownsStart howns).2, (Moment.starting_of_ownsStart howns').1] at hforward
    exact absurd hforward (by decide)
  · refine (history_closed l calls).imp fun {m m'} hclosed howns => ?_
    refine Bool.eq_false_iff.mpr fun howns' => ?_
    have hopen := (Moment.closed_of_ownsShutdown howns').1
    rw [hclosed (by simp [Moment.closes, howns])] at hopen
    exact nomatch hopen
  · intro m _ hafter hbefore
    exact (Moment.starting_of_running hafter hbefore).1
  · exact (history_closed l calls).imp fun h hcloses hcall => Moment.start_refused (h hcloses) hcall
  · exact (history_closed l calls).imp fun h hcloses hcall => Moment.running_ignored (h hcloses) hcall

/-- A shutdown overtakes a start, which is finished without effect. -/
example : (Lifecycle.new "engine" "e").states [.beginStart, .beginShutdown, .markRunning,
    .markTerminated, .beginStart] =
    [.notStarted, .starting, .stopping, .stopping, .terminated, .terminated] := by
  decide

end Lifecycle

end ContentEngine
