import ContentEngine.Bus
import Mathlib.Data.List.Induction
import Mathlib.Data.List.Nodup

/-!
# What happens to a bus

A bus changes when an observer is registered or unregistered and when the failure of one is recorded.
Given what happened to a bus since it was made, its observers and problems are known: the observers are
those that were registered and not unregistered since, numbered in the order in which they were, and the
problems are the newest ones among the failures.

## Strategy

All statements about a history are by induction on its last act.  Numbers grow with each registration,
so an act that unregisters a number only matters after the registration that was given it.
-/

namespace ContentEngine

/-! ## Keeping the newest problems -/

namespace Problems

theorem pushAllBounded_append (ps more others : Problems) (capacity : Nat) :
    pushAllBounded ps (more ++ others) capacity =
      pushAllBounded (pushAllBounded ps more capacity) others capacity :=
  List.foldl_append

/-- Problems that are pushed one after the other leave the newest of all. -/
theorem pushAllBounded_eq (ps more : Problems) {capacity : Nat} (h : ps.length ≤ capacity) :
    pushAllBounded ps more capacity = (ps ++ more).drop ((ps ++ more).length - capacity) := by
  induction more generalizing ps with
  | nil =>
      rw [List.append_nil, Nat.sub_eq_zero_of_le h]
      rfl
  | cons p rest ih =>
      have hlength : (pushBounded ps p capacity).length ≤ capacity := by
        rw [pushBounded, List.length_drop]
        omega
      have hstep : pushAllBounded ps (p :: rest) capacity =
          pushAllBounded (pushBounded ps p capacity) rest capacity := rfl
      rw [hstep, ih _ hlength, pushBounded]
      -- what the first step drops, the whole drops as well
      have hle : (ps ++ [p]).length - capacity ≤ (ps ++ [p]).length := Nat.sub_le _ _
      rw [← List.drop_append_of_le_length hle, List.drop_drop, List.append_assoc,
        List.singleton_append, List.length_drop]
      congr 1
      simp only [List.length_append, List.length_cons, List.length_nil]
      omega

end Problems

namespace Bus

/-! ## Acts -/

/-- The problem of an observer that failed. -/
def failureProblem (observer : String) (event : ChangeEvent) (cause : String) : Problem :=
  (Problem.errorAbout observer "Observer '\x7b\x7d' failed to handle change event \x7b\x7d"
    [observer, event.text]).causedBy cause

/-- A change of a bus. -/
inductive Act where
  | register (o : Observer)
  | unregister (id : ObserverId)
  | fail (observer : String) (event : ChangeEvent) (cause : String)

namespace Act

/-- Whether an observer is registered. -/
def isRegister : Act → Bool
  | register _ => true
  | unregister _ => false
  | fail _ _ _ => false

/-- The service for which an observer is registered. -/
def enlists : Act → Option ServiceId
  | register (.processing id) => some id
  | register (.scripted _ _) => none
  | register (.configuration _ _ _) => none
  | unregister _ => none
  | fail _ _ _ => none

/-- The problem of a failure. -/
def problem? : Act → Option Problem
  | register _ => none
  | unregister _ => none
  | fail observer event cause => some (failureProblem observer event cause)

end Act

/-- The bus after an act. -/
def after (b : Bus) : Act → Bus
  | .register o => (b.register o).2
  | .unregister id => (b.unregister id).2
  | .fail observer event cause => (b.recordFailure observer event cause).2

/-- The bus after all acts of a history. -/
def afterAll (b : Bus) (history : List Act) : Bus :=
  history.foldl after b

variable {b : Bus} {history more : List Act}

theorem afterAll_append (b : Bus) (history more : List Act) :
    b.afterAll (history ++ more) = (b.afterAll history).afterAll more :=
  List.foldl_append

theorem afterAll_concat (b : Bus) (history : List Act) (act : Act) :
    b.afterAll (history ++ [act]) = (b.afterAll history).after act :=
  b.afterAll_append history [act]

/-! ## Numbers -/

/-- The observers of a bus are numbered in the order in which they stand, below the next number. -/
structure Orderly (b : Bus) : Prop where
  ordered : (b.observers.map Prod.fst).Pairwise (· < ·)
  below : ∀ entry ∈ b.observers, entry.1 < b.nextId

theorem orderly_new (engine : String) (capacity : Nat) : (new engine capacity).Orderly :=
  ⟨List.Pairwise.nil, fun _ h => absurd h List.not_mem_nil⟩

theorem Orderly.after (h : b.Orderly) (act : Act) : (b.after act).Orderly := by
  cases act with
  | register o =>
      refine ⟨?_, fun entry hentry => ?_⟩
      · change ((b.observers ++ [(b.nextId, o)]).map Prod.fst).Pairwise (· < ·)
        rw [List.map_append]
        refine List.pairwise_append.mpr ⟨h.ordered, List.pairwise_singleton _ _, ?_⟩
        intro first hfirst second hsecond
        obtain ⟨entry, hentry, rfl⟩ := List.mem_map.mp hfirst
        obtain rfl := List.mem_singleton.mp hsecond
        exact h.below entry hentry
      · rcases List.mem_append.mp hentry with hentry | hentry
        · exact Nat.lt_succ_of_lt (h.below entry hentry)
        · obtain rfl := List.mem_singleton.mp hentry
          exact Nat.lt_succ_self _
  | unregister id =>
      refine ⟨?_, fun entry hentry => h.below entry (List.mem_filter.mp hentry).1⟩
      exact h.ordered.sublist (List.filter_sublist.map Prod.fst)
  | fail observer event cause => exact ⟨h.ordered, h.below⟩

theorem Orderly.afterAll (h : b.Orderly) (history : List Act) : (b.afterAll history).Orderly := by
  induction history generalizing b with
  | nil => exact h
  | cons act rest ih => exact ih (h.after act)

/-- The next number counts the registrations. -/
theorem nextId_afterAll (b : Bus) (history : List Act) :
    (b.afterAll history).nextId = b.nextId + history.countP Act.isRegister := by
  induction history using List.reverseRecOn with
  | nil => rfl
  | append_singleton rest act ih =>
      rw [afterAll_concat, List.countP_append, ← Nat.add_assoc, ← ih]
      cases act <;> rfl

/-! ## Observers and problems -/

/-- The number that a registration is given after a history. -/
def numberAfter (history : List Act) : ObserverId :=
  history.countP Act.isRegister + 1

/-- Whether an observer was registered under a number and not unregistered since. -/
def Stands (history : List Act) (id : ObserverId) (o : Observer) : Prop :=
  ∃ before after, history = before ++ .register o :: after ∧ id = numberAfter before ∧
    .unregister id ∉ after

/-- A later registration is given a higher number. -/
theorem numberAfter_lt {before after : List Act} {o : Observer}
    (h : history = before ++ .register o :: after) : numberAfter before < numberAfter history := by
  subst h
  have hone : (Act.register o :: after).countP Act.isRegister =
      after.countP Act.isRegister + 1 := List.countP_cons_of_pos rfl
  have hlt : before.countP Act.isRegister <
      (before ++ Act.register o :: after).countP Act.isRegister := by
    rw [List.countP_append, hone]
    omega
  exact Nat.succ_lt_succ hlt

/-- What stands after one more act: what stood before and was not unregistered, and an observer that was
registered. -/
theorem stands_concat {act : Act} {id : ObserverId} {o : Observer} :
    Stands (history ++ [act]) id o ↔
      Stands history id o ∧ act ≠ .unregister id ∨
        act = .register o ∧ id = numberAfter history := by
  constructor
  · rintro ⟨before, after, heq, hid, hstays⟩
    rcases after.eq_nil_or_concat with rfl | ⟨rest, last, rfl⟩
    · obtain ⟨rfl, hact⟩ := List.append_inj' heq rfl
      exact .inr ⟨List.singleton_inj.mp hact, hid⟩
    · rw [List.concat_eq_append] at heq hstays
      rw [← List.cons_append, ← List.append_assoc] at heq
      obtain ⟨rfl, hact⟩ := List.append_inj' heq rfl
      obtain rfl := List.singleton_inj.mp hact
      rw [List.mem_append, not_or] at hstays
      exact .inl ⟨⟨before, rest, rfl, hid, hstays.1⟩,
        fun hact => hstays.2 (List.mem_singleton.mpr hact.symm)⟩
  · rintro (⟨⟨before, after, rfl, hid, hstays⟩, hact⟩ | ⟨rfl, hid⟩)
    · refine ⟨before, after ++ [act], by rw [List.append_assoc, List.cons_append], hid, ?_⟩
      rw [List.mem_append, not_or]
      exact ⟨hstays, fun h => hact (List.mem_singleton.mp h).symm⟩
    · exact ⟨history, [], rfl, hid, List.not_mem_nil⟩

section made

variable (engine : String) (capacity : Nat)

/-- The observers of a bus are those that stand. -/
theorem mem_observers {id : ObserverId} {o : Observer} :
    (id, o) ∈ ((new engine capacity).afterAll history).observers ↔ Stands history id o := by
  induction history using List.reverseRecOn generalizing id o with
  | nil =>
      refine ⟨fun h => absurd h List.not_mem_nil, ?_⟩
      rintro ⟨before, after, heq, -, -⟩
      exact absurd heq.symm (List.append_ne_nil_of_right_ne_nil _ (List.cons_ne_nil _ _))
  | append_singleton rest act ih =>
      rw [stands_concat, ← ih, afterAll_concat]
      have hnext : ((new engine capacity).afterAll rest).nextId = numberAfter rest := by
        rw [nextId_afterAll, Nat.add_comm]
        rfl
      cases act with
      | register o' =>
          change (id, o) ∈ _ ++ [(_, o')] ↔ _
          rw [List.mem_append, List.mem_singleton, hnext, Prod.mk.injEq]
          refine or_congr ?_ ⟨fun h => ?_, fun h => ?_⟩
          · exact (and_iff_left (by simp)).symm
          · exact ⟨congrArg Act.register h.2.symm, h.1⟩
          · exact ⟨h.2, (Act.register.inj h.1).symm⟩
      | unregister other =>
          change (id, o) ∈ List.filter _ _ ↔ _
          rw [List.mem_filter, or_iff_left (by simp), bne_iff_ne]
          refine and_congr_right fun _ => not_congr ⟨fun h => ?_, fun h => ?_⟩
          · exact congrArg Act.unregister h.symm
          · exact (Act.unregister.inj h).symm
      | fail observer event cause =>
          rw [or_iff_left (by simp), and_iff_left (by simp)]
          rfl

/-- A bus keeps its capacity for problems. -/
theorem problemCapacity_afterAll (b : Bus) (history : List Act) :
    (b.afterAll history).problemCapacity = b.problemCapacity := by
  induction history using List.reverseRecOn with
  | nil => rfl
  | append_singleton rest act ih =>
      rw [afterAll_concat, ← ih]
      cases act <;> rfl

/-- The problems are those of the failures, pushed one after the other. -/
theorem problems_afterAll (b : Bus) (history : List Act) :
    (b.afterAll history).problems =
      Problems.pushAllBounded b.problems (history.filterMap Act.problem?) b.problemCapacity := by
  induction history using List.reverseRecOn with
  | nil => rfl
  | append_singleton rest act ih =>
      rw [afterAll_concat, List.filterMap_append, Problems.pushAllBounded_append, ← ih,
        ← b.problemCapacity_afterAll rest]
      cases act <;> rfl

end made

end Bus

end ContentEngine
