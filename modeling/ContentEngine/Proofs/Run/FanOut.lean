import ContentEngine.Proofs.Bus.Telling
import ContentEngine.Proofs.Run.Announced

/-!
# Delivering events to all observers

What a bus owes its observers, whatever they do when they are told of an event: they may fail, panic,
register and unregister observers of the same bus, and publish more events on it.  `BusRun` are the runs
of a bus since it was made, with what happened to it, and `fanned_out` says of each system that they
reach who is registered, which problems are kept, and what the next publication will do.

## Strategy

All that the calls do to the bus are acts, so its observers and problems are those of the history
(`Bus.mem_observers`, `Bus.problems_afterAll`).  A publication is a sequence of tellings to the observers
that are registered when it begins (`publishWith_told`); what these do is added to the history.
-/

namespace ContentEngine

/-! ## Everything is done to buses by acts -/

/-- Operations on sources and stores do nothing to a bus but act on it. -/
theorem steady_actedOn (bus : BusId) (s₀ : System) : Steady fun _ s => ActedOn bus s₀ s where
  beside hbeside hs := hs.trans (.of_buses hbeside.buses)
  act id act _ hs := hs.trans (.setBus _ id act)
  turn deadline _ s hs := hs.trans (.of_buses ((Background.enduring s).turn deadline s (.refl s)).buses)
  pass _ _ _ hs := hs.trans (.of_buses rfl)
  install _ _ _ _ _ _ hs := hs.trans (.of_buses rfl)
  remove _ _ _ _ hs := hs.trans (.of_buses rfl)
  request _ _ _ _ hs := hs.trans (.of_buses rfl)
  resume _ _ _ _ hs := hs.trans (.of_buses rfl)
  abandon hs := hs
  giveBack _ _ _ hs := hs.trans (.of_buses rfl)
  submit id work _ s hs := by
    refine hs.trans (.of_buses ?_)
    by_cases haccepts : ((s.dispatcher id).accepting && (s.dispatcher id).lifecycle.isRunning) = true
    · rw [submitWork_accepted work haccepts]
      rfl
    · rw [submitWork_rejected work haccepts]
      rfl

/-- Observers do nothing to a bus but act on it, however deep their changes of stores are announced. -/
theorem acts_notifyNested (depth : Nat) (bus : BusId) : (notifyNested depth).ActsOn bus := by
  intro observer event s
  have hsteady := steady_actedOn bus s
  exact hsteady.notifyWith [] (fun id _ _ => hsteady.changeStore [] depth id _) bus observer event
    observer.isHeard_all s (.refl s)

/-! ## Runs of a bus -/

/-- The runs of a bus from a first system on, with what happened to the bus.  Whatever else happens leaves
the bus as it is. -/
inductive BusRun (bus : BusId) (s₀ : System) : List Bus.Act → System → Prop
  | start : BusRun bus s₀ [] s₀
  | register {history s} (o : Observer) : BusRun bus s₀ history s →
      BusRun bus s₀ (history ++ [.register o]) ((observe bus o).run s).2
  | unregister {history s} (id : ObserverId) : BusRun bus s₀ history s →
      BusRun bus s₀ (history ++ [.unregister id]) ((withBus bus fun b => b.unregister id).run s).2
  | publish {history s notify event ts s'} : BusRun bus s₀ history s →
      s' = ((publishWith notify bus event).run s).2 → Told notify bus event s ts s' →
      ts.map Telling.registration = (s.bus bus).observers →
      BusRun bus s₀ (history ++ ts.flatMap (Telling.history event)) s'
  | other {history s s'} : BusRun bus s₀ history s → s.buses.size ≤ s'.buses.size →
      s'.bus bus = s.bus bus → BusRun bus s₀ history s'

/-- What a run did to the bus. -/
theorem BusRun.acts {bus : BusId} {s₀ s : System} {history : List Bus.Act}
    (h : BusRun bus s₀ history s) (hbus : bus < s₀.buses.size) :
    bus < s.buses.size ∧ s.bus bus = (s₀.bus bus).afterAll history := by
  induction h with
  | start => exact ⟨hbus, rfl⟩
  | @register history s o _ ih =>
      refine ⟨s.buses_size_setBus bus _ ▸ ih.1, ?_⟩
      rw [Bus.afterAll_concat, ← ih.2]
      exact s.bus_setBus_self ih.1 _
  | @unregister history s id _ ih =>
      refine ⟨s.buses_size_setBus bus _ ▸ ih.1, ?_⟩
      rw [Bus.afterAll_concat, ← ih.2]
      exact s.bus_setBus_self ih.1 _
  | publish _ _ htold _ ih =>
      obtain ⟨hmade, hacts⟩ := htold.acts ih.1
      exact ⟨Nat.lt_of_lt_of_le ih.1 hmade, by rw [hacts, ih.2, Bus.afterAll_append]⟩
  | other _ hmade hsame ih => exact ⟨Nat.lt_of_lt_of_le ih.1 hmade, hsame.trans ih.2⟩

/-! ## Publications -/

/-- The newest problems, as many as are kept. -/
def Problems.newest (capacity : Nat) (ps : Problems) : Problems :=
  ps.drop (ps.length - capacity)

/-- A publication, and how the observers were told of its event. -/
structure Published (notify : Notify) (bus : BusId) (event : ChangeEvent) (s : System)
    (ts : List Telling) : Prop where
  /-- Observers were told one after the other, and nothing else happened. -/
  told : Told notify bus event s ts ((publishWith notify bus event).run s).2
  /-- They are those that were registered at first, each once and in the order of registration. -/
  everyone : ts.map Telling.registration = (s.bus bus).observers
  /-- The report counts those that are done, and those that failed or panicked, ... -/
  report : ((publishWith notify bus event).run s).1 =
    ⟨ts.countP (·.outcome.isDone), ts.countP (!·.outcome.isDone)⟩
  /-- ... which is everyone. -/
  total : ((publishWith notify bus event).run s).1.delivered +
    ((publishWith notify bus event).run s).1.failed = (s.bus bus).observers.length
  /-- Each one that failed has a problem that is about it. -/
  problems : ∀ t ∈ ts, t.outcome.isDone = true ∧ t.problem? event = none ∨
    t.outcome.isDone = false ∧ ∃ p, t.problem? event = some p ∧
      p.resource = some t.registration.2.name
  /-- The bus has then been through what the observers did to it, and through their failures. -/
  acts : ((publishWith notify bus event).run s).2.bus bus =
    (s.bus bus).afterAll (ts.flatMap (Telling.history event))
  /-- Unless observers publish events themselves, the problems are those of the failures. -/
  recorded : (∀ t ∈ ts, ∀ act ∈ t.acts, act.problem? = none) →
    (((publishWith notify bus event).run s).2.bus bus).problems =
      Problems.newest (s.bus bus).problemCapacity
        ((s.bus bus).problems ++ ts.filterMap (Telling.problem? event))

theorem problems_flatMap (event : ChangeEvent) {ts : List Telling}
    (h : ∀ t ∈ ts, ∀ act ∈ t.acts, act.problem? = none) :
    (ts.flatMap (Telling.history event)).filterMap Bus.Act.problem? =
      ts.filterMap (Telling.problem? event) := by
  induction ts with
  | nil => rfl
  | cons t rest ih =>
      rw [List.flatMap_cons, List.filterMap_append,
        t.problems_history event (h t (List.mem_cons_self ..)),
        ih fun t ht => h t (List.mem_cons_of_mem _ ht), List.filterMap_cons]
      cases t.problem? event <;> rfl

/-- Every publication is one, if observers do nothing to the bus but act on it. -/
theorem published {notify : Notify} {bus : BusId} {s : System} (hnotify : notify.ActsOn bus)
    (hbus : bus < s.buses.size)
    (hkept : (s.bus bus).problems.length ≤ (s.bus bus).problemCapacity) (event : ChangeEvent) :
    ∃ ts, Published notify bus event s ts := by
  obtain ⟨ts, htold, hall, hreport⟩ := publishWith_told hnotify event s
  obtain ⟨-, hacts⟩ := htold.acts hbus
  refine ⟨ts, htold, hall, hreport, ?_, fun t _ => t.problem?_cases event, hacts, fun hnone => ?_⟩
  · rw [hreport, ← hall, List.length_map]
    dsimp only
    rw [List.length_eq_countP_add_countP (·.outcome.isDone)]
    congr 2
    funext t
    cases t.outcome.isDone <;> rfl
  · rw [hacts, Bus.problems_afterAll, problems_flatMap event hnone,
      Problems.pushAllBounded_eq _ _ hkept]
    rfl

/-! ## Fan-out -/

/-- What a bus owes its observers, given what happened to it since it was made. -/
structure FannedOut (bus : BusId) (capacity : Nat) (history : List Bus.Act) (s : System) : Prop where
  /-- Those are registered who were and have not been unregistered since, ... -/
  standing : ∀ id o, (id, o) ∈ (s.bus bus).observers ↔ Bus.Stands history id o
  /-- ... in the order of their registration, which is that of their numbers. -/
  ordered : ((s.bus bus).observers.map Prod.fst).Pairwise (· < ·)
  /-- The next registration is given a number that none was given before. -/
  register : ∀ o, ((observe bus o).run s).1 = Bus.numberAfter history
  unused : ∀ before o after, history = before ++ .register o :: after →
    Bus.numberAfter before < Bus.numberAfter history
  /-- Whoever stands under a number can be unregistered, ... -/
  unregister : ∀ id, ((withBus bus fun b => b.unregister id).run s).1 = true ↔
    ∃ o, Bus.Stands history id o
  /-- ... and nobody else is then. -/
  removed : ∀ id other o, (other, o) ∈
      (((withBus bus fun b => b.unregister id).run s).2.bus bus).observers ↔
    Bus.Stands history other o ∧ other ≠ id
  /-- The newest problems of failures are kept. -/
  problems : (s.bus bus).problems =
    Problems.newest (max capacity 1) (history.filterMap Bus.Act.problem?)
  /-- An event is delivered to everyone who is registered when it is published. -/
  publish : ∀ notify event, notify.ActsOn bus → ∃ ts, Published notify bus event s ts

/-- Along every run of a bus it fans events out to its observers. -/
theorem fanned_out {engine : String} {capacity : Nat} {s₀ s : System} {history : List Bus.Act}
    (hrun : BusRun s₀.buses.size ((addBus (.new engine capacity)).run s₀).2 history s) :
    FannedOut s₀.buses.size capacity history s := by
  let bus := s₀.buses.size
  have hmade : bus < ((addBus (.new engine capacity)).run s₀).2.buses.size :=
    Nat.lt_of_lt_of_eq (Nat.lt_succ_self _) (Array.size_push _).symm
  have hnew : ((addBus (.new engine capacity)).run s₀).2.bus bus = .new engine capacity := by
    change (s₀.buses.push _).getD _ _ = _
    rw [System.getD_push, if_pos rfl]
  obtain ⟨hbus, hacts⟩ := hrun.acts hmade
  rw [hnew] at hacts
  have horderly : (s.bus bus).Orderly := hacts ▸ (Bus.orderly_new engine capacity).afterAll history
  have hstanding : ∀ id o, (id, o) ∈ (s.bus bus).observers ↔ Bus.Stands history id o := fun id o => by
    rw [hacts]
    exact Bus.mem_observers engine capacity
  have hproblems : (s.bus bus).problems =
      Problems.newest (max capacity 1) (history.filterMap Bus.Act.problem?) := by
    rw [hacts, Bus.problems_afterAll]
    exact Problems.pushAllBounded_eq _ _ (Nat.zero_le _)
  have hcapacity : (s.bus bus).problemCapacity = max capacity 1 := by
    rw [hacts, Bus.problemCapacity_afterAll]
    rfl
  have hkept : (s.bus bus).problems.length ≤ (s.bus bus).problemCapacity := by
    rw [hproblems, hcapacity, Problems.newest, List.length_drop]
    omega
  refine ⟨hstanding, horderly.ordered, fun o => ?_, fun before o after heq => ?_, fun id => ?_,
    fun id other o => ?_, hproblems, fun notify event hnotify => published hnotify hbus hkept event⟩
  · change (s.bus bus).nextId = _
    rw [hacts, Bus.nextId_afterAll, Nat.add_comm]
    rfl
  · exact Bus.numberAfter_lt heq
  · change ((s.bus bus).observers.any fun entry => entry.1 == id) = true ↔ _
    rw [List.any_eq_true]
    constructor
    · rintro ⟨⟨number, o⟩, hentry, hid⟩
      obtain rfl := beq_iff_eq.mp hid
      exact ⟨o, (hstanding _ _).mp hentry⟩
    · rintro ⟨o, ho⟩
      exact ⟨(id, o), (hstanding id o).mpr ho, beq_self_eq_true id⟩
  · have hbus' : ((withBus bus fun b => b.unregister id).run s).2.bus bus =
        ((s.bus bus).unregister id).2 := s.bus_setBus_self hbus _
    rw [hbus', ← hstanding]
    refine List.mem_filter.trans (and_congr_right fun _ => ?_)
    exact bne_iff_ne

/-! ### Observers of all kinds -/

/-- An event. -/
def ChangeEvent.added : ChangeEvent :=
  ⟨"content", some "default", [.root], .added, 1, .ofMillis 0⟩

/-- A bus that keeps one problem, with an observer that registers another one, one that unregisters
itself, one that fails and one that panics. -/
def System.observed : System :=
  ((observe 0 (.scripted "fourth" (.panic (.text "no")))).run
    ((observe 0 (.scripted "third" (.refuse ["no"]))).run
    ((observe 0 (.scripted "second" (.unregister 2))).run
    ((observe 0 (.scripted "first" (.register "fifth"))).run
    ((addBus (.new "engine" 1)).run .empty).2).2).2).2).2

/-- The bus after it has published an event. -/
def System.notified : System :=
  ((publishWith (notifyNested 0) 0 .added).run .observed).2

theorem fanned_out_observed :
    ∃ ts : List Telling, FannedOut 0 1 ([.register (.scripted "first" (.register "fifth")),
        .register (.scripted "second" (.unregister 2)), .register (.scripted "third" (.refuse ["no"])),
        .register (.scripted "fourth" (.panic (.text "no")))] ++
          ts.flatMap (Telling.history .added)) .notified ∧
      ts.map Telling.registration = (System.observed.bus 0).observers ∧
      ((publishWith (notifyNested 0) 0 .added).run .observed).1 = ⟨2, 2⟩ ∧
      (System.notified.bus 0).observers.map (fun entry => (entry.1, entry.2.name)) =
        [(1, "first"), (3, "third"), (4, "fourth"), (5, "fifth")] ∧
      (System.notified.bus 0).problems.map Problem.resource = [some "fourth"] := by
  obtain ⟨ts, htold, hall, -⟩ := publishWith_told (acts_notifyNested 0 0) .added .observed
  have hrun : BusRun 0 ((addBus (.new "engine" 1)).run .empty).2 _ System.observed :=
    .register _ (.register _ (.register _ (.register _ .start)))
  have hfanned : FannedOut System.empty.buses.size 1 _ System.notified :=
    fanned_out (hrun.publish rfl htold hall)
  refine ⟨ts, hfanned, hall, ?_, ?_, ?_⟩
  · decide +kernel
  · decide +kernel
  · decide +kernel

end ContentEngine
