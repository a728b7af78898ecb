import ContentEngine.Proofs.Program.Announcing

/-!
# Publishing an event

An event that is published is told to the observers that are registered when it is, one after the other.
Each of them may act on the bus meanwhile, and what comes of it is concluded before the next one is told.
`Told` are the sequences of tellings that lead from one system to another, and `publishWith_told` finds
the one of a publication.

## Strategy

A delivery to a list of observers is a telling and the delivery to the rest.  So everything about a
publication is by induction on the observers, and in the end what it did to the bus is what the tellings
did, one after the other.
-/

namespace ContentEngine

/-- The second system comes of the first one by acts on a bus, as far as that bus is concerned. -/
structure ActedOn (bus : BusId) (s s' : System) : Prop where
  made : s.buses.size ≤ s'.buses.size
  acts : ∃ acts, s'.bus bus = (s.bus bus).afterAll acts

namespace ActedOn

variable {bus : BusId} {s s' s'' : System}

theorem of_bus (hmade : s.buses.size ≤ s'.buses.size) (h : s'.bus bus = s.bus bus) :
    ActedOn bus s s' :=
  ⟨hmade, [], h⟩

theorem of_buses (h : s'.buses = s.buses) : ActedOn bus s s' := by
  refine of_bus (Nat.le_of_eq (by rw [h])) ?_
  rw [System.bus, h, System.bus]

theorem refl (s : System) : ActedOn bus s s :=
  of_buses rfl

theorem trans (h : ActedOn bus s s') (h' : ActedOn bus s' s'') : ActedOn bus s s'' := by
  obtain ⟨acts, hacts⟩ := h.acts
  obtain ⟨more, hmore⟩ := h'.acts
  refine ⟨Nat.le_trans h.made h'.made, acts ++ more, ?_⟩
  rw [hmore, hacts, Bus.afterAll_append]

/-- One act on any bus. -/
theorem setBus (s : System) (id : BusId) (act : Bus.Act) :
    ActedOn bus s (s.setBus id ((s.bus id).after act)) := by
  have hmade : s.buses.size ≤ (s.setBus id ((s.bus id).after act)).buses.size :=
    Nat.le_of_eq (s.buses_size_setBus id _).symm
  by_cases h : bus = id ∧ id < s.buses.size
  · refine ⟨hmade, [act], ?_⟩
    rw [s.bus_setBus, if_pos h, h.1]
    rfl
  · refine of_bus hmade ?_
    rw [s.bus_setBus, if_neg h]

end ActedOn

/-! ## Tellings -/

namespace Notified

/-- Whether the observer neither failed nor panicked. -/
def isDone : Notified → Bool
  | done => true
  | failed _ => false
  | panicked _ => false

end Notified

/-- How an observer was told of an event: what it did to the bus, and what came of it. -/
structure Telling where
  registration : ObserverId × Observer
  acts : List Bus.Act
  outcome : Notified

namespace Telling

variable (event : ChangeEvent) (t : Telling)

/-- The failure that is recorded, if it did fail. -/
def failure? : Option Bus.Act :=
  t.outcome.cause?.map fun cause => .fail t.registration.2.name event cause

/-- The problem that is recorded, if it failed. -/
def problem? : Option Problem :=
  (t.failure? event).bind Bus.Act.problem?

/-- All that happened to the bus. -/
def history : List Bus.Act :=
  t.acts ++ (t.failure? event).toList

/-- A problem is recorded unless the observer is done, and it is about the observer. -/
theorem problem?_cases :
    t.outcome.isDone = true ∧ t.problem? event = none ∨
      t.outcome.isDone = false ∧ ∃ p, t.problem? event = some p ∧
        p.resource = some t.registration.2.name := by
  unfold problem? failure?
  cases t.outcome with
  | done => exact .inl ⟨rfl, rfl⟩
  | failed failure => exact .inr ⟨rfl, _, rfl, rfl⟩
  | panicked payload => exact .inr ⟨rfl, _, rfl, rfl⟩

theorem problems_history (h : ∀ act ∈ t.acts, act.problem? = none) :
    (t.history event).filterMap Bus.Act.problem? = (t.problem? event).toList := by
  unfold history problem?
  rw [List.filterMap_append, List.filterMap_eq_nil_iff.mpr h, List.nil_append]
  cases t.failure? event <;> rfl

end Telling

/-- The system where the failure of an observer is recorded, if it failed. -/
def System.conclude (s : System) (bus : BusId) (event : ChangeEvent) (observer : Observer)
    (outcome : Notified) : System :=
  match outcome.cause? with
  | none => s
  | some cause =>
    (s.setBus bus ((s.bus bus).after (.fail observer.name event cause))).addLog
      [((s.bus bus).recordFailure observer.name event cause).1]

/-- The report where one more observer is counted. -/
def DeliveryReport.count (report : DeliveryReport) (outcome : Notified) : DeliveryReport :=
  if outcome.isDone then { report with delivered := report.delivered + 1 }
  else { report with failed := report.failed + 1 }

/-- Observers are told of an event one after the other, and what comes of it is concluded each time. -/
inductive Told (notify : Notify) (bus : BusId) (event : ChangeEvent) :
    System → List Telling → System → Prop
  | nil {s} : Told notify bus event s [] s
  | cons {s registration outcome s₁ acts ts s'} :
      (notify bus registration.2 event).run s = (outcome, s₁) → s.buses.size ≤ s₁.buses.size →
      s₁.bus bus = (s.bus bus).afterAll acts →
      Told notify bus event (s₁.conclude bus event registration.2 outcome) ts s' →
      Told notify bus event s (⟨registration, acts, outcome⟩ :: ts) s'

/-- Whoever is told of an event does nothing to a bus but act on it. -/
def Notify.ActsOn (notify : Notify) (bus : BusId) : Prop :=
  ∀ observer event s, ActedOn bus s ((notify bus observer event).run s).2

section telling

variable {notify : Notify} {bus : BusId} {event : ChangeEvent} {s s' : System} {ts : List Telling}

theorem buses_size_conclude (s : System) (bus : BusId) (event : ChangeEvent) (observer : Observer)
    (outcome : Notified) : (s.conclude bus event observer outcome).buses.size = s.buses.size := by
  unfold System.conclude
  split
  · rfl
  · exact s.buses_size_setBus bus _

theorem bus_conclude (h : bus < s.buses.size) (t : Telling) :
    (s.conclude bus event t.registration.2 t.outcome).bus bus =
      (s.bus bus).afterAll (t.failure? event).toList := by
  unfold System.conclude Telling.failure?
  cases t.outcome.cause? with
  | none => rfl
  | some cause => exact s.bus_setBus_self h _

/-- What the tellings did to the bus. -/
theorem Told.acts (h : Told notify bus event s ts s') (hbus : bus < s.buses.size) :
    s.buses.size ≤ s'.buses.size ∧
      s'.bus bus = (s.bus bus).afterAll (ts.flatMap (Telling.history event)) := by
  induction h with
  | nil => exact ⟨Nat.le_refl _, rfl⟩
  | @cons s registration outcome s₁ acts ts s' _ hmade hacts _ ih =>
      have hsize := buses_size_conclude s₁ bus event registration.2 outcome
      have hconclude : (s₁.conclude bus event registration.2 outcome).bus bus =
          (s₁.bus bus).afterAll (Telling.failure? event ⟨registration, acts, outcome⟩).toList :=
        bus_conclude (Nat.lt_of_lt_of_le hbus hmade) ⟨registration, acts, outcome⟩
      obtain ⟨hmade', heq⟩ := ih (hsize ▸ Nat.lt_of_lt_of_le hbus hmade)
      refine ⟨Nat.le_trans hmade (hsize ▸ hmade'), ?_⟩
      rw [heq, hconclude, hacts, List.flatMap_cons, Telling.history, Bus.afterAll_append,
        Bus.afterAll_append]

/-- A delivery tells the first observer, concludes, and goes on with the others. -/
theorem deliver_cons_run (notify : Notify) (bus : BusId) (event : ChangeEvent) (observer : Observer)
    (rest : List Observer) (s : System) :
    (deliver notify bus event (observer :: rest)).run s =
      let told := (notify bus observer event).run s
      let delivered := (deliver notify bus event rest).run
        (told.2.conclude bus event observer told.1)
      (delivered.1.count told.1, delivered.2) := by
  conv_lhs => unfold deliver
  rw [run_bind]
  dsimp only
  generalize (notify bus observer event).run s = told
  obtain ⟨outcome, s₁⟩ := told
  cases outcome <;> rfl

theorem deliver_told (hnotify : notify.ActsOn bus) (registrations : List (ObserverId × Observer))
    (s : System) :
    ∃ ts, Told notify bus event s ts
        ((deliver notify bus event (registrations.map Prod.snd)).run s).2 ∧
      ts.map Telling.registration = registrations ∧
      ((deliver notify bus event (registrations.map Prod.snd)).run s).1 =
        ⟨ts.countP (·.outcome.isDone), ts.countP (!·.outcome.isDone)⟩ := by
  induction registrations generalizing s with
  | nil => exact ⟨[], .nil, rfl, rfl⟩
  | cons registration rest ih =>
      obtain ⟨hmade, acts, hacts⟩ := hnotify registration.2 event s
      rw [List.map_cons, deliver_cons_run]
      dsimp only
      generalize hrun : (notify bus registration.2 event).run s = told at *
      obtain ⟨outcome, s₁⟩ := told
      obtain ⟨ts, htold, hall, hreport⟩ := ih (s₁.conclude bus event registration.2 outcome)
      refine ⟨⟨registration, acts, outcome⟩ :: ts, .cons hrun hmade hacts htold, ?_, ?_⟩
      · rw [List.map_cons, hall]
      · rw [hreport, DeliveryReport.count, List.countP_cons, List.countP_cons]
        cases outcome <;> rfl

/-- A publication tells the observers that are registered when it begins, and reports how many of them
are done and how many failed. -/
theorem publishWith_told (hnotify : notify.ActsOn bus) (event : ChangeEvent) (s : System) :
    ∃ ts, Told notify bus event s ts ((publishWith notify bus event).run s).2 ∧
      ts.map Telling.registration = (s.bus bus).observers ∧
      ((publishWith notify bus event).run s).1 =
        ⟨ts.countP (·.outcome.isDone), ts.countP (!·.outcome.isDone)⟩ :=
  deliver_told hnotify (s.bus bus).observers s

end telling

end ContentEngine
