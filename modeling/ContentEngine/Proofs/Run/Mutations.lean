import ContentEngine.Proofs.Run.FanOut

/-!
# Edits are all or nothing, and announced once each

An edit of a store that serves a source either changes the store, and then one event about it is
published with the next number, or it leaves the whole system as it was.  `EditRun` are the runs of a
store with the edits that were made of it, where nobody who is told of an edit changes the store
meanwhile, and `edits_announced` says that whoever is registered throughout is told of one event for each
edit that changed the store, in their order and numbered without a gap.

## Strategy

What an edit does is known from the store before it: an edit that fails or finds nothing to remove sets
the store to what it was (`StoreEdit.eq_of_changes_not`), and any other one is counted and published
(`StoreEdit.announces`).  The number of the last event is that of the store as long as nobody else
counts, so the numbers along a run are by induction on it.
-/

namespace ContentEngine

/-! ## Edits and their answers -/

theorem Depot.setStore_self (d : Depot) (id : StoreId) : d.setStore id (d.store id) = d := by
  unfold Depot.setStore Depot.store
  rw [System.set_getD]

/-- A change of a store answers what is known before it is announced. -/
theorem changeWith_answer {α : Type} (notify : Notify) (id : StoreId)
    (change : Store → Except StoreFault (α × Store × Option Change)) (s : System) :
    ((changeWith notify id change).run s).1 = (change (s.depot.store id)).map Prod.fst := by
  unfold changeWith
  rw [get_bind]
  cases change (s.depot.store id) with
  | error fault => rfl
  | ok result =>
      obtain ⟨answer, store, changed⟩ := result
      cases changed <;> rfl

theorem changeStore_answer {α : Type} (depth : Nat) (id : StoreId)
    (change : Store → Except StoreFault (α × Store × Option Change)) (s : System) :
    ((changeStore depth id change).run s).1 = (change (s.depot.store id)).map Prod.fst := by
  cases depth <;> exact changeWith_answer ..

namespace StoreEdit

/-- Makes an edit, and answers whether it changed the store or why it is refused. -/
def perform (id : StoreId) : StoreEdit → InSystem (Except StoreFault Bool)
  | put workspace path properties => do
    let result ← putNode id workspace path properties
    pure (result.map fun _ => true)
  | setProperty path name value => do
    let result ← ContentEngine.setProperty id path name value
    pure (result.map fun _ => true)
  | remove path => removeNode id path
  | move source target => do
    let result ← moveNode id source target
    pure (result.map fun _ => true)

variable {id : StoreId} {e : StoreEdit} {s : System}

theorem perform_run (id : StoreId) (e : StoreEdit) (s : System) :
    ((e.perform id).run s).2 = e.run id s := by
  cases e <;> rfl

/-- What outlasts operations on stores outlasts edits. -/
theorem ensures_perform {heard : ServiceId → Prop} {P : List Stake → System → Prop}
    (lasting : Robust heard P) (held : List Stake) (id : StoreId) (e : StoreEdit) :
    Ensures (P held) (e.perform id) fun _ => P held := by
  cases e with
  | put workspace path properties =>
      exact .andThen (lasting.putNode held id workspace path properties) fun _ => .answer fun _ hs => hs
  | setProperty path name value =>
      exact .andThen (lasting.setProperty held id path name value) fun _ => .answer fun _ hs => hs
  | remove path => exact lasting.removeNode held id path
  | move source target =>
      exact .andThen (lasting.moveNode held id source target) fun _ => .answer fun _ hs => hs

theorem perform_answer (id : StoreId) (e : StoreEdit) (s : System) :
    ((e.perform id).run s).1 = (e.change (s.depot.store id)).map fun changed => changed.2.isSome := by
  have hannounced : ∀ change : Store → Except StoreFault (Store × Change),
      (((announcedChange id change).run s).1.map fun _ => true) =
        ((change (s.depot.store id)).map fun edited => (edited.1, some edited.2)).map
          fun changed => changed.2.isSome := by
    intro change
    unfold announcedChange
    rw [fromSystem_bind, changeStore_answer]
    cases change (s.depot.store id) <;> rfl
  cases e with
  | put workspace path properties =>
      exact hannounced fun st => st.putIn (workspace.getD st.defaultWorkspace) path properties
  | setProperty path name value => exact hannounced fun st => st.setProperty path name value
  | remove path =>
      change ((removeNode id path).run s).1 = ((s.depot.store id).remove path).map _
      unfold removeNode
      rw [fromSystem_bind, changeStore_answer]
      cases (s.depot.store id).remove path <;> rfl
  | move source target => exact hannounced fun st => st.move source target

/-- Whether an edit changes the store. -/
def changes (id : StoreId) (e : StoreEdit) (s : System) : Bool :=
  match ((e.perform id).run s).1 with
  | .ok changed => changed
  | .error _ => false

theorem changes_iff : e.changes id s = true ↔
    ∃ contents c, e.change (s.depot.store id) = .ok (contents, some c) := by
  unfold changes
  rw [perform_answer]
  cases e.change (s.depot.store id) with
  | error fault => exact ⟨nofun, nofun⟩
  | ok result =>
      obtain ⟨contents, changed⟩ := result
      cases changed with
      | none => exact ⟨nofun, nofun⟩
      | some c => exact ⟨fun _ => ⟨contents, c, rfl⟩, fun _ => rfl⟩

/-- An edit that does not change the store leaves everything as it is. -/
theorem eq_of_changes_not (h : e.changes id s = false) : e.run id s = s := by
  obtain ⟨α, answer, hrun⟩ := e.run_eq id s
  obtain ⟨depth, hdepth⟩ : ∃ depth, s.eventDepth = depth + 1 := ⟨_, rfl⟩
  rw [hrun, hdepth]
  unfold changeStore
  rw [Following.changeWith_run]
  cases hchange : e.change (s.depot.store id) with
  | error fault => rfl
  | ok result =>
      obtain ⟨contents, changed⟩ := result
      cases changed with
      | some c => exact absurd (changes_iff.mpr ⟨contents, c, hchange⟩) (Bool.eq_false_iff.mp h)
      | none =>
          -- the store is set to what it was
          have hsame : contents = s.depot.store id := by
            cases edit hchange
            rfl
          subst hsame
          change s.setDepot (s.depot.setStore id (s.depot.store id)) = s
          rw [Depot.setStore_self]
          rfl

/-- Edits do nothing to buses but act on them. -/
theorem actedOn (bus : BusId) (id : StoreId) (e : StoreEdit) (s : System) :
    ActedOn bus s (e.run id s) := by
  have hsteady := steady_actedOn bus s
  cases e with
  | put workspace path properties => exact hsteady.putNode [] id workspace path properties s (.refl s)
  | setProperty path name value => exact hsteady.setProperty [] id path name value s (.refl s)
  | remove path => exact hsteady.removeNode [] id path s (.refl s)
  | move source target => exact hsteady.moveNode [] id source target s (.refl s)

end StoreEdit

theorem Bus.Orderly.of_actedOn {bus : BusId} {s s' : System} (h : (s.bus bus).Orderly)
    (hacted : ActedOn bus s s') : (s'.bus bus).Orderly := by
  obtain ⟨acts, hacts⟩ := hacted.acts
  rw [hacts]
  exact h.afterAll acts

/-! ## Announcements -/

/-- The system where an edit of a store is made and counted, and not announced yet. -/
def System.edited (s : System) (id : StoreId) (contents : Store) : System :=
  s.setDepot (s.depot.setStore id { contents with sequence := contents.sequence + 1 })

/-- An event of a store, the bus where it is published, and how observers are told of it. -/
structure Announcement where
  bus : BusId
  event : ChangeEvent
  told : List Telling

/-- An edit is announced: it changes the store, one event about it is published on the bus of the store,
and that is all that happens. -/
structure Announces (id : StoreId) (e : StoreEdit) (s : System) (a : Announcement) : Prop where
  made : ∃ contents c b, (s.depot.store id).binding = some b ∧
    e.change (s.depot.store id) = .ok (contents, some c) ∧ a.bus = b.bus ∧
    a.event = c.event contents b s.now ∧
    Told (notifyNested (s.eventDepth - 1)) a.bus a.event (s.edited id contents) a.told (e.run id s)
  /-- The event has the next number. -/
  next : a.event.sequence = (s.depot.store id).sequence + 1
  /-- Those are told who are registered, in their order, ... -/
  everyone : a.told.map Telling.registration = (s.bus a.bus).observers
  /-- ... each of them once. -/
  once : (a.told.map (·.registration.1)).Nodup

/-- A store that serves a source was made. -/
theorem made_of_bound {id : StoreId} {s : System} (h : (s.depot.store id).binding.isSome) :
    id < s.depot.stores.size := by
  refine Nat.lt_of_not_ge fun hout => ?_
  have hdefault : s.depot.store id = default := System.getD_out _ _ _ hout
  rw [hdefault] at h
  cases h

/-- Edits count nothing themselves. -/
theorem Store.Edit.sequence_eq {s s' : Store} {changed : Option Change} (h : Edit s s' changed) :
    s'.sequence = s.sequence := by
  cases h <;> rfl

/-- An edit that changes a store which serves a source is announced. -/
theorem StoreEdit.announces {id : StoreId} {e : StoreEdit} {s : System}
    (hbound : (s.depot.store id).binding.isSome) (hbuses : ∀ bus, (s.bus bus).Orderly)
    (h : e.changes id s = true) : ∃ a, Announces id e s a := by
  obtain ⟨contents, c, hchange⟩ := changes_iff.mp h
  obtain ⟨b, hb⟩ := Option.isSome_iff_exists.mp hbound
  have hid : id < s.depot.stores.size := made_of_bound hbound
  obtain ⟨told, htold, hall, -⟩ := publishWith_told (acts_notifyNested (s.eventDepth - 1) b.bus)
    (c.event contents b s.now) (s.edited id contents)
  have hpublished := run_published hid hb hchange
  refine ⟨⟨b.bus, c.event contents b s.now, told⟩, ⟨contents, c, b, hb, hchange, rfl, rfl, ?_⟩, ?_,
    hall, ?_⟩
  · rw [hpublished]
    exact htold
  · change contents.sequence + 1 = _
    rw [(edit hchange).sequence_eq]
  · have hnumbers : told.map (·.registration.1) = (s.bus b.bus).observers.map Prod.fst :=
      List.map_map.symm.trans (congrArg (List.map Prod.fst) hall)
    change (told.map (·.registration.1)).Nodup
    rw [hnumbers]
    exact (hbuses b.bus).ordered.imp Nat.ne_of_lt

/-! ## Edits while nobody else edits -/

/-- A store has the same content and has counted the same changes, and still serves a source if it
did. -/
structure Untouched (id : StoreId) (s s' : System) : Prop where
  workspaces : (s'.depot.store id).workspaces = (s.depot.store id).workspaces
  sequence : (s'.depot.store id).sequence = (s.depot.store id).sequence
  bound : (s.depot.store id).binding.isSome → (s'.depot.store id).binding.isSome

namespace Untouched

variable {id : StoreId} {s s' s'' : System}

theorem of_depot (h : s'.depot = s.depot) : Untouched id s s' := by
  refine ⟨?_, ?_, fun hbound => ?_⟩
  · rw [h]
  · rw [h]
  · rwa [h]

theorem trans (h : Untouched id s s') (h' : Untouched id s' s'') : Untouched id s s'' where
  workspaces := h'.workspaces.trans h.workspaces
  sequence := h'.sequence.trans h.sequence
  bound := fun hbound => h'.bound (h.bound hbound)

end Untouched

/-- None of the observers touches a store while it is told of an event. -/
def Spared (notify : Notify) (bus : BusId) (event : ChangeEvent) (id : StoreId) :
    List Observer → System → Prop
  | [], _ => True
  | observer :: rest, s =>
    let told := (notify bus observer event).run s
    Untouched id s told.2 ∧
      Spared notify bus event id rest (told.2.conclude bus event observer told.1)

theorem depot_conclude (s : System) (bus : BusId) (event : ChangeEvent) (observer : Observer)
    (outcome : Notified) : (s.conclude bus event observer outcome).depot = s.depot := by
  unfold System.conclude
  split <;> rfl

/-- A store that all observers spare is untouched by a delivery. -/
theorem Spared.deliver {notify : Notify} {bus : BusId} {event : ChangeEvent} {id : StoreId}
    {observers : List Observer} {s : System} (h : Spared notify bus event id observers s) :
    Untouched id s ((ContentEngine.deliver notify bus event observers).run s).2 := by
  induction observers generalizing s with
  | nil => exact .of_depot rfl
  | cons observer rest ih =>
      obtain ⟨htold, hrest⟩ := h
      rw [deliver_cons_run]
      exact htold.trans ((Untouched.of_depot (depot_conclude ..)).trans (ih hrest))

/-- Whether an observer does no more than fail, or register and unregister observers. -/
def Observer.isPlain : Observer → Bool
  | scripted _ (.echo _ _ _) => false
  | scripted _ _ => true
  | configuration _ _ _ => false
  | processing _ => false

theorem depot_notifyNested {observer : Observer} (h : observer.isPlain = true) (depth : Nat)
    (bus : BusId) (event : ChangeEvent) (s : System) :
    ((notifyNested depth bus observer event).run s).2.depot = s.depot := by
  cases observer with
  | scripted name reaction =>
      cases reaction with
      | refuse errors => cases errors <;> rfl
      | echo source store path => exact absurd h Bool.false_ne_true
      | _ => rfl
  | configuration federation root workspace => exact absurd h Bool.false_ne_true
  | processing service => exact absurd h Bool.false_ne_true

theorem Spared.of_plain {observers : List Observer}
    (hplain : ∀ observer ∈ observers, observer.isPlain = true) {depth : Nat} {bus : BusId}
    {event : ChangeEvent} {id : StoreId} {s : System} :
    Spared (notifyNested depth) bus event id observers s := by
  induction observers generalizing s with
  | nil => trivial
  | cons observer rest ih =>
      obtain ⟨hhere, hrest⟩ := List.forall_mem_cons.mp hplain
      exact ⟨.of_depot (depot_notifyNested hhere depth bus event s), ih hrest⟩

namespace StoreEdit

variable {id : StoreId} {e : StoreEdit} {s : System}

/-- Whoever is told of an edit spares the store that is edited. -/
def Undisturbed (id : StoreId) (e : StoreEdit) (s : System) : Prop :=
  ∀ contents c b, (s.depot.store id).binding = some b →
    e.change (s.depot.store id) = .ok (contents, some c) →
    Spared (notifyNested (s.eventDepth - 1)) b.bus (c.event contents b s.now) id
      ((s.bus b.bus).observers.map Prod.snd) (s.edited id contents)

/-- Plain observers spare all stores. -/
theorem Undisturbed.of_plain {b : Binding} (hb : (s.depot.store id).binding = some b)
    (hplain : ∀ observer ∈ (s.bus b.bus).observers.map Prod.snd, observer.isPlain = true) :
    e.Undisturbed id s := by
  intro contents c b' hb' _
  rw [hb] at hb'
  obtain rfl := Option.some.inj hb'
  exact .of_plain hplain

/-- What an undisturbed edit leaves in the store: what it makes of it, counted if that is a change. -/
theorem store_run (hbound : (s.depot.store id).binding.isSome) (hspared : e.Undisturbed id s) :
    ((e.run id s).depot.store id).workspaces = (e.after (s.depot.store id)).workspaces ∧
      ((e.run id s).depot.store id).sequence =
        (s.depot.store id).sequence + (e.changes id s).toNat ∧
      ((e.run id s).depot.store id).binding.isSome := by
  unfold after
  cases h : e.changes id s with
  | false =>
      rw [eq_of_changes_not h]
      refine ⟨?_, rfl, hbound⟩
      cases hchange : e.change (s.depot.store id) with
      | error fault => rfl
      | ok result =>
          obtain ⟨contents, changed⟩ := result
          cases changed with
          | none =>
              cases edit hchange
              rfl
          | some c => exact absurd (changes_iff.mpr ⟨contents, c, hchange⟩) (Bool.eq_false_iff.mp h)
  | true =>
      obtain ⟨contents, c, hchange⟩ := changes_iff.mp h
      obtain ⟨b, hb⟩ := Option.isSome_iff_exists.mp hbound
      have hid : id < s.depot.stores.size := made_of_bound hbound
      have hedit := edit hchange
      have hedited : (s.edited id contents).depot.store id =
          { contents with sequence := contents.sequence + 1 } :=
        (System.getD_set ..).trans (if_pos ⟨rfl, hid⟩)
      have huntouched : Untouched id (s.edited id contents) (e.run id s) := by
        rw [run_published hid hb hchange]
        exact (hspared contents c b hb hchange).deliver
      have hboundedited : ((s.edited id contents).depot.store id).binding.isSome := by
        rw [hedited]
        exact hedit.kept.2.1 ▸ hbound
      refine ⟨?_, ?_, huntouched.bound hboundedited⟩
      · rw [huntouched.workspaces, hedited, hchange]
      · rw [huntouched.sequence, hedited, ← hedit.sequence_eq]
        rfl

end StoreEdit

/-! ## Runs -/

/-- Whatever happens besides edits of a store: the store counts no change and still serves a source, and
observers keep the numbers under which they are registered. -/
structure Unannounced (id : StoreId) (s s' : System) : Prop where
  sequence : (s'.depot.store id).sequence = (s.depot.store id).sequence
  bound : (s'.depot.store id).binding.isSome
  buses : ∀ bus, (s.bus bus).Orderly → (s'.bus bus).Orderly

/-- The runs of a store from a first system on, with the edits that were made of it and the systems where
they were. -/
inductive EditRun (id : StoreId) (s₀ : System) : List (StoreEdit × System) → System → Prop
  | start : EditRun id s₀ [] s₀
  | edit {trace s} (e : StoreEdit) : EditRun id s₀ trace s → e.Undisturbed id s →
      EditRun id s₀ (trace ++ [(e, s)]) ((e.perform id).run s).2
  | other {trace s s'} : EditRun id s₀ trace s → Unannounced id s s' → EditRun id s₀ trace s'

/-- Edits that are made one after the other, and the systems where they are. -/
def StoreEdit.trace (id : StoreId) : List StoreEdit → System → List (StoreEdit × System)
  | [], _ => []
  | e :: rest, s => (e, s) :: trace id rest ((e.perform id).run s).2

theorem EditRun.edits {id : StoreId} {s₀ s : System} {trace : List (StoreEdit × System)}
    {edits : List StoreEdit} (hrun : EditRun id s₀ trace s)
    (hspared : ∀ made ∈ StoreEdit.trace id edits s, made.1.Undisturbed id made.2) :
    EditRun id s₀ (trace ++ StoreEdit.trace id edits s)
      (edits.foldl (fun s e => ((e.perform id).run s).2) s) := by
  induction edits generalizing trace s with
  | nil => simpa [StoreEdit.trace] using hrun
  | cons e rest ih =>
      obtain ⟨hhere, hrest⟩ := List.forall_mem_cons.mp hspared
      have hrun' := ih (hrun.edit e hhere) hrest
      rwa [List.append_assoc] at hrun'

/-- The edits of a run that changed the store. -/
def effective (id : StoreId) (trace : List (StoreEdit × System)) : List (StoreEdit × System) :=
  trace.filter fun made => made.1.changes id made.2

/-- The events that the observer under a number is told of. -/
def received (observer : ObserverId) (history : List Announcement) : List ChangeEvent :=
  history.flatMap fun a =>
    (a.told.filter fun t => t.registration.1 == observer).map fun _ => a.event

/-- An observer that is registered whenever an edit is announced is told of each once. -/
theorem received_eq {id : StoreId} {made : List (StoreEdit × System)} {history : List Announcement}
    (heach : List.Forall₂ (fun made a => Announces id made.1 made.2 a) made history)
    {observer : ObserverId}
    (hregistered : ∀ m ∈ made, ∀ b, (m.2.depot.store id).binding = some b →
      observer ∈ (m.2.bus b.bus).observers.map Prod.fst) :
    received observer history = history.map Announcement.event := by
  induction heach with
  | nil => rfl
  | @cons m a rest history ha _ ih =>
      obtain ⟨hhere, hthere⟩ := List.forall_mem_cons.mp hregistered
      have htold : observer ∈ a.told.map (·.registration.1) := by
        obtain ⟨_, _, b, hb, -, hbus, -⟩ := ha.made
        have hall : a.told.map (·.registration.1) = (m.2.bus a.bus).observers.map Prod.fst :=
          List.map_map.symm.trans (congrArg (List.map Prod.fst) ha.everyone)
        rw [hall, hbus]
        exact hhere b hb
      have hone : (a.told.filter fun t => t.registration.1 == observer).length = 1 := by
        have hcount := List.count_eq_one_of_mem ha.once htold
        rw [List.count, List.countP_map] at hcount
        rw [← List.countP_eq_length_filter]
        exact hcount
      obtain ⟨t, ht⟩ := List.length_eq_one_iff.mp hone
      have hfirst : received observer (a :: history) = a.event :: received observer history := by
        unfold received
        rw [List.flatMap_cons, ht]
        rfl
      rw [hfirst, ih hthere, List.map_cons]

/-- What a store owes those who observe it, given the edits that were made of it and the announcements
of them. -/
structure Accountable (id : StoreId) (s₀ : System) (trace : List (StoreEdit × System)) (s : System)
    (history : List Announcement) : Prop where
  /-- An edit that is refused changes nothing and publishes nothing, ... -/
  refused : ∀ e fault, ((StoreEdit.perform id e).run s).1 = .error fault →
    ((StoreEdit.perform id e).run s).2 = s
  /-- ... and nor does the removal of what is not there. -/
  missed : ∀ e, ((StoreEdit.perform id e).run s).1 = .ok false →
    ((StoreEdit.perform id e).run s).2 = s
  /-- Any other edit is announced by one event with the next number, ... -/
  announced : ∀ e, ((StoreEdit.perform id e).run s).1 = .ok true → ∃ a, Announces id e s a
  /-- ... and the store then holds what the edit makes of it and has counted one change more. -/
  changed : ∀ e, StoreEdit.Undisturbed id e s → ((StoreEdit.perform id e).run s).1 = .ok true →
    (((StoreEdit.perform id e).run s).2.depot.store id).workspaces =
      (e.after (s.depot.store id)).workspaces ∧
    (((StoreEdit.perform id e).run s).2.depot.store id).sequence = (s.depot.store id).sequence + 1
  /-- There is one announcement for each edit that changed the store, in their order. -/
  each : List.Forall₂ (fun made a => Announces id made.1 made.2 a) (effective id trace) history
  /-- They are numbered without a gap, and the store has counted them. -/
  numbers : history.map (·.event.sequence) =
    List.range' ((s₀.depot.store id).sequence + 1) history.length
  counted : (s.depot.store id).sequence = (s₀.depot.store id).sequence + history.length
  /-- Whoever is registered throughout with the bus of the store is told of all of them. -/
  heard : ∀ observer, (∀ made ∈ effective id trace, ∀ b, (made.2.depot.store id).binding = some b →
      observer ∈ (made.2.bus b.bus).observers.map Prod.fst) →
    received observer history = history.map Announcement.event

/-- The invariant of a run: the store serves a source, the buses are in order, and what was announced is
numbered from the first system on. -/
theorem EditRun.history {id : StoreId} {s₀ s : System} {trace : List (StoreEdit × System)}
    (hrun : EditRun id s₀ trace s) (hbound : (s₀.depot.store id).binding.isSome)
    (hbuses : ∀ bus, (s₀.bus bus).Orderly) :
    ((s.depot.store id).binding.isSome ∧ ∀ bus, (s.bus bus).Orderly) ∧ ∃ history : List Announcement,
      List.Forall₂ (fun made a => Announces id made.1 made.2 a) (effective id trace) history ∧
      history.map (·.event.sequence) =
        List.range' ((s₀.depot.store id).sequence + 1) history.length ∧
      (s.depot.store id).sequence = (s₀.depot.store id).sequence + history.length := by
  induction hrun with
  | start => exact ⟨⟨hbound, hbuses⟩, [], .nil, rfl, rfl⟩
  | @edit trace s e _ hspared ih =>
      obtain ⟨⟨hbound, hbuses⟩, history, heach, hnumbers, hcounted⟩ := ih
      obtain ⟨-, hsequence, hbound'⟩ := StoreEdit.store_run hbound hspared
      rw [StoreEdit.perform_run]
      refine ⟨⟨hbound', fun bus => (hbuses bus).of_actedOn (e.actedOn bus id s)⟩, ?_⟩
      have heffective : effective id (trace ++ [(e, s)]) =
          effective id trace ++ if e.changes id s then [(e, s)] else [] := by
        unfold effective
        rw [List.filter_append, List.filter_singleton, Bool.cond_eq_ite]
      rw [heffective, hsequence]
      cases h : e.changes id s with
      | false =>
          refine ⟨history, ?_, hnumbers, hcounted⟩
          rw [if_neg Bool.false_ne_true, List.append_nil]
          exact heach
      | true =>
          obtain ⟨a, ha⟩ := StoreEdit.announces hbound hbuses h
          refine ⟨history ++ [a], ?_, ?_, ?_⟩
          · rw [if_pos rfl]
            exact List.rel_append heach (.cons ha .nil)
          · rw [List.map_append, hnumbers, List.length_append, List.length_singleton,
              List.range'_1_concat, List.map_singleton, ha.next, hcounted, Nat.add_right_comm]
          · rw [hcounted, List.length_append, List.length_singleton]
            rfl
  | other _ hother ih =>
      obtain ⟨⟨-, hbuses⟩, history, heach, hnumbers, hcounted⟩ := ih
      exact ⟨⟨hother.bound, fun bus => hother.buses bus (hbuses bus)⟩, history, heach, hnumbers,
        hother.sequence.trans hcounted⟩

/-- Along every run of a store that serves a source and that its observers spare, edits are all or
nothing, and each that changes the store is announced once, in order.  Buses are orderly when they are made
(`Bus.orderly_new`), and stay so whatever is done to them (`Bus.Orderly.afterAll`). -/
theorem edits_announced {id : StoreId} {s₀ s : System} {trace : List (StoreEdit × System)}
    (hbound : (s₀.depot.store id).binding.isSome) (hbuses : ∀ bus, (s₀.bus bus).Orderly)
    (hrun : EditRun id s₀ trace s) : ∃ history, Accountable id s₀ trace s history := by
  obtain ⟨⟨hbound', hbuses'⟩, history, heach, hnumbers, hcounted⟩ := hrun.history hbound hbuses
  have hchanges : ∀ (e : StoreEdit) answer, ((e.perform id).run s).1 = answer →
      e.changes id s = match answer with | .ok changed => changed | .error _ => false := by
    intro e answer h
    unfold StoreEdit.changes
    rw [h]
  refine ⟨history, fun e fault h => ?_, fun e h => ?_, fun e h => ?_, fun e hspared h => ?_, heach,
    hnumbers, hcounted, fun observer hregistered => ?_⟩
  · exact (e.perform_run id s).trans (StoreEdit.eq_of_changes_not (hchanges e _ h))
  · exact (e.perform_run id s).trans (StoreEdit.eq_of_changes_not (hchanges e _ h))
  · exact StoreEdit.announces hbound' hbuses' (hchanges e _ h)
  · obtain ⟨hworkspaces, hsequence, -⟩ := StoreEdit.store_run hbound' hspared
    rw [hchanges e _ h] at hsequence
    rw [e.perform_run id s]
    exact ⟨hworkspaces, hsequence⟩
  · exact received_eq heach hregistered

/-! ### A store that is edited -/

/-- A store with an observer that accepts all events, one that registers another one each time, and one
that fails. -/
def System.shown : System :=
  ((observe 0 (.scripted "third" (.refuse ["no"]))).run
    ((observe 0 (.scripted "second" (.register "late"))).run
    ((observe 0 (.scripted "first" .accept)).run
    ((registerConnector 0 "content" ⟨.own .new, .plain⟩).run
      ((addFederation (.new "engine" "content" 0 .connectors 2 1)).run
        ((addBus (.new "engine" 1)).run .empty).2).2).2).2).2).2

theorem edits_announced_shown :
    let edits := [.put none "/a" [], .put (some "nowhere") "/b" [], .remove "/b", .move "/a" "/c"]
    ∃ s history, Accountable 0 .shown (StoreEdit.trace 0 edits .shown) s history ∧
      (received 1 history).map ChangeEvent.sequence = [1, 2] := by
  intro edits
  let s := edits.foldl (fun s e => ((e.perform 0).run s).2) System.shown
  have hbuses : ∀ bus, (System.shown.bus bus).Orderly
    | 0 => (Bus.orderly_new "engine" 1).afterAll [.register _, .register _, .register _]
    | _ + 1 => Bus.orderly_new "" 1
  have hbound : ∀ made ∈ StoreEdit.trace 0 edits .shown,
      (made.2.depot.store 0).binding = some ⟨"engine", "content", 0⟩ ∧
      ((made.2.bus 0).observers.all fun entry => entry.2.isPlain) = true ∧
      1 ∈ (made.2.bus 0).observers.map Prod.fst := by
    decide +kernel
  have hspared : ∀ made ∈ StoreEdit.trace 0 edits .shown, made.1.Undisturbed 0 made.2 := by
    intro made hmade
    obtain ⟨hb, hplain, -⟩ := hbound made hmade
    refine .of_plain hb fun observer hobserver => ?_
    obtain ⟨entry, hentry, rfl⟩ := List.mem_map.mp hobserver
    exact List.all_eq_true.mp hplain entry hentry
  obtain ⟨history, h⟩ := edits_announced rfl hbuses (EditRun.start.edits hspared)
  refine ⟨s, history, h, ?_⟩
  have hlength : history.length = 2 := by
    have hzero : (System.shown.depot.store 0).sequence = 0 := by decide +kernel
    have htwo : (s.depot.store 0).sequence = 2 := by decide +kernel
    have hcounted := h.counted
    rw [hzero, htwo] at hcounted
    omega
  have hheard : received 1 history = history.map Announcement.event :=
    h.heard 1 fun made hmade b hb => by
      obtain ⟨hbinding, -, hmem⟩ := hbound made (List.mem_filter.mp hmade).1
      obtain rfl := Option.some.inj (hbinding.symm.trans hb)
      exact hmem
  have hnumbers := h.numbers
  rw [hlength] at hnumbers
  rw [hheard, List.map_map]
  exact hnumbers

end ContentEngine
