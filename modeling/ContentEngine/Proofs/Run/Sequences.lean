import ContentEngine.Proofs.Run.Mutations

/-!
# The numbers of events

Events are numbered by the store that they are about, and observers are told of them under the name of
the source that the store serves.  Sources are registered and replaced, stores are edited and several
events are being delivered at a time: still the events of one store reach each observer in the order of
their numbers.  So do those of a source, as long as they all come from one store.  When a source is
replaced by one with another store, that store begins to count anew.

## Strategy

`PublishRun` are the runs with what observers were told of, and with the events that are still being
delivered.  A store is not edited while its own event is being delivered, so that event has the last
number which the store has counted, and whoever is still to be told of it was told of smaller numbers
only.  This is the invariant, `ToldInOrder`.  Only edits count, as operations on sources leave the numbers of
all stores alone (`hardy_uncounted`).
-/

namespace ContentEngine

/-! ## What counts no changes -/

/-- The stores that were made are still there and have counted no changes, and observers keep the numbers
under which they are registered. -/
structure Uncounted (s s' : System) : Prop where
  size : s.depot.stores.size ≤ s'.depot.stores.size
  sequences : ∀ id < s.depot.stores.size,
    (s'.depot.store id).sequence = (s.depot.store id).sequence
  buses : ∀ bus, (s.bus bus).Orderly → (s'.bus bus).Orderly

namespace Uncounted

variable {s s' s'' : System}

theorem of_stores (hstores : s'.depot.stores = s.depot.stores) (hbuses : s'.buses = s.buses) :
    Uncounted s s' where
  size := Nat.le_of_eq (by rw [hstores])
  sequences id _ := by rw [Depot.store, hstores, Depot.store]
  buses bus h := by rwa [System.bus, hbuses]

theorem refl (s : System) : Uncounted s s :=
  of_stores rfl rfl

theorem trans (h : Uncounted s s') (h' : Uncounted s' s'') : Uncounted s s'' where
  size := Nat.le_trans h.size h'.size
  sequences id hid := (h'.sequences id (Nat.lt_of_lt_of_le hid h.size)).trans (h.sequences id hid)
  buses bus hbus := h'.buses bus (h.buses bus hbus)

theorem addBus (s : System) (engine : String) (capacity : Nat) :
    Uncounted s ((addBus (.new engine capacity)).run s).2 where
  size := Nat.le_refl _
  sequences _ _ := rfl
  buses bus h := by
    change ((s.buses.push _).getD bus default).Orderly
    rw [System.getD_push]
    split
    · exact Bus.orderly_new engine capacity
    · exact h

theorem setBus (s : System) (id : BusId) (act : Bus.Act) :
    Uncounted s (s.setBus id ((s.bus id).after act)) where
  size := Nat.le_refl _
  sequences _ _ := rfl
  buses bus h := by
    rw [s.bus_setBus]
    split
    · rename_i hbus
      rw [← hbus.1]
      exact h.after act
    · exact h

/-- A source that is installed gives its store another binding at most. -/
theorem install (id : FederationId) (name : String) (connector : Connector)
    (descriptor : Option SourceDescriptor) (s : System) :
    Uncounted s ((withFederation id fun f d => f.install d name connector descriptor).run s).2 where
  size := by
    obtain ⟨-, hstores | hstores⟩ :=
      (s.federation id).install_stores s.depot name connector descriptor
    · exact Nat.le_of_eq (congrArg Array.size hstores.symm)
    · exact Nat.le_of_eq ((congrArg Array.size hstores).trans Array.size_setIfInBounds).symm
  sequences store _ := by
    obtain ⟨_, hstore⟩ := (s.federation id).install_store s.depot name connector descriptor store
    change (((s.federation id).install s.depot name connector descriptor).2.2.store store).sequence = _
    rw [hstore]
  buses _ h := h

end Uncounted

/-- A change of a store that serves no source is not announced. -/
theorem announceWith_unbound {notify : Notify} {id : StoreId} {change : Change} {s : System}
    (hunbound : (s.depot.store id).binding = none) :
    ((announceWith notify id change).run s).2 = s := by
  have hannounced : (s.depot.store id).announce s.now change = (s.depot.store id, none) := by
    unfold Store.announce
    rw [hunbound]
  have hcount : (modifyGet fun s => ((((s.depot.store id).announce s.now change).2,
      s.setDepot (s.depot.setStore id ((s.depot.store id).announce s.now change).1))) :
        InSystem _).run s = (none, s) := by
    change ((((s.depot.store id).announce s.now change).2,
      s.setDepot (s.depot.setStore id ((s.depot.store id).announce s.now change).1))) = _
    rw [hannounced, Depot.setStore_self]
    rfl
  unfold announceWith
  rw [run_bind, show StateT.run (modifyGet _ : InSystem _) s = _ from hcount]
  rfl

/-- Operations on sources count no changes of stores. -/
theorem hardy_uncounted (s₀ : System) : Hardy fun _ s => Uncounted s₀ s where
  slight hslight hs := hs.trans ⟨hslight.size, hslight.sequences, fun bus h => by
    rwa [System.bus, hslight.buses]⟩
  act id act _ hs := hs.trans (.setBus _ id act)
  turn deadline _ s hs := by
    have hbackground := (Background.enduring s).turn deadline s (.refl s)
    exact hs.trans (.of_stores hbackground.depot.stores hbackground.buses)
  pass _ _ _ hs := hs.trans (.of_stores rfl rfl)
  install id name connector descriptor _ s hs := hs.trans (.install id name connector descriptor s)
  remove id name _ s hs :=
    hs.trans (.of_stores ((s.federation id).remove_stores s.depot name).1 rfl)
  request id name _ s hs :=
    hs.trans (.of_stores (Depot.Lent.borrow (s.federation id) s.depot name).stores rfl)
  resume id o _ s hs :=
    hs.trans (.of_stores (Depot.Lent.resumeBorrow (s.federation id) s.depot o).stores rfl)
  abandon hs := hs
  giveBack loan _ s hs := hs.trans (.of_stores (Depot.Lent.release s.depot loan).stores rfl)

namespace Uncounted

variable {s : System}

/-- Nor does a job that is submitted. -/
theorem submitWork (id : DispatcherId) (work : WorkItem Processor) (s : System) :
    Uncounted s ((ContentEngine.submitWork id work).run s).2 := by
  by_cases haccepts : ((s.dispatcher id).accepting && (s.dispatcher id).lifecycle.isRunning) = true
  · rw [submitWork_accepted work haccepts]
    exact of_stores rfl rfl
  · rw [submitWork_rejected work haccepts]
    exact of_stores rfl rfl

/-- An observer that edits no stores itself counts no changes when it is told of an event. -/
theorem notifyNested {observer : Observer} (hechoes : observer.echoes = false) (depth : Nat)
    (bus : BusId) (event : ChangeEvent) (s : System) :
    Uncounted s ((ContentEngine.notifyNested depth bus observer event).run s).2 := by
  refine (hardy_uncounted s).notifyQuietly [] hechoes bus (fun id _ => ?_) s (.refl s)
  exact ensures_processEvent (fun _ => True)
    (fun lines => .update fun _ hs => hs.trans (.of_stores rfl rfl)) (fun _ _ => trivial)
    fun v _ work _ s' hs => hs.trans (.submitWork v.dispatcher work s')

theorem conclude (s : System) (bus : BusId) (event : ChangeEvent) (observer : Observer)
    (outcome : Notified) : Uncounted s (s.conclude bus event observer outcome) := by
  unfold System.conclude
  split
  · exact refl s
  · exact (setBus s bus _).trans (of_stores rfl rfl)

/-- A store is given other content and another binding. -/
theorem setStore {id : StoreId} {store : Store}
    (hsequence : store.sequence = (s.depot.store id).sequence) :
    Uncounted s (s.setDepot (s.depot.setStore id store)) where
  size := Nat.le_of_eq Array.size_setIfInBounds.symm
  sequences other _ := by
    change ((s.depot.stores.setIfInBounds id store).getD other default).sequence = _
    rw [System.getD_set]
    by_cases hother : other = id ∧ id < s.depot.stores.size
    · rw [if_pos hother, hsequence, hother.1]
    · rw [if_neg hother]
      rfl
  buses _ h := h

/-- An edit of a store that serves no source is not counted. -/
theorem edit {id : StoreId} (e : StoreEdit) (hunbound : (s.depot.store id).binding = none) :
    Uncounted s (e.run id s) := by
  cases h : e.changes id s with
  | false =>
      rw [StoreEdit.eq_of_changes_not h]
      exact refl s
  | true =>
      obtain ⟨contents, c, hchange⟩ := StoreEdit.changes_iff.mp h
      have hedit := StoreEdit.edit hchange
      have hstill : ((s.setDepot (s.depot.setStore id contents)).depot.store id).binding = none := by
        change ((s.depot.stores.setIfInBounds id contents).getD id default).binding = none
        rw [System.getD_set]
        split
        · exact hedit.kept.2.1.trans hunbound
        · exact hunbound
      obtain ⟨α, answer, hrun⟩ := e.run_eq id s
      obtain ⟨depth, hdepth⟩ : ∃ depth, s.eventDepth = depth + 1 := ⟨_, rfl⟩
      rw [hrun, hdepth]
      unfold changeStore
      rw [Following.changeWith_run, hchange]
      change Uncounted s ((announceWith _ id c).run (s.setDepot (s.depot.setStore id contents))).2
      rw [announceWith_unbound hstill]
      exact setStore hedit.sequence_eq

end Uncounted

/-! ## Runs with what is delivered -/

/-- An observer was told of an event, on the bus where it is registered.  The event is about a store. -/
structure Receipt where
  store : StoreId
  bus : BusId
  observer : ObserverId
  event : ChangeEvent

/-- An event about a store is being delivered on a bus: some observers are still to be told of it. -/
structure Pending where
  store : StoreId
  bus : BusId
  event : ChangeEvent
  waiting : List (ObserverId × Observer)

/-- The runs with what observers were told of, and with the events that are still being delivered.  Events
about several stores may be delivered at a time, and anything that counts no changes may happen
meanwhile; but a store is not edited while observers are still to be told of its last edit. -/
inductive PublishRun : List Receipt → List Pending → System → Prop
  | start : PublishRun [] [] .empty
  | register {told pending s} (id : FederationId) (descriptor : SourceDescriptor) :
      PublishRun told pending s → PublishRun told pending ((registerSource id descriptor).run s).2
  | registerConnector {told pending s} (id : FederationId) (name : String) (plan : ConnectorPlan) :
      PublishRun told pending s →
      PublishRun told pending ((ContentEngine.registerConnector id name plan).run s).2
  | apply {told pending s} (id : FederationId) (descriptors : List SourceDescriptor) :
      PublishRun told pending s → PublishRun told pending ((applyDescriptors id descriptors).run s).2
  | edit {told pending s id b contents c} (e : StoreEdit) : PublishRun told pending s →
      (∀ p ∈ pending, p.store ≠ id) → (s.depot.store id).binding = some b →
      e.change (s.depot.store id) = .ok (contents, some c) →
      PublishRun told
        (pending ++ [⟨id, b.bus, c.event contents b s.now, (s.bus b.bus).observers⟩])
        (s.edited id contents)
  | tell {told before store bus event entry waiting after s} :
      PublishRun told (before ++ ⟨store, bus, event, entry :: waiting⟩ :: after) s →
      PublishRun (told ++ [⟨store, bus, entry.1, event⟩])
        (before ++ ⟨store, bus, event, waiting⟩ :: after) s
  | finish {told before store bus event after s} :
      PublishRun told (before ++ ⟨store, bus, event, []⟩ :: after) s →
      PublishRun told (before ++ after) s
  | other {told pending s s'} : PublishRun told pending s → Uncounted s s' →
      PublishRun told pending s'

/-! ### The invariant -/

/-- What is told to whom is in order: the event that is being delivered about a store has the number of the
last change which the store counted, and nobody was told of a greater one. -/
structure ToldInOrder (told : List Receipt) (pending : List Pending) (s : System) : Prop where
  buses : ∀ bus, (s.bus bus).Orderly
  counted : ∀ r ∈ told, r.store < s.depot.stores.size ∧
    r.event.sequence ≤ (s.depot.store r.store).sequence
  last : ∀ p ∈ pending, p.store < s.depot.stores.size ∧
    p.event.sequence = (s.depot.store p.store).sequence
  /-- At most one event about each store is being delivered, ... -/
  apart : (pending.map Pending.store).Nodup
  /-- ... to each observer once, ... -/
  once : ∀ p ∈ pending, (p.waiting.map Prod.fst).Nodup
  /-- ... and who is still to be told of it was not told of it yet. -/
  unheard : ∀ r ∈ told, ∀ p ∈ pending, r.store = p.store → r.event.sequence = p.event.sequence →
    r.observer ∉ p.waiting.map Prod.fst
  ascending : told.Pairwise fun r r' => r.store = r'.store → r.observer = r'.observer →
    r.event.sequence < r'.event.sequence

namespace ToldInOrder

variable {told : List Receipt} {pending before after : List Pending} {s s' : System}

theorem start : ToldInOrder [] [] .empty where
  buses _ := Bus.orderly_new "" 1
  counted _ h := absurd h List.not_mem_nil
  last _ h := absurd h List.not_mem_nil
  apart := .nil
  once _ h := absurd h List.not_mem_nil
  unheard _ h := absurd h List.not_mem_nil
  ascending := .nil

/-- Whatever counts no changes leaves everything in order. -/
theorem other (h : ToldInOrder told pending s) (hother : Uncounted s s') : ToldInOrder told pending s' where
  buses bus := hother.buses bus (h.buses bus)
  counted r hr := by
    obtain ⟨hmade, hle⟩ := h.counted r hr
    exact ⟨Nat.lt_of_lt_of_le hmade hother.size, (hother.sequences _ hmade).symm ▸ hle⟩
  last p hp := by
    obtain ⟨hmade, hlast⟩ := h.last p hp
    exact ⟨Nat.lt_of_lt_of_le hmade hother.size, hlast.trans (hother.sequences _ hmade).symm⟩
  apart := h.apart
  once := h.once
  unheard := h.unheard
  ascending := h.ascending

/-- The event about a new edit has a number that nobody was told of. -/
theorem edit (h : ToldInOrder told pending s) {id : StoreId} {e : StoreEdit} {b : Binding} {contents : Store}
    {c : Change} (hfree : ∀ p ∈ pending, p.store ≠ id) (hbound : (s.depot.store id).binding = some b)
    (hchange : e.change (s.depot.store id) = .ok (contents, some c)) :
    ToldInOrder told (pending ++ [⟨id, b.bus, c.event contents b s.now, (s.bus b.bus).observers⟩])
      (s.edited id contents) := by
  have hid : id < s.depot.stores.size := made_of_bound (hbound ▸ rfl)
  have hsize : (s.edited id contents).depot.stores.size = s.depot.stores.size :=
    Array.size_setIfInBounds
  have hcontents : contents.sequence = (s.depot.store id).sequence :=
    (StoreEdit.edit hchange).sequence_eq
  have hnext : ((s.edited id contents).depot.store id).sequence = contents.sequence + 1 :=
    congrArg Store.sequence ((System.getD_set ..).trans (if_pos ⟨rfl, hid⟩))
  have hsame : ∀ other ≠ id,
      (s.edited id contents).depot.store other = s.depot.store other := fun other hother =>
    (System.getD_set ..).trans (if_neg fun heq => hother heq.1)
  refine ⟨h.buses, fun r hr => ?_, ?_, ?_, ?_, ?_, h.ascending⟩
  · obtain ⟨hmade, hle⟩ := h.counted r hr
    refine ⟨hsize.symm ▸ hmade, ?_⟩
    by_cases hstore : r.store = id
    · rw [hstore] at hle ⊢
      omega
    · rwa [hsame _ hstore]
  · refine List.forall_mem_append.mpr ⟨fun p hp => ?_, List.forall_mem_singleton.mpr ?_⟩
    · obtain ⟨hmade, hlast⟩ := h.last p hp
      exact ⟨hsize.symm ▸ hmade, by rw [hsame _ (hfree p hp), hlast]⟩
    · exact ⟨hsize.symm ▸ hid, hnext.symm⟩
  · rw [List.map_append]
    refine List.nodup_append.mpr ⟨h.apart, List.nodup_singleton _, fun store hstore other hother => ?_⟩
    obtain ⟨p, hp, rfl⟩ := List.mem_map.mp hstore
    obtain rfl := List.mem_singleton.mp hother
    exact hfree p hp
  · refine List.forall_mem_append.mpr ⟨h.once, List.forall_mem_singleton.mpr ?_⟩
    exact (h.buses b.bus).ordered.imp Nat.ne_of_lt
  · intro r hr
    refine List.forall_mem_append.mpr ⟨h.unheard r hr, List.forall_mem_singleton.mpr ?_⟩
    -- the number of the new event is greater than all that anybody was told of
    intro hstore hsequence
    have hle := (h.counted r hr).2
    change r.store = id at hstore
    change r.event.sequence = contents.sequence + 1 at hsequence
    rw [hstore] at hle
    omega

section telling

variable {store : StoreId} {bus : BusId} {event : ChangeEvent} {entry : ObserverId × Observer}
  {waiting : List (ObserverId × Observer)}

/-- An observer that is told of an event was told of smaller numbers before. -/
theorem tell (h : ToldInOrder told (before ++ ⟨store, bus, event, entry :: waiting⟩ :: after) s) :
    ToldInOrder (told ++ [⟨store, bus, entry.1, event⟩])
      (before ++ ⟨store, bus, event, waiting⟩ :: after) s := by
  have hmem : (⟨store, bus, event, entry :: waiting⟩ : Pending) ∈
      before ++ ⟨store, bus, event, entry :: waiting⟩ :: after :=
    List.mem_append_right _ List.mem_cons_self
  have hmade : store < s.depot.stores.size := (h.last _ hmem).1
  have hlast : event.sequence = (s.depot.store store).sequence := (h.last _ hmem).2
  obtain ⟨hnew, honce⟩ := List.nodup_cons.mp (h.once _ hmem)
  have hstores : (before ++ ⟨store, bus, event, waiting⟩ :: after).map Pending.store =
      (before ++ ⟨store, bus, event, entry :: waiting⟩ :: after).map Pending.store := by
    simp only [List.map_append, List.map_cons]
  have hothers : store ∉ (before ++ after).map Pending.store := by
    have hapart := h.apart
    rw [List.map_append, List.map_cons, List.nodup_middle, ← List.map_append] at hapart
    exact (List.nodup_cons.mp hapart).1
  -- all other deliveries are as they were, and about other stores
  have hcases : ∀ {P : Pending → Prop}, P ⟨store, bus, event, waiting⟩ →
      (∀ p ∈ before ++ ⟨store, bus, event, entry :: waiting⟩ :: after, p.store ≠ store → P p) →
      ∀ p ∈ before ++ ⟨store, bus, event, waiting⟩ :: after, P p := by
    intro P hhere hrest p hp
    have helse : ∀ p ∈ before ++ after, P p := fun p hp => by
      refine hrest p ?_ fun heq => hothers (heq ▸ List.mem_map_of_mem hp)
      exact ((List.Sublist.refl before).append (List.sublist_cons_self _ after)).subset hp
    rcases List.mem_append.mp hp with hp | hp
    · exact helse p (List.mem_append_left _ hp)
    · rcases List.mem_cons.mp hp with rfl | hp
      · exact hhere
      · exact helse p (List.mem_append_right _ hp)
  refine ⟨h.buses, ?_, hcases ⟨hmade, hlast⟩ fun p hp _ => h.last p hp, hstores ▸ h.apart,
    hcases honce fun p hp _ => h.once p hp, ?_, ?_⟩
  · exact List.forall_mem_append.mpr
      ⟨h.counted, List.forall_mem_singleton.mpr ⟨hmade, Nat.le_of_eq hlast⟩⟩
  · refine List.forall_mem_append.mpr ⟨fun r hr => ?_, List.forall_mem_singleton.mpr ?_⟩
    · refine hcases (fun hstore hsequence => ?_) fun p hp _ => h.unheard r hr p hp
      exact mt (List.mem_cons_of_mem _) (h.unheard r hr _ hmem hstore hsequence)
    · exact hcases (fun _ _ => hnew) fun p _ hother hstore => absurd hstore.symm hother
  · refine List.pairwise_append.mpr ⟨h.ascending, List.pairwise_singleton _ _, fun r hr => ?_⟩
    refine List.forall_mem_singleton.mpr fun hstore hobserver => ?_
    have hstore : r.store = store := hstore
    have hle : r.event.sequence ≤ event.sequence := by
      rw [hlast, ← hstore]
      exact (h.counted r hr).2
    -- whoever was told of this event before is not waiting for it any more
    refine Nat.lt_of_le_of_ne hle fun hsequence => ?_
    exact h.unheard r hr _ hmem hstore hsequence (hobserver ▸ List.mem_cons_self)

theorem finish (h : ToldInOrder told (before ++ ⟨store, bus, event, []⟩ :: after) s) :
    ToldInOrder told (before ++ after) s := by
  have hsub : (before ++ after).Sublist (before ++ ⟨store, bus, event, []⟩ :: after) :=
    (List.Sublist.refl before).append (List.sublist_cons_self _ after)
  exact ⟨h.buses, h.counted, fun p hp => h.last p (hsub.subset hp), h.apart.sublist (hsub.map _),
    fun p hp => h.once p (hsub.subset hp), fun r hr p hp => h.unheard r hr p (hsub.subset hp),
    h.ascending⟩

end telling

end ToldInOrder

theorem PublishRun.toldInOrder {told : List Receipt} {pending : List Pending} {s : System}
    (hrun : PublishRun told pending s) : ToldInOrder told pending s := by
  induction hrun with
  | start => exact .start
  | @register _ _ s id descriptor _ ih =>
      exact ih.other ((hardy_uncounted s).registerSource [] id descriptor s (.refl s))
  | @registerConnector _ _ s id name plan _ ih =>
      exact ih.other ((hardy_uncounted s).registerConnector [] id name plan s (.refl s))
  | @apply _ _ s id descriptors _ ih =>
      exact ih.other ((hardy_uncounted s).applyDescriptors [] id descriptors s (.refl s))
  | edit e _ hfree hbound hchange ih => exact ih.edit hfree hbound hchange
  | tell _ ih => exact ih.tell
  | finish _ ih => exact ih.finish
  | other _ hother ih => exact ih.other hother

/-! ## Edits and their deliveries -/

/-- Those who are told of the changes of a store: the observers of its bus, if it serves a source. -/
def System.audience (s : System) (id : StoreId) : List (ObserverId × Observer) :=
  match (s.depot.store id).binding with
  | none => []
  | some b => (s.bus b.bus).observers

/-- What is delivered of an edit: one event to each of the audience, if it changes the store. -/
def StoreEdit.receipts (id : StoreId) (s : System) (e : StoreEdit) : List Receipt :=
  match (s.depot.store id).binding, e.change (s.depot.store id) with
  | some b, .ok (contents, some c) =>
    (s.audience id).map fun entry => ⟨id, b.bus, entry.1, c.event contents b s.now⟩
  | _, _ => []

/-- What observers are told in the course of an announcement. -/
def Announcement.receipts (id : StoreId) (a : Announcement) : List Receipt :=
  a.told.map fun t => ⟨id, a.bus, t.registration.1, a.event⟩

theorem Announces.receipts_eq {id : StoreId} {e : StoreEdit} {s : System} {a : Announcement}
    (h : Announces id e s a) : e.receipts id s = a.receipts id := by
  obtain ⟨contents, c, b, hbound, hchange, hbus, hevent, -⟩ := h.made
  have haudience : s.audience id = a.told.map Telling.registration := by
    unfold System.audience
    rw [hbound, h.everyone, hbus]
  unfold StoreEdit.receipts Announcement.receipts
  rw [haudience, hbound, hchange, hbus, hevent]
  exact List.map_map

theorem StoreEdit.receipts_of_changes_not {id : StoreId} {s : System} {e : StoreEdit}
    (h : e.changes id s = false) : e.receipts id s = [] := by
  unfold receipts
  split
  · rename_i hchange
    exact absurd (changes_iff.mpr ⟨_, _, hchange⟩) (Bool.eq_false_iff.mp h)
  · rfl

namespace PublishRun

variable {told : List Receipt} {pending before after : List Pending} {s : System}

/-- An event is delivered to the observers who are still to be told of it. -/
theorem deliver (depth : Nat) {store : StoreId} {bus : BusId} {event : ChangeEvent}
    {waiting : List (ObserverId × Observer)}
    (hrun : PublishRun told (before ++ ⟨store, bus, event, waiting⟩ :: after) s)
    (hquiet : ∀ entry ∈ waiting, entry.2.echoes = false) :
    PublishRun (told ++ waiting.map fun entry => ⟨store, bus, entry.1, event⟩) (before ++ after)
      ((ContentEngine.deliver (notifyNested depth) bus event (waiting.map Prod.snd)).run s).2 := by
  induction waiting generalizing told s with
  | nil =>
      rw [List.map_nil, List.append_nil]
      exact hrun.finish
  | cons entry rest ih =>
      obtain ⟨hhere, hrest⟩ := List.forall_mem_cons.mp hquiet
      -- the others are told in the system where the failure of this one is recorded
      rw [List.map_cons, List.map_cons, deliver_cons_run, List.append_cons]
      exact ih ((hrun.tell.other (.notifyNested hhere depth bus event s)).other (.conclude ..)) hrest

/-- An edit of a store is made, and its event is delivered to everyone, unless the last one about the
store is still being delivered. -/
theorem perform {id : StoreId} (hrun : PublishRun told pending s) (hfree : ∀ p ∈ pending, p.store ≠ id)
    (hquiet : ∀ entry ∈ s.audience id, entry.2.echoes = false) (e : StoreEdit) :
    PublishRun (told ++ e.receipts id s) pending ((e.perform id).run s).2 := by
  rw [e.perform_run]
  cases h : e.changes id s with
  | false =>
      rw [StoreEdit.eq_of_changes_not h, StoreEdit.receipts_of_changes_not h, List.append_nil]
      exact hrun
  | true =>
      obtain ⟨contents, c, hchange⟩ := StoreEdit.changes_iff.mp h
      unfold System.audience at hquiet
      unfold StoreEdit.receipts System.audience
      cases hbound : (s.depot.store id).binding with
      | none =>
          rw [List.append_nil]
          exact hrun.other (.edit e hbound)
      | some b =>
          rw [hbound] at hquiet
          rw [hchange, StoreEdit.run_published (made_of_bound (hbound ▸ rfl)) hbound hchange]
          have hdelivered := (hrun.edit e hfree hbound hchange).deliver (s.eventDepth - 1) hquiet
          rwa [List.append_nil] at hdelivered

end PublishRun

/-! ## Numbers increase -/

/-- The numbers of the events under the name of a source that an observer was told of, in this order. -/
def numbersTold (told : List Receipt) (bus : BusId) (observer : ObserverId) (source : String) :
    List Nat :=
  (told.filter fun r => r.bus == bus && r.observer == observer && r.event.source == source).map
    (·.event.sequence)

/-- What observers may rely on about the numbers of events. -/
structure Sequenced (told : List Receipt) (pending : List Pending) (s : System) : Prop where
  /-- An observer is told of the events of a store with greater and greater numbers, ... -/
  stores : told.Pairwise fun r r' => r.store = r'.store → r.bus = r'.bus → r.observer = r'.observer →
    r.event.sequence < r'.event.sequence
  /-- ... and so of those of a source, if only one store was edited under its name. -/
  sources : ∀ source store, (∀ r ∈ told, r.event.source = source → r.store = store) →
    ∀ bus observer, (numbersTold told bus observer source).Pairwise (· < ·)
  /-- The event about an edit that changes a store is announced: the observers who are registered then are
  told of it one after the other. -/
  announced : ∀ id (e : StoreEdit), (s.depot.store id).binding.isSome → e.changes id s = true →
    ∃ a, Announces id e s a ∧ e.receipts id s = a.receipts id
  /-- With each edit that is made and announced the run goes on. -/
  edits : ∀ id, (∀ p ∈ pending, p.store ≠ id) →
    (∀ entry ∈ s.audience id, entry.2.echoes = false) →
    ∀ e : StoreEdit, PublishRun (told ++ e.receipts id s) pending ((e.perform id).run s).2

/-- **Numbers increase** along every run, for each observer and store. -/
theorem sequences_increase {told : List Receipt} {pending : List Pending} {s : System}
    (hrun : PublishRun told pending s) : Sequenced told pending s := by
  have hascending := hrun.toldInOrder.ascending
  refine ⟨hascending.imp fun h hstore _ => h hstore, fun source store hone bus observer => ?_,
    fun id e hbound hchanges => ?_, fun id hfree hquiet e => hrun.perform hfree hquiet e⟩
  · rw [numbersTold, List.pairwise_map, List.pairwise_filter]
    refine hascending.imp_of_mem fun {r r'} hr hr' h hmatches hmatches' => ?_
    simp only [Bool.and_eq_true, beq_iff_eq] at hmatches hmatches'
    exact h ((hone r hr hmatches.2).trans (hone r' hr' hmatches'.2).symm)
      (hmatches.1.2.trans hmatches'.1.2.symm)
  · obtain ⟨a, ha⟩ := StoreEdit.announces hbound hrun.toldInOrder.buses hchanges
    exact ⟨a, ha, ha.receipts_eq⟩

/-! ### A source that is edited and replaced -/

theorem Uncounted.observe (bus : BusId) (o : Observer) (s : System) :
    Uncounted s ((ContentEngine.observe bus o).run s).2 :=
  setBus s bus (.register o)

theorem System.shown_run : PublishRun [] [] .shown := by
  have hbus := PublishRun.start.other (.addBus .empty "engine" 1)
  have hfederation : PublishRun [] [] ((addFederation (.new "engine" "content" 0 .connectors 2 1)).run
      ((addBus (.new "engine" 1)).run .empty).2).2 := hbus.other (.of_stores rfl rfl)
  have hsource := hfederation.registerConnector 0 "content" ⟨.own .new, .plain⟩
  exact ((hsource.other (.observe 0 _ _)).other (.observe 0 _ _)).other (.observe 0 _ _)

/-- A node is put into the store. -/
def StoreEdit.noted : StoreEdit :=
  .put none "/a" []

/-- The system where a node was put once and again. -/
def System.noted : System :=
  ((StoreEdit.noted.perform 0).run ((StoreEdit.noted.perform 0).run .shown).2).2

/-- What observers are told of it. -/
def System.notedReceipts : List Receipt :=
  StoreEdit.noted.receipts 0 .shown ++
    StoreEdit.noted.receipts 0 ((StoreEdit.noted.perform 0).run .shown).2

theorem System.noted_run : PublishRun System.notedReceipts [] .noted := by
  have honce : PublishRun ([] ++ StoreEdit.noted.receipts 0 .shown) []
      ((StoreEdit.noted.perform 0).run .shown).2 :=
    System.shown_run.perform (fun _ h => absurd h List.not_mem_nil) (by decide +kernel) .noted
  exact honce.perform (fun _ h => absurd h List.not_mem_nil) (by decide +kernel) .noted

theorem sequences_increase_edited :
    PublishRun System.notedReceipts [] .noted ∧
      numbersTold System.notedReceipts 0 1 "content" = [1, 2] ∧
      (numbersTold System.notedReceipts 0 1 "content").Pairwise (· < ·) := by
  refine ⟨System.noted_run, by decide +kernel, ?_⟩
  exact (sequences_increase System.noted_run).sources "content" 0 (by decide +kernel) 0 1

/-- A source that is replaced begins anew: its observers are told of the first number again. -/
theorem sequences_restart :
    let s := ((registerConnector 0 "content" ⟨.own .new, .plain⟩).run .noted).2
    let told := System.notedReceipts ++ StoreEdit.noted.receipts 1 s
    PublishRun told [] ((StoreEdit.noted.perform 1).run s).2 ∧
      numbersTold told 0 1 "content" = [1, 2, 1] ∧
      ¬ told.Pairwise fun r r' => r.bus = r'.bus → r.observer = r'.observer →
        r.event.source = r'.event.source → r.event.sequence < r'.event.sequence := by
  intro s told
  have hreplaced : PublishRun System.notedReceipts [] s :=
    System.noted_run.registerConnector 0 "content" ⟨.own .new, .plain⟩
  have hnumbers : numbersTold told 0 1 "content" = [1, 2, 1] := by decide +kernel
  refine ⟨?_, hnumbers, fun hascending => ?_⟩
  · exact hreplaced.perform (fun _ h => absurd h List.not_mem_nil) (by decide +kernel) .noted
  · have hnone : ¬ [1, 2, 1].Pairwise (· < ·) := by decide
    refine hnone ?_
    rw [← hnumbers, numbersTold, List.pairwise_map, List.pairwise_filter]
    refine hascending.imp fun {r r'} h hmatches hmatches' => ?_
    simp only [Bool.and_eq_true, beq_iff_eq] at hmatches hmatches'
    exact h (hmatches.1.1.trans hmatches'.1.1.symm) (hmatches.1.2.trans hmatches'.1.2.symm)
      (hmatches.2.trans hmatches'.2.symm)

end ContentEngine
