import ContentEngine.Proofs.Program.Lasting
import ContentEngine.System.Components

/-!
# Lasting conditions and announcements

What outlasts the operations on sources outlasts every change of a store as well: a change is
announced, the observers that are told of it submit jobs, reload sources or change other stores, and
these changes are announced in turn.  Announcements are nested, so this is an induction on how deep
they may be.
-/

namespace ContentEngine

/-! ## Services -/

theorem Aside.startService (id : ServiceId) (s : System) : Aside s ((startService id).run s).2 := by
  suffices h : Ensures (· = s) (ContentEngine.startService id) fun _ => Aside s from h s rfl
  refine .exchange ?_
  rintro _ rfl
  split <;> exact .of_eq rfl rfl rfl rfl rfl rfl rfl rfl rfl rfl

theorem Aside.shutdownService (id : ServiceId) (s : System) :
    Aside s ((shutdownService id).run s).2 := by
  suffices h : Ensures (· = s) (ContentEngine.shutdownService id) fun _ => Aside s from h s rfl
  refine .update ?_
  rintro _ rfl
  split <;> exact .of_eq rfl rfl rfl rfl rfl rfl rfl rfl rfl rfl

/-! ## Parts of announcements -/

section announcements

variable {P : System → Prop}

/-- What a reload upholds, following the configuration upholds. -/
theorem ensures_followConfiguration {id : FederationId} {root : NodePath} {workspace : Option String}
    {event : ChangeEvent} (hreload : Ensures P (reloadSources id root workspace) fun _ => P) :
    Ensures P (followConfiguration id root workspace event) fun _ => P := by
  unfold followConfiguration
  refine .seq (.part (Q := fun _ => P) fun _ hs => hs) fun f => ?_
  split
  · refine .andThen hreload fun problems => ?_
    split <;> exact .answer fun _ hs => hs
  · exact .answer fun _ hs => hs

variable {notify : Notify}
  (hstore : ∀ {s} id store, P s → P (s.setDepot (s.depot.setStore id store)))
  (hpublish : ∀ bus event, Ensures P (publishWith notify bus event) fun _ => P)
include hstore hpublish

/-- What changes of stores and publications uphold, an announcement upholds, ... -/
theorem ensures_announceWith (id : StoreId) (change : Change) :
    Ensures P (announceWith notify id change) fun _ => P := by
  unfold announceWith
  refine .andThen (.exchange fun s hs => hstore id _ hs) fun announced => ?_
  match announced with
  | none => exact .answer fun _ hs => hs
  | some (bus, event) => exact .andThen (hpublish bus event) fun _ => .answer fun _ hs => hs

/-- ... and so does a change that is announced. -/
theorem ensures_changeWith {α : Type} (id : StoreId)
    (change : Store → Except StoreFault (α × Store × Option Change)) :
    Ensures P (changeWith notify id change) fun _ => P := by
  unfold changeWith
  refine .seq (.read (Q := fun s s' => s' = s ∧ P s) fun _ hs => ⟨rfl, hs⟩) fun s => ?_
  split
  · exact .answer fun _ hs => hs.1 ▸ hs.2
  rename_i answer store changed _
  refine .andThen (R := P) (.write fun _ hs => hstore id store hs.2) fun _ => ?_
  cases changed with
  | none => exact .answer fun _ hs => hs
  | some changed =>
      exact .andThen (ensures_announceWith hstore hpublish id changed) fun _ => .answer fun _ hs => hs

end announcements

/-- Whether an observer may change a store when it is told of an event, so that there is another one. -/
def Observer.echoes : Observer → Bool
  | scripted _ (.echo _ _ _) => true
  | _ => false

/-- Observers that work for no other services than those that are heard uphold a condition when they are
told of an event. -/
def Notify.Upholds (notify : Notify) (heard : ServiceId → Prop) (P : System → Prop) : Prop :=
  ∀ bus observer event, observer.IsHeard heard → Ensures P (notify bus observer event) fun _ => P

end ContentEngine

namespace ContentEngine.Tough

variable {P : List Stake → System → Prop} (lasting : Tough P) (held : List Stake)
include lasting

/-! ### Scripted observers -/

/-- A change of a bus that is an act which registers no service and is no failure. -/
theorem attendOn {α : Type} (id : BusId) {f : Bus → α × Bus} (act : Bus.Act)
    (henlists : act.enlists = none) (hproblem : act.problem? = none) (hf : ∀ b, (f b).2 = b.after act) :
    Ensures (P held) (withBus id f) fun _ => P held := by
  refine .exchange fun s hs => ?_
  change P held (s.setBus id (f (s.bus id)).2)
  rw [hf]
  exact lasting.attend id act henlists hproblem hs

theorem sharedStore (name : String) :
    Ensures (P held) (withDepot fun d => d.sharedStore name) fun _ => P held :=
  .exchange fun s hs => lasting.slim (.setDepot (.sharedStore s.depot name)) rfl hs

theorem react {put : StoreId → String → Properties → InSystem (Except StoreFault Unit)}
    (hput : ∀ id path properties, Ensures (P held) (put id path properties) fun _ => P held)
    (bus : BusId) (event : ChangeEvent) (reaction : Reaction) :
    Ensures (P held) (react put bus event reaction) fun _ => P held := by
  cases reaction with
  | accept => exact .answer fun _ hs => hs
  | refuse errors => cases errors <;> exact .answer fun _ hs => hs
  | panic payload => exact .answer fun _ hs => hs
  | register name =>
      exact .andThen (lasting.attendOn held bus (.register (.scripted name .accept)) rfl rfl fun _ => rfl)
        fun _ => .answer fun _ hs => hs
  | unregister id =>
      exact .andThen (lasting.attendOn held bus (.unregister id) rfl rfl fun _ => rfl) fun _ =>
        .answer fun _ hs => hs
  | echo source store path =>
      simp only [ContentEngine.react]
      split
      · refine .andThen (lasting.sharedStore held store) fun id => ?_
        refine .andThen (hput id path _) fun result => ?_
        cases result <;> exact .answer fun _ hs => hs
      · exact .answer fun _ hs => hs

theorem notifyScripted {put : StoreId → String → Properties → InSystem (Except StoreFault Unit)}
    (hput : ∀ id path properties, Ensures (P held) (put id path properties) fun _ => P held)
    (bus : BusId) (event : ChangeEvent) (name : String) (reaction : Reaction) :
    Ensures (P held) (notifyWith put bus (.scripted name reaction) event) fun _ => P held := by
  have hnoted : ∀ s : System, Slight s { s with journal := s.journal.push ⟨name, event⟩ } :=
    fun _ => .of_depot ⟨.of_eq rfl rfl rfl rfl rfl rfl rfl rfl rfl rfl, rfl, rfl⟩ rfl
  exact .andThen (.update fun s hs => lasting.slim (hnoted s) rfl hs) fun _ =>
    lasting.react held hput bus event reaction

end ContentEngine.Tough

namespace ContentEngine.Hardy

variable {P : List Stake → System → Prop} (lasting : Hardy P) (held : List Stake)
include lasting

/-! ### Observers -/

theorem followConfiguration (id : FederationId) (root : NodePath) (workspace : Option String)
    (event : ChangeEvent) :
    Ensures (P held) (followConfiguration id root workspace event) fun _ => P held :=
  ensures_followConfiguration (lasting.reloadSources held id root workspace)

/-- A change of a bus that is an act and registers no service. -/
theorem actOn {α : Type} (id : BusId) {f : Bus → α × Bus} (act : Bus.Act) (hact : act.enlists = none)
    (hf : ∀ b, (f b).2 = b.after act) : Ensures (P held) (withBus id f) fun _ => P held := by
  refine .exchange fun s hs => ?_
  change P held (s.setBus id (f (s.bus id)).2)
  rw [hf]
  exact lasting.act id act hact hs

/-- What outlasts operations on sources outlasts an event that an observer is told of which changes no
store and works for no service that minds. -/
theorem notifyQuietly {put : StoreId → String → Properties → InSystem (Except StoreFault Unit)}
    {observer : Observer} (hechoes : observer.echoes = false) (bus : BusId) {event : ChangeEvent}
    (hprocess : ∀ id, observer = .processing id →
      Ensures (P held) (processEvent id event) fun _ => P held) :
    Ensures (P held) (notifyWith put bus observer event) fun _ => P held := by
  cases observer with
  | scripted name reaction =>
      -- changes of stores may go through anything, since there are none
      have hnone : notifyWith put bus (.scripted name reaction) event =
          notifyWith (fun _ _ _ => pure (.ok ())) bus (.scripted name reaction) event := by
        cases reaction with
        | refuse errors => cases errors <;> rfl
        | echo source store path => exact absurd hechoes.symm Bool.false_ne_true
        | _ => rfl
      rw [hnone]
      exact lasting.notifyScripted held (fun _ _ _ => .answer fun _ hs => hs) bus event name reaction
  | configuration federation root workspace =>
      exact lasting.followConfiguration held federation root workspace event
  | processing id => exact hprocess id rfl

/-- What each observer upholds that is told of an event, its delivery upholds. -/
theorem deliver {notify : Notify} (bus : BusId) (event : ChangeEvent) {observers : List Observer}
    (hnotify : ∀ observer ∈ observers,
      Ensures (P held) (notify bus observer event) fun _ => P held) :
    Ensures (P held) (deliver notify bus event observers) fun _ => P held := by
  induction observers with
  | nil => exact .answer fun _ hs => hs
  | cons observer rest ih =>
      obtain ⟨hhere, hrest⟩ := List.forall_mem_cons.mp hnotify
      unfold ContentEngine.deliver
      refine .andThen hhere fun outcome => ?_
      split
      · exact .andThen (ih hrest) fun _ => .answer fun _ hs => hs
      · rename_i cause _
        refine .andThen (lasting.actOn held bus (.fail observer.name event cause) rfl fun _ => rfl)
          fun line => ?_
        refine .andThen (lasting.writeLog held [line]) fun _ => ?_
        exact .andThen (ih hrest) fun _ => .answer fun _ hs => hs

end ContentEngine.Hardy

namespace ContentEngine.Robust

variable {heard : ServiceId → Prop} {P : List Stake → System → Prop} (lasting : Robust heard P)
  (held : List Stake)
include lasting

theorem notifyWith {put : StoreId → String → Properties → InSystem (Except StoreFault Unit)}
    (hput : ∀ id path properties, Ensures (P held) (put id path properties) fun _ => P held) :
    Notify.Upholds (ContentEngine.notifyWith put) heard (P held) := by
  intro bus observer event hheard
  cases observer with
  | scripted name reaction => exact lasting.notifyScripted held hput bus event name reaction
  | configuration federation root workspace =>
      exact lasting.followConfiguration held federation root workspace event
  | processing service => exact lasting.process service event held hheard

/-! ### Announcements -/

theorem setStore (s : System) (id : StoreId) (store : Store) (hs : P held s) :
    P held (s.setDepot (s.depot.setStore id store)) :=
  lasting.beside ⟨.setDepot rfl rfl, rfl, rfl⟩ hs

theorem publishWith {notify : Notify} (hnotify : notify.Upholds heard (P held)) (bus : BusId)
    (event : ChangeEvent) : Ensures (P held) (publishWith notify bus event) fun _ => P held := by
  intro s hs
  refine lasting.deliver held bus event (fun observer hobserver => hnotify bus observer event ?_) s hs
  obtain ⟨entry, hentry, rfl⟩ := List.mem_map.mp hobserver
  exact lasting.listed hs bus entry hentry

theorem changeWith {α : Type} {notify : Notify} (hnotify : notify.Upholds heard (P held))
    (id : StoreId) (change : Store → Except StoreFault (α × Store × Option Change)) :
    Ensures (P held) (changeWith notify id change) fun _ => P held :=
  ensures_changeWith (fun id store hs => lasting.setStore held _ id store hs)
    (lasting.publishWith held hnotify) id change

/-- Changing a store upholds what outlasts operations, however deep announcements may be nested. -/
theorem changeStore {α : Type} (depth : Nat) (id : StoreId)
    (change : Store → Except StoreFault (α × Store × Option Change)) :
    Ensures (P held) (changeStore depth id change) fun _ => P held := by
  induction depth generalizing α id with
  | zero =>
      unfold ContentEngine.changeStore
      exact lasting.changeWith held (fun _ _ _ _ => .answer fun _ hs => hs) id change
  | succ depth ih =>
      unfold ContentEngine.changeStore
      exact lasting.changeWith held (lasting.notifyWith held fun id _ _ => ih id _) id change

theorem publish (bus : BusId) (event : ChangeEvent) :
    Ensures (P held) (publish bus event) fun _ => P held :=
  .seq (.part (Q := fun _ => P held) fun _ hs => hs) fun depth =>
    lasting.publishWith held (lasting.notifyWith held fun id _ _ => lasting.changeStore held depth id _)
      bus event

/-! ### Changes of stores -/

theorem announcedChange (id : StoreId) (change : Store → Except StoreFault (Store × Change)) :
    Ensures (P held) (announcedChange id change) fun _ => P held :=
  .seq (.part (Q := fun _ => P held) fun _ hs => hs) fun depth => lasting.changeStore held depth id _

theorem putNode (id : StoreId) (workspace : Option String) (path : String)
    (properties : Properties) :
    Ensures (P held) (putNode id workspace path properties) fun _ => P held :=
  lasting.announcedChange held id _

theorem setProperty (id : StoreId) (path name : String) (value : Value) :
    Ensures (P held) (setProperty id path name value) fun _ => P held :=
  lasting.announcedChange held id _

theorem moveNode (id : StoreId) (source target : String) :
    Ensures (P held) (moveNode id source target) fun _ => P held :=
  lasting.announcedChange held id _

theorem removeNode (id : StoreId) (path : String) :
    Ensures (P held) (removeNode id path) fun _ => P held :=
  .seq (.part (Q := fun _ => P held) fun _ hs => hs) fun depth => lasting.changeStore held depth id _

end ContentEngine.Robust

namespace ContentEngine.Lasting

variable {P : List Stake → System → Prop} (lasting : Lasting P) (held : List Stake)
include lasting

theorem changeBus {α : Type} (id : BusId) (f : Bus → α × Bus) :
    Ensures (P held) (withBus id f) fun _ => P held :=
  .exchange fun s hs => lasting.aside (.setBus s id _) hs

end ContentEngine.Lasting
