import ContentEngine.Proofs.Run.Following
import Mathlib.Data.List.Infix

/-!
# Sources follow every edit

A federation that follows a store has, after each edit of the store, the sources that the tree in the
store describes.

## Strategy

An edit that is refused changes nothing, and the event about any other one names a workspace and paths.
If it does not concern the container of sources, the container is as before (`Edit.container?_eq`); if
it does, the observer that follows the store reloads the sources.  All other observers leave the store
and the sources alone, even if they change other stores, whose events are announced in turn: this is an
induction on how deep announcements may be nested.
-/

namespace ContentEngine

namespace Following

variable {f : Following} {held : List Stake} {contents : Store} {agreed agreed' : Prop} {s s' : System}

/-! ## Records and buses -/

/-- A change of records and of what belongs to jobs. -/
theorem Tracks.of_eq (h : f.Tracks held contents agreed s) (htrading : Trading held s')
    (hdepot : s'.depot = s.depot) (hbuses : s'.buses = s.buses)
    (hfederations : s'.federations = s.federations) (hengines : s'.engines = s.engines) :
    f.Tracks held contents agreed s' := by
  have hbus : ∀ bus, s'.bus bus = s.bus bus := fun bus => by rw [System.bus, hbuses, System.bus]
  refine h.same htrading (.of_eq (.of_eq ?_ ?_ fun id d => ?_) hfederations hengines ?_ ?_ ?_) ?_
  · rw [hdepot]
  · rw [hdepot]
  · rw [System.federation, hfederations, System.federation]
  · rw [hdepot]
  · exact fun hfollows => (hbus f.bus).symm ▸ hfollows
  · exact fun bus entry hentry => .inl (hbus bus ▸ hentry)
  · rw [System.federation, hfederations, System.federation]

/-- A change of a bus that leaves the observer registered which follows the store. -/
theorem tracks_changeBus {α : Type} (id : BusId) {g : Bus → α × Bus}
    (hfollows : id = f.bus → ∀ b : Bus,
      (f.observer, .configuration f.federation f.root f.workspace) ∈ b.observers →
      (f.observer, .configuration f.federation f.root f.workspace) ∈ (g b).2.observers)
    (hspared : ∀ b : Bus, ∀ entry ∈ (g b).2.observers, entry ∈ b.observers ∨ f.Spares id entry.2) :
    Ensures (f.Tracks held contents agreed) (withBus id g) fun _ => f.Tracks held contents agreed := by
  intro s hs
  have hbus : ∀ bus, System.bus ((withBus id g).run s).2 bus =
      if bus = id ∧ id < s.buses.size then (g (s.bus id)).2 else s.bus bus := fun bus =>
    System.getD_set ..
  refine hs.same (lasting_trading.changeBus held id g s hs.trading)
    (.of_eq (.of_eq rfl rfl fun _ _ => rfl) rfl rfl rfl (fun h => ?_) fun bus entry hentry => ?_) rfl
  · rw [hbus]
    split
    · rename_i heq
      exact hfollows heq.1.symm _ (heq.1 ▸ h)
    · exact h
  · rw [hbus] at hentry
    split at hentry
    · rename_i heq
      rw [heq.1]
      exact hspared _ entry hentry
    · exact .inl hentry

/-! ## Observers -/

theorem tracks_writeLog (lines : List LogLine) :
    Ensures (f.Tracks held contents agreed) (writeLog lines)
      fun _ => f.Tracks held contents agreed :=
  fun s hs => hs.of_eq (lasting_trading.writeLog held lines s hs.trading) rfl rfl rfl rfl

theorem tracks_submitAll (id : DispatcherId) (works : List (WorkItem Processor)) :
    Ensures (f.Tracks held contents agreed) (submitAll id works)
      fun _ => f.Tracks held contents agreed := by
  have hsubmit : ∀ work, Ensures (f.Tracks held contents agreed) (submitWork id work)
      fun _ => f.Tracks held contents agreed := fun work s hs => by
    have hlater := lasting_trading.submit id work held s hs.trading
    by_cases haccepts : ((s.dispatcher id).accepting && (s.dispatcher id).lifecycle.isRunning) = true
    · rw [submitWork_accepted work haccepts] at hlater ⊢
      exact hs.of_eq hlater rfl rfl rfl rfl
    · rw [submitWork_rejected work haccepts] at hlater ⊢
      exact hs.of_eq hlater rfl rfl rfl rfl
  induction works with
  | nil => exact .answer fun _ hs => hs
  | cons work rest ih =>
      unfold submitAll
      refine .andThen (hsubmit work) fun outcome => .andThen ih fun faults => ?_
      cases outcome.2 <;> exact .answer fun _ hs => hs

theorem tracks_processEvent (id : ServiceId) (event : ChangeEvent) :
    Ensures (f.Tracks held contents agreed) (processEvent id event)
      fun _ => f.Tracks held contents agreed := by
  unfold processEvent
  split
  · exact .answer fun _ hs => hs
  refine .seq (.part (Q := fun _ => f.Tracks held contents agreed) fun _ hs => hs) fun v => ?_
  refine .andThen (tracks_writeLog _) fun _ => .andThen (tracks_submitAll _ _) fun faults => ?_
  split <;> exact .answer fun _ hs => hs

theorem tracks_followConfiguration {id : FederationId} {root : NodePath} {workspace : Option String}
    (hspares : f.Spares f.bus (.configuration id root workspace)) (event : ChangeEvent) :
    Ensures (f.Tracks held contents agreed) (followConfiguration id root workspace event)
      fun _ => f.Tracks held contents agreed := by
  have hreload : Ensures (f.Tracks held contents agreed) (reloadSources id root workspace)
      fun _ => f.Tracks held contents agreed := fun s hs => by
    by_cases hid : id = f.federation
    · obtain ⟨rfl, rfl⟩ := hspares hid
      rw [hid]
      exact hs.reload_own.weaken fun _ => trivial
    · exact hs.reload_other hid root workspace
  unfold followConfiguration
  refine .seq (.part (Q := fun _ => f.Tracks held contents agreed) fun _ hs => hs) fun _ => ?_
  split
  · refine .andThen hreload fun problems => ?_
    split <;> exact .answer fun _ hs => hs
  · exact .answer fun _ hs => hs

/-- An event concerns the sources in the tree that the federation follows. -/
def Concerned (f : Following) (event : ChangeEvent) : Prop :=
  event.source = f.source ∧
    (∀ pinned changed, f.workspace = some pinned → event.workspace = some changed →
      pinned = changed) ∧
    event.touches (Configuration.Container.sources.path f.root) = true

/-- The observer that follows the store sees to it that the sources agree with the tree. -/
theorem tracks_followed {event : ChangeEvent} (hevent : f.Concerned event) :
    Ensures (f.Tracks held contents agreed)
      (followConfiguration f.federation f.root f.workspace event)
      fun _ => f.Tracks held contents True := by
  obtain ⟨hsource, hworkspace, htouches⟩ := hevent
  unfold followConfiguration
  refine .seq (.part (Q := fun g s => f.Tracks held contents agreed s ∧
    g.configurationSource = f.source) fun s hs => ⟨hs, hs.holds.source⟩) fun g => ?_
  refine .given fun hname => ?_
  have hconcerns : concernsSources g f.root f.workspace event = true := by
    unfold concernsSources
    rw [hname, hsource, htouches]
    cases hpinned : f.workspace with
    | none => simp
    | some pinned =>
        cases hchanged : event.workspace with
        | none => simp
        | some changed => simp [hworkspace pinned changed hpinned hchanged]
  rw [if_pos hconcerns]
  refine .andThen (fun s hs => hs.reload_own) fun problems => ?_
  split <;> exact .answer fun _ hs => hs

section notify

variable {put : StoreId → String → Properties → InSystem (Except StoreFault Unit)}
  (hput : ∀ id, id ≠ f.store → ∀ path properties, Ensures (f.Tracks held contents agreed)
    (put id path properties) fun _ => f.Tracks held contents agreed)
include hput

theorem tracks_react {bus : BusId} {name : String} {reaction : Reaction}
    (hspares : f.Spares bus (.scripted name reaction)) (event : ChangeEvent) :
    Ensures (f.Tracks held contents agreed) (react put bus event reaction)
      fun _ => f.Tracks held contents agreed := by
  cases reaction with
  | accept => exact .answer fun _ hs => hs
  | refuse errors => cases errors <;> exact .answer fun _ hs => hs
  | panic payload => exact .answer fun _ hs => hs
  | register name =>
      refine .andThen (tracks_changeBus bus (fun _ b h => List.mem_append_left _ h)
        fun b entry hentry => ?_) fun _ => .answer fun _ hs => hs
      rcases List.mem_append.mp hentry with hentry | hentry
      · exact .inl hentry
      · rw [List.mem_singleton.mp hentry]
        exact .inr trivial
  | unregister observer =>
      refine .andThen (tracks_changeBus bus (fun hbus b h => ?_)
        fun b entry hentry => .inl (List.mem_filter.mp hentry).1) fun _ => .answer fun _ hs => hs
      exact List.mem_filter.mpr ⟨h, by simpa using (hspares hbus).symm⟩
  | echo source store path =>
      simp only [react]
      split
      · refine .seq (R := fun id s => f.Tracks held contents agreed s ∧ id ≠ f.store) ?_ fun id =>
          .given fun hid => ?_
        · refine fun s hs => ?_
          have hname : Table.get? s.depot.names store ≠ some f.store := fun hname =>
            hspares (hs.holds.names store hname)
          obtain ⟨hstocked, hother⟩ := Stocked.sharedStore hs.holds.made hname
          have hpools : (s.depot.sharedStore store).2.pools = s.depot.pools := by
            unfold Depot.sharedStore
            split <;> rfl
          refine ⟨hs.same (lasting_trading.sharedStore held store s hs.trading) ?_ rfl, hother⟩
          exact .of_eq hstocked rfl rfl hpools (fun h => h) fun _ _ h => .inl h
        · refine .andThen (hput id hid path _) fun result => ?_
          cases result <;> exact .answer fun _ hs => hs
      · exact .answer fun _ hs => hs

theorem tracks_notifyWith {bus : BusId} {observer : Observer} (hspares : f.Spares bus observer)
    (event : ChangeEvent) :
    Ensures (f.Tracks held contents agreed) (notifyWith put bus observer event)
      fun _ => f.Tracks held contents agreed := by
  cases observer with
  | scripted name reaction =>
      refine .andThen (.update fun s hs => ?_) fun _ => tracks_react hput hspares event
      refine hs.of_eq (lasting_trading.aside ?_ hs.trading) rfl rfl rfl rfl
      exact .of_eq rfl rfl rfl rfl rfl rfl rfl rfl rfl rfl
  | configuration federation root workspace => exact tracks_followConfiguration hspares event
  | processing service => exact tracks_processEvent service event

end notify

/-! ## Announcing -/

section announce

variable {notify : Notify}

private theorem tracks_deliver_cons {P : System → Prop} {bus : BusId} {event : ChangeEvent}
    {observer : Observer} {rest : List Observer}
    (hhead : Ensures P (notify bus observer event) fun _ => f.Tracks held contents agreed)
    (hrest : Ensures (f.Tracks held contents agreed) (deliver notify bus event rest)
      fun _ => f.Tracks held contents agreed') :
    Ensures P (deliver notify bus event (observer :: rest))
      fun _ => f.Tracks held contents agreed' := by
  unfold deliver
  refine .andThen hhead fun outcome => ?_
  split
  · exact .andThen hrest fun _ => .answer fun _ hs => hs
  · refine .andThen (tracks_changeBus bus (fun _ _ h => h) fun _ _ h => .inl h) fun line => ?_
    refine .andThen (tracks_writeLog [line]) fun _ => ?_
    exact .andThen hrest fun _ => .answer fun _ hs => hs

variable {bus : BusId} {event : ChangeEvent}
  (hnotify : ∀ (agreed : Prop) observer, f.Spares bus observer →
    Ensures (f.Tracks held contents agreed) (notify bus observer event)
      fun _ => f.Tracks held contents agreed)
include hnotify

theorem tracks_deliver {observers : List Observer}
    (hspares : ∀ observer ∈ observers, f.Spares bus observer) :
    Ensures (f.Tracks held contents agreed) (deliver notify bus event observers)
      fun _ => f.Tracks held contents agreed := by
  induction observers with
  | nil => exact .answer fun _ hs => hs
  | cons observer rest ih =>
      obtain ⟨hhead, hrest⟩ := List.forall_mem_cons.mp hspares
      exact tracks_deliver_cons (hnotify agreed observer hhead) (ih hrest)

/-- Once an observer was told that makes the sources agree, they agree until all were told. -/
theorem tracks_deliver_followed {observers : List Observer} {follower : Observer}
    (hspares : ∀ observer ∈ observers, f.Spares bus observer)
    (hfollower : Ensures (f.Tracks held contents agreed) (notify bus follower event)
      fun _ => f.Tracks held contents True)
    (hmem : follower ∈ observers) :
    Ensures (f.Tracks held contents agreed) (deliver notify bus event observers)
      fun _ => f.Tracks held contents True := by
  induction observers with
  | nil => cases hmem
  | cons observer rest ih =>
      obtain ⟨hhead, hrest⟩ := List.forall_mem_cons.mp hspares
      rcases List.mem_cons.mp hmem with rfl | hmem
      · exact tracks_deliver_cons hfollower (tracks_deliver hnotify hrest)
      · exact tracks_deliver_cons (hnotify agreed observer hhead) (ih hrest hmem)

theorem tracks_publishWith :
    Ensures (f.Tracks held contents agreed) (publishWith notify bus event)
      fun _ => f.Tracks held contents agreed := by
  refine .seq (.part (Q := fun b s => f.Tracks held contents agreed s ∧
    ∀ observer ∈ b.observers.map Prod.snd, f.Spares bus observer) fun s hs => ⟨hs, ?_⟩) fun b =>
      .given fun hspares => tracks_deliver hnotify hspares
  intro observer hobserver
  obtain ⟨entry, hentry, rfl⟩ := List.mem_map.mp hobserver
  exact hs.holds.spared bus entry hentry

end announce

/-- An event that makes the observer that follows the store act makes the sources agree. -/
theorem tracks_publish_followed {notify : Notify} {event : ChangeEvent}
    (hnotify : ∀ (agreed : Prop) observer, f.Spares f.bus observer →
      Ensures (f.Tracks held contents agreed) (notify f.bus observer event)
        fun _ => f.Tracks held contents agreed)
    (hfollows : Ensures (f.Tracks held contents agreed)
      (notify f.bus (.configuration f.federation f.root f.workspace) event)
      fun _ => f.Tracks held contents True) :
    Ensures (f.Tracks held contents agreed) (publishWith notify f.bus event)
      fun _ => f.Tracks held contents True := by
  refine .seq (.part (Q := fun b s => f.Tracks held contents agreed s ∧
    ((∀ observer ∈ b.observers.map Prod.snd, f.Spares f.bus observer) ∧
      .configuration f.federation f.root f.workspace ∈ b.observers.map Prod.snd))
    fun s hs => ⟨hs, fun observer hobserver => ?_, ?_⟩) fun b => .given fun hobservers => ?_
  · obtain ⟨entry, hentry, rfl⟩ := List.mem_map.mp hobserver
    exact hs.holds.spared f.bus entry hentry
  · exact List.mem_map.mpr ⟨_, hs.holds.follows, rfl⟩
  · exact tracks_deliver_followed hnotify hobservers.1 hfollows hobservers.2

private theorem tracks_setStore {id : StoreId} (hid : id ≠ f.store) (store : Store)
    (hs : f.Tracks held contents agreed s) :
    f.Tracks held contents agreed (s.setDepot (s.depot.setStore id store)) :=
  hs.same (lasting_trading.setStore held s id store hs.trading)
    (.of_eq (.setStore hid store) rfl rfl rfl (fun h => h) fun _ _ h => .inl h) rfl

private theorem tracks_changeWith {α : Type} {notify : Notify}
    (hnotify : ∀ (agreed : Prop) bus observer event, f.Spares bus observer →
      Ensures (f.Tracks held contents agreed) (notify bus observer event)
        fun _ => f.Tracks held contents agreed)
    {id : StoreId} (hid : id ≠ f.store)
    (change : Store → Except StoreFault (α × Store × Option Change)) :
    Ensures (f.Tracks held contents agreed) (changeWith notify id change)
      fun _ => f.Tracks held contents agreed := by
  unfold changeWith
  refine .seq (.read (Q := fun s s' => f.Tracks held contents agreed s ∧ s' = s)
    fun _ hs => ⟨hs, rfl⟩) fun s => ?_
  split
  · rintro _ ⟨hs, rfl⟩
    exact hs
  rename_i answer store changed _
  refine .andThen (R := f.Tracks held contents agreed)
    (.write fun _ hs => tracks_setStore hid store hs.1) fun _ => ?_
  cases changed with
  | none => exact .answer fun _ hs => hs
  | some changed =>
      refine .andThen (.andThen (.exchange fun s hs => tracks_setStore hid _ hs) fun announced => ?_)
        fun _ => .answer fun _ hs => hs
      match announced with
      | none => exact .answer fun _ hs => hs
      | some (bus, event) =>
          exact .andThen (tracks_publishWith fun agreed observer => hnotify agreed bus observer event)
            fun _ => .answer fun _ hs => hs

/-- Changes of other stores, and what is announced of them, leave the sources alone. -/
theorem tracks_changeStore {α : Type} (depth : Nat) {id : StoreId} (hid : id ≠ f.store)
    (change : Store → Except StoreFault (α × Store × Option Change)) :
    Ensures (f.Tracks held contents agreed) (changeStore depth id change)
      fun _ => f.Tracks held contents agreed := by
  induction depth generalizing α id agreed with
  | zero =>
      unfold changeStore
      exact tracks_changeWith (fun _ _ _ _ _ => .answer fun _ hs => hs) hid change
  | succ depth ih =>
      unfold changeStore
      refine tracks_changeWith (fun agreed bus observer event hspares => ?_) hid change
      exact tracks_notifyWith (fun id hid _ _ => ih hid _) hspares event

/-! ## Editing -/

/-- What comes of a change of the store itself that leaves its workspaces in order. -/
theorem Tracks.setContents (h : f.Tracks held contents agreed s) (contents' : Store)
    (hkept : contents'.binding = contents.binding ∧ contents'.unavailable = contents.unavailable)
    (hordered : contents'.Ordered) (hreadable : (contents'.read? f.workspace).isSome)
    (haccepted : f.Accepts (contents'.container? f.root f.workspace))
    (hagreed : agreed' → agreed ∧
      contents'.container? f.root f.workspace = contents.container? f.root f.workspace) :
    f.Tracks held contents' agreed' (s.setDepot (s.depot.setStore f.store contents')) := by
  have hholds := h.holds
  have hstore : (s.depot.setStore f.store contents').store f.store = contents' :=
    (System.getD_set ..).trans (if_pos ⟨rfl, hholds.made⟩)
  refine {
    trading := lasting_trading.setStore held s f.store contents' h.trading
    holds := { hholds with
      made := ?_
      bound := ?_
      available := ?_
      ordered := ?_
      readable := ?_ }
    bare := h.bare
    stored := hstore
    accepted := haccepted
    agrees := fun hagreed' => ?_ }
  · exact Nat.lt_of_lt_of_eq hholds.made Array.size_setIfInBounds.symm
  · obtain ⟨engine, hbound⟩ := hholds.bound
    refine ⟨engine, ?_⟩
    change ((s.depot.setStore f.store contents').store f.store).binding = _
    rw [hstore, hkept.1, ← h.stored]
    exact hbound
  · change ((s.depot.setStore f.store contents').store f.store).unavailable = false
    rw [hstore, hkept.2, ← h.stored]
    exact hholds.available
  · change ((s.depot.setStore f.store contents').store f.store).Ordered
    rwa [hstore]
  · change (((s.depot.setStore f.store contents').store f.store).read? f.workspace).isSome
    rwa [hstore]
  · obtain ⟨hbefore, hsame⟩ := hagreed hagreed'
    rw [hsame]
    exact h.agrees hbefore

/-- The event about a change of the store concerns the sources, or the change misses their container. -/
theorem concerned_or_misses (f : Following) (change : Change) (event : ChangeEvent)
    (hsource : event.source = f.source) (hworkspace : event.workspace = some change.workspace)
    (hpaths : event.paths = change.paths) :
    f.Concerned event ∨
      change.Misses f.workspace (Configuration.Container.sources.path f.root) := by
  cases htouches : event.touches (Configuration.Container.sources.path f.root) with
  | false =>
      refine .inr (.inr fun p hp => ?_)
      exact NodePath.apart_of_not_touches htouches (hpaths ▸ hp)
  | true =>
      by_cases hother : ∃ pinned, f.workspace = some pinned ∧ pinned ≠ change.workspace
      · exact .inr (.inl hother)
      · refine .inl ⟨hsource, fun pinned changed hpinned hchanged => ?_, htouches⟩
        obtain rfl := Option.some.inj (hworkspace.symm.trans hchanged)
        exact Decidable.byContradiction fun hne => hother ⟨pinned, hpinned, hne⟩

/-- A change is made, and then it is announced if there is one. -/
theorem changeWith_run {α : Type} (notify : Notify) (id : StoreId)
    (change : Store → Except StoreFault (α × Store × Option Change)) (s : System) :
    ((changeWith notify id change).run s).2 =
      match change (s.depot.store id) with
      | .error _ => s
      | .ok (_, store, none) => s.setDepot (s.depot.setStore id store)
      | .ok (_, store, some changed) =>
        ((announceWith notify id changed).run (s.setDepot (s.depot.setStore id store))).2 := by
  unfold changeWith
  rw [get_bind]
  cases change (s.depot.store id) with
  | error fault => rfl
  | ok result =>
      obtain ⟨answer, store, changed⟩ := result
      cases changed <;> rfl

/-- A change of a store that serves a source is counted, and then its event is published. -/
theorem announceWith_run {notify : Notify} {id : StoreId} {change : Change} {store : Store}
    {bus : BusId} {event : ChangeEvent}
    (h : (s.depot.store id).announce s.now change = (store, some (bus, event))) :
    (announceWith notify id change).run s =
      (publishWith notify bus event >>= fun _ => pure ()).run
        (s.setDepot (s.depot.setStore id store)) := by
  have hcount : (modifyGet fun s => ((((s.depot.store id).announce s.now change).2,
      s.setDepot (s.depot.setStore id ((s.depot.store id).announce s.now change).1))) :
        InSystem _).run s = (some (bus, event), s.setDepot (s.depot.setStore id store)) := by
    change ((((s.depot.store id).announce s.now change).2,
      s.setDepot (s.depot.setStore id ((s.depot.store id).announce s.now change).1))) = _
    rw [h]
  unfold announceWith
  rw [run_bind, show StateT.run (modifyGet _ : InSystem _) s = _ from hcount]

section edit

variable {notify : Notify}
  (hnotify : ∀ (contents : Store) (agreed : Prop) bus observer event, f.Spares bus observer →
    Ensures (f.Tracks held contents agreed) (notify bus observer event)
      fun _ => f.Tracks held contents agreed)
  (hfollows : ∀ (contents : Store) (agreed : Prop) event, f.Concerned event →
    Ensures (f.Tracks held contents agreed)
      (notify f.bus (.configuration f.federation f.root f.workspace) event)
      fun _ => f.Tracks held contents True)
include hnotify hfollows

/-- Once a change of the store was announced the sources agree with the tree, if they do in case that the
change misses their container. -/
theorem tracks_announceWith {change : Change}
    (hagreed : change.Misses f.workspace (Configuration.Container.sources.path f.root) → agreed) :
    Ensures (f.Tracks held contents agreed) (announceWith notify f.store change)
      fun _ => f.Tracks held { contents with sequence := contents.sequence + 1 } True := by
  intro s hs
  obtain ⟨engine, hbound⟩ := hs.holds.bound
  have hbinding : contents.binding = some ⟨engine, f.source, f.bus⟩ := hs.stored ▸ hbound
  have hcounted := hs.setContents { contents with sequence := contents.sequence + 1 }
    ⟨rfl, rfl⟩ (hs.stored ▸ hs.holds.ordered) (hs.stored ▸ hs.holds.readable) hs.accepted
    fun hbefore => ⟨hbefore, rfl⟩
  let event : ChangeEvent := ⟨f.source, some change.workspace, change.paths, change.kind,
    contents.sequence + 1, s.now⟩
  have hannounced : (s.depot.store f.store).announce s.now change =
      ({ contents with sequence := contents.sequence + 1 }, some (f.bus, event)) := by
    unfold Store.announce
    rw [hs.stored, hbinding]
  rw [announceWith_run hannounced]
  suffices hpublished : Ensures
      (f.Tracks held { contents with sequence := contents.sequence + 1 } agreed)
      (publishWith notify f.bus event)
      fun _ => f.Tracks held { contents with sequence := contents.sequence + 1 } True from
    hpublished _ hcounted
  -- either the observer that follows the store acts, or it need not
  rcases f.concerned_or_misses change event rfl rfl rfl with hconcerned | hmisses
  · exact tracks_publish_followed (fun agreed observer => hnotify _ agreed f.bus observer event)
      (hfollows _ agreed event hconcerned)
  · refine (tracks_publishWith fun agreed observer => hnotify _ agreed f.bus observer event).weaken
      (fun _ hs => hs) fun _ _ hs => hs.weaken fun _ => hagreed hmisses

/-- After an edit the sources agree with the tree that it left. -/
theorem tracks_changeOwn {α : Type} (answer : Option Change → α) {e : StoreEdit}
    (hs : f.Tracks held contents True s)
    (haccepted : f.Accepts ((e.after contents).container? f.root f.workspace)) :
    ∃ n, f.Tracks held { e.after contents with sequence := n } True
      ((changeWith notify f.store fun store =>
        (e.change store).map fun (store', changed) => (answer changed, store', changed)).run s).2 := by
  rw [changeWith_run, hs.stored]
  unfold StoreEdit.after at haccepted ⊢
  cases hchange : e.change contents with
  | error fault => exact ⟨contents.sequence, hs⟩
  | ok result =>
      obtain ⟨contents', changed⟩ := result
      rw [hchange] at haccepted
      have hedit := StoreEdit.edit hchange
      obtain ⟨-, hbinding, havailable⟩ := hedit.kept
      have hordered : contents.Ordered := hs.stored ▸ hs.holds.ordered
      have hsame : (∀ c, changed = some c →
          c.Misses f.workspace (Configuration.Container.sources.path f.root)) →
          True ∧ contents'.container? f.root f.workspace = contents.container? f.root f.workspace :=
        fun hmisses => ⟨trivial, hedit.container?_eq hordered f.root hmisses⟩
      have hchanged := hs.setContents contents' ⟨hbinding, havailable⟩ (hedit.ordered hordered)
        (hedit.read?_isSome (hs.stored ▸ hs.holds.readable)) haccepted hsame
      cases changed with
      | none => exact ⟨contents'.sequence, hchanged.weaken fun _ _ => nofun⟩
      | some c =>
          refine ⟨contents'.sequence + 1,
            tracks_announceWith hnotify hfollows (fun hmisses c' hc' => ?_) _ hchanged⟩
          obtain rfl := Option.some.inj hc'
          exact hmisses

end edit

end Following

/-! ## Edits one after the other -/

/-- A change that is always announced depends on the system only in how deep events can be nested. -/
theorem announcedChange_run (id : StoreId) (change : Store → Except StoreFault (Store × Change))
    (s : System) :
    (announcedChange id change).run s = (changeStore s.eventDepth id fun st =>
      ((change st).map fun (st', c) => (st', some c)).map fun changed => ((), changed)).run s := by
  have hmap : ∀ x : Except StoreFault (Store × Change),
      (x.map fun (st', c) => ((), st', some c)) =
        (x.map fun (st', c) => (st', some c)).map fun changed => ((), changed) :=
    fun x => by cases x <;> rfl
  unfold announcedChange
  rw [fromSystem_bind]
  simp only [hmap]

namespace StoreEdit

/-- The system after an edit of one of its stores. -/
def run (store : StoreId) (s : System) : StoreEdit → System
  | put workspace path properties => ((putNode store workspace path properties).run s).2
  | setProperty path name value => ((ContentEngine.setProperty store path name value).run s).2
  | remove path => ((removeNode store path).run s).2
  | move source target => ((moveNode store source target).run s).2

/-- An edit is a change of the store, which answers what comes of the change. -/
theorem run_eq (store : StoreId) (s : System) (e : StoreEdit) :
    ∃ (α : Type) (answer : Option Change → α), e.run store s =
      ((changeStore s.eventDepth store fun st =>
        (e.change st).map fun changed => (answer changed.2, changed)).run s).2 := by
  cases e with
  | put workspace path properties =>
      exact ⟨Unit, fun _ => (), congrArg Prod.snd (announcedChange_run store _ s)⟩
  | setProperty path name value =>
      exact ⟨Unit, fun _ => (), congrArg Prod.snd (announcedChange_run store _ s)⟩
  | remove path => exact ⟨Bool, Option.isSome, congrArg Prod.snd (fromSystem_bind _ _ s)⟩
  | move source target =>
      exact ⟨Unit, fun _ => (), congrArg Prod.snd (announcedChange_run store _ s)⟩

end StoreEdit

namespace Following

variable {f : Following} {held : List Stake} {contents : Store} {s : System}

theorem Tracks.edit (h : f.Tracks held contents True s) {e : StoreEdit}
    (haccepted : f.Accepts ((e.after contents).container? f.root f.workspace)) :
    ∃ n, f.Tracks held { e.after contents with sequence := n } True (e.run f.store s) := by
  obtain ⟨α, answer, hrun⟩ := e.run_eq f.store s
  rw [hrun]
  obtain ⟨depth, hdepth⟩ : ∃ depth, s.eventDepth = depth + 1 := ⟨_, rfl⟩
  rw [hdepth]
  unfold changeStore
  refine tracks_changeOwn (fun contents agreed bus observer event hspares => ?_)
    (fun contents agreed event hconcerned => tracks_followed hconcerned) answer h haccepted
  exact tracks_notifyWith (fun id hid _ _ => tracks_changeStore depth hid _) hspares event

/-- The same after several edits; how many of them were announced does not matter to the edits. -/
theorem Tracks.edits {n : Nat} (h : f.Tracks held { contents with sequence := n } True s)
    {edits : List StoreEdit}
    (haccepted : ∀ taken, taken <+: edits →
      f.Accepts ((taken.foldl StoreEdit.after contents).container? f.root f.workspace)) :
    ∃ n, f.Tracks held { edits.foldl StoreEdit.after contents with sequence := n } True
      (edits.foldl (StoreEdit.run f.store) s) := by
  induction edits generalizing s contents n with
  | nil => exact ⟨n, h⟩
  | cons e rest ih =>
      have hafter := e.after_counted contents n
      have hfirst : f.Accepts ((e.after contents).container? f.root f.workspace) :=
        haccepted [e] (List.prefix_append [e] rest)
      obtain ⟨m, hedited⟩ := h.edit (e := e) (by rw [hafter]; exact hfirst)
      rw [hafter] at hedited
      exact ih hedited fun taken htaken => haccepted (e :: taken) (List.prefix_cons_inj e |>.mpr htaken)

end Following

/-- A federation that follows a store, and has the sources that the tree in it describes, has them after
each of several edits of the store, if the descriptors that come up can be registered. -/
theorem sources_followed {f : Following} {held : List Stake} {s : System} (h : Trading held s)
    (hf : f.Holds s) (hagrees : f.Agrees (f.container s) s) (edits : List StoreEdit)
    (haccepted : ∀ taken, taken <+: edits → f.Accepts
      ((taken.foldl StoreEdit.after (s.depot.store f.store)).container? f.root f.workspace)) :
    ∀ taken, taken <+: edits →
      let s' := taken.foldl (StoreEdit.run f.store) s
      f.Agrees (f.container s') s' ∧ f.container s' =
        (taken.foldl StoreEdit.after (s.depot.store f.store)).container? f.root f.workspace := by
  intro taken htaken
  have hbare : s.descriptor? f.federation f.source = none := hagrees.absent (if_pos rfl)
  have htracks : f.Tracks held
      { s.depot.store f.store with sequence := (s.depot.store f.store).sequence } True s :=
    ⟨h, hf, hbare, rfl, haccepted [] List.nil_prefix, fun _ => hagrees⟩
  obtain ⟨n, hlater⟩ := htracks.edits fun before hbefore => haccepted before (hbefore.trans htaken)
  have hcontainer : f.container (taken.foldl (StoreEdit.run f.store) s) =
      (taken.foldl StoreEdit.after (s.depot.store f.store)).container? f.root f.workspace := by
    rw [Following.container, hlater.stored]
    rfl
  refine ⟨?_, hcontainer⟩
  rw [hcontainer]
  exact hlater.agrees trivial

/-- A federation that follows a store without content. -/
def System.followed : System :=
  ((observe 0 (.configuration 0 .root none)).run
    ((registerConnector 0 "config" ⟨.own .new, .plain⟩).run
      ((addFederation (.new "engine" "config" 0 .connectors 2 1)).run
        ((addBus (.new "engine" 1)).run .empty).2).2).2).2

/-- What it follows. -/
def Following.plain : Following where
  federation := 0
  source := "config"
  root := .root
  workspace := none
  store := 0
  bus := 0
  observer := 1
  shared := fun _ => False
  accepted := fun d => d.connectorType = "memory"

theorem Trading.followed : Trading [] .followed := by
  have hbus : Aside .empty ((addBus (.new "engine" 1)).run .empty).2 :=
    .of_eq rfl rfl rfl rfl rfl rfl rfl rfl rfl rfl
  refine lasting_trading.changeBus [] 0 _ _ (.registerConnector 0 "config" ⟨.own .new, .plain⟩ ?_)
  exact .addFederation "engine" "config" 0 .connectors 2 1 (lasting_trading.aside hbus .start)

/-- With the connectors known without registration, sources of one type are served, each from a store of
its own. -/
private theorem planFor_connectors {g : Federation} (h : g.connectors = .connectors)
    (d : SourceDescriptor) : (d.connectorType = "memory" → g.planFor d = .ok (.ofDescriptor d)) ∧
      ∀ plan, g.planFor d = .ok plan → plan = .ofDescriptor d := by
  have hfactory : Table.get? Registry.connectors.factories d.connectorType =
      if d.connectorType = "memory" then some fun d => .ok (.ofDescriptor d) else none :=
    Table.get?_insert ..
  unfold Federation.planFor Registry.create
  rw [h, show Table.get? Registry.connectors.factories (Registry.connectors.typeOf d) = _ from hfactory]
  by_cases htype : d.connectorType = "memory"
  · rw [if_pos htype]
    exact ⟨fun _ => rfl, fun plan hplan => (Except.ok.inj hplan).symm⟩
  · rw [if_neg htype]
    exact ⟨fun hmemory => absurd hmemory htype, nofun⟩

theorem Following.holds_plain : Following.plain.Holds .followed := by
  have hconnectors : ∀ id, (System.followed.federation id).connectors = .connectors := by
    intro id
    cases id <;> rfl
  refine {
    isOpen := rfl
    unthreatened := fun e _ => ?_
    source := rfl
    served := ⟨0, rfl, rfl⟩
    made := by decide
    names := fun name hname => nomatch hname
    plans := fun id d plan name hplan hshared => ?_
    accepts := fun d hd => ?_
    bound := ⟨"engine", rfl⟩
    available := rfl
    ordered := fun name nodes hnodes => ?_
    readable := rfl
    follows := .head _
    spared := fun bus entry hentry => ?_ }
  · rw [System.followed.engine_out (Nat.zero_le e)]
    rfl
  · rw [(planFor_connectors (hconnectors id) d).2 plan hplan] at hshared
    cases hshared
  · unfold Federation.registration
    rw [(planFor_connectors (hconnectors Following.plain.federation) d).1 hd]
    rfl
  · have hworkspace : nodes = Workspace.fresh := by
      change Table.get? [(Store.usualWorkspace, Workspace.fresh)] name = some nodes at hnodes
      unfold Table.get? at hnodes
      split at hnodes
      · exact (Option.some.inj hnodes).symm
      · cases hnodes
    rw [hworkspace]
    exact List.pairwise_singleton ..
  · cases bus with
    | zero =>
        rw [List.mem_singleton.mp (show entry ∈ [_] from hentry)]
        exact fun _ => ⟨rfl, rfl⟩
    | succ bus => cases hentry

/-- Describes a source in the tree. -/
def StoreEdit.describe : StoreEdit :=
  .put none "/cairn:sources/files" [(Configuration.connectorType, .text "memory")]

/-- Moves all sources out of the tree. -/
def StoreEdit.discard : StoreEdit :=
  .move "/cairn:sources" "/old"

theorem sources_followed_files :
    (∃ d, (StoreEdit.describe.run 0 .followed).descriptor? 0 "files" = some d ∧
      d.same ⟨"files", "memory", [], []⟩ = true) ∧
    (StoreEdit.discard.run 0 (StoreEdit.describe.run 0 .followed)).descriptor? 0 "files" = none := by
  have hbefore : Configuration.descriptors ((System.followed.depot.store 0).container? .root none) =
      [] := by rfl
  have hdescribed : Configuration.descriptors ((StoreEdit.describe.after
      (System.followed.depot.store 0)).container? .root none) = [⟨"files", "memory", [], []⟩] := by rfl
  have hdiscarded : Configuration.descriptors ((StoreEdit.discard.after (StoreEdit.describe.after
      (System.followed.depot.store 0))).container? .root none) = [] := by rfl
  have haccepted : ∀ taken, taken <+: [.describe, .discard] → Following.plain.Accepts
      ((taken.foldl StoreEdit.after (System.followed.depot.store 0)).container? .root none) := by
    intro taken htaken
    have hcases : taken = [] ∨ taken = [.describe] ∨ taken = [.describe, .discard] := by
      simpa using (List.mem_inits _ _).mpr htaken
    intro d hd _
    rcases hcases with rfl | rfl | rfl
    · rw [List.foldl_nil, hbefore] at hd
      cases hd
    · rw [List.foldl_cons, List.foldl_nil, hdescribed] at hd
      rw [List.mem_singleton.mp hd]
      rfl
    · rw [List.foldl_cons, List.foldl_cons, List.foldl_nil, hdiscarded] at hd
      cases hd
  have hagrees : Following.plain.Agrees (Following.plain.container .followed) .followed := by
    intro name
    have hnone : System.followed.descriptor? Following.plain.federation name = none := by
      change (Table.get? [("config", 0)] name).bind _ = none
      unfold Table.get?
      split <;> rfl
    have hwanted : Following.plain.wanted (Following.plain.container .followed) name = none := by
      unfold Following.wanted
      rw [show Configuration.descriptors (Following.plain.container .followed) = [] from hbefore]
      split <;> rfl
    rw [hnone, hwanted]
    exact .none
  have hfollowed := sources_followed .followed Following.holds_plain hagrees _ haccepted
  constructor
  · obtain ⟨hsame, hcontainer⟩ := hfollowed [.describe] (List.prefix_append [_] [_])
    refine hsame.present ?_
    rw [hcontainer]
    rfl
  · obtain ⟨hsame, hcontainer⟩ := hfollowed [.describe, .discard] List.prefix_rfl
    refine hsame.absent ?_
    rw [hcontainer]
    rfl

end ContentEngine
