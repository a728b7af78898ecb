import ContentEngine.Proofs.Program.Announcing
import ContentEngine.Proofs.Run.Reading
import ContentEngine.Proofs.Run.Stocking

/-!
# Federations that follow a configuration tree

A federation follows a store if its configuration source is served from the store, an observer on the
bus of the store reloads the sources, and nobody else meddles with the store, the observer or the
sources.  Then a reload gives the sources the descriptors in the tree that the store holds.

## Strategy

The tree is read as the store of the configuration source holds it.  What a reload makes of the sources
is known name by name (`fates_applied`).
-/

namespace ContentEngine

variable {held : List Stake} {s s' : System} {id : FederationId}

/-! ## Reading the tree -/

/-- A federation that is open reads the container in the store of its configuration source. -/
theorem System.readSources_plain (h : Trading held s) (hopen : s.IsOpen id) (root : NodePath)
    {p : PoolId} {store : StoreId} {workspace : Option String}
    (hp : s.pool? id (s.federation id).configurationSource = some p)
    (hconnector : (s.depot.pool p).connector = ⟨store, .plain⟩)
    (havailable : (s.depot.store store).unavailable = false)
    (hreadable : ((s.depot.store store).read? workspace).isSome) :
    (s.readSources id root workspace).1 = .ok ((s.depot.store store).container? root workspace) := by
  obtain ⟨nodes, hnodes⟩ := Option.isSome_iff_exists.mp hreadable
  unfold System.readSources
  refine (Graph.subgraph_ok_iff h ⟨hopen, p, hp, hconnector⟩ _ 1 _).mpr
    ⟨havailable, nodes, hnodes, ?_⟩
  rw [Store.container?, hnodes, Option.bind_some]

/-! ## What any reload leaves alone -/

/-- A federation that was not made cannot be read from. -/
theorem System.readSources_absent (hid : s.federations.size ≤ id) (root : NodePath)
    (workspace : Option String) : ∃ fault, (s.readSources id root workspace).1 = .error fault := by
  have hborrow : (s.federation id).borrow s.depot (s.federation id).configurationSource =
      (.failed (.unknownSource ""), s.depot) := by
    rw [s.federation_out hid]
    rfl
  unfold System.readSources Graph.subgraph borrowConnection
  rw [run_bind, run_bind, requestConnection_run, hborrow]
  exact ⟨_, rfl⟩

theorem Recorded.stocked (h : Recorded id s s') (store : StoreId) : Stocked store s s' := by
  obtain ⟨lines, problems, rfl⟩ := h
  have hchange : Stocked store s ((s.setFederation id
      ((s.federation id).recordProblems problems)).setDepot s.depot) :=
    .of_change rfl (Nat.le_refl _) rfl fun _ h => h
  exact { hchange with }

section reload

variable (id) (root : NodePath) (workspace : Option String)

theorem managed_reload (h : Trading held s) :
    Managed id s ((reloadSources id root workspace).run s).2 := by
  by_cases hid : id < s.federations.size
  · exact SourceUpdate.managed_run h hid (.reload root workspace)
  · have hread : Background s (s.readSources id root workspace).2 :=
      Background.subgraph _ _ 1 s (.refl s)
    have hreloaded := reloaded id root workspace s
    generalize ((reloadSources id root workspace).run s).2 = s' at hreloaded ⊢
    cases hreloaded with
    | closed _ => exact .refl id s
    | unreadable _ _ hrecorded => exact (Managed.of_background hread).trans hrecorded.managed
    | applied _ hok _ =>
        obtain ⟨fault, hfault⟩ := s.readSources_absent (Nat.not_lt.mp hid) root workspace
        cases hfault.symm.trans hok

theorem stocked_reload {store : StoreId} (hlt : store < s.depot.stores.size)
    (hunshared : s.Unshared id store) : Stocked store s ((reloadSources id root workspace).run s).2 := by
  have hread : Stocked store s (s.readSources id root workspace).2 :=
    .of_background (Background.subgraph _ _ 1 s (.refl s))
  have hreloaded := reloaded id root workspace s
  generalize ((reloadSources id root workspace).run s).2 = s' at hreloaded ⊢
  cases hreloaded with
  | closed _ => exact .refl store s
  | unreadable _ _ hrecorded => exact hread.trans (hrecorded.stocked store)
  | applied _ _ hrecorded =>
      refine hread.trans (Stocked.trans ?_ (hrecorded.stocked store))
      exact Stocked.applyDescriptors (Nat.lt_of_lt_of_le hlt hread.size) (hread.unshared hunshared) _ _
        (.refl store _)

end reload

/-! ## Following -/

/-- Which store a federation follows: its tree in one workspace, by an observer of one bus. -/
structure Following where
  federation : FederationId
  /-- The name of the configuration source. -/
  source : String
  root : NodePath
  workspace : Option String
  store : StoreId
  bus : BusId
  observer : ObserverId
  /-- The names that may stand for the store. -/
  shared : String → Prop
  /-- The descriptors with which sources can be registered. -/
  accepted : SourceDescriptor → Prop

namespace Following

/-- The container of sources in the store. -/
def container (f : Following) (s : System) : Option Subgraph :=
  (s.depot.store f.store).container? f.root f.workspace

/-- The descriptor that a source should have: the first one of its name in the tree, and none if it is
the configuration source. -/
def wanted (f : Following) (container : Option Subgraph) (name : String) : Option SourceDescriptor :=
  if name = f.source then none
  else (Configuration.descriptors container).find? (·.name == name)

/-- The sources have the descriptors in a container, each the first one of its name. -/
def Agrees (f : Following) (container : Option Subgraph) (s : System) : Prop :=
  ∀ name, Option.Rel (fun d d' => d.same d' = true) (s.descriptor? f.federation name)
    (f.wanted container name)

theorem Agrees.absent {f : Following} {container : Option Subgraph} (h : f.Agrees container s)
    {name : String} (hwanted : f.wanted container name = none) :
    s.descriptor? f.federation name = none := by
  have hname := h name
  rw [hwanted] at hname
  generalize s.descriptor? f.federation name = found at hname ⊢
  cases hname
  rfl

theorem Agrees.present {f : Following} {container : Option Subgraph} (h : f.Agrees container s)
    {name : String} {d' : SourceDescriptor} (hwanted : f.wanted container name = some d') :
    ∃ d, s.descriptor? f.federation name = some d ∧ d.same d' = true := by
  have hname := h name
  rw [hwanted] at hname
  generalize s.descriptor? f.federation name = found at hname ⊢
  cases hname with
  | some hsame => exact ⟨_, rfl, hsame⟩

/-- The descriptors in a container can be registered, but for one of the configuration source. -/
def Accepts (f : Following) (container : Option Subgraph) : Prop :=
  ∀ d ∈ Configuration.descriptors container, d.name ≠ f.source → f.accepted d

/-- An observer on a bus does not unregister the one that follows the store, does not reload the sources
from elsewhere, and does not change the store, which it could not do while an event of the store is
announced. -/
def Spares (f : Following) (bus : BusId) : Observer → Prop
  | .scripted _ (.unregister observer) => bus = f.bus → observer ≠ f.observer
  | .scripted _ (.echo _ store _) => ¬f.shared store
  | .configuration federation root workspace =>
    federation = f.federation → root = f.root ∧ workspace = f.workspace
  | _ => True

/-- The federation is open, and it follows the store. -/
structure Holds (f : Following) (s : System) : Prop where
  isOpen : s.IsOpen f.federation
  unthreatened : s.Unthreatened f.federation
  source : (s.federation f.federation).configurationSource = f.source
  served : ∃ p, s.pool? f.federation f.source = some p ∧
    (s.depot.pool p).connector = ⟨f.store, .plain⟩
  made : f.store < s.depot.stores.size
  names : ∀ name, Table.get? s.depot.names name = some f.store → f.shared name
  /-- Connectors have other stores. -/
  plans : ∀ id d plan name, (s.federation id).planFor d = .ok plan → plan.store = .shared name →
    ¬f.shared name
  accepts : ∀ d, f.accepted d → (s.federation f.federation).registration d = .ok ()
  bound : ∃ engine, (s.depot.store f.store).binding = some ⟨engine, f.source, f.bus⟩
  available : (s.depot.store f.store).unavailable = false
  ordered : (s.depot.store f.store).Ordered
  readable : ((s.depot.store f.store).read? f.workspace).isSome
  follows : (f.observer, .configuration f.federation f.root f.workspace) ∈ (s.bus f.bus).observers
  spared : ∀ bus, ∀ entry ∈ (s.bus bus).observers, f.Spares bus entry.2

variable {f : Following}

theorem Holds.unshared (h : f.Holds s) (id : FederationId) : s.Unshared id f.store :=
  fun d plan name hplan hshared hname => h.plans id d plan name hplan hshared (h.names name hname)

/-- Once the descriptors in a container were applied, the sources agree with it. -/
theorem agrees_applied (h : Trading held s) (hid : f.federation < s.federations.size)
    (hopen : s.IsOpen f.federation) (hun : s.Unthreatened f.federation)
    (hsource : (s.federation f.federation).configurationSource = f.source)
    (haccepts : ∀ d, f.accepted d → (s.federation f.federation).registration d = .ok ())
    {container : Option Subgraph} (haccepted : f.Accepts container) :
    f.Agrees container
      ((applyDescriptors f.federation (Configuration.descriptors container)).run s).2 := by
  obtain ⟨judged, happlied⟩ := applied_descriptors h hid (Configuration.descriptors container)
  obtain ⟨-, hfates⟩ := fates_applied h hid hopen hun (Configuration.descriptors container)
  have hbare := happlied.configurationSource_bare (h.housed.made f.federation)
  rw [hsource] at hbare hfates
  have hanswer : ∀ d, ((registerSource f.federation d).run s).1 =
      (s.federation f.federation).registration d := fun d =>
    (registering_registerSource h hid d).2 hopen hun
  generalize (applyDescriptors f.federation (Configuration.descriptors container)).run s = applied
    at hbare hfates ⊢
  intro name
  unfold wanted
  split
  · rename_i hname
    rw [hname, hbare]
    exact .none
  rename_i hname
  have hfate := hfates name hname
  cases hfind : (Configuration.descriptors container).find? (·.name == name) with
  | none =>
      cases hbefore : s.descriptor? f.federation name with
      | none =>
          rw [(hfate.absent hfind hbefore).1.descriptor?_eq, hbefore]
          exact .none
      | some d =>
          rw [System.descriptor?_eq, (hfate.removed hfind (hbefore ▸ rfl)).1]
          exact .none
  | some d =>
      obtain rfl : d.name = name := by simpa using List.find?_some hfind
      by_cases hcurrent : ∃ existing, s.descriptor? f.federation d.name = some existing ∧
          existing.same d = true
      · obtain ⟨existing, hexisting, hsame⟩ := hcurrent
        rw [(hfate.kept d existing hfind hexisting hsame).1.descriptor?_eq, hexisting]
        exact .some hsame
      · -- the source is a new one, and none of those that come up is refused
        have hregistered := haccepts d (haccepted d (List.mem_of_find?_eq_some hfind) hname)
        have hrenewed := (hfate.registered d hfind (fun existing hexisting =>
          Bool.eq_false_iff.mpr fun hsame => hcurrent ⟨existing, hexisting, hsame⟩)
          ((hanswer d).trans hregistered)).1
        rw [hrenewed.descriptor?_eq]
        exact .some d.same_refl

/-- What the federation depends on is as before: the store, the observers of buses and the federation
itself, but for its sources. -/
structure Undisturbed (f : Following) (s s' : System) : Prop where
  stocked : Stocked f.store s s'
  source : (s'.federation f.federation).configurationSource =
    (s.federation f.federation).configurationSource
  isOpen : s.Unthreatened f.federation → s.IsOpen f.federation → s'.IsOpen f.federation
  engines : s.EnginesRest s'
  pools : ∀ p < s.depot.pools.size, (s.depot.pool p).Tended (s'.depot.pool p)
  follows : (f.observer, .configuration f.federation f.root f.workspace) ∈ (s.bus f.bus).observers →
    (f.observer, .configuration f.federation f.root f.workspace) ∈ (s'.bus f.bus).observers
  spared : ∀ bus, ∀ entry ∈ (s'.bus bus).observers,
    entry ∈ (s.bus bus).observers ∨ f.Spares bus entry.2

namespace Undisturbed

theorem of_managed (hmanaged : Managed id s s') (hstocked : Stocked f.store s s') :
    f.Undisturbed s s' where
  stocked := hstocked
  source := hmanaged.configurationSource
  isOpen := hmanaged.isOpen
  engines := hmanaged.engines
  pools := hmanaged.pools
  follows h := by
    rw [System.bus, hmanaged.buses]
    exact h
  spared bus entry h := by
    rw [System.bus, hmanaged.buses] at h
    exact .inl h

/-- A change of stores, buses and records. -/
theorem of_eq (hstocked : Stocked f.store s s') (hfederations : s'.federations = s.federations)
    (hengines : s'.engines = s.engines) (hpools : s'.depot.pools = s.depot.pools)
    (hfollows : (f.observer, .configuration f.federation f.root f.workspace) ∈
        (s.bus f.bus).observers →
      (f.observer, .configuration f.federation f.root f.workspace) ∈ (s'.bus f.bus).observers)
    (hspared : ∀ bus, ∀ entry ∈ (s'.bus bus).observers,
      entry ∈ (s.bus bus).observers ∨ f.Spares bus entry.2) :
    f.Undisturbed s s' where
  stocked := hstocked
  source := by rw [System.federation, hfederations, System.federation]
  isOpen _ h := by
    unfold System.IsOpen System.federation at h ⊢
    rwa [hfederations]
  engines := .of_eq hengines
  pools p _ := by
    rw [Depot.pool, Depot.pool, hpools]
    exact .refl _
  follows := hfollows
  spared := hspared

end Undisturbed

/-! ## Tracking -/

/-- The federation follows a store with some contents, all descriptors in its tree can be registered,
and the sources agree with the tree if they are said to. -/
structure Tracks (f : Following) (held : List Stake) (contents : Store) (agreed : Prop)
    (s : System) : Prop where
  trading : Trading held s
  holds : f.Holds s
  bare : s.descriptor? f.federation f.source = none
  stored : s.depot.store f.store = contents
  accepted : f.Accepts (contents.container? f.root f.workspace)
  agrees : agreed → f.Agrees (contents.container? f.root f.workspace) s

namespace Tracks

variable {contents : Store} {agreed agreed' : Prop}

theorem weaken (h : f.Tracks held contents agreed s) (himp : agreed' → agreed) :
    f.Tracks held contents agreed' s :=
  { h with agrees := fun hagreed => h.agrees (himp hagreed) }

/-- What comes of a change that disturbs nothing, given what it makes of the sources. -/
theorem next (h : f.Tracks held contents agreed s) (htrading : Trading held s')
    (hkept : f.Undisturbed s s')
    (hserved : s'.pool? f.federation f.source = s.pool? f.federation f.source)
    (hagrees : agreed' → f.Agrees (contents.container? f.root f.workspace) s') :
    f.Tracks held contents agreed' s' where
  trading := htrading
  holds := by
    have hholds := h.holds
    obtain ⟨p, hp, hconnector⟩ := hholds.served
    have hlt := h.trading.housed.made f.federation f.source p hp
    refine {
      isOpen := hkept.isOpen hholds.unthreatened hholds.isOpen
      unthreatened := hkept.engines.unthreatened hholds.unthreatened
      source := hkept.source.trans hholds.source
      served := ⟨p, hserved.trans hp, (hkept.pools p hlt).connector.trans hconnector⟩
      made := Nat.lt_of_lt_of_le hholds.made hkept.stocked.size
      names := fun name hname => hholds.names name (hkept.stocked.names name hname)
      plans := fun id d plan name hplan => ?_
      accepts := fun d hd => ?_
      bound := ?_
      available := ?_
      ordered := ?_
      readable := ?_
      follows := hkept.follows hholds.follows
      spared := fun bus entry hentry => ?_ }
    · rw [hkept.stocked.plans] at hplan
      exact hholds.plans id d plan name hplan
    · have haccepted := hholds.accepts d hd
      unfold Federation.registration at haccepted ⊢
      rwa [hkept.stocked.plans]
    · rw [hkept.stocked.kept]
      exact hholds.bound
    · rw [hkept.stocked.kept]
      exact hholds.available
    · rw [hkept.stocked.kept]
      exact hholds.ordered
    · rw [hkept.stocked.kept]
      exact hholds.readable
    · exact (hkept.spared bus entry hentry).elim (hholds.spared bus entry) fun hspared => hspared
  bare := by
    obtain ⟨p, hp, -⟩ := h.holds.served
    have hlt := h.trading.housed.made f.federation f.source p hp
    have hbare := h.bare
    rw [System.descriptor?_eq, hp] at hbare
    rw [System.descriptor?_eq, hserved, hp]
    exact (hkept.pools p hlt).descriptor.trans hbare
  stored := hkept.stocked.kept.trans h.stored
  accepted := h.accepted
  agrees := hagrees

/-- What comes of a change that disturbs nothing and leaves the sources alone. -/
theorem same (h : f.Tracks held contents agreed s) (htrading : Trading held s')
    (hkept : f.Undisturbed s s')
    (hserved : (s'.federation f.federation).pools = (s.federation f.federation).pools) :
    f.Tracks held contents agreed s' := by
  have hpool : ∀ name, s'.pool? f.federation name = s.pool? f.federation name := fun name => by
    rw [System.pool?, hserved, System.pool?]
  refine h.next htrading hkept (hpool f.source) fun hagreed name => ?_
  have hsame : s'.descriptor? f.federation name = s.descriptor? f.federation name := by
    rw [System.descriptor?_eq, System.descriptor?_eq, hpool]
    cases hp : s.pool? f.federation name with
    | none => rfl
    | some p => exact (hkept.pools p (h.trading.housed.made f.federation name p hp)).descriptor
  rw [hsame]
  exact h.agrees hagreed name

/-! ### Reloading -/

/-- The reload of another federation. -/
theorem reload_other (h : f.Tracks held contents agreed s) (hid : id ≠ f.federation)
    (root : NodePath) (workspace : Option String) :
    f.Tracks held contents agreed ((reloadSources id root workspace).run s).2 := by
  have hmanaged := managed_reload id root workspace h.trading
  refine h.same (.reload id root workspace h.trading) ?_ (hmanaged.others _ hid.symm)
  exact .of_managed hmanaged (stocked_reload id root workspace h.holds.made (h.holds.unshared id))

/-- A reload applies the descriptors in the tree, after the background went on. -/
private theorem reloads (h : f.Tracks held contents agreed s) :
    ∃ s₁, Background s s₁ ∧ Trading held s₁ ∧ Recorded f.federation
      ((applyDescriptors f.federation
        (Configuration.descriptors (contents.container? f.root f.workspace))).run s₁).2
      ((reloadSources f.federation f.root f.workspace).run s).2 := by
  have hholds := h.holds
  obtain ⟨p, hp, hconnector⟩ := hholds.served
  have hread := System.readSources_plain h.trading hholds.isOpen f.root (hholds.source.symm ▸ hp)
    hconnector hholds.available hholds.readable
  rw [h.stored] at hread
  refine ⟨(s.readSources f.federation f.root f.workspace).2,
    Background.subgraph _ _ 1 s (.refl s), lasting_trading.subgraph held _ _ 1 s h.trading, ?_⟩
  have hreloaded := reloaded f.federation f.root f.workspace s
  generalize ((reloadSources f.federation f.root f.workspace).run s).2 = s' at hreloaded ⊢
  cases hreloaded with
  | closed hclosed => exact absurd hholds.isOpen hclosed
  | unreadable _ hfault _ => cases hread.symm.trans hfault
  | applied _ hok hrecorded =>
      obtain rfl := Except.ok.inj (hread.symm.trans hok)
      exact hrecorded

/-- After its reload the federation agrees with the tree. -/
theorem reload_own (h : f.Tracks held contents agreed s) :
    f.Tracks held contents True ((reloadSources f.federation f.root f.workspace).run s).2 := by
  have hholds := h.holds
  have hmanaged := managed_reload f.federation f.root f.workspace h.trading
  have hstocked := stocked_reload f.federation f.root f.workspace hholds.made
    (hholds.unshared f.federation)
  obtain ⟨s₁, hbackground, hlater, hrecorded⟩ := h.reloads
  have hmanaged₁ : Managed f.federation s s₁ := .of_background hbackground
  have hsource₁ := hmanaged₁.configurationSource.trans hholds.source
  obtain ⟨p, hp, -⟩ := hholds.served
  have hid₁ : f.federation < s₁.federations.size := hmanaged₁.federations ▸ System.lt_of_pool? hp
  have hp₁ : s₁.pool? f.federation f.source = some p := by
    obtain ⟨_, heq⟩ := hbackground.federations f.federation
    rw [System.pool?, heq]
    exact hp
  have hbare₁ : (s₁.depot.pool p).descriptor = none := by
    have hbare := h.bare
    rw [System.descriptor?_eq, hp] at hbare
    exact (hbackground.depot.pools p).descriptor.trans hbare
  refine h.next (.reload f.federation f.root f.workspace h.trading) (.of_managed hmanaged hstocked) ?_
    fun _ => ?_
  · -- the configuration source is spared
    obtain ⟨judged, happlied⟩ := applied_descriptors hlater hid₁
      (Configuration.descriptors (contents.container? f.root f.workspace))
    rw [hrecorded.pool?, hp]
    exact happlied.spared hp₁ hbare₁ (.inl hsource₁.symm)
  · have hagrees := agrees_applied hlater hid₁ (hmanaged₁.isOpen hholds.unthreatened hholds.isOpen)
      (hbackground.engines.unthreatened hholds.unthreatened) hsource₁
      (fun d hd => (hmanaged₁.registration d).trans (hholds.accepts d hd)) h.accepted
    intro name
    have hsame := hagrees name
    rwa [System.descriptor?_eq, ← hrecorded.pool?, ← hrecorded.depot, ← System.descriptor?_eq] at hsame

end Tracks

end Following

end ContentEngine
