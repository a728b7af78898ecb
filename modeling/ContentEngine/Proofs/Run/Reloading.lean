import ContentEngine.Proofs.Run.Reconciliation

/-!
# Reconciling again and again

Sources that were handed over are nobody's configuration, and neither is the configuration source.  A
reconciliation spares the configuration source unless it was itself registered with a descriptor, and
any source without descriptor unless a descriptor of its name comes up.  If one does, the source is
replaced as if it had been configured.

## Strategy

A reload reads the configuration tree, which changes nothing but what is idle in pools, and applies
the descriptors found there.  So a call that reconciles, in either way, is one application of a list of
descriptors, and what it leaves of one name is read off as in `Applied`.  Pools are numbered as they are
made: a source that was replaced is never served from its old pool again.
-/

namespace ContentEngine

variable {held : List Stake} {s s' : System} {id : FederationId} {name : String} {p : PoolId}

/-! ## Reading the tree -/

namespace Background

variable {s₀ : System}

theorem awaitBorrowing (id : FederationId) (attempts : Nat) (borrowing : Borrowing) :
    Ensures (Background s₀) (awaitBorrowing id attempts borrowing) fun _ => Background s₀ := by
  induction attempts generalizing borrowing with
  | zero => cases borrowing <;> exact .answer fun _ hs => hs
  | succ attempts ih =>
      cases borrowing with
      | done loan => exact .answer fun _ hs => hs
      | failed fault => exact .answer fun _ hs => hs
      | opening o millis =>
          unfold ContentEngine.awaitBorrowing
          refine .andThen ((enduring s₀).elapse millis) fun _ => ?_
          exact .andThen ((outlasts s₀).ask id fun f d => .resumeBorrow f d o) fun next => ih next

/-- Reading a graph lends a connection, and may wait for it. -/
theorem subgraph (g : Graph) (root : NodePath) (depth : Nat) :
    Ensures (Background s₀) (g.subgraph root depth) fun _ => Background s₀ := by
  unfold Graph.subgraph borrowConnection
  refine .andThen (.andThen ((outlasts s₀).ask g.federation fun f d => .borrow f d g.source)
    fun borrowing => awaitBorrowing g.federation 2 borrowing) fun r => ?_
  cases r with
  | error fault => exact .answer fun _ hs => hs
  | ok loan =>
      refine .andThen ((outlasts s₀).depot fun d => .release d loan) fun result => ?_
      cases result <;> exact .answer fun _ hs => hs

end Background

/-! ## Reloading -/

/-- The container of sources below a root, as a federation reads it. -/
def System.readSources (s : System) (id : FederationId) (root : NodePath) (workspace : Option String) :
    Except Fault (Option Subgraph) × System :=
  (Graph.subgraph ⟨id, (s.federation id).configurationSource, workspace⟩
    (Configuration.Container.sources.path root) 1).run s

/-- The descriptors in a container; there are none if there is no container. -/
def Configuration.descriptors (container : Option Subgraph) : List SourceDescriptor :=
  ((container.map Configuration.sources).getD ([], [])).1

/-- Problems of a federation were recorded and logged. -/
def Recorded (id : FederationId) (s s' : System) : Prop :=
  ∃ lines problems, s' =
    (s.addLog lines).setFederation id ((s.federation id).recordProblems problems)

theorem Recorded.managed (h : Recorded id s s') : Managed id s s' := by
  obtain ⟨lines, problems, rfl⟩ := h
  have hchange : Managed id s ((s.setFederation id ((s.federation id).recordProblems problems)).setDepot
      s.depot) := .of_change ⟨_, _, rfl⟩ (Nat.le_refl _) fun _ _ => .refl _
  exact { hchange with }

theorem Recorded.depot (h : Recorded id s s') : s'.depot = s.depot := by
  obtain ⟨_, _, rfl⟩ := h
  rfl

theorem Recorded.pool? (h : Recorded id s s') (name : String) : s'.pool? id name = s.pool? id name := by
  obtain ⟨lines, problems, rfl⟩ := h
  unfold System.pool?
  rw [System.federation_setFederation]
  split <;> rfl

/-- A federation that is open reads its tree and applies the descriptors that it finds, if it can read
the tree. -/
inductive Reloaded (id : FederationId) (root : NodePath) (workspace : Option String) (s : System) :
    System → Prop
  | closed : ¬s.IsOpen id → Reloaded id root workspace s s
  | unreadable {fault s'} : s.IsOpen id → (s.readSources id root workspace).1 = .error fault →
      Recorded id (s.readSources id root workspace).2 s' → Reloaded id root workspace s s'
  | applied {container s'} : s.IsOpen id → (s.readSources id root workspace).1 = .ok container →
      Recorded id ((applyDescriptors id (Configuration.descriptors container)).run
        (s.readSources id root workspace).2).2 s' → Reloaded id root workspace s s'

theorem reloaded (id : FederationId) (root : NodePath) (workspace : Option String) (s : System) :
    Reloaded id root workspace s ((reloadSources id root workspace).run s).2 := by
  by_cases hopen : s.IsOpen id
  · unfold reloadSources
    rw [fromSystem_bind, show (s.federation id).state.isClosed = false from hopen,
      if_neg Bool.false_ne_true]
    dsimp only
    have hread : (Graph.subgraph ⟨id, (s.federation id).configurationSource, workspace⟩
        (Configuration.Container.sources.path root) 1).run s = s.readSources id root workspace := rfl
    rw [run_bind, hread]
    cases hread : (s.readSources id root workspace).1 with
    | error fault => exact .unreadable hopen hread ⟨_, _, rfl⟩
    | ok container =>
        have hdescriptors : ((container.map Configuration.sources).getD ([], [])).1 =
            Configuration.descriptors container := rfl
        dsimp only
        rw [run_bind, hdescriptors]
        refine .applied hopen hread ?_
        generalize (applyDescriptors id (Configuration.descriptors container)).run _ = applied
        exact ⟨_, _, rfl⟩
  · have hclosed : (s.federation id).state.isClosed = true := by
      unfold System.IsOpen at hopen
      simpa using hopen
    have hrun : (reloadSources id root workspace).run s = ([], s) := by
      unfold reloadSources
      rw [fromSystem_bind, hclosed, if_pos rfl]
      rfl
    rw [hrun]
    exact .closed hopen

/-! ## Sources that are nobody's configuration -/

namespace Applied

variable {ds : List SourceDescriptor} {judged : List Judged} {outcome : Reconciliation}
  {problems : Problems}

/-- Sources are served as before, or not at all, or from a pool that was made since. -/
theorem pool?_cases (h : Applied id s ds judged outcome problems s') (name : String) :
    s'.pool? id name = s.pool? id name ∨ s'.pool? id name = none ∨
      ∃ q, s'.pool? id name = some q ∧ s.depot.pools.size ≤ q := by
  by_cases hjudged : name ∈ judged.map (·.1.name)
  · obtain ⟨⟨d, v⟩, hj, rfl⟩ := List.mem_map.mp hjudged
    cases hv : v.isRegistered with
    | true =>
        obtain ⟨q, hq, hnew, -⟩ := ((h.concluded _ hj).renewed hv).served
        exact .inr (.inr ⟨q, hq, hnew⟩)
    | false => exact .inl ((h.concluded _ hj).same hv)
  · by_cases hremoved : name ∈ outcome.removed
    · exact .inr (.inl (h.gone name hremoved).1)
    · exact .inl (h.others name hjudged hremoved)

/-- Only sources with descriptors are removed. -/
theorem not_removed (h : Applied id s ds judged outcome problems s') (hp : s.pool? id name = some p)
    (hnone : (s.depot.pool p).descriptor = none) : name ∉ outcome.removed := by
  intro hremoved
  obtain ⟨hsome, -⟩ := (h.removed name).mp hremoved
  rw [s.descriptor?_eq, hp, Option.bind_some, hnone] at hsome
  cases hsome

/-- A source without descriptor is spared if no descriptor of its name counts. -/
theorem spared (h : Applied id s ds judged outcome problems s') (hp : s.pool? id name = some p)
    (hnone : (s.depot.pool p).descriptor = none)
    (hname : name = (s.federation id).configurationSource ∨ ∀ d ∈ ds, d.name ≠ name) :
    s'.pool? id name = some p := by
  refine (h.others name (fun hjudged => ?_) (h.not_removed hp hnone)).trans hp
  obtain ⟨hne, d, hd, heq⟩ := h.name_mem.mp hjudged
  exact hname.elim hne fun hnot => hnot d hd heq

/-- A source without descriptor is spared if and only if the first descriptor of its name, if there is
one, cannot be registered. -/
theorem spared_iff (h : Applied id s ds judged outcome problems s') (hhoused : Housed s)
    (hopen : s.IsOpen id) (hun : s.Unthreatened id) (hp : s.pool? id name = some p)
    (hnone : (s.depot.pool p).descriptor = none)
    (hname : name ≠ (s.federation id).configurationSource) :
    s'.pool? id name = some p ↔ ∀ d, ds.find? (·.name == name) = some d →
      (s.federation id).registration d ≠ .ok () := by
  have hnew : s.descriptor? id name = none := by
    rw [s.descriptor?_eq, hp, Option.bind_some, hnone]
  constructor
  · intro hkept d hfind hok
    obtain rfl : d.name = name := by simpa using List.find?_some hfind
    obtain ⟨v, hv⟩ := h.exists_verdict.mpr ⟨hname, hfind⟩
    have hdecided : v = _ := h.decided hopen hun _ hv
    rw [verdict_of_registration fun _ he => nomatch hnew.symm.trans he] at hdecided
    rw [hok] at hdecided
    subst hdecided
    -- a source that was registered is served from a pool of a higher number
    obtain ⟨q, hq, hsize, -⟩ := ((h.concluded _ hv).renewed rfl).served
    obtain rfl : p = q := Option.some.inj (hkept.symm.trans hq)
    exact absurd (hhoused.made id d.name p hp) (Nat.not_lt_of_le hsize)
  · intro hrefused
    cases hfind : ds.find? (·.name == name) with
    | none =>
        refine h.spared hp hnone (.inr fun d hd heq => ?_)
        exact absurd (List.find?_eq_none.mp hfind d hd) (by simp [heq])
    | some d =>
        obtain rfl : d.name = name := by simpa using List.find?_some hfind
        obtain ⟨v, hv⟩ := h.exists_verdict.mpr ⟨hname, hfind⟩
        have hdecided : v = _ := h.decided hopen hun _ hv
        rw [verdict_of_registration fun _ he => nomatch hnew.symm.trans he] at hdecided
        cases hanswer : (s.federation id).registration d with
        | ok _ => exact absurd hanswer (hrefused d hfind)
        | error fault =>
            rw [hanswer] at hdecided
            subst hdecided
            exact ((h.concluded _ hv).same rfl).trans hp

end Applied

/-- A reconciliation spares the configuration source if it was handed over, and removes it if it was
registered with a descriptor. -/
theorem configuration_source_applied (h : Trading held s) (ds : List SourceDescriptor)
    (hp : s.pool? id (s.federation id).configurationSource = some p) :
    let configuration := (s.federation id).configurationSource
    let r := (applyDescriptors id ds).run s
    ((s.depot.pool p).descriptor = none → r.2.pool? id configuration = some p ∧
      (r.2.IsOpen id → (r.2.depot.pool p).closed = false) ∧ configuration ∉ r.1.1.mentioned) ∧
    ((s.depot.pool p).descriptor ≠ none → r.2.pool? id configuration = none ∧
      (r.2.depot.pool p).closed = true ∧ configuration ∈ r.1.1.removed ∧
      configuration ∉ r.1.1.added ++ r.1.1.replaced ++ r.1.1.unchanged) := by
  have hid := System.lt_of_pool? hp
  obtain ⟨judged, happlied⟩ := applied_descriptors h hid ds
  have hlater := lasting_trading.applyDescriptors held id ds s h
  change Trading held ((applyDescriptors id ds).run s).2 at hlater
  dsimp only
  generalize (applyDescriptors id ds).run s = applied at happlied hlater ⊢
  obtain ⟨⟨outcome, problems⟩, s'⟩ := applied
  dsimp only at happlied hlater ⊢
  have hunjudged : (s.federation id).configurationSource ∉ judged.map (·.1.name) := fun hmem =>
    (happlied.name_mem.mp hmem).1 rfl
  have hunnamed : ∀ v, (s.federation id).configurationSource ∉ namesOf v judged := fun v hmem =>
    hunjudged ((namesOf_sublist v judged).subset hmem)
  refine ⟨fun hnone => ?_, fun hsome => ?_⟩
  · have hkept := happlied.spared hp hnone (.inl rfl)
    refine ⟨hkept, fun hopen => hlater.housed.opened id hopen _ p hkept, ?_⟩
    refine happlied.not_mentioned (fun v hv => ?_) (happlied.not_removed hp hnone)
    obtain ⟨d, hj, heq⟩ := hv
    exact absurd (heq ▸ List.mem_map_of_mem hj) hunjudged
  · have hremoved : (s.federation id).configurationSource ∈ outcome.removed := by
      refine (happlied.removed _).mpr ⟨?_, hunjudged⟩
      rw [s.descriptor?_eq, hp, Option.bind_some]
      exact Option.isSome_iff_ne_none.mpr hsome
    obtain ⟨hgone, hclosed⟩ := happlied.gone _ hremoved
    refine ⟨hgone, hclosed p hp, hremoved, ?_⟩
    rw [happlied.added, happlied.replaced, happlied.unchanged]
    simp only [List.mem_append, not_or]
    exact ⟨⟨hunnamed _, hunnamed _⟩, hunnamed _⟩

/-- A federation whose configuration source was handed over. -/
def System.configured : System :=
  ((registerConnector 0 "config" ⟨.own .new, .plain⟩).run
    ((addFederation (.new "engine" "config" 0 .connectors 2 1)).run .empty).2).2

/-- A federation whose configuration source was registered with a descriptor. -/
def System.described : System :=
  ((registerSource 0 ⟨"config", "memory", [], []⟩).run
    ((addFederation (.new "engine" "config" 0 .connectors 2 1)).run .empty).2).2

theorem configuration_source_spared :
    let r := (applyDescriptors 0 [⟨"config", "memory", [], []⟩, ⟨"files", "memory", [], []⟩]).run
      .configured
    r.2.pool? 0 "config" = some 0 ∧ r.1.1.added = ["files"] ∧ "config" ∉ r.1.1.mentioned :=
  have htrading : Trading [] .configured :=
    .registerConnector 0 "config" ⟨.own .new, .plain⟩
      (.addFederation "engine" "config" 0 .connectors 2 1 .start)
  have happlied := (configuration_source_applied htrading
    [⟨"config", "memory", [], []⟩, ⟨"files", "memory", [], []⟩]
    (rfl : System.configured.pool? 0 _ = some 0)).1 rfl
  ⟨happlied.1, by decide, happlied.2.2⟩

/-- A configuration source that was registered with a descriptor does not outlast a reconciliation. -/
theorem configuration_source_removed :
    let r := (applyDescriptors 0 []).run .described
    (System.described.federation 0).configurationSource = "config" ∧
      System.described.pool? 0 "config" = some 0 ∧ (System.described.depot.pool 0).closed = false ∧
      r.2.pool? 0 "config" = none ∧ (r.2.depot.pool 0).closed = true ∧ r.1.1.removed = ["config"] := by
  decide

/-! ## Updates -/

/-- A call that reconciles the sources of a federation. -/
inductive SourceUpdate where
  | apply (descriptors : List SourceDescriptor)
  | reload (root : NodePath) (workspace : Option String)

namespace SourceUpdate

/-- The system after an update. -/
def run (id : FederationId) (s : System) : SourceUpdate → System
  | apply descriptors => ((applyDescriptors id descriptors).run s).2
  | reload root workspace => ((reloadSources id root workspace).run s).2

/-- The descriptors that an update applies. -/
def descriptors (id : FederationId) (s : System) : SourceUpdate → List SourceDescriptor
  | apply descriptors => descriptors
  | reload root workspace =>
    if (s.federation id).state.isClosed then []
    else
      match (s.readSources id root workspace).1 with
      | .ok container => Configuration.descriptors container
      | .error _ => []

/-- The system after several updates. -/
def runAll (id : FederationId) (s : System) (updates : List SourceUpdate) : System :=
  updates.foldl (run id) s

/-- A condition holds of each update in the system in which it begins. -/
def Throughout (id : FederationId) (P : System → SourceUpdate → Prop) :
    System → List SourceUpdate → Prop
  | _, [] => True
  | s, update :: rest => P s update ∧ Throughout id P (update.run id s) rest

theorem trading (h : Trading held s) (update : SourceUpdate) : Trading held (update.run id s) := by
  cases update with
  | apply ds => exact lasting_trading.applyDescriptors held id ds s h
  | reload root workspace => exact .reload id root workspace h

theorem trading_runAll (h : Trading held s) (updates : List SourceUpdate) :
    Trading held (runAll id s updates) := by
  induction updates generalizing s with
  | nil => exact h
  | cons update rest ih => exact ih (update.trading h)

/-- An update applies its descriptors after the background went on, or does not apply any. -/
theorem cases (id : FederationId) (s : System) (update : SourceUpdate) :
    ∃ s₁ s₂, Background s s₁ ∧ (∀ held, Trading held s → Trading held s₁) ∧
      (s₂ = s₁ ∧ update.descriptors id s = [] ∨
        s₂ = ((applyDescriptors id (update.descriptors id s)).run s₁).2) ∧
      (update.run id s = s₂ ∨ Recorded id s₂ (update.run id s)) := by
  cases update with
  | apply ds => exact ⟨s, _, .refl s, fun _ h => h, .inr rfl, .inl rfl⟩
  | reload root workspace =>
      have hread : Background s (s.readSources id root workspace).2 :=
        Background.subgraph _ _ 1 s (.refl s)
      have htrading : ∀ held, Trading held s → Trading held (s.readSources id root workspace).2 :=
        fun held h => lasting_trading.subgraph held _ _ 1 s h
      have hreloaded := reloaded id root workspace s
      change ∃ s₁ s₂, _ ∧ _ ∧ _ ∧ (((reloadSources id root workspace).run s).2 = s₂ ∨
        Recorded id s₂ ((reloadSources id root workspace).run s).2)
      have happlies : s.IsOpen id → (reload root workspace).descriptors id s =
          match (s.readSources id root workspace).1 with
          | .ok container => Configuration.descriptors container
          | .error _ => [] := fun hopen => if_neg (ne_true_of_eq_false hopen)
      generalize ((reloadSources id root workspace).run s).2 = s' at hreloaded ⊢
      cases hreloaded with
      | closed hclosed =>
          refine ⟨s, s, .refl s, fun _ h => h, .inl ⟨rfl, if_pos ?_⟩, .inl rfl⟩
          unfold System.IsOpen at hclosed
          simpa using hclosed
      | unreadable hopen hfault hrecorded =>
          refine ⟨_, _, hread, htrading, .inl ⟨rfl, ?_⟩, .inr hrecorded⟩
          rw [happlies hopen, hfault]
      | applied hopen hok hrecorded =>
          refine ⟨_, _, hread, htrading, .inr ?_, .inr hrecorded⟩
          rw [happlies hopen, hok]

theorem managed_run (h : Trading held s) (hid : id < s.federations.size) (update : SourceUpdate) :
    Managed id s (update.run id s) := by
  obtain ⟨s₁, s₂, hbackground, htrading, happlied, hlast⟩ := update.cases id s
  have hmanaged₂ : Managed id s₂ (update.run id s) := by
    rcases hlast with heq | hrecorded
    · rw [heq]
      exact .refl id s₂
    · exact hrecorded.managed
  refine (Managed.of_background hbackground).trans (Managed.trans ?_ hmanaged₂)
  rcases happlied with ⟨rfl, -⟩ | rfl
  · exact .refl id s₂
  · obtain ⟨judged, happlied⟩ := applied_descriptors (htrading held h) (hbackground.size ▸ hid)
      (update.descriptors id s)
    exact happlied.managed

/-- What an update does to a source without descriptor, and to the pools that served sources before. -/
structure Spares (id : FederationId) (s : System) (update : SourceUpdate) (name : String) (p : PoolId) :
    Prop where
  managed : Managed id s (update.run id s)
  unnamed : (name = (s.federation id).configurationSource ∨
    ∀ d ∈ update.descriptors id s, d.name ≠ name) → (update.run id s).pool? id name = some p
  iff : s.IsOpen id → s.Unthreatened id → name ≠ (s.federation id).configurationSource →
    ((update.run id s).pool? id name = some p ↔
      ∀ d, (update.descriptors id s).find? (·.name == name) = some d →
        ((registerSource id d).run s).1 ≠ .ok ())

theorem spares (h : Trading held s) (hp : s.pool? id name = some p)
    (hnone : (s.depot.pool p).descriptor = none) (update : SourceUpdate) :
    Spares id s update name p := by
  have hid := System.lt_of_pool? hp
  obtain ⟨s₁, s₂, hbackground, htrading, happlied, hlast⟩ := update.cases id s
  have hmanaged₁ : Managed id s s₁ := .of_background hbackground
  have hp₁ : s₁.pool? id name = some p := by
    obtain ⟨_, heq⟩ := hbackground.federations id
    rw [System.pool?, heq]
    exact hp
  have hnone₁ : (s₁.depot.pool p).descriptor = none := by
    rw [(hbackground.depot.pools p).descriptor, hnone]
  have hpool : ∀ n, (update.run id s).pool? id n = s₂.pool? id n := fun n => by
    rcases hlast with heq | hrecorded
    · rw [heq]
    · exact hrecorded.pool? n
  have hregistration : s.IsOpen id → s.Unthreatened id → ∀ d,
      ((registerSource id d).run s).1 = (s₁.federation id).registration d := fun hopen hun d => by
    rw [(registering_registerSource h hid d).2 hopen hun, hmanaged₁.registration]
  rcases happlied with ⟨rfl, hnil⟩ | rfl
  · refine ⟨managed_run h hid update, fun _ => (hpool name).trans hp₁, fun _ _ _ => ?_⟩
    rw [hpool, hnil]
    exact ⟨fun _ d hd => absurd hd (Option.some_ne_none d).symm, fun _ => hp₁⟩
  · have hlater := htrading held h
    obtain ⟨judged, happlied⟩ := applied_descriptors hlater (hmanaged₁.federations ▸ hid)
      (update.descriptors id s)
    refine ⟨managed_run h hid update, fun hname => ?_, fun hopen hun hname => ?_⟩
    · rw [hpool]
      exact happlied.spared hp₁ hnone₁ (hmanaged₁.configurationSource ▸ hname)
    · rw [hpool, happlied.spared_iff hlater.housed (hmanaged₁.isOpen hun hopen)
        (hbackground.engines.unthreatened hun) hp₁ hnone₁ (hmanaged₁.configurationSource ▸ hname)]
      simp only [hregistration hopen hun]

/-- A pool that was made does not serve a source after an update unless it did before. -/
theorem not_again (h : Trading held s) (hid : id < s.federations.size) (hlt : p < s.depot.pools.size)
    (hp : s.pool? id name ≠ some p) (update : SourceUpdate) :
    (update.run id s).pool? id name ≠ some p := by
  obtain ⟨s₁, s₂, hbackground, htrading, happlied, hlast⟩ := update.cases id s
  have hp₁ : s₁.pool? id name ≠ some p := by
    obtain ⟨_, heq⟩ := hbackground.federations id
    rw [System.pool?, heq]
    exact hp
  have hpool : (update.run id s).pool? id name = s₂.pool? id name := by
    rcases hlast with heq | hrecorded
    · rw [heq]
    · exact hrecorded.pool? name
  rw [hpool]
  rcases happlied with ⟨rfl, -⟩ | rfl
  · exact hp₁
  · obtain ⟨judged, happlied⟩ := applied_descriptors (htrading held h) (hbackground.size ▸ hid)
      (update.descriptors id s)
    rcases happlied.pool?_cases name with heq | heq | ⟨q, heq, hsize⟩
    · rwa [heq]
    · rw [heq]
      exact (Option.some_ne_none p).symm
    · rw [heq]
      intro hq
      obtain rfl := Option.some.inj hq
      rw [hbackground.depot.size] at hsize
      exact absurd hlt (Nat.not_lt_of_le hsize)

theorem not_again_runAll (h : Trading held s) (hid : id < s.federations.size)
    (hlt : p < s.depot.pools.size) (hp : s.pool? id name ≠ some p) (updates : List SourceUpdate) :
    (runAll id s updates).pool? id name ≠ some p := by
  induction updates generalizing s with
  | nil => exact hp
  | cons update rest ih =>
      have hmanaged := managed_run h hid update
      exact ih (update.trading h) (hmanaged.federations ▸ hid) (Nat.lt_of_lt_of_le hlt hmanaged.size)
        (not_again h hid hlt hp update)

end SourceUpdate

open SourceUpdate in
/-- A source that was handed over stays, with its pool, through any updates that have no descriptor of
its name, and so does the configuration source.  Else it stays if and only if no update registers the
first descriptor of its name. -/
theorem handed_over_sources (h : Trading held s) (hp : s.pool? id name = some p)
    (hnone : (s.depot.pool p).descriptor = none) (updates : List SourceUpdate) :
    let s' := runAll id s updates
    (Throughout id (fun s update => name = (s.federation id).configurationSource ∨
        ∀ d ∈ update.descriptors id s, d.name ≠ name) s updates →
      s'.pool? id name = some p ∧ (s'.IsOpen id → (s'.depot.pool p).closed = false)) ∧
    (s.IsOpen id → s.Unthreatened id → name ≠ (s.federation id).configurationSource →
      (s'.pool? id name = some p ↔ Throughout id (fun s update =>
        ∀ d, (update.descriptors id s).find? (·.name == name) = some d →
          ((registerSource id d).run s).1 ≠ .ok ()) s updates)) := by
  have hid := System.lt_of_pool? hp
  dsimp only
  refine ⟨fun hunnamed => ?_, fun hopen hun hname => ?_⟩
  · suffices hkept : (runAll id s updates).pool? id name = some p from
      ⟨hkept, fun hopen => (trading_runAll h updates).housed.opened id hopen name p hkept⟩
    induction updates generalizing s with
    | nil => exact hp
    | cons update rest ih =>
        have hspares := spares h hp hnone update
        have hnone' : ((update.run id s).depot.pool p).descriptor = none := by
          rw [(hspares.managed.pools p (h.housed.made id name p hp)).descriptor, hnone]
        exact ih (update.trading h) (hspares.unnamed hunnamed.1) hnone'
          (System.lt_of_pool? (hspares.unnamed hunnamed.1)) hunnamed.2
  · induction updates generalizing s with
    | nil => exact iff_of_true hp trivial
    | cons update rest ih =>
        have hspares := spares h hp hnone update
        have hkept := hspares.iff hopen hun hname
        have hlt := h.housed.made id name p hp
        by_cases hstays : (update.run id s).pool? id name = some p
        · have hnone' : ((update.run id s).depot.pool p).descriptor = none := by
            rw [(hspares.managed.pools p hlt).descriptor, hnone]
          have hrest := ih (update.trading h) hstays hnone' (System.lt_of_pool? hstays)
            (hspares.managed.isOpen hun hopen) (hspares.managed.engines.unthreatened hun)
            (hspares.managed.configurationSource ▸ hname)
          exact hrest.trans ⟨fun hall => ⟨hkept.mp hstays, hall⟩, fun hall => hall.2⟩
        · have hmanaged := hspares.managed
          refine iff_of_false ?_ fun hall => hstays (hkept.mpr hall.1)
          exact not_again_runAll (update.trading h) (hmanaged.federations ▸ hid)
            (Nat.lt_of_lt_of_le hlt hmanaged.size) hstays rest

open SourceUpdate in
/-- A tree that cannot be read and a descriptor of another name leave a source alone, and then one of its
own name replaces it. -/
theorem handed_over_sources_docs :
    let spared : List SourceUpdate := [reload .root none, apply [⟨"files", "memory", [], []⟩]]
    (runAll 0 .withSource spared).pool? 0 "docs" = some 0 ∧
      (runAll 0 .withSource (spared ++ [apply [⟨"docs", "memory", [], []⟩]])).pool? 0 "docs" ≠
        some 0 := by
  have hserved : System.withSource.pool? 0 "docs" = some 0 := rfl
  have hun := System.unthreatened_withSource 0
  refine ⟨((handed_over_sources .withSource hserved rfl _).1 ?_).1, fun hkept => ?_⟩
  · exact ⟨.inr (by decide), .inr (by decide), trivial⟩
  · have hall := ((handed_over_sources .withSource hserved rfl _).2 rfl hun (by decide)).mp hkept
    exact hall.2.2.1 _ rfl (by decide)

/-- A source that was handed over is replaced by an update with a descriptor of its name, and its pool is
closed. -/
theorem handed_over_source_replaced :
    let r := (applyDescriptors 0 [⟨"docs", "memory", [], []⟩]).run .withSource
    System.withSource.pool? 0 "docs" = some 0 ∧ (System.withSource.depot.pool 0).descriptor = none ∧
      (System.withSource.depot.pool 0).closed = false ∧ r.1.1.replaced = ["docs"] ∧
      r.2.pool? 0 "docs" = some 1 ∧ (r.2.depot.pool 0).closed = true := by
  decide

end ContentEngine
