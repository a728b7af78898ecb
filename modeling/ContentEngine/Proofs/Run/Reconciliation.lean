import ContentEngine.Proofs.Run.Reconciling
import Mathlib.Data.List.Nodup

/-!
# What a reconciliation leaves

After a reconciliation with a list of descriptors each name is in exactly one case.  Of the descriptors
of one name the first counts.  If it is the one that the source has, the source stays as it was; else it
is registered with it, or stays as it was if that fails.  Sources with descriptors of which none is in
the list are removed.

## Strategy

The two loops of a reconciliation are put together as `Applied`: the verdicts on the descriptors that
count, and the sources that are gone.  What is known of one name is then read off, by whether its
descriptor is among those that count (`mem_firsts`).
-/

namespace ContentEngine

variable {held : List Stake} {s s' : System} {id : FederationId} {name : String}
  {ds : List SourceDescriptor} {d : SourceDescriptor}

/-! ## Descriptors that are the same -/

namespace Value

mutual

theorem agrees_refl : ∀ v : Value, v.agrees v = true
  | null => rfl
  | bool _ | int _ | text _ => by simp [agrees]
  | double d => by simp [agrees, Double.agrees]
  | list items => agreesAll_refl items
  | object fields => agreesFields_refl fields

theorem agreesAll_refl : ∀ items : List Value, agreesAll items items = true
  | [] => rfl
  | v :: rest => by simp [agreesAll, agrees_refl v, agreesAll_refl rest]

theorem agreesFields_refl : ∀ fields : List (String × Value), agreesFields fields fields = true
  | [] => rfl
  | (_, v) :: rest => by simp [agreesFields, agrees_refl v, agreesFields_refl rest]

end

end Value

theorem SourceDescriptor.same_refl (d : SourceDescriptor) : d.same d = true := by
  simp [same, Value.agreesFields_refl]

/-! ## The sources that were there -/

namespace System

/-- The sources of a federation with their descriptors. -/
def current (s : System) (id : FederationId) : Table String (Option SourceDescriptor) :=
  currentDescriptors (s.federation id) s.depot

/-- The descriptor with which a source is registered. -/
def descriptor? (s : System) (id : FederationId) (name : String) : Option SourceDescriptor :=
  (s.federation id).descriptor? s.depot name

theorem descriptor?_eq (s : System) (id : FederationId) (name : String) :
    s.descriptor? id name = (s.pool? id name).bind fun p => (s.depot.pool p).descriptor :=
  rfl

theorem get?_current (s : System) (id : FederationId) (name : String) :
    Table.get? (s.current id) name = (s.pool? id name).map fun p => (s.depot.pool p).descriptor := by
  unfold current currentDescriptors pool?
  induction (s.federation id).pools with
  | nil => rfl
  | cons entry rest ih =>
      obtain ⟨n, p⟩ := entry
      rw [List.map_cons]
      unfold Table.get?
      split
      · rfl
      · exact ih

theorem isCurrent_current (s : System) (id : FederationId) (d : SourceDescriptor) :
    isCurrent (s.current id) d = true ↔
      ∃ existing, s.descriptor? id d.name = some existing ∧ existing.same d = true := by
  unfold isCurrent
  rw [s.get?_current, s.descriptor?_eq]
  cases s.pool? id d.name with
  | none => simp
  | some p =>
      cases hdescriptor : (s.depot.pool p).descriptor with
      | none => simp [hdescriptor]
      | some existing => simp [hdescriptor]

theorem contains_current (s : System) (id : FederationId) (name : String) :
    Table.contains (s.current id) name = (s.pool? id name).isSome := by
  unfold Table.contains
  rw [s.get?_current, Option.isSome_map]

end System

theorem Housed.nodup_current (h : Housed s) (id : FederationId) :
    ((s.current id).map Prod.fst).Nodup := by
  have hsame : (s.current id).map Prod.fst = (s.federation id).pools.map Prod.fst := by
    unfold System.current currentDescriptors
    rw [List.map_map]
    rfl
  rw [hsame]
  exact (h.sorted id).nodup_keys

/-- The sources that were configured and are not wanted. -/
theorem Housed.mem_unwanted (h : Housed s) {wanted : List String} :
    name ∈ unwanted wanted (s.current id) ↔ (s.descriptor? id name).isSome ∧ name ∉ wanted := by
  unfold unwanted
  rw [List.mem_map]
  constructor
  · rintro ⟨⟨n, descriptor⟩, hentry, rfl⟩
    obtain ⟨hentry, hgone⟩ := List.mem_filter.mp hentry
    obtain ⟨⟨n', p⟩, hpool, heq⟩ := List.mem_map.mp hentry
    obtain ⟨rfl, rfl⟩ := Prod.mk.inj heq
    have hget : s.pool? id n' = some p := (h.sorted id).get?_of_mem hpool
    rw [s.descriptor?_eq, hget]
    simpa using hgone
  · rintro ⟨hdescriptor, hwanted⟩
    rw [s.descriptor?_eq] at hdescriptor
    cases hget : s.pool? id name with
    | none =>
        rw [hget] at hdescriptor
        cases hdescriptor
    | some p =>
        rw [hget] at hdescriptor
        refine ⟨(name, (s.depot.pool p).descriptor), List.mem_filter.mpr ⟨?_, ?_⟩, rfl⟩
        · exact List.mem_map.mpr ⟨(name, p), Table.mem_of_get? hget, rfl⟩
        · simpa [hwanted] using hdescriptor

/-! ## Both loops -/

/-- What a reconciliation has made of a list of descriptors and of the sources that were there. -/
structure Applied (id : FederationId) (s : System) (ds : List SourceDescriptor) (judged : List Judged)
    (outcome : Reconciliation) (problems : Problems) (s' : System) : Prop where
  counts : judged.map Prod.fst = firsts (s.federation id).configurationSource [] ds
  added : outcome.added = namesOf (.registered false) judged
  replaced : outcome.replaced = namesOf (.registered true) judged
  unchanged : outcome.unchanged = namesOf .kept judged
  errors : Problems.errors problems = refusals judged
  managed : Managed id s s'
  concluded : ∀ j ∈ judged, Concluded id (s.current id) s j.1 j.2 s'
  nodup_removed : outcome.removed.Nodup
  removed : ∀ name, name ∈ outcome.removed ↔
    (s.descriptor? id name).isSome ∧ name ∉ judged.map (·.1.name)
  gone : ∀ name ∈ outcome.removed, s'.pool? id name = none ∧
    ∀ p, s.pool? id name = some p → (s'.depot.pool p).closed = true
  others : ∀ name, name ∉ judged.map (·.1.name) → name ∉ outcome.removed →
    s'.pool? id name = s.pool? id name
  decided : s.IsOpen id → s.Unthreatened id →
    ∀ j ∈ judged, j.2 = (s.federation id).verdict (s.current id) j.1

theorem applied_descriptors (h : Trading held s) (hid : id < s.federations.size)
    (ds : List SourceDescriptor) :
    ∃ judged, Applied id s ds judged ((applyDescriptors id ds).run s).1.1
      ((applyDescriptors id ds).run s).1.2 ((applyDescriptors id ds).run s).2 := by
  have hrun : (applyDescriptors id ds).run s =
      let looped := (ds.foldlM (reconcileOne id (s.current id)) ⟨[], .none, []⟩).run s
      let cleared := ((s.current id).foldlM (reconcileRemoval id) looped.1).run looped.2
      ((cleared.1.outcome, cleared.1.problems), cleared.2) := rfl
  rw [hrun]
  have hlooped : Ensures (Trading held) (ds.foldlM (reconcileOne id (s.current id)) ⟨[], .none, []⟩)
      fun _ => Trading held :=
    .loop (fun r d _ => lasting_trading.reconcileOne held id (s.current id) r d) _
  have hlater := hlooped s h
  obtain ⟨judged, hcounts, htally, hmanaged, hconcluded, hothers, hdecided⟩ :=
    reconciled_descriptors (r := ⟨[], .none, []⟩) h hid ds
  generalize (ds.foldlM (reconcileOne id (s.current id)) ⟨[], .none, []⟩).run s = looped
    at hlater htally hmanaged hconcluded hothers ⊢
  obtain ⟨r₁, s₁⟩ := looped
  dsimp only at hlater htally hmanaged hconcluded hothers ⊢
  have hwanted : ∀ name, name ∈ r₁.wanted ↔ name ∈ judged.map (·.1.name) := fun name => by
    rw [htally.wanted name]
    simp
  -- the second loop removes what had a descriptor and was not judged in the first one
  have hunwanted : ∀ name, name ∈ unwanted r₁.wanted (s.current id) ↔
      (s.descriptor? id name).isSome ∧ name ∉ judged.map (·.1.name) := fun name => by
    rw [h.housed.mem_unwanted, hwanted]
  obtain ⟨hr, hcleared⟩ := cleared_entries (r := r₁) hlater (h.housed.nodup_current id)
    fun name hname => by
      obtain ⟨hdescriptor, hnot⟩ := (hunwanted name).mp hname
      rw [hothers name hnot]
      rw [s.descriptor?_eq] at hdescriptor
      cases hget : s.pool? id name with
      | none =>
          rw [hget] at hdescriptor
          cases hdescriptor
      | some p => rfl
  refine ⟨judged, ?_⟩
  generalize ((s.current id).foldlM (reconcileRemoval id) r₁).run s₁ = cleared at hr hcleared ⊢
  obtain ⟨r₂, s₂⟩ := cleared
  dsimp only at hr hcleared ⊢
  subst hr
  have hremoved : r₁.outcome.removed ++ unwanted r₁.wanted (s.current id) =
      unwanted r₁.wanted (s.current id) := by
    rw [htally.removed]
    rfl
  refine ⟨hcounts, htally.added, htally.replaced, htally.unchanged, htally.errors,
    hmanaged.trans hcleared.managed, fun j hj => ?_, ?_, fun name => ?_, fun name hname => ?_,
    fun name hnot hkept => ?_, hdecided⟩
  · have hmem : j.1.name ∈ judged.map (·.1.name) := List.mem_map_of_mem hj
    have hnot : j.1.name ∉ unwanted r₁.wanted (s.current id) := fun hname =>
      ((hunwanted _).mp hname).2 hmem
    refine (hconcluded j hj).later (hlater.housed.made id _) (fun p hp => ?_) hcleared.managed
      (hcleared.others _ hnot)
    exact Nat.lt_of_lt_of_le (h.housed.made id _ p hp) hmanaged.size
  · dsimp only
    rw [hremoved]
    exact (h.housed.nodup_current id).sublist (List.filter_sublist.map _)
  · dsimp only
    rw [hremoved, hunwanted]
  · dsimp only at hname
    rw [hremoved] at hname
    have hbefore := hothers name ((hunwanted name).mp hname).2
    exact ⟨hcleared.removed name hname, fun p hp => hcleared.retired name hname p (hbefore.trans hp)⟩
  · dsimp only at hkept
    rw [hremoved] at hkept
    exact (hcleared.others name hkept).trans (hothers name hnot)

/-! ## Reading the outcome -/

section judged

variable {judged : List Judged} {j : Judged}

theorem namesOf_sublist (v : Verdict) (judged : List Judged) :
    (namesOf v judged).Sublist (judged.map (·.1.name)) :=
  List.filter_sublist.map _

/-- Each name has one verdict. -/
theorem name_mem_namesOf (hnodup : (judged.map (·.1.name)).Nodup) (hj : j ∈ judged) (v : Verdict) :
    j.1.name ∈ namesOf v judged ↔ j.2 = v := by
  unfold namesOf
  rw [List.mem_map]
  constructor
  · rintro ⟨k, hk, hname⟩
    obtain ⟨hk, hverdict⟩ := List.mem_filter.mp hk
    obtain rfl : k = j := List.inj_on_of_nodup_map hnodup hk hj hname
    exact of_decide_eq_true hverdict
  · exact fun hverdict => ⟨j, List.mem_filter.mpr ⟨hj, decide_eq_true hverdict⟩, rfl⟩

theorem refusals_not_about (h : name ∉ judged.map (·.1.name)) :
    (refusals judged).filter (·.resource == some name) = [] := by
  refine List.filter_eq_nil_iff.mpr fun p hp => ?_
  obtain ⟨j, hj, heq⟩ := List.mem_filterMap.mp hp
  have hne : j.1.name ≠ name := fun hname => h (hname ▸ List.mem_map_of_mem hj)
  cases hverdict : j.2 with
  | refused fault =>
      rw [hverdict] at heq
      obtain rfl := Option.some.inj heq
      simpa [refusal, Problem.errorAbout, Problem.causedBy] using hne
  | _ =>
      rw [hverdict] at heq
      cases heq

/-- The errors about a name are those that its verdict stands for. -/
theorem refusals_about (hnodup : (judged.map (·.1.name)).Nodup) (hj : j ∈ judged) :
    (refusals judged).filter (·.resource == some j.1.name) = refusals [j] := by
  induction judged with
  | nil => cases hj
  | cons k rest ih =>
      obtain ⟨hk, hrest⟩ := List.nodup_cons.mp hnodup
      have hsplit : refusals (k :: rest) = refusals [k] ++ refusals rest :=
        List.filterMap_append (l := [k])
      rw [hsplit, List.filter_append]
      rcases List.mem_cons.mp hj with rfl | hj
      · rw [refusals_not_about hk, List.append_nil]
        refine List.filter_eq_self.mpr fun p hp => ?_
        obtain ⟨j', hj', heq⟩ := List.mem_filterMap.mp hp
        obtain rfl := List.mem_singleton.mp hj'
        cases hverdict : j'.2 with
        | refused fault =>
            rw [hverdict] at heq
            obtain rfl := Option.some.inj heq
            simp [refusal, Problem.errorAbout, Problem.causedBy]
        | _ =>
            rw [hverdict] at heq
            cases heq
      · have hne : j.1.name ∉ [k].map (·.1.name) := by
          rw [List.map_singleton, List.mem_singleton]
          exact fun heq => hk (List.mem_map.mpr ⟨j, hj, heq⟩)
        rw [refusals_not_about hne, ih hrest hj, List.nil_append]

end judged

/-- The errors about a source. -/
def Problems.errorsAbout (problems : Problems) (name : String) : Problems :=
  (Problems.errors problems).filter (·.resource == some name)

/-- The names in the lists of an outcome. -/
def Reconciliation.mentioned (o : Reconciliation) : List String :=
  o.added ++ o.replaced ++ o.removed ++ o.unchanged

namespace Applied

variable {judged : List Judged} {outcome : Reconciliation} {problems : Problems}

theorem nodup_names (h : Applied id s ds judged outcome problems s') :
    (judged.map (·.1.name)).Nodup := by
  have hsame : judged.map (·.1.name) = (judged.map Prod.fst).map SourceDescriptor.name :=
    (List.map_map ..).symm
  rw [hsame, h.counts]
  exact nodup_firsts

/-- The descriptors on which there is a verdict are the first ones of their names. -/
theorem exists_verdict (h : Applied id s ds judged outcome problems s') :
    (∃ v, (d, v) ∈ judged) ↔ d.name ≠ (s.federation id).configurationSource ∧
      ds.find? (·.name == d.name) = some d := by
  have hmem : (∃ v, (d, v) ∈ judged) ↔ d ∈ judged.map Prod.fst := by simp
  rw [hmem, h.counts, mem_firsts]
  simp

theorem name_mem (h : Applied id s ds judged outcome problems s') :
    name ∈ judged.map (·.1.name) ↔
      name ≠ (s.federation id).configurationSource ∧ ∃ d ∈ ds, d.name = name := by
  rw [List.mem_map]
  constructor
  · rintro ⟨⟨d, v⟩, hj, rfl⟩
    obtain ⟨hname, hfind⟩ := h.exists_verdict.mp ⟨v, hj⟩
    exact ⟨hname, d, List.mem_of_find?_eq_some hfind, rfl⟩
  · rintro ⟨hname, d, hd, rfl⟩
    cases hfind : ds.find? (·.name == d.name) with
    | none => exact absurd (List.find?_eq_none.mp hfind d hd) (by simp)
    | some first =>
        have heq : first.name = d.name := by simpa using List.find?_some hfind
        obtain ⟨v, hv⟩ := h.exists_verdict.mpr ⟨heq ▸ hname, heq ▸ hfind⟩
        exact ⟨(first, v), hv, heq⟩

/-- There is a verdict on the first descriptor of each name but the configuration source's. -/
theorem verdict_mem (h : Applied id s ds judged outcome problems s') (hopen : s.IsOpen id)
    (hun : s.Unthreatened id) (hname : name ≠ (s.federation id).configurationSource)
    (hfind : ds.find? (·.name == name) = some d) :
    d.name = name ∧ (d, (s.federation id).verdict (s.current id) d) ∈ judged := by
  obtain rfl : d.name = name := by simpa using List.find?_some hfind
  obtain ⟨v, hv⟩ := h.exists_verdict.mpr ⟨hname, hfind⟩
  exact ⟨rfl, h.decided hopen hun _ hv ▸ hv⟩

theorem not_name_mem (h : Applied id s ds judged outcome problems s')
    (hnone : ds.find? (·.name == name) = none) : name ∉ judged.map (·.1.name) := fun hmem => by
  obtain ⟨-, d, hd, rfl⟩ := h.name_mem.mp hmem
  exact absurd (List.find?_eq_none.mp hnone d hd) (by simp)

theorem errorsAbout_judged (h : Applied id s ds judged outcome problems s') {v : Verdict}
    (hj : (d, v) ∈ judged) : problems.errorsAbout d.name = refusals [(d, v)] := by
  unfold Problems.errorsAbout
  rw [h.errors]
  exact refusals_about h.nodup_names hj

theorem errorsAbout_unjudged (h : Applied id s ds judged outcome problems s')
    (hnot : name ∉ judged.map (·.1.name)) : problems.errorsAbout name = [] := by
  unfold Problems.errorsAbout
  rw [h.errors]
  exact refusals_not_about hnot

/-- No name is in two lists, or in one of them twice. -/
theorem nodup_mentioned (h : Applied id s ds judged outcome problems s') : outcome.mentioned.Nodup := by
  have hnames := h.nodup_names
  have hnodup : ∀ v, (namesOf v judged).Nodup := fun v => hnames.sublist (namesOf_sublist v judged)
  have hdisjoint : ∀ {v w name}, v ≠ w → name ∈ namesOf v judged → name ∉ namesOf w judged := by
    intro v w name hne hv hw
    obtain ⟨j, hj, rfl⟩ := List.mem_map.mp ((namesOf_sublist v judged).subset hv)
    exact hne (((name_mem_namesOf hnames hj v).mp hv).symm.trans ((name_mem_namesOf hnames hj w).mp hw))
  have hremoved : ∀ {v name}, name ∈ namesOf v judged → name ∉ outcome.removed := fun hv hname =>
    ((h.removed _).mp hname).2 ((namesOf_sublist _ judged).subset hv)
  unfold Reconciliation.mentioned
  rw [h.added, h.replaced, h.unchanged]
  refine List.nodup_append'.mpr ⟨List.nodup_append'.mpr ⟨List.nodup_append'.mpr
    ⟨hnodup _, hnodup _, fun name => hdisjoint (by decide)⟩, h.nodup_removed, fun name hname => ?_⟩,
    hnodup _, fun name hname hkept => ?_⟩
  · exact (List.mem_append.mp hname).elim hremoved hremoved
  · rcases List.mem_append.mp hname with hname | hname
    · rcases List.mem_append.mp hname with hadded | hreplaced
      · exact hdisjoint (by decide) hadded hkept
      · exact hdisjoint (by decide) hreplaced hkept
    · exact hremoved hkept hname

/-- A verdict that is neither of the three puts a name into no list. -/
theorem not_mentioned (h : Applied id s ds judged outcome problems s')
    (hverdict : ∀ v, (∃ d, (d, v) ∈ judged ∧ d.name = name) → ∃ fault, v = .refused fault)
    (hremoved : name ∉ outcome.removed) : name ∉ outcome.mentioned := by
  have hnot : ∀ v, (∀ fault, v ≠ .refused fault) → name ∉ namesOf v judged := by
    intro v hv hname
    obtain ⟨⟨d, w⟩, hj, rfl⟩ := List.mem_map.mp ((namesOf_sublist v judged).subset hname)
    obtain rfl : w = v := (name_mem_namesOf h.nodup_names hj v).mp hname
    obtain ⟨fault, heq⟩ := hverdict w ⟨d, hj, rfl⟩
    exact hv fault heq
  unfold Reconciliation.mentioned
  rw [h.added, h.replaced, h.unchanged]
  simp only [List.mem_append, not_or]
  exact ⟨⟨⟨hnot _ nofun, hnot _ nofun⟩, hremoved⟩, hnot _ nofun⟩

end Applied

/-! ## One name -/

/-- A source is served as before, if it is: by the same pool, which is open and has changed only in what
is idle in it. -/
def ServedAsBefore (id : FederationId) (s s' : System) (name : String) : Prop :=
  s'.pool? id name = s.pool? id name ∧ ∀ p, s.pool? id name = some p →
    (s.depot.pool p).Tended (s'.depot.pool p) ∧ (s'.depot.pool p).closed = false

/-- What a reconciliation does to the source of a name, which depends on the first descriptor of that
name in the list and on the descriptor that the source has. -/
structure Fate (id : FederationId) (s : System) (ds : List SourceDescriptor) (name : String)
    (outcome : Reconciliation) (errors : Problems) (s' : System) : Prop where
  /-- The source has that descriptor already. -/
  kept : ∀ d existing, ds.find? (·.name == name) = some d → s.descriptor? id name = some existing →
    existing.same d = true →
    ServedAsBefore id s s' name ∧ (s'.pool? id name).isSome ∧ name ∈ outcome.unchanged ∧ errors = []
  /-- The source is registered with that descriptor, in place of another one or not. -/
  registered : ∀ d, ds.find? (·.name == name) = some d →
    (∀ existing, s.descriptor? id name = some existing → existing.same d = false) →
    ((registerSource id d).run s).1 = .ok () →
    Renewed id s s' d ∧ (∀ p, s'.pool? id name = some p → (s'.depot.pool p).closed = false) ∧
      (if (s.pool? id name).isSome then name ∈ outcome.replaced else name ∈ outcome.added) ∧
      errors = []
  /-- The source cannot be registered. -/
  refused : ∀ d fault, ds.find? (·.name == name) = some d →
    (∀ existing, s.descriptor? id name = some existing → existing.same d = false) →
    ((registerSource id d).run s).1 = .error fault →
    ServedAsBefore id s s' name ∧ name ∉ outcome.mentioned ∧ errors = [refusal name fault]
  /-- There is no such descriptor any more. -/
  removed : ds.find? (·.name == name) = none → (s.descriptor? id name).isSome →
    s'.pool? id name = none ∧
      (∀ p, s.pool? id name = some p → (s'.depot.pool p).closed = true) ∧
      name ∈ outcome.removed ∧ errors = []
  /-- There is no such descriptor, and never was. -/
  absent : ds.find? (·.name == name) = none → s.descriptor? id name = none →
    ServedAsBefore id s s' name ∧ name ∉ outcome.mentioned ∧ errors = []

theorem verdict_of_current {f : Federation} {existing : SourceDescriptor}
    (hcurrent : s.descriptor? id d.name = some existing) (hsame : existing.same d = true) :
    f.verdict (s.current id) d = .kept := by
  unfold Federation.verdict
  rw [if_pos ((s.isCurrent_current id d).mpr ⟨existing, hcurrent, hsame⟩)]

theorem verdict_of_registration {f : Federation}
    (hnew : ∀ existing, s.descriptor? id d.name = some existing → existing.same d = false) :
    f.verdict (s.current id) d =
      match f.registration d with
      | .ok () => .registered (s.pool? id d.name).isSome
      | .error fault => .refused fault := by
  have hnot : ¬isCurrent (s.current id) d = true := fun hcurrent => by
    obtain ⟨existing, hexisting, hsame⟩ := (s.isCurrent_current id d).mp hcurrent
    exact Bool.false_ne_true ((hnew existing hexisting).symm.trans hsame)
  unfold Federation.verdict
  rw [if_neg hnot]
  cases f.registration d with
  | ok _ => exact congrArg Verdict.registered (s.contains_current id d.name)
  | error _ => rfl

section fates

variable {judged : List Judged} {outcome : Reconciliation} {problems : Problems}

/-- A name on which there is no verdict. -/
theorem Applied.fate_unjudged (h : Applied id s ds judged outcome problems s')
    (hserved : ∀ name, s'.pool? id name = s.pool? id name → ServedAsBefore id s s' name)
    (hnot : name ∉ judged.map (·.1.name)) :
    ((s.descriptor? id name).isSome → s'.pool? id name = none ∧
      (∀ p, s.pool? id name = some p → (s'.depot.pool p).closed = true) ∧
      name ∈ outcome.removed ∧ problems.errorsAbout name = []) ∧
    (s.descriptor? id name = none → ServedAsBefore id s s' name ∧ name ∉ outcome.mentioned ∧
      problems.errorsAbout name = []) := by
  have herrors := h.errorsAbout_unjudged hnot
  refine ⟨fun hdescriptor => ?_, fun hdescriptor => ?_⟩
  · have hremoved := (h.removed name).mpr ⟨hdescriptor, hnot⟩
    obtain ⟨hnone, hclosed⟩ := h.gone name hremoved
    exact ⟨hnone, hclosed, hremoved, herrors⟩
  · have hremoved : name ∉ outcome.removed := fun hname => by
      obtain ⟨hsome, -⟩ := (h.removed name).mp hname
      rw [hdescriptor] at hsome
      cases hsome
    refine ⟨hserved name (h.others name hnot hremoved), ?_, herrors⟩
    refine h.not_mentioned (fun v hv => ?_) hremoved
    obtain ⟨d, hj, rfl⟩ := hv
    exact absurd (List.mem_map_of_mem hj) hnot

end fates

/-- A reconciliation decides the fate of each name but the configuration source's, and lists no name
twice. -/
theorem fates_applied (h : Trading held s) (hid : id < s.federations.size)
    (hopen : s.IsOpen id) (hun : s.Unthreatened id) (ds : List SourceDescriptor) :
    let r := (applyDescriptors id ds).run s
    r.1.1.mentioned.Nodup ∧ ∀ name, name ≠ (s.federation id).configurationSource →
      Fate id s ds name r.1.1 (r.1.2.errorsAbout name) r.2 := by
  obtain ⟨judged, happlied⟩ := applied_descriptors h hid ds
  have hlater := lasting_trading.applyDescriptors held id ds s h
  change Trading held ((applyDescriptors id ds).run s).2 at hlater
  have hregistration : ∀ d, ((registerSource id d).run s).1 = (s.federation id).registration d :=
    fun d => (registering_registerSource h hid d).2 hopen hun
  dsimp only
  generalize (applyDescriptors id ds).run s = applied at happlied hlater ⊢
  obtain ⟨⟨outcome, problems⟩, s'⟩ := applied
  dsimp only at happlied hlater ⊢
  have hstays : s'.IsOpen id := happlied.managed.isOpen hun hopen
  have hopened := hlater.housed.opened id hstays
  have hserved : ∀ name, s'.pool? id name = s.pool? id name → ServedAsBefore id s s' name :=
    fun name hsame => ⟨hsame, fun p hp =>
      ⟨happlied.managed.pools p (h.housed.made id name p hp), hopened name p (hsame.trans hp)⟩⟩
  refine ⟨happlied.nodup_mentioned, fun name hname => ?_⟩
  constructor
  case kept =>
    intro d existing hfind hcurrent hsame
    obtain ⟨rfl, hj⟩ := happlied.verdict_mem hopen hun hname hfind
    rw [verdict_of_current hcurrent hsame] at hj
    have hpool : s'.pool? id d.name = s.pool? id d.name := (happlied.concluded _ hj).same rfl
    refine ⟨hserved d.name hpool, ?_, ?_, happlied.errorsAbout_judged hj⟩
    · rw [s.descriptor?_eq] at hcurrent
      obtain ⟨p, hp, -⟩ := Option.bind_eq_some_iff.mp hcurrent
      rw [hpool, hp]
      rfl
    · rw [happlied.unchanged]
      exact (name_mem_namesOf happlied.nodup_names hj _).mpr rfl
  case registered =>
    intro d hfind hnew hanswer
    obtain ⟨rfl, hj⟩ := happlied.verdict_mem hopen hun hname hfind
    rw [verdict_of_registration hnew, ← hregistration, hanswer] at hj
    refine ⟨(happlied.concluded _ hj).renewed rfl, hopened d.name, ?_, happlied.errorsAbout_judged hj⟩
    split
    · rename_i hexisted
      rw [happlied.replaced]
      exact (name_mem_namesOf happlied.nodup_names hj _).mpr (congrArg Verdict.registered hexisted)
    · rename_i hexisted
      rw [happlied.added]
      exact (name_mem_namesOf happlied.nodup_names hj _).mpr
        (congrArg Verdict.registered (Bool.eq_false_iff.mpr hexisted))
  case refused =>
    intro d fault hfind hnew hanswer
    obtain ⟨rfl, hj⟩ := happlied.verdict_mem hopen hun hname hfind
    rw [verdict_of_registration hnew, ← hregistration, hanswer] at hj
    have hmem : d.name ∈ judged.map (·.1.name) := List.mem_map_of_mem hj
    refine ⟨hserved d.name ((happlied.concluded _ hj).same rfl), ?_, happlied.errorsAbout_judged hj⟩
    have hkept : d.name ∉ outcome.removed := fun hremoved =>
      ((happlied.removed _).mp hremoved).2 hmem
    refine happlied.not_mentioned (fun v hv => ?_) hkept
    obtain ⟨d', hj', hname'⟩ := hv
    have heq := List.inj_on_of_nodup_map happlied.nodup_names hj' hj hname'
    exact ⟨fault, (Prod.mk.inj heq).2⟩
  case removed =>
    exact fun hnone => (happlied.fate_unjudged hserved (happlied.not_name_mem hnone)).1
  case absent =>
    exact fun hnone => (happlied.fate_unjudged hserved (happlied.not_name_mem hnone)).2

/-! ## Once more -/

section again

variable {judged : List Judged} {outcome : Reconciliation} {problems : Problems}

/-- The configuration source has no descriptor after a reconciliation. -/
theorem Applied.configurationSource_bare (h : Applied id s ds judged outcome problems s')
    (hpools : ∀ name p, s.pool? id name = some p → p < s.depot.pools.size) :
    s'.descriptor? id (s.federation id).configurationSource = none := by
  have hnot : (s.federation id).configurationSource ∉ judged.map (·.1.name) := fun hmem =>
    (h.name_mem.mp hmem).1 rfl
  by_cases hremoved : (s.federation id).configurationSource ∈ outcome.removed
  · rw [s'.descriptor?_eq, (h.gone _ hremoved).1]
    rfl
  · have hsame := h.others _ hnot hremoved
    rw [s'.descriptor?_eq, hsame]
    cases hp : s.pool? id (s.federation id).configurationSource with
    | none => rfl
    | some p =>
        rw [Option.bind_some, (h.managed.pools p (hpools _ p hp)).descriptor]
        refine Option.eq_none_iff_forall_ne_some.mpr fun d hd => hremoved ((h.removed _).mpr ⟨?_, hnot⟩)
        rw [s.descriptor?_eq, hp, Option.bind_some, hd]
        rfl

/-- The descriptor of a source that is served as before. -/
theorem ServedAsBefore.descriptor?_eq (h : ServedAsBefore id s s' name) :
    s'.descriptor? id name = s.descriptor? id name := by
  obtain ⟨hpool, htended⟩ := h
  rw [s'.descriptor?_eq, s.descriptor?_eq, hpool]
  cases hp : s.pool? id name with
  | none => rfl
  | some p => exact (htended p hp).1.descriptor

theorem Renewed.descriptor?_eq (h : Renewed id s s' d) : s'.descriptor? id d.name = some d := by
  obtain ⟨⟨p, hp, -, hdescriptor⟩, -⟩ := h
  rw [s'.descriptor?_eq, hp, Option.bind_some, hdescriptor]

/-- What was decided once is not decided otherwise the next time: descriptors that could be registered
are kept, and the others cannot be registered again. -/
theorem Fate.verdict_again {errors : Problems} (h : Fate id s ds d.name outcome errors s')
    (hmanaged : Managed id s s')
    (hregistration : ((registerSource id d).run s).1 = (s.federation id).registration d)
    (hfind : ds.find? (·.name == d.name) = some d) (existed : Bool) :
    (s'.federation id).verdict (s'.current id) d ≠ .registered existed := by
  by_cases hcurrent : ∃ existing, s.descriptor? id d.name = some existing ∧ existing.same d = true
  · obtain ⟨existing, hexisting, hsame⟩ := hcurrent
    have hserved := (h.kept d existing hfind hexisting hsame).1
    rw [verdict_of_current (hserved.descriptor?_eq.trans hexisting) hsame]
    nofun
  · have hnew : ∀ existing, s.descriptor? id d.name = some existing → existing.same d = false :=
      fun existing hexisting => Bool.eq_false_iff.mpr fun hsame => hcurrent ⟨existing, hexisting, hsame⟩
    cases hanswer : (s.federation id).registration d with
    | ok _ =>
        have hrenewed := (h.registered d hfind hnew (hregistration.trans hanswer)).1
        rw [verdict_of_current hrenewed.descriptor?_eq d.same_refl]
        nofun
    | error fault =>
        have hserved := (h.refused d fault hfind hnew (hregistration.trans hanswer)).1
        rw [verdict_of_registration fun existing hexisting =>
          hnew existing (hserved.descriptor?_eq.symm.trans hexisting), hmanaged.registration, hanswer]
        nofun

end again

theorem Trading.withSource : Trading [] .withSource :=
  .registerConnector 0 "docs" ⟨.own .new, .plain⟩
    (.addFederation "engine" "config" 0 .connectors 2 1 .start)

theorem System.unthreatened_withSource (id : FederationId) : System.withSource.Unthreatened id := by
  intro e _
  rw [System.withSource.engine_out (Nat.zero_le e)]
  rfl

/-- A reconciliation of an open federation, of which no engine is closing, decides the fate of each name
but the configuration source's, and lists no name twice.  The same descriptors once more change
nothing. -/
theorem descriptors_applied (h : Trading held s) (hid : id < s.federations.size)
    (hopen : s.IsOpen id) (hun : s.Unthreatened id) (ds : List SourceDescriptor) :
    let r := (applyDescriptors id ds).run s
    r.1.1.mentioned.Nodup ∧
      (∀ name, name ≠ (s.federation id).configurationSource →
        Fate id s ds name r.1.1 (r.1.2.errorsAbout name) r.2) ∧
      ((applyDescriptors id ds).run r.2).1.1.isEmpty = true := by
  obtain ⟨judged, happlied⟩ := applied_descriptors h hid ds
  have hhoused := h.housed
  have hlater := lasting_trading.applyDescriptors held id ds s h
  change Trading held ((applyDescriptors id ds).run s).2 at hlater
  obtain ⟨hnodup, hfates⟩ := fates_applied h hid hopen hun ds
  refine ⟨hnodup, hfates, ?_⟩
  generalize (applyDescriptors id ds).run s = applied at happlied hlater hfates ⊢
  obtain ⟨⟨outcome, problems⟩, s'⟩ := applied
  dsimp only at happlied hlater hfates ⊢
  have hmanaged := happlied.managed
  obtain ⟨again, hagain⟩ := applied_descriptors hlater (hmanaged.federations ▸ hid) ds
  generalize (applyDescriptors id ds).run s' = applied' at hagain ⊢
  obtain ⟨⟨outcome', problems'⟩, s''⟩ := applied'
  dsimp only at hagain ⊢
  -- the second time no descriptor is registered, and there is nothing left to be removed
  have hnone : ∀ existed, namesOf (.registered existed) again = [] := by
    refine fun existed => List.map_eq_nil_iff.mpr (List.filter_eq_nil_iff.mpr fun j hj => ?_)
    obtain ⟨hname, hfind⟩ := hagain.exists_verdict.mp ⟨j.2, hj⟩
    rw [hmanaged.configurationSource] at hname
    rw [decide_eq_true_iff, hagain.decided (hmanaged.isOpen hun hopen)
      (hmanaged.engines.unthreatened hun) j hj]
    exact (hfates j.1.name hname).verdict_again hmanaged
      ((registering_registerSource h hid j.1).2 hopen hun) hfind existed
  have hremoved : outcome'.removed = [] := by
    refine List.eq_nil_iff_forall_not_mem.mpr fun name hmem => ?_
    obtain ⟨hdescriptor, hunjudged⟩ := (hagain.removed name).mp hmem
    suffices hbare : s'.descriptor? id name = none by
      rw [hbare] at hdescriptor
      cases hdescriptor
    by_cases hname : name = (s.federation id).configurationSource
    · rw [hname]
      exact happlied.configurationSource_bare (hhoused.made id)
    · have hfind : ds.find? (·.name == name) = none := by
        refine List.find?_eq_none.mpr fun d hd heq => hunjudged (hagain.name_mem.mpr ⟨?_, d, hd, ?_⟩)
        · rwa [hmanaged.configurationSource]
        · simpa using heq
      cases hbefore : s.descriptor? id name with
      | none => exact ((hfates name hname).absent hfind hbefore).1.descriptor?_eq.trans hbefore
      | some d =>
          have hgone := ((hfates name hname).removed hfind (hbefore ▸ rfl)).1
          rw [s'.descriptor?_eq, hgone]
          rfl
  unfold Reconciliation.isEmpty
  rw [hagain.added, hagain.replaced, hnone, hnone, hremoved]
  rfl

/-- Beside a source that was handed over, one of two descriptors of a new name is registered. -/
theorem descriptors_applied_twice :
    let files : SourceDescriptor := ⟨"files", "memory", [], []⟩
    let r := (applyDescriptors 0 [files, { files with connectorType := "other" }]).run .withSource
    r.1.1.added = ["files"] ∧ r.1.1.mentioned.Nodup ∧ Renewed 0 .withSource r.2 files ∧
      ServedAsBefore 0 .withSource r.2 "docs" := by
  intro files r
  have hopen : System.withSource.IsOpen 0 := rfl
  obtain ⟨hnodup, hfate, -⟩ := descriptors_applied .withSource (by decide) hopen
    (System.unthreatened_withSource 0) [files, { files with connectorType := "other" }]
  refine ⟨by decide, hnodup, ?_, ((hfate "docs" (by decide)).absent rfl rfl).1⟩
  exact ((hfate "files" (by decide)).registered files rfl nofun rfl).1

end ContentEngine
