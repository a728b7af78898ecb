import ContentEngine.Proofs.Run.Registering

/-!
# Reconciling one descriptor after the other

A reconciliation goes through a list of descriptors, of which the first of each name counts, and then
through the sources that were there before.  Each descriptor that counts ends in a `Verdict`, and the
lists and errors of the outcome are read off the verdicts.

## Strategy

Both loops change one source at a time and leave the others as they are.  What a step finds about its
own name is therefore what was there in the beginning, and what it leaves is there in the end: the
inductions carry `Managed` along and compare each name with the system in which the loop began.
-/

namespace ContentEngine

variable {held : List Stake} {s s' s'' : System} {id : FederationId} {name : String}
  {current : Table String (Option SourceDescriptor)} {d : SourceDescriptor} {r : Reconciling}

/-! ## Descriptors that count -/

/-- The descriptors that count: the first of each name that is neither the configuration source's nor
wanted already. -/
def firsts (configuration : String) (wanted : List String) :
    List SourceDescriptor → List SourceDescriptor
  | [] => []
  | d :: rest =>
    if d.name = configuration ∨ d.name ∈ wanted then firsts configuration wanted rest
    else d :: firsts configuration (d.name :: wanted) rest

section firsts

variable {configuration : String} {wanted : List String} {ds : List SourceDescriptor}

theorem mem_firsts : d ∈ firsts configuration wanted ds ↔
    d.name ≠ configuration ∧ d.name ∉ wanted ∧ ds.find? (·.name == d.name) = some d := by
  induction ds generalizing wanted with
  | nil => simp [firsts]
  | cons first rest ih =>
      unfold firsts
      by_cases hname : first.name = d.name
      · by_cases hskip : first.name = configuration ∨ first.name ∈ wanted
        · rw [if_pos hskip, ih]
          rw [hname] at hskip
          constructor
          · exact fun ⟨hc, hw, _⟩ => (hskip.elim hc hw).elim
          · exact fun ⟨hc, hw, _⟩ => (hskip.elim hc hw).elim
        · rw [if_neg hskip, List.mem_cons, ih, List.find?_cons_of_pos (by simpa using hname)]
          rw [hname] at hskip
          constructor
          · rintro (heq | ⟨-, hw, -⟩)
            · exact ⟨fun hc => hskip (.inl hc), fun hw => hskip (.inr hw), by rw [heq]⟩
            · exact absurd (List.mem_cons.mpr (.inl hname.symm)) hw
          · exact fun ⟨_, _, heq⟩ => .inl (Option.some.inj heq).symm
      · have hrest : ∀ wanted, (d.name ∉ first.name :: wanted ↔ d.name ∉ wanted) := fun wanted => by
          simp [Ne.symm hname]
        rw [List.find?_cons_of_neg (by simpa using hname)]
        split
        · exact ih
        · rw [List.mem_cons, ih, hrest]
          constructor
          · rintro (heq | h)
            · exact absurd (congrArg SourceDescriptor.name heq.symm) hname
            · exact h
          · exact .inr

theorem nodup_firsts : ((firsts configuration wanted ds).map SourceDescriptor.name).Nodup := by
  induction ds generalizing wanted with
  | nil => exact .nil
  | cons first rest ih =>
      unfold firsts
      split
      · exact ih
      · rw [List.map_cons, List.nodup_cons]
        refine ⟨fun hmem => ?_, ih⟩
        obtain ⟨d, hd, heq⟩ := List.mem_map.mp hmem
        exact (mem_firsts.mp hd).2.1 (heq ▸ List.mem_cons_self)

end firsts

/-! ## Verdicts -/

/-- What becomes of a descriptor that counts. -/
inductive Verdict where
  | kept
  /-- Its source was registered, in place of another one or not. -/
  | registered (existed : Bool)
  | refused (fault : Fault)
  deriving DecidableEq

/-- The error about a source that could not be registered. -/
def refusal (name : String) (fault : Fault) : Problem :=
  (Problem.errorAbout name "Unable to register source '\x7b\x7d'" [name]).causedBy fault.message

/-- The reconciliation after a verdict on a name. -/
def Reconciling.conclude (r : Reconciling) (name : String) : Verdict → Reconciling
  | .kept => (r.want name).keep name
  | .registered existed => (r.want name).registered name existed
  | .refused fault => (r.want name).refused name fault

/-- A descriptor and what became of it. -/
abbrev Judged := SourceDescriptor × Verdict

/-- The names on which a verdict was given. -/
def namesOf (verdict : Verdict) (judged : List Judged) : List String :=
  (judged.filter (·.2 = verdict)).map (·.1.name)

/-- The errors that the verdicts stand for. -/
def refusals (judged : List Judged) : Problems :=
  judged.filterMap fun j =>
    match j.2 with
    | .refused fault => some (refusal j.1.name fault)
    | .kept | .registered _ => none

/-- A reconciliation after some verdicts. -/
structure Tally (r : Reconciling) (judged : List Judged) (r' : Reconciling) : Prop where
  wanted : ∀ name, name ∈ r'.wanted ↔ name ∈ r.wanted ∨ name ∈ judged.map (·.1.name)
  added : r'.outcome.added = r.outcome.added ++ namesOf (.registered false) judged
  replaced : r'.outcome.replaced = r.outcome.replaced ++ namesOf (.registered true) judged
  removed : r'.outcome.removed = r.outcome.removed
  unchanged : r'.outcome.unchanged = r.outcome.unchanged ++ namesOf .kept judged
  errors : Problems.errors r'.problems = Problems.errors r.problems ++ refusals judged

@[simp] theorem namesOf_append (verdict : Verdict) (judged judged' : List Judged) :
    namesOf verdict (judged ++ judged') = namesOf verdict judged ++ namesOf verdict judged' := by
  simp [namesOf]

@[simp] theorem refusals_append (judged judged' : List Judged) :
    refusals (judged ++ judged') = refusals judged ++ refusals judged' :=
  List.filterMap_append

@[simp] theorem Reconciling.wanted_conclude (r : Reconciling) (name : String) (v : Verdict) :
    (r.conclude name v).wanted = name :: r.wanted := by
  cases v with
  | registered existed => cases existed <;> rfl
  | _ => rfl

theorem Tally.nil (r : Reconciling) : Tally r [] r := by
  constructor <;> simp [namesOf, refusals]

theorem Tally.trans {judged judged' : List Judged} {r' r'' : Reconciling} (h : Tally r judged r')
    (h' : Tally r' judged' r'') : Tally r (judged ++ judged') r'' where
  wanted name := by rw [h'.wanted, h.wanted, List.map_append, List.mem_append, or_assoc]
  added := by rw [h'.added, h.added, namesOf_append, List.append_assoc]
  replaced := by rw [h'.replaced, h.replaced, namesOf_append, List.append_assoc]
  removed := h'.removed.trans h.removed
  unchanged := by rw [h'.unchanged, h.unchanged, namesOf_append, List.append_assoc]
  errors := by rw [h'.errors, h.errors, refusals_append, List.append_assoc]

/-- A descriptor of the configuration source is passed over with a warning. -/
theorem Tally.passOver {judged : List Judged} {r' : Reconciling}
    (h : Tally (r.passOver name) judged r') : Tally r judged r' where
  wanted := h.wanted
  added := h.added
  replaced := h.replaced
  removed := h.removed
  unchanged := h.unchanged
  errors := by
    rw [h.errors]
    simp [Problems.errors, Reconciling.passOver, Problem.warningAbout, Problem.isError]

/-- A verdict puts the name into the list that it belongs to. -/
theorem Tally.conclude (r : Reconciling) (d : SourceDescriptor) (v : Verdict) :
    Tally r [(d, v)] (r.conclude d.name v) := by
  have hwanted : ∀ name, name ∈ (r.conclude d.name v).wanted ↔
      name ∈ r.wanted ∨ name ∈ [(d, v)].map (·.1.name) := fun name => by
    simp [or_comm]
  cases v with
  | kept =>
      refine ⟨hwanted, ?_, ?_, rfl, rfl, ?_⟩ <;>
        simp [namesOf, refusals, Reconciling.conclude, Reconciling.keep, Reconciling.want]
  | registered existed =>
      cases existed <;> refine ⟨hwanted, ?_, ?_, rfl, ?_, ?_⟩ <;>
        simp [namesOf, refusals, Reconciling.conclude, Reconciling.registered, Reconciling.want]
  | refused fault =>
      have hrefusal : (refusal d.name fault).isError = true := rfl
      refine ⟨hwanted, ?_, ?_, rfl, ?_, ?_⟩
      · simp [namesOf, Reconciling.conclude, Reconciling.refused, Reconciling.want]
      · simp [namesOf, Reconciling.conclude, Reconciling.refused, Reconciling.want]
      · simp [namesOf, Reconciling.conclude, Reconciling.refused, Reconciling.want]
      · exact (List.filter_append ..).trans (congrArg _ (List.filter_cons_of_pos hrefusal))

/-! ## One descriptor -/

/-- Whether a verdict is that the source was registered. -/
def Verdict.isRegistered : Verdict → Bool
  | .registered _ => true
  | .kept | .refused _ => false

/-- What a verdict on a descriptor says about its source, in the system in which the descriptor is
looked at and in a later one. -/
structure Concluded (id : FederationId) (current : Table String (Option SourceDescriptor)) (s : System)
    (d : SourceDescriptor) (v : Verdict) (s' : System) : Prop where
  kept : v = .kept ↔ isCurrent current d = true
  existed : ∀ existed, v = .registered existed → existed = Table.contains current d.name
  renewed : v.isRegistered = true → Renewed id s s' d
  same : v.isRegistered = false → s'.pool? id d.name = s.pool? id d.name

/-- The verdict on a descriptor if the federation is open and no engine is closing. -/
def Federation.verdict (f : Federation) (current : Table String (Option SourceDescriptor))
    (d : SourceDescriptor) : Verdict :=
  if isCurrent current d then .kept
  else
    match f.registration d with
    | .ok () => .registered (Table.contains current d.name)
    | .error fault => .refused fault

/-- Later changes of other sources do not touch a verdict. -/
theorem Concluded.later {v : Verdict} (h : Concluded id current s d v s')
    (hmade : ∀ p, s'.pool? id d.name = some p → p < s'.depot.pools.size)
    (hmade₀ : ∀ p, s.pool? id d.name = some p → p < s'.depot.pools.size)
    (hmanaged : Managed id s' s'') (hsame : s''.pool? id d.name = s'.pool? id d.name) :
    Concluded id current s d v s'' where
  kept := h.kept
  existed := h.existed
  renewed hv := by
    obtain ⟨⟨p, hp, hnew, hdescriptor⟩, hretired⟩ := h.renewed hv
    refine ⟨⟨p, hsame.trans hp, hnew, ?_⟩, fun old hold => ?_⟩
    · rw [(hmanaged.pools p (hmade p hp)).descriptor, hdescriptor]
    · exact (hmanaged.pools old (hmade₀ old hold)).closed (hretired old hold)
  same hv := hsame.trans (h.same hv)

/-- Changes of other sources before a descriptor was looked at do not touch the verdict. -/
theorem Concluded.before {v : Verdict} (h : Concluded id current s' d v s'')
    (hmanaged : Managed id s s') (hsame : s'.pool? id d.name = s.pool? id d.name) :
    Concluded id current s d v s'' where
  kept := h.kept
  existed := h.existed
  renewed hv := by
    obtain ⟨⟨p, hp, hnew, hdescriptor⟩, hretired⟩ := h.renewed hv
    exact ⟨⟨p, hp, Nat.le_trans hmanaged.size hnew, hdescriptor⟩, fun old hold =>
      hretired old (hsame.trans hold)⟩
  same hv := (h.same hv).trans hsame

theorem reconcileOne_passOver (hname : d.name = (s.federation id).configurationSource) :
    (reconcileOne id current r d).run s = (r.passOver d.name, s) := by
  unfold reconcileOne
  rw [fromSystem_bind, if_pos hname]
  rfl

theorem reconcileOne_skip (hname : d.name ≠ (s.federation id).configurationSource)
    (hwanted : d.name ∈ r.wanted) : (reconcileOne id current r d).run s = (r, s) := by
  unfold reconcileOne
  rw [fromSystem_bind, if_neg hname, if_pos (List.contains_iff_mem.mpr hwanted)]
  rfl

/-- The second system comes of the verdict on one descriptor in the first. -/
structure Judging (id : FederationId) (current : Table String (Option SourceDescriptor)) (s : System)
    (d : SourceDescriptor) (v : Verdict) (s' : System) : Prop where
  managed : Managed id s s'
  concluded : Concluded id current s d v s'
  others : ∀ name, name ≠ d.name → s'.pool? id name = s.pool? id name
  decided : s.IsOpen id → s.Unthreatened id → v = (s.federation id).verdict current d

/-- What becomes of a descriptor that counts. -/
theorem reconcileOne_counts (h : Trading held s) (hid : id < s.federations.size)
    (hname : d.name ≠ (s.federation id).configurationSource) (hwanted : d.name ∉ r.wanted) :
    ∃ v, ((reconcileOne id current r d).run s).1 = r.conclude d.name v ∧
      Judging id current s d v ((reconcileOne id current r d).run s).2 := by
  unfold reconcileOne
  rw [fromSystem_bind, if_neg hname, if_neg (mt List.contains_iff_mem.mp hwanted)]
  dsimp only
  cases hcurrent : isCurrent current d with
  | true =>
      have hverdict : (s.federation id).verdict current d = .kept := if_pos hcurrent
      refine ⟨.kept, rfl, .refl id s, ⟨?_, nofun, nofun, fun _ => rfl⟩, fun _ _ => rfl,
        fun _ _ => hverdict.symm⟩
      exact ⟨fun _ => hcurrent, fun _ => rfl⟩
  | false =>
      rw [if_neg Bool.false_ne_true, run_bind]
      obtain ⟨hregistering, hanswer⟩ := registering_registerSource h hid d
      generalize (registerSource id d).run s = answered at hregistering hanswer ⊢
      obtain ⟨answer, s'⟩ := answered
      obtain ⟨hmanaged, hothers, haccepted, hrefused⟩ := hregistering
      have hnot : isCurrent current d ≠ true := by simp [hcurrent]
      cases answer with
      | ok _ =>
          refine ⟨.registered (Table.contains current d.name), rfl, hmanaged, ?_, hothers,
            fun hopen hun => ?_⟩
          · exact ⟨⟨nofun, fun hc => absurd hc hnot⟩, fun _ heq => (Verdict.registered.inj heq).symm,
              fun _ => haccepted rfl, nofun⟩
          · rw [Federation.verdict, if_neg hnot, ← hanswer hopen hun]
      | error fault =>
          refine ⟨.refused fault, rfl, hmanaged, ?_, hothers, fun hopen hun => ?_⟩
          · exact ⟨⟨nofun, fun hc => absurd hc hnot⟩, nofun, nofun, fun _ => hrefused nofun⟩
          · rw [Federation.verdict, if_neg hnot, ← hanswer hopen hun]

/-! ## All descriptors -/

/-- What a reconciliation has made of a list of descriptors. -/
structure Reconciled (id : FederationId) (current : Table String (Option SourceDescriptor))
    (r : Reconciling) (s : System) (ds : List SourceDescriptor) (judged : List Judged)
    (r' : Reconciling) (s' : System) : Prop where
  counts : judged.map Prod.fst = firsts (s.federation id).configurationSource r.wanted ds
  tally : Tally r judged r'
  managed : Managed id s s'
  concluded : ∀ j ∈ judged, Concluded id current s j.1 j.2 s'
  others : ∀ name, name ∉ judged.map (·.1.name) → s'.pool? id name = s.pool? id name
  decided : s.IsOpen id → s.Unthreatened id →
    ∀ j ∈ judged, j.2 = (s.federation id).verdict current j.1

/-- The names of the descriptors behind one that counts are other ones, so neither do they touch its
verdict, nor does it touch theirs. -/
theorem Reconciled.cons {s₁ : System} {v : Verdict} {ds : List SourceDescriptor}
    {judged : List Judged} {r' : Reconciling} (hhoused : Housed s) (hhoused₁ : Housed s₁)
    (hname : d.name ≠ (s.federation id).configurationSource) (hwanted : d.name ∉ r.wanted)
    (hjudging : Judging id current s d v s₁)
    (hrest : Reconciled id current (r.conclude d.name v) s₁ ds judged r' s') :
    Reconciled id current r s (d :: ds) ((d, v) :: judged) r' s' := by
  have hcounts : judged.map Prod.fst =
      firsts (s.federation id).configurationSource (d.name :: r.wanted) ds := by
    rw [hrest.counts, hjudging.managed.configurationSource, Reconciling.wanted_conclude]
  have hfresh : ∀ j ∈ judged, j.1.name ≠ d.name := fun j hj heq => by
    have hmem : j.1 ∈ judged.map Prod.fst := List.mem_map_of_mem hj
    rw [hcounts] at hmem
    exact (mem_firsts.mp hmem).2.1 (heq ▸ List.mem_cons_self)
  have hlater : s'.pool? id d.name = s₁.pool? id d.name := hrest.others d.name fun hmem => by
    obtain ⟨j, hj, heq⟩ := List.mem_map.mp hmem
    exact hfresh j hj heq
  refine ⟨?_, (Tally.conclude r d v).trans hrest.tally, hjudging.managed.trans hrest.managed,
    fun j hj => ?_, fun name hnot => ?_, fun hopen hun j hj => ?_⟩
  · rw [List.map_cons, hcounts, firsts, if_neg (not_or.mpr ⟨hname, hwanted⟩)]
  · rcases List.mem_cons.mp hj with rfl | hj
    · have hmade : ∀ p, s.pool? id d.name = some p → p < s₁.depot.pools.size := fun p hp =>
        Nat.lt_of_lt_of_le (hhoused.made id d.name p hp) hjudging.managed.size
      exact hjudging.concluded.later (hhoused₁.made id d.name) hmade hrest.managed hlater
    · exact (hrest.concluded j hj).before hjudging.managed (hjudging.others _ (hfresh j hj))
  · rw [List.map_cons, List.mem_cons, not_or] at hnot
    exact (hrest.others name hnot.2).trans (hjudging.others name hnot.1)
  · rcases List.mem_cons.mp hj with rfl | hj
    · exact hjudging.decided hopen hun
    · rw [hrest.decided (hjudging.managed.isOpen hun hopen)
        (hjudging.managed.engines.unthreatened hun) j hj]
      unfold Federation.verdict
      rw [hjudging.managed.registration]

theorem reconciled_descriptors (h : Trading held s) (hid : id < s.federations.size)
    (ds : List SourceDescriptor) :
    ∃ judged, Reconciled id current r s ds judged
      ((ds.foldlM (reconcileOne id current) r).run s).1
      ((ds.foldlM (reconcileOne id current) r).run s).2 := by
  induction ds generalizing r s with
  | nil => exact ⟨[], rfl, .nil r, .refl id s, nofun, fun _ _ => rfl, nofun⟩
  | cons d ds ih =>
      rw [List.foldlM_cons, run_bind]
      -- a descriptor is the configuration source's, or not the first of its name, or it counts
      by_cases hname : d.name = (s.federation id).configurationSource
      · rw [reconcileOne_passOver hname]
        obtain ⟨judged, hrest⟩ := ih (r := r.passOver d.name) h hid
        refine ⟨judged, { hrest with counts := ?_, tally := hrest.tally.passOver }⟩
        rw [hrest.counts, firsts, if_pos (.inl hname)]
        rfl
      by_cases hwanted : d.name ∈ r.wanted
      · rw [reconcileOne_skip hname hwanted]
        obtain ⟨judged, hrest⟩ := ih (r := r) h hid
        refine ⟨judged, { hrest with counts := ?_ }⟩
        rw [hrest.counts, firsts, if_pos (.inr hwanted)]
      have hlater := lasting_trading.reconcileOne held id current r d s h
      obtain ⟨v, hr, hjudging⟩ := reconcileOne_counts h hid hname hwanted
      generalize (reconcileOne id current r d).run s = stepped at hlater hr hjudging ⊢
      obtain ⟨r₁, s₁⟩ := stepped
      obtain rfl : r₁ = r.conclude d.name v := hr
      obtain ⟨judged, hrest⟩ :=
        ih (r := r.conclude d.name v) hlater (hjudging.managed.federations ▸ hid)
      exact ⟨(d, v) :: judged, .cons h.housed hlater.housed hname hwanted hjudging hrest⟩

/-! ## All sources that were there -/

/-- The names of the sources that were configured and are wanted no more. -/
def unwanted (wanted : List String) (entries : Table String (Option SourceDescriptor)) :
    List String :=
  (entries.filter fun entry => entry.2.isSome && !wanted.contains entry.1).map Prod.fst

theorem unwanted_cons (wanted : List String) (entry : String × Option SourceDescriptor)
    (entries : Table String (Option SourceDescriptor)) :
    unwanted wanted (entry :: entries) =
      if entry.2.isSome && !wanted.contains entry.1 then entry.1 :: unwanted wanted entries
      else unwanted wanted entries := by
  unfold unwanted
  rw [List.filter_cons]
  split <;> rfl

theorem mem_names_of_mem_unwanted {wanted : List String}
    {entries : Table String (Option SourceDescriptor)} (h : name ∈ unwanted wanted entries) :
    name ∈ entries.map Prod.fst := by
  obtain ⟨entry, hentry, rfl⟩ := List.mem_map.mp h
  exact List.mem_map_of_mem (List.mem_filter.mp hentry).1

/-- What the removal of all unwanted sources leaves. -/
structure Cleared (id : FederationId) (s : System) (gone : List String) (s' : System) : Prop where
  managed : Managed id s s'
  others : ∀ name, name ∉ gone → s'.pool? id name = s.pool? id name
  removed : ∀ name ∈ gone, s'.pool? id name = none
  retired : ∀ name ∈ gone, ∀ p, s.pool? id name = some p → (s'.depot.pool p).closed = true

theorem Cleared.cons {s₁ : System} {answer : Bool} {gone : List String} (hhoused : Housed s)
    (hremoving : Removing id s name answer s₁) (hfresh : name ∉ gone)
    (hrest : Cleared id s₁ gone s') : Cleared id s (name :: gone) s' := by
  have hlater : s'.pool? id name = none := (hrest.others name hfresh).trans hremoving.removed
  refine ⟨hremoving.managed.trans hrest.managed, fun other hother => ?_, fun other hother => ?_,
    fun other hother p hp => ?_⟩
  · obtain ⟨hne, hother⟩ := not_or.mp (mt List.mem_cons.mpr hother)
    exact (hrest.others other hother).trans (hremoving.others other hne)
  · rcases List.mem_cons.mp hother with rfl | hother
    · exact hlater
    · exact hrest.removed other hother
  · rcases List.mem_cons.mp hother with rfl | hother
    · have hlt := Nat.lt_of_lt_of_le (hhoused.made id _ p hp) hremoving.managed.size
      exact (hrest.managed.pools p hlt).closed (hremoving.retired p hp)
    · have hne : other ≠ name := fun heq => hfresh (heq ▸ hother)
      exact hrest.retired other hother p ((hremoving.others other hne).trans hp)

theorem cleared_entries (h : Trading held s) {entries : Table String (Option SourceDescriptor)}
    (hnodup : (entries.map Prod.fst).Nodup)
    (hserved : ∀ name ∈ unwanted r.wanted entries, (s.pool? id name).isSome) :
    let x := (entries.foldlM (reconcileRemoval id) r).run s
    x.1 = { r with outcome := { r.outcome with
        removed := r.outcome.removed ++ unwanted r.wanted entries } } ∧
      Cleared id s (unwanted r.wanted entries) x.2 := by
  induction entries generalizing r s with
  | nil =>
      refine ⟨?_, .refl id s, fun _ _ => rfl, nofun, nofun⟩
      rw [unwanted, List.filter_nil, List.map_nil, List.append_nil]
      rfl
  | cons entry entries ih =>
      obtain ⟨hnot, hnodup⟩ := List.nodup_cons.mp hnodup
      dsimp only
      rw [List.foldlM_cons, run_bind]
      have hlater := lasting_trading.reconcileRemoval held id r entry s h
      rw [unwanted_cons] at hserved ⊢
      cases hgone : entry.2.isSome && !r.wanted.contains entry.1 with
      | false =>
          have hrun : (reconcileRemoval id r entry).run s = (r, s) := by
            unfold reconcileRemoval
            rw [hgone, if_neg Bool.false_ne_true]
            rfl
          rw [hgone, if_neg Bool.false_ne_true] at hserved
          rw [hrun, if_neg Bool.false_ne_true]
          exact ih h hnodup hserved
      | true =>
          rw [hgone, if_pos rfl] at hserved
          rw [if_pos rfl]
          have hremoving := removing_removeSource h.housed id entry.1
          have hrun : (reconcileRemoval id r entry).run s =
              (r.removed entry.1, ((removeSource id entry.1).run s).2) := by
            unfold reconcileRemoval
            rw [hgone, if_pos rfl, run_bind, hremoving.answer_eq,
              hserved entry.1 List.mem_cons_self]
            rfl
          rw [hrun] at hlater ⊢
          generalize ((removeSource id entry.1).run s).2 = s₁ at hremoving hlater ⊢
          have hfresh : entry.1 ∉ unwanted r.wanted entries := fun hmem =>
            hnot (mem_names_of_mem_unwanted hmem)
          obtain ⟨hr, hrest⟩ := ih (r := r.removed entry.1) hlater hnodup fun name hname => by
            rw [hremoving.others name fun heq => hfresh (heq ▸ hname)]
            exact hserved name (List.mem_cons_of_mem _ hname)
          refine ⟨?_, .cons h.housed hremoving hfresh hrest⟩
          rw [hr]
          simp [Reconciling.removed]

end ContentEngine
