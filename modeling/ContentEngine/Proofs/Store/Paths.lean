import ContentEngine.Change

/-!
# Paths in order

Paths are ordered segment by segment.  The paths at or below a path are those that it is a prefix of,
and they follow one another: between a path and one below it there are only paths below it.  A path that
is moved keeps what it continues the moved one by, and its text is read as the path again.
-/

namespace ContentEngine.NodePath

/-! ## The order -/

theorem ext {p q : NodePath} (h : p.segments = q.segments) : p = q := by
  cases p
  cases q
  simpa using h

instance : Trans (α := NodePath) (β := NodePath) (γ := NodePath) (· < ·) (· < ·) (· < ·) where
  trans hpq hqr := List.lt_trans (α := String) hpq hqr

instance : Std.Irrefl (α := NodePath) (· < ·) where
  irrefl p := List.lt_irrefl p.segments

instance : Std.Trichotomous (α := NodePath) (· < ·) where
  trichotomous p q hpq hqp :=
    ext (Std.Trichotomous.trichotomous (r := (· < ·)) p.segments q.segments hpq hqp)

/-! ## At or below -/

theorem isAtOrBelow_iff {p q : NodePath} : p.isAtOrBelow q = true ↔ q.segments <+: p.segments := by
  simp [isAtOrBelow]

@[simp] theorem isAtOrBelow_self (p : NodePath) : p.isAtOrBelow p = true :=
  isAtOrBelow_iff.mpr (List.prefix_refl _)

theorem isAtOrBelow_trans {p q r : NodePath} (hpq : p.isAtOrBelow q = true)
    (hqr : q.isAtOrBelow r = true) : p.isAtOrBelow r = true :=
  isAtOrBelow_iff.mpr ((isAtOrBelow_iff.mp hqr).trans (isAtOrBelow_iff.mp hpq))

/-- What a path is at or below is not at or below another one that the path is not at or below. -/
theorem not_isAtOrBelow_above {p q r : NodePath} (hpr : p.isAtOrBelow r = false)
    (hpq : p.isAtOrBelow q = true) : q.isAtOrBelow r = false :=
  Bool.eq_false_iff.mpr fun hqr => Bool.false_ne_true (hpr.symm.trans (isAtOrBelow_trans hpq hqr))

/-- Of two paths above a third one, one is above the other. -/
theorem isAtOrBelow_total {p q r : NodePath} (hq : p.isAtOrBelow q = true)
    (hr : p.isAtOrBelow r = true) : q.isAtOrBelow r = true ∨ r.isAtOrBelow q = true := by
  rw [isAtOrBelow_iff] at hq hr
  rcases Nat.le_total r.segments.length q.segments.length with hle | hle
  · exact .inl (isAtOrBelow_iff.mpr (List.prefix_of_prefix_length_le hr hq hle))
  · exact .inr (isAtOrBelow_iff.mpr (List.prefix_of_prefix_length_le hq hr hle))

private theorem not_append_lt (l t : List String) : ¬l ++ t < l := by
  induction l with
  | nil => exact List.not_lt_nil _
  | cons a l ih =>
      rw [List.cons_append, List.cons_lt_cons_iff]
      rintro (hlt | ⟨-, hlt⟩)
      · exact Std.Irrefl.irrefl a hlt
      · exact ih hlt

private theorem prefix_of_between {l t m : List String} (hge : ¬m < l) (hlt : m < l ++ t) : l <+: m := by
  induction l generalizing m with
  | nil => exact List.nil_prefix
  | cons a l ih =>
      cases m with
      | nil => exact absurd (List.nil_lt_cons a l) hge
      | cons b m =>
          rw [List.cons_append, List.cons_lt_cons_iff] at hlt
          rw [List.cons_lt_cons_iff, not_or, not_and] at hge
          obtain ⟨hba, hml⟩ := hge
          rcases hlt with hlt | ⟨rfl, hlt⟩
          · exact absurd hlt hba
          · exact List.cons_prefix_cons.mpr ⟨rfl, ih (hml rfl) hlt⟩

theorem not_lt_of_isAtOrBelow {p q : NodePath} (h : p.isAtOrBelow q = true) : ¬p < q := by
  obtain ⟨t, ht⟩ := isAtOrBelow_iff.mp h
  intro hlt
  have hlt : p.segments < q.segments := hlt
  rw [← ht] at hlt
  exact not_append_lt _ _ hlt

/-- Between a path and one below it there are only paths below it. -/
theorem isAtOrBelow_of_between {p q r : NodePath} (hge : ¬p < r) (hlt : p < q)
    (hq : q.isAtOrBelow r = true) : p.isAtOrBelow r = true := by
  obtain ⟨t, ht⟩ := isAtOrBelow_iff.mp hq
  have hlt : p.segments < q.segments := hlt
  rw [← ht] at hlt
  exact isAtOrBelow_iff.mpr (prefix_of_between hge hlt)

theorem isAtOrBelow_rebase (p source target : NodePath) :
    (p.rebase source target).isAtOrBelow target = true :=
  isAtOrBelow_iff.mpr (List.prefix_append _ _)

theorem isBelow_iff {p q : NodePath} : p.isBelow q = true ↔ p.isAtOrBelow q = true ∧ p ≠ q := by
  unfold isBelow
  rw [Bool.and_eq_true, decide_eq_true_iff, and_comm]
  refine and_congr_right fun h => ⟨fun hlt heq => ?_, fun hne => ?_⟩
  · rw [heq] at hlt
    exact Nat.lt_irrefl _ hlt
  · have hbegins := isAtOrBelow_iff.mp h
    exact Nat.lt_of_le_of_ne hbegins.length_le fun heq => hne (ext (hbegins.eq_of_length heq)).symm

theorem isAtOrBelow_antisymm {p q : NodePath} (hpq : p.isAtOrBelow q = true)
    (hqp : q.isAtOrBelow p = true) : p = q :=
  ext ((isAtOrBelow_iff.mp hqp).eq_of_length_le (isAtOrBelow_iff.mp hpq).length_le)

theorem isBelow_of_not_isAtOrBelow {p q : NodePath} (h : q.isAtOrBelow p = false) :
    p.isBelow q = p.isAtOrBelow q := by
  rw [Bool.eq_iff_iff, isBelow_iff]
  refine and_iff_left_of_imp fun _ heq => ?_
  rw [heq, isAtOrBelow_self] at h
  cases h

@[simp] theorem isAtOrBelow_root (p : NodePath) : p.isAtOrBelow root = true :=
  isAtOrBelow_iff.mpr List.nil_prefix

/-- The ancestors of a path are the paths above it. -/
theorem mem_ancestors {p q : NodePath} : q ∈ p.ancestors ↔ p.isBelow q = true := by
  unfold ancestors
  rw [List.mem_map]
  constructor
  · rintro ⟨n, hn, rfl⟩
    have hn : n < p.depth := by simpa using hn
    refine isBelow_iff.mpr ⟨isAtOrBelow_iff.mpr (List.take_prefix _ _), fun heq => ?_⟩
    have hlength : p.depth = min n p.depth :=
      (congrArg depth heq).trans (List.length_take ..)
    omega
  · intro h
    obtain ⟨hlt, hbelow⟩ := Bool.and_eq_true_iff.mp h
    refine ⟨q.depth, by simpa using hlt, ext ?_⟩
    exact (List.prefix_iff_eq_take.mp (isAtOrBelow_iff.mp hbelow)).symm

theorem isAtOrBelow_append (q : NodePath) (suffix : List String) (h : ∀ s ∈ suffix, IsSegment s) :
    (q.append suffix h).isAtOrBelow q = true :=
  isAtOrBelow_iff.mpr (List.prefix_append _ _)

/-- The paths at or below a path are those that continue it. -/
theorem exists_append {p q : NodePath} (h : p.isAtOrBelow q = true) :
    ∃ suffix hvalid, p = q.append suffix hvalid := by
  obtain ⟨suffix, hsuffix⟩ := isAtOrBelow_iff.mp h
  refine ⟨suffix, fun s hs => p.valid s ?_, ext hsuffix.symm⟩
  rw [← hsuffix]
  exact List.mem_append_right _ hs

@[simp] theorem rebase_append (source target : NodePath) (suffix : List String)
    (h : ∀ s ∈ suffix, IsSegment s) :
    (source.append suffix h).rebase source target = target.append suffix h := by
  refine ext ?_
  change target.segments ++ (source.segments ++ suffix).drop source.segments.length = _
  rw [List.drop_left]
  rfl

@[simp] theorem append_nil (p : NodePath) (h : ∀ s ∈ [], IsSegment s) : p.append [] h = p :=
  ext (List.append_nil p.segments)

@[simp] theorem rebase_self (source target : NodePath) : source.rebase source target = target := by
  have h := rebase_append source target [] (by simp)
  rwa [append_nil, append_nil] at h

/-- A path that was rebased goes back to where it was. -/
theorem rebase_rebase {p source : NodePath} (h : p.isAtOrBelow source = true) (target : NodePath) :
    (p.rebase source target).rebase target source = p := by
  obtain ⟨suffix, hvalid, rfl⟩ := exists_append h
  rw [rebase_append, rebase_append]

/-- Rebasing keeps which path is at or below which. -/
theorem isAtOrBelow_rebase_rebase {p q source target : NodePath} (hq : q.isAtOrBelow source = true)
    (hpq : p.isAtOrBelow q = true) :
    (p.rebase source target).isAtOrBelow (q.rebase source target) = true := by
  obtain ⟨suffix, hvalid, rfl⟩ := exists_append hq
  obtain ⟨more, hmore, rfl⟩ := exists_append hpq
  refine isAtOrBelow_iff.mpr ⟨more, ?_⟩
  change (target.segments ++ (source.segments ++ suffix).drop source.segments.length) ++ more =
    target.segments ++ ((source.segments ++ suffix) ++ more).drop source.segments.length
  rw [List.append_assoc source.segments, List.drop_left, List.drop_left, List.append_assoc]

theorem isAtOrBelow_of_parent? {p q : NodePath} (h : p.parent? = some q) :
    p.isAtOrBelow q = true := by
  unfold parent? at h
  split at h
  · cases h
  · obtain rfl := Option.some.inj h
    exact isAtOrBelow_iff.mpr (List.dropLast_prefix _)

/-- The parent of a path is the path that it lies exactly one level below. -/
theorem parent?_eq_some_iff {p q : NodePath} :
    p.parent? = some q ↔ p.isAtOrBelow q = true ∧ p.depth = q.depth + 1 := by
  constructor
  · intro h
    refine ⟨isAtOrBelow_of_parent? h, ?_⟩
    unfold parent? at h
    split at h
    · cases h
    · rename_i hsegments
      obtain rfl := Option.some.inj h
      have hlength := List.length_pos_iff.mpr hsegments
      change p.segments.length = p.segments.dropLast.length + 1
      rw [List.length_dropLast]
      omega
  · rintro ⟨hbelow, hdepth⟩
    have hlength : p.segments.length = q.segments.length + 1 := hdepth
    have hsegments : p.segments ≠ [] := List.length_pos_iff.mp (by omega)
    unfold parent?
    rw [if_neg hsegments]
    refine congrArg some (ext ?_)
    -- what a path lies one level below is what is left of it without its last segment
    calc p.segments.dropLast = p.segments.take (p.segments.length - 1) := List.dropLast_eq_take
      _ = p.segments.take q.segments.length := by rw [hlength, Nat.add_sub_cancel]
      _ = q.segments := (List.prefix_iff_eq_take.mp (isAtOrBelow_iff.mp hbelow)).symm

/-- A path that is strictly below another one has a parent at or below that one. -/
theorem exists_parent? {p q : NodePath} (h : p.isBelow q = true) :
    ∃ parent, p.parent? = some parent ∧ parent.isAtOrBelow q = true := by
  obtain ⟨hdepth, hbelow⟩ := Bool.and_eq_true_iff.mp h
  have hdepth : q.depth < p.depth := of_decide_eq_true hdepth
  have hsegments : p.segments ≠ [] := List.length_pos_iff.mp (Nat.zero_lt_of_lt hdepth)
  refine ⟨_, if_neg hsegments, isAtOrBelow_iff.mpr ?_⟩
  refine List.prefix_of_prefix_length_le (isAtOrBelow_iff.mp hbelow) (List.dropLast_prefix _) ?_
  rw [List.length_dropLast]
  exact Nat.le_sub_one_of_lt hdepth

/-! ## Apart -/

/-- Neither path is at or below the other. -/
def Apart (p q : NodePath) : Prop :=
  p.isAtOrBelow q = false ∧ q.isAtOrBelow p = false

/-- What is at or below one of two paths that are apart is not at or below the other. -/
theorem Apart.below {p q r : NodePath} (h : Apart p q) (hr : r.isAtOrBelow p = true) :
    r.isAtOrBelow q = false := by
  apply Bool.eq_false_iff.mpr
  intro hrq
  rcases isAtOrBelow_total hr hrq with hpq | hqp
  · exact Bool.false_ne_true (h.1.symm.trans hpq)
  · exact Bool.false_ne_true (h.2.symm.trans hqp)

/-- What a path is at or below is not at or below another one that is apart from it. -/
theorem Apart.above {p q r : NodePath} (h : Apart p q) (hr : p.isAtOrBelow r = true) :
    r.isAtOrBelow q = false :=
  not_isAtOrBelow_above h.1 hr

/-- The paths of an event that does not touch a path are apart from it. -/
theorem apart_of_not_touches {e : ChangeEvent} {q : NodePath} (h : e.touches q = false)
    {p : NodePath} (hp : p ∈ e.paths) : Apart p q := by
  have hnot := List.any_eq_false.mp h p hp
  simp only [Bool.or_eq_true, not_or, Bool.not_eq_true] at hnot
  obtain ⟨habove, hbelow⟩ := hnot
  refine ⟨habove, Bool.eq_false_iff.mpr fun hqp => ?_⟩
  -- a path that is not below another one, but at or below it, is that one
  unfold isBelow at hbelow
  rw [hqp, Bool.and_true, decide_eq_false_iff_not, Nat.not_lt] at hbelow
  have hbegins := isAtOrBelow_iff.mp hqp
  have heq : p.segments = q.segments := hbegins.eq_of_length_le hbelow
  rw [ext heq, isAtOrBelow_self] at habove
  cases habove

/-- An event that touches a path touches all paths above it. -/
theorem touches_above {e : ChangeEvent} {p q : NodePath} (h : e.touches q = true)
    (hqp : q.isAtOrBelow p = true) : e.touches p = true := by
  unfold ChangeEvent.touches at h ⊢
  obtain ⟨named, hnamed, hnear⟩ := List.any_eq_true.mp h
  refine List.any_eq_true.mpr ⟨named, hnamed, Bool.or_eq_true_iff.mpr ?_⟩
  rcases Bool.or_eq_true_iff.mp hnear with hbelow | habove
  · exact .inl (isAtOrBelow_trans hbelow hqp)
  · rcases isAtOrBelow_total (isBelow_iff.mp habove).1 hqp with hle | hge
    · exact .inl hle
    · by_cases heq : p = named
      · exact .inl (heq ▸ isAtOrBelow_self p)
      · exact .inr (isBelow_iff.mpr ⟨hge, heq⟩)

/-! ## Texts -/

/-- The pieces of a text are what it is split into at the separator. -/
theorem pieces_eq_splitOn (separator : Char) (cs : List Char) :
    Text.pieces separator cs = cs.splitOn separator := by
  induction cs with
  | nil => simp [Text.pieces]
  | cons c rest ih =>
      rw [Text.pieces, List.splitOn_cons_eq_if_modifyHead, ih]
      obtain ⟨piece, others, hrest⟩ := List.exists_cons_of_ne_nil (List.splitOn_ne_nil separator rest)
      simp [hrest]

/-- Segments that are joined by slashes are read as a path again. -/
theorem parse_joined (segments : List String) (h : ∀ s ∈ segments, IsSegment s) :
    parse ("/" ++ Text.joined "/" segments) = .ok ⟨segments, h⟩ := by
  have htext : ("/" ++ Text.joined "/" segments).toList =
      '/' :: ['/'].intercalate (segments.map String.toList) := by
    rw [String.toList_append, Text.joined, String.toList_intercalate]
    rfl
  have hslash : ∀ part ∈ segments.map String.toList, '/' ∉ part := by
    rintro _ hpart
    obtain ⟨s, hs, rfl⟩ := List.mem_map.mp hpart
    exact (h s hs).2
  have hfull : ∀ part ∈ segments.map String.toList, (!part.isEmpty) = true := by
    rintro _ hpart
    obtain ⟨s, hs, rfl⟩ := List.mem_map.mp hpart
    simpa using (h s hs).1
  have hpieces : ((Text.pieces '/' ('/' :: ['/'].intercalate (segments.map String.toList))).filter
      fun piece => !piece.isEmpty) = segments.map String.toList := by
    rw [Text.pieces, if_pos rfl, List.filter_cons_of_neg (by simp)]
    cases segments with
    | nil => rfl
    | cons s rest =>
        rw [pieces_eq_splitOn, List.splitOn_intercalate '/' hslash (by simp)]
        exact List.filter_eq_self.mpr hfull
  have hsegments : (ofPieces ("/" ++ Text.joined "/" segments).toList).segments = segments := by
    change ((Text.pieces '/' _).filter _).map String.ofList = segments
    rw [htext, hpieces, List.map_map]
    exact List.map_id'' (fun s => String.ofList_toList) segments
  unfold parse
  rw [if_pos (by rw [htext]; rfl)]
  exact congrArg Except.ok (ext hsegments)

/-- The canonical text of a path: its segments joined by slashes, after a slash. -/
theorem text_eq_joined (p : NodePath) : p.text = "/" ++ Text.joined "/" p.segments := by
  have hflat (s : String) (rest : List String) :
      ((s :: rest).flatMap fun segment => '/' :: segment.toList) =
        '/' :: ['/'].intercalate ((s :: rest).map String.toList) := by
    induction rest generalizing s with
    | nil => simp
    | cons next rest ih =>
        rw [List.flatMap_cons, ih next, List.map_cons, List.map_cons, List.map_cons,
          List.intercalate_cons_cons]
        simp
  refine String.toList_inj.mp ?_
  rw [String.toList_append, Text.joined, String.toList_intercalate]
  unfold text renderSegments
  split
  · rename_i hnone
    rw [hnone]
    rfl
  · rename_i hsome
    obtain ⟨s, rest, hsegments⟩ := List.exists_cons_of_ne_nil hsome
    rw [hsegments, String.toList_ofList, hflat]
    rfl

/-- The canonical text of a path is read as the path. -/
@[simp] theorem parse_text (p : NodePath) : parse p.text = .ok p :=
  (congrArg parse p.text_eq_joined).trans (parse_joined p.segments p.valid)

/-- A text is read as a path if and only if it starts with a slash. -/
theorem parse_ok_iff {text : String} :
    (∃ p, parse text = .ok p) ↔ text.toList.head? = some '/' := by
  unfold parse
  split <;> simp [*]

theorem parse_relative {text : String} (h : text.toList.head? ≠ some '/') :
    parse text = .error (.notAbsolute text) :=
  if_neg h

theorem head?_of_parse_error {text : String} {e : PathError} (h : parse text = .error e) :
    text.toList.head? ≠ some '/' := fun habsolute => by
  obtain ⟨p, hp⟩ := parse_ok_iff.mpr habsolute
  rw [h] at hp
  cases hp

/-- A text that does not start with a slash is no path, and this is the only error. -/
theorem parse_eq_error_iff {text : String} {e : PathError} :
    parse text = .error e ↔ e = .notAbsolute text ∧ text.toList.head? ≠ some '/' := by
  constructor
  · intro h
    have hrelative := head?_of_parse_error h
    exact ⟨Except.error.inj (h.symm.trans (parse_relative hrelative)), hrelative⟩
  · rintro ⟨rfl, hrelative⟩
    exact parse_relative hrelative

end ContentEngine.NodePath
