import ContentEngine.Text.Blank
import ContentEngine.Text.Cut
import Mathlib.Data.List.DropRight

/-!
# Parts of texts

What is left of a text when it is trimmed, and which parts it has before and after the first occurrence
of a mark.  The mark of interest is the arrow `=>`: it has no other character in it, so the first one is
found behind any text without an arrow.
-/

namespace ContentEngine.Text

variable {mark cs ds before after : List Char} {c : Char}

/-! ## Trimming -/

theorem head?_dropWhile_isBlank (h : (cs.dropWhile isBlank).head? = some c) : isBlank c = false := by
  have hhead := List.head?_dropWhile_not isBlank cs
  rw [h] at hhead
  exact hhead

theorem dropWhile_isBlank (h : ∀ c, cs.head? = some c → isBlank c = false) :
    cs.dropWhile isBlank = cs := by
  cases cs with
  | nil => rfl
  | cons c cs => exact List.dropWhile_cons_of_neg (by simp [h c rfl])

theorem trimEnd_isPrefix (cs : List Char) : trimEnd cs <+: cs :=
  List.rdropWhile_prefix isBlank cs

/-- A character that is not blank stays, and everything before it. -/
theorem trimEnd_append_cons (hc : isBlank c = false) :
    trimEnd (cs ++ c :: ds) = cs ++ c :: trimEnd ds := by
  have hdrop : (ds.reverse ++ c :: cs.reverse).dropWhile isBlank =
      ds.reverse.dropWhile isBlank ++ c :: cs.reverse := by
    rw [List.dropWhile_append]
    split
    · rename_i hempty
      rw [List.isEmpty_iff.mp hempty]
      exact dropWhile_isBlank (by simpa using hc)
    · rfl
  simp [trimEnd, hdrop]

theorem mem_of_mem_trim (h : c ∈ trim cs) : c ∈ cs :=
  List.dropWhile_subset isBlank ((trimEnd_isPrefix _).subset h)

theorem trim_eq_trimEnd (h : ∀ c, cs.head? = some c → isBlank c = false) : trim cs = trimEnd cs := by
  rw [trim, dropWhile_isBlank h]

theorem trim_eq_self (hhead : ∀ c, cs.head? = some c → isBlank c = false)
    (hlast : ∀ c, cs.getLast? = some c → isBlank c = false) : trim cs = cs := by
  rw [trim_eq_trimEnd hhead, trimEnd, dropWhile_isBlank (by simpa using hlast), List.reverse_reverse]

theorem head?_trim (h : (trim cs).head? = some c) : isBlank c = false := by
  obtain ⟨rest, htrim⟩ := List.head?_eq_some_iff.mp h
  obtain ⟨more, hmore⟩ := trimEnd_isPrefix (cs.dropWhile isBlank)
  have hdrop : cs.dropWhile isBlank = c :: rest ++ more := by rw [← htrim, ← hmore]; rfl
  exact head?_dropWhile_isBlank (by rw [hdrop]; rfl)

theorem getLast?_trim (h : (trim cs).getLast? = some c) : isBlank c = false :=
  head?_dropWhile_isBlank (by simpa [trim, trimEnd] using h)

theorem trim_trim (cs : List Char) : trim (trim cs) = trim cs :=
  trim_eq_self (fun _ => head?_trim) (fun _ => getLast?_trim)

/-- Nothing is left of a text if and only if it is blank. -/
theorem trim_eq_nil_iff : trim cs = [] ↔ ∀ c ∈ cs, isBlank c = true := by
  rw [← List.dropWhile_eq_nil_iff]
  constructor
  · intro h
    have hblank : ∀ c ∈ cs.dropWhile isBlank, isBlank c = true := List.rdropWhile_eq_nil_iff.mp h
    -- what is left on the right would begin with a character that is not blank
    cases hrest : cs.dropWhile isBlank with
    | nil => rfl
    | cons c rest =>
        have hhead : (cs.dropWhile isBlank).head? = some c := by rw [hrest, List.head?_cons]
        have hc : isBlank c = false := head?_dropWhile_isBlank hhead
        rw [hblank c (by simp [hrest])] at hc
        cases hc
  · intro h
    simp [trim, trimEnd, h]

/-! ## The first arrow -/

theorem cutOnce_eq_none_iff : cutOnce mark cs = none ↔ ¬mark <:+: cs := by
  induction cs with
  | nil =>
      unfold cutOnce
      split <;> simp_all
  | cons c cs ih =>
      unfold cutOnce
      split
      · rename_i hmark
        have hmark := List.isPrefixOf_iff_prefix.mp hmark
        simpa using hmark.isInfix
      · rename_i hmark
        have hmark : ¬mark <+: c :: cs := fun h => hmark (List.isPrefixOf_iff_prefix.mpr h)
        rw [Option.map_eq_none_iff, ih, List.infix_cons_iff]
        simp [hmark]

/-- Behind a text without an arrow the search goes on, unless an arrow could begin in the text and end
behind it. -/
theorem cutOnce_append (h : ¬['=', '>'] <:+: before) (hc : c ≠ '>') :
    cutOnce ['=', '>'] (before ++ c :: after) =
      (cutOnce ['=', '>'] (c :: after)).map fun parts => (before ++ parts.1, parts.2) := by
  induction before with
  | nil => simp
  | cons d before ih =>
      have hlater : ¬['=', '>'] <:+: before := fun hinfix => h (List.infix_cons hinfix)
      have hmark : ['=', '>'].isPrefixOf (d :: (before ++ c :: after)) = false := by
        cases before with
        | nil => simpa [List.isPrefixOf] using fun _ => hc.symm
        | cons d' before =>
            have harrow : ¬(d = '=' ∧ d' = '>') := by
              rintro ⟨rfl, rfl⟩
              exact h (List.prefix_append ['=', '>'] before).isInfix
            simpa [List.isPrefixOf] using fun hd => Ne.symm fun hd' => harrow ⟨hd.symm, hd'⟩
      rw [List.cons_append, cutOnce, hmark, ih hlater]
      simp only [Bool.false_eq_true, if_false, Option.map_map]
      rfl

theorem cutOnce_arrow (h : ¬['=', '>'] <:+: before) :
    cutOnce ['=', '>'] (before ++ '=' :: '>' :: after) = some (before, after) := by
  rw [cutOnce_append h (by decide)]
  simp [cutOnce]

theorem cutOnce_append_cons (h : ¬['=', '>'] <:+: before) (hc : c ∉ ['=', '>']) :
    cutOnce ['=', '>'] (before ++ c :: after) =
      (cutOnce ['=', '>'] after).map fun parts => (before ++ c :: parts.1, parts.2) := by
  have hmark : c ≠ '=' ∧ c ≠ '>' := by simpa using hc
  rw [cutOnce_append h hmark.2, cutOnce, if_neg (by simp [List.isPrefixOf, hmark.1.symm]), Option.map_map]
  rfl

theorem not_arrow_singleton (c : Char) : ¬['=', '>'] <:+: [c] := by
  simp [List.infix_cons_iff]

/-- An arrow has no other character in it. -/
theorem not_arrow_append (hbefore : ¬['=', '>'] <:+: before) (hafter : ¬['=', '>'] <:+: after)
    (hc : c ∉ ['=', '>']) : ¬['=', '>'] <:+: before ++ c :: after := by
  rw [← cutOnce_eq_none_iff, cutOnce_append_cons hbefore hc, cutOnce_eq_none_iff.mpr hafter,
    Option.map_none]

theorem eq_of_cutOnce (hne : mark ≠ []) (h : cutOnce mark cs = some (before, after)) :
    cs = before ++ mark ++ after ∧ ¬mark <:+: before := by
  induction cs generalizing before with
  | nil =>
      have hnil : cutOnce mark [] = none := cutOnce_eq_none_iff.mpr (by simpa using hne)
      cases h.symm.trans hnil
  | cons c cs ih =>
      unfold cutOnce at h
      split at h
      · rename_i hmark
        cases h
        obtain ⟨rest, hrest⟩ := List.isPrefixOf_iff_prefix.mp hmark
        simp [← hrest, hne]
      · rename_i hmark
        have hmark : ¬mark <+: c :: cs := fun h => hmark (List.isPrefixOf_iff_prefix.mpr h)
        obtain ⟨⟨before', after'⟩, hcut, heq⟩ := Option.map_eq_some_iff.mp h
        cases heq
        obtain ⟨rfl, hbefore⟩ := ih hcut
        refine ⟨rfl, fun hinfix => ?_⟩
        rcases List.infix_cons_iff.mp hinfix with hhere | hinfix
        · exact hmark (hhere.trans (by simp))
        · exact hbefore hinfix

/-! ## Bytes -/

@[simp] theorem byteLength_nil : byteLength [] = 0 := rfl

private theorem foldl_utf8Size (n : Nat) (cs : List Char) :
    cs.foldl (fun n c => n + c.utf8Size) n = n + byteLength cs := by
  unfold byteLength
  induction cs generalizing n with
  | nil => rfl
  | cons c cs ih =>
      rw [List.foldl_cons, List.foldl_cons, ih, ih (0 + c.utf8Size)]
      omega

@[simp] theorem byteLength_cons (c : Char) (cs : List Char) :
    byteLength (c :: cs) = c.utf8Size + byteLength cs := by
  rw [← Nat.zero_add c.utf8Size, ← foldl_utf8Size]
  rfl

@[simp] theorem byteLength_append (cs ds : List Char) :
    byteLength (cs ++ ds) = byteLength cs + byteLength ds := by
  induction cs with
  | nil => simp
  | cons c cs ih => simp [ih, Nat.add_assoc]

end ContentEngine.Text
