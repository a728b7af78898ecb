import ContentEngine.Problem
import Mathlib.Data.List.Infix

/-!
# Messages are filled in one pass

The message of a problem is its template with the placeholders replaced by the parameters.  Which places
are placeholders is a matter of the template alone: it is cut at them into pieces in which there is none
(`Cut`), and a template has exactly one such cut, because an opening brace is no closing brace, so that two
placeholders never overlap.  The message then consists of the same pieces, and between two neighbours
stands the parameter whose number the place has, or two braces if there is no such parameter.

## Strategy

`cutAt` cuts a template along the recursion of `fillTemplate`.  A piece without a placeholder that a
placeholder follows is cut off as a whole (`cutAt_append_placeholder`), so `cutAt` gives back the pieces of
any cut (`Cut.eq_cutAt`), and it is a cut itself (`cut_cutAt`).  Where the placeholders stand
(`prefix_drop_iff`) and what the filled template is (`fillTemplate_eq`) follow by the same recursion.
-/

namespace ContentEngine

namespace Problem

variable {template piece first second rest : List Char} {pieces : List (List Char)}
  {between : Nat → List Char}

/-! ## Cutting a template at its placeholders -/

/-- Two braces with nothing between them. -/
def placeholder : List Char :=
  ['\x7b', '\x7d']

/-- The pieces one after the other, and after the piece of each number what stands between it and the
next one. -/
def woven (between : Nat → List Char) : List (List Char) → List Char
  | [] => []
  | piece :: pieces => piece ++ pieces.zipIdx.flatMap fun (next, k) => between k ++ next

/-- A text is cut at all its placeholders into pieces. -/
structure Cut (template : List Char) (pieces : List (List Char)) : Prop where
  nonempty : pieces ≠ []
  woven : woven (fun _ => placeholder) pieces = template
  bare : ∀ piece ∈ pieces, ¬placeholder <:+: piece

/-- Where the placeholder of a number stands in a text that is cut into pieces. -/
def placeOf (pieces : List (List Char)) (k : Nat) : Nat :=
  (woven (fun _ => placeholder) (pieces.take (k + 1))).length

/-- What stands at the placeholder of a number: the parameter of this number, or the placeholder. -/
def filler (parameters : List String) (k : Nat) : List Char :=
  (parameters[k]?.map String.toList).getD placeholder

/-- The pieces of a template between its placeholders. -/
def cutAt : List Char → List (List Char)
  | [] => [[]]
  | '\x7b' :: '\x7d' :: more => [] :: cutAt more
  | c :: rest => (cutAt rest).modifyHead (c :: ·)

theorem woven_singleton : woven between [piece] = piece :=
  List.append_nil piece

theorem woven_cons_cons : woven between (first :: second :: pieces) =
    first ++ between 0 ++ woven (fun k => between (k + 1)) (second :: pieces) := by
  simp [woven, List.zipIdx_succ, List.flatMap_map]

theorem woven_cons_head {c : Char} :
    woven between ((c :: first) :: pieces) = c :: woven between (first :: pieces) :=
  rfl

theorem exists_cutAt (template : List Char) : ∃ first others, cutAt template = first :: others := by
  fun_induction cutAt template with
  | case1 => exact ⟨[], [], rfl⟩
  | case2 more ih => exact ⟨[], cutAt more, rfl⟩
  | case3 c rest hbrace ih =>
      obtain ⟨first, others, hrest⟩ := ih
      exact ⟨c :: first, others, by rw [hrest]; rfl⟩

/-- A text begins with a placeholder if its first two characters are the braces. -/
theorem placeholder_prefix_iff :
    placeholder <+: template ↔ ∃ more, template = '\x7b' :: '\x7d' :: more :=
  exists_congr fun _ => eq_comm

/-! ## There is exactly one cut -/

theorem cut_cutAt (template : List Char) : Cut template (cutAt template) := by
  fun_induction cutAt template with
  | case1 => exact ⟨by simp, rfl, by simp [placeholder]⟩
  | case2 more ih =>
      obtain ⟨first, others, hmore⟩ := exists_cutAt more
      refine ⟨by simp, ?_, ?_⟩
      · rw [hmore, woven_cons_cons, ← hmore, ih.woven]
        rfl
      · exact List.forall_mem_cons.mpr ⟨by simp [placeholder], ih.bare⟩
  | case3 c rest hbrace ih =>
      obtain ⟨first, others, hrest⟩ := exists_cutAt rest
      rw [hrest] at ih ⊢
      have hwoven : woven (fun _ => placeholder) (first :: others) = rest := ih.woven
      refine ⟨by simp, ?_, ?_⟩
      · rw [List.modifyHead_cons, woven_cons_head, hwoven]
      · obtain ⟨hfirst, hothers⟩ := List.forall_mem_cons.mp ih.bare
        refine List.forall_mem_cons.mpr ⟨?_, hothers⟩
        -- a placeholder that begins with the new character would have been cut off
        rw [List.infix_cons_iff, not_or]
        refine ⟨fun hbegins => ?_, hfirst⟩
        have hplace : placeholder <+: c :: rest := by
          rw [← hwoven, ← woven_cons_head]
          exact hbegins.trans (List.prefix_append _ _)
        obtain ⟨more, hmore⟩ := placeholder_prefix_iff.mp hplace
        obtain ⟨hc, hrest⟩ := List.cons.inj hmore
        exact hbrace more hc hrest

theorem cutAt_bare (h : ¬placeholder <:+: piece) : cutAt piece = [piece] := by
  fun_induction cutAt piece with
  | case1 => rfl
  | case2 more ih => exact absurd (List.infix_append [] placeholder more) h
  | case3 c rest hbrace ih =>
      have hrest : ¬placeholder <:+: rest := fun hwithin =>
        h (hwithin.trans (List.suffix_cons c rest).isInfix)
      rw [ih hrest, List.modifyHead_cons]

/-- A piece without a placeholder is cut off as a whole by the placeholder that follows. -/
theorem cutAt_append_placeholder (h : ¬placeholder <:+: piece) :
    cutAt (piece ++ placeholder ++ rest) = piece :: cutAt rest := by
  fun_induction cutAt piece with
  | case1 => rfl
  | case2 more ih => exact absurd (List.infix_append [] placeholder more) h
  | case3 c piece hbrace ih =>
      have hpiece : ¬placeholder <:+: piece := fun hwithin =>
        h (hwithin.trans (List.suffix_cons c piece).isInfix)
      -- the character and the next one are no placeholder, even if the next one is its opening brace
      have hnone : ∀ more, c = '\x7b' → piece ++ placeholder ++ rest ≠ '\x7d' :: more := by
        intro more hc
        cases piece with
        | nil => simp [placeholder]
        | cons d piece =>
            intro heq
            exact hbrace piece hc (by rw [(List.cons.inj heq).1])
      rw [List.cons_append, List.cons_append, cutAt, ih hpiece, List.modifyHead_cons]
      exact hnone

theorem Cut.eq_cutAt (h : Cut template pieces) : pieces = cutAt template := by
  obtain ⟨hnonempty, rfl, hbare⟩ := h
  induction pieces with
  | nil => exact absurd rfl hnonempty
  | cons first others ih =>
      obtain ⟨hfirst, hothers⟩ := List.forall_mem_cons.mp hbare
      cases others with
      | nil => rw [woven_singleton, cutAt_bare hfirst]
      | cons second others =>
          rw [woven_cons_cons, cutAt_append_placeholder hfirst, ← ih (by simp) hothers]

/-- Cutting is possible in one way only. -/
theorem cut_iff : Cut template pieces ↔ pieces = cutAt template := by
  constructor
  · exact Cut.eq_cutAt
  · rintro rfl
    exact cut_cutAt template

/-! ## Where the placeholders stand -/

theorem placeOf_nil_zero : placeOf ([] :: pieces) 0 = 0 :=
  rfl

theorem placeOf_nil_succ (hpieces : pieces ≠ []) (k : Nat) :
    placeOf ([] :: pieces) (k + 1) = placeOf pieces k + 2 := by
  obtain ⟨first, others, rfl⟩ := List.exists_cons_of_ne_nil hpieces
  rw [placeOf, placeOf, List.take_succ_cons, List.take_succ_cons, woven_cons_cons, List.length_append]
  exact Nat.add_comm 2 _

/-- The cut of a template is at every placeholder that it has. -/
theorem prefix_drop_iff (template : List Char) (i : Nat) : placeholder <+: template.drop i ↔
    ∃ k, k + 1 < (cutAt template).length ∧ i = placeOf (cutAt template) k := by
  fun_induction cutAt template generalizing i with
  | case1 => simp [placeholder]
  | case2 more ih =>
      obtain ⟨first, others, hmore⟩ := exists_cutAt more
      have hnonempty : cutAt more ≠ [] := by simp [hmore]
      match i with
      | 0 =>
          refine iff_of_true ⟨more, rfl⟩ ⟨0, ?_, placeOf_nil_zero.symm⟩
          simp [hmore]
      | 1 =>
          refine iff_of_false ?_ ?_
          · simp [placeholder]
          · rintro ⟨k, -, hplace⟩
            cases k with
            | zero => cases hplace.trans placeOf_nil_zero
            | succ k =>
                rw [placeOf_nil_succ hnonempty] at hplace
                omega
      | i + 2 =>
          rw [List.drop_succ_cons, List.drop_succ_cons, ih]
          constructor
          · rintro ⟨k, hk, rfl⟩
            refine ⟨k + 1, Nat.succ_lt_succ hk, ?_⟩
            rw [placeOf_nil_succ hnonempty]
          · rintro ⟨k, hk, hplace⟩
            cases k with
            | zero => cases hplace.trans placeOf_nil_zero
            | succ k =>
                rw [placeOf_nil_succ hnonempty] at hplace
                exact ⟨k, Nat.lt_of_succ_lt_succ hk, Nat.add_right_cancel hplace⟩
  | case3 c rest hbrace ih =>
      obtain ⟨first, others, hrest⟩ := exists_cutAt rest
      rw [hrest] at ih ⊢
      rw [List.modifyHead_cons]
      match i with
      | 0 =>
          refine iff_of_false ?_ ?_
          · rw [List.drop_zero, placeholder_prefix_iff]
            rintro ⟨more, hmore⟩
            obtain ⟨hc, hmore⟩ := List.cons.inj hmore
            exact hbrace more hc hmore
          · rintro ⟨k, -, hplace⟩
            cases hplace
      | i + 1 =>
          rw [List.drop_succ_cons, ih]
          constructor
          · rintro ⟨k, hk, rfl⟩
            exact ⟨k, hk, rfl⟩
          · rintro ⟨k, hk, hplace⟩
            exact ⟨k, hk, Nat.add_right_cancel hplace⟩

/-! ## Filling the placeholders -/

theorem filler_nil : filler [] = fun _ => placeholder :=
  rfl

theorem filler_cons_zero (p : String) (others : List String) : filler (p :: others) 0 = p.toList :=
  rfl

theorem filler_cons_succ (p : String) (others : List String) :
    (fun k => filler (p :: others) (k + 1)) = filler others :=
  rfl

/-- What is filled in stands between the pieces of the template. -/
theorem fillTemplate_eq (parameters : List String) (template : List Char) :
    fillTemplate parameters template = woven (filler parameters) (cutAt template) := by
  fun_induction fillTemplate parameters template with
  | case1 parameters => rfl
  | case2 p others more ih =>
      obtain ⟨first, later, hmore⟩ := exists_cutAt more
      rw [cutAt, hmore, woven_cons_cons, filler_cons_zero, filler_cons_succ, ← hmore, ih, List.nil_append]
  | case3 more ih =>
      obtain ⟨first, later, hmore⟩ := exists_cutAt more
      rw [cutAt, hmore, woven_cons_cons, ← hmore, ih, filler_nil]
      rfl
  | case4 parameters c rest hfilled hkept ih =>
      obtain ⟨first, later, hrest⟩ := exists_cutAt rest
      have hbrace : ∀ more, c = '\x7b' → rest = '\x7d' :: more → False := by
        intro more hc hmore
        cases parameters with
        | nil => exact hkept more rfl hc hmore
        | cons p others => exact hfilled p others more rfl hc hmore
      rw [cutAt, hrest, List.modifyHead_cons, woven_cons_head, ← hrest, ih]
      exact hbrace

/-- Parameters for which there is no placeholder do not count. -/
theorem woven_filler_take (parameters : List String) (pieces : List (List Char)) :
    woven (filler (parameters.take (pieces.length - 1))) pieces = woven (filler parameters) pieces := by
  cases pieces with
  | nil => rfl
  | cons piece pieces =>
      refine congrArg (piece ++ ·) (List.flatMap_congr fun (next, k) hnext => ?_)
      have hk : k < (piece :: pieces).length - 1 := by
        have hlt := (List.mem_zipIdx hnext).2.1
        simpa using hlt
      have hfiller : filler (parameters.take ((piece :: pieces).length - 1)) k = filler parameters k := by
        unfold filler
        rw [List.getElem?_take_of_lt hk]
      exact congrArg (· ++ next) hfiller

end Problem

open Problem

/-- **Placeholders are filled by position, in one pass over the template.**  A template is cut at its
placeholders in exactly one way, and it has no placeholder apart from those between two pieces of this
cut.  The message consists of the same pieces with the parameter of each number, as it is, in the place of
this number, and with the placeholder where there is no such parameter.  Parameters beyond the number of
placeholders do not count. -/
theorem placeholders_filled_by_position (p : Problem) : ∃ pieces : List (List Char),
    (∀ others, Cut p.template.toList others ↔ others = pieces) ∧
      (∀ i, placeholder <+: p.template.toList.drop i ↔
        ∃ k, k + 1 < pieces.length ∧ i = placeOf pieces k) ∧
      p.message.toList = woven (filler p.parameters) pieces ∧
      ({ p with parameters := p.parameters.take (pieces.length - 1) } : Problem).message = p.message := by
  refine ⟨cutAt p.template.toList, fun others => cut_iff, prefix_drop_iff _, ?_, ?_⟩
  · rw [message, String.toList_ofList, fillTemplate_eq]
  · rw [message, message, fillTemplate_eq, fillTemplate_eq, woven_filler_take]

/-- A parameter that looks like a placeholder is not filled, braces around a placeholder are kept, and the
placeholder for which there is no parameter stays. -/
example : (plain .error "\x7b\x7b\x7d\x7d\x7b\x7d-\x7b\x7d" ["\x7b\x7d", "x"]).message =
    "\x7b\x7b\x7d\x7dx-\x7b\x7d" := by
  decide

end ContentEngine
