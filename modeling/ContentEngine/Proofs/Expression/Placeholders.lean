import ContentEngine.Expression.Template
import ContentEngine.Proofs.Store.Paths
import Mathlib.Data.List.Basic

/-!
# Templates are filled in one pass

Filling a template replaces every group number that stands in braces by the text of its group, and keeps
everything else.  `Filled` says so without an order: a text in which no group number stands in braces is
kept, and wherever one does, what stands before and behind it is filled on its own.  A group number has
no brace in it, so two of them never overlap, and it does not matter which one is replaced first.

## Strategy

The scanner decides at the closing brace whether what it has read since the last opening brace is a group
number.  An opening brace makes it start anew (`fillFrom_append_brace`), a group number up to its closing
brace is replaced (`fillFrom_braced`), and everything else is written as it was read (`fillFrom_kept`, by
induction along the scanner).  So the scanner computes what `Filled` says, and there is nothing else that
it says, because every template can be filled (`exists_filled`, by induction on its length).
-/

namespace ContentEngine

namespace Text

/-! ## Digits -/

theorem digit?_of_isDigit {c : Char} (h : c.isDigit = true) : digit? 10 c = some (c.toNat - 48) := by
  have hbounds : '0' ≤ c ∧ c ≤ '9' := by simpa [Char.isDigit, Char.le_def] using h
  have hle : c.toNat ≤ 57 := hbounds.2
  simp [digit?, hexDigit?, hbounds]
  omega

theorem decimal_of_isDigit {digits : List Char} (h : ∀ c ∈ digits, c.isDigit = true) :
    decimal digits = Nat.ofDigitChars 10 digits 0 := by
  have hdigits : ∀ c ∈ digits, digit? 10 c = some (c.toNat - 48) := fun c hc =>
    digit?_of_isDigit (h c hc)
  calc decimal digits
    _ = numberOf 10 (digits.map fun c => c.toNat - 48) := by
        rw [decimal, List.filterMap_congr hdigits]
        exact congrArg (numberOf 10) (congrFun List.filterMap_eq_map _)
    _ = Nat.ofDigitChars 10 digits 0 := by
        rw [numberOf, List.foldl_map, Nat.ofDigitChars]
        simp only [Nat.mul_comm]
        rfl

end Text

namespace Expression

variable {groups : List (List Char)} {pending : Option (List Char)}
  {template filled text before rest read digits : List Char}

/-! ## Templates that are filled -/

/-- A group number: one or more decimal digits, of which the first ones may be zeros. -/
def IsNumber (digits : List Char) : Prop :=
  digits ≠ [] ∧ ∀ c ∈ digits, c.isDigit = true

/-- A text in braces. -/
def braced (digits : List Char) : List Char :=
  '\x7b' :: digits ++ ['\x7d']

/-- Nowhere in a text does a group number stand in braces. -/
def NoNumber (text : List Char) : Prop :=
  ∀ digits, IsNumber digits → ¬braced digits <:+: text

/-- The second text is the first one with each group number in braces replaced by the text of the group,
which is empty if there is no such group. -/
inductive Filled (groups : List (List Char)) : List Char → List Char → Prop
  | kept {text : List Char} : NoNumber text → Filled groups text text
  | replaced {before digits after first last : List Char} : IsNumber digits →
      Filled groups before first → Filled groups after last →
      Filled groups (before ++ braced digits ++ after)
        (first ++ groups[Nat.ofDigitChars 10 digits 0]?.getD [] ++ last)

theorem NoNumber.within (h : NoNumber text) (hpart : rest <:+: text) : NoNumber rest := by
  intro digits hdigits hbraced
  exact h digits hdigits (hbraced.trans hpart)

/-- Every template can be filled. -/
theorem exists_filled (groups : List (List Char)) (template : List Char) :
    ∃ filled, Filled groups template filled := by
  induction hlength : template.length using Nat.strongRecOn generalizing template with
  | _ n ih =>
      by_cases hnone : NoNumber template
      · exact ⟨template, .kept hnone⟩
      · have hsome : ∃ digits, IsNumber digits ∧ braced digits <:+: template := by
          simpa [NoNumber] using hnone
        obtain ⟨digits, hdigits, before, after, rfl⟩ := hsome
        have hlonger : before.length + after.length < n := by
          simp only [braced, List.length_append, List.length_cons] at hlength
          omega
        obtain ⟨first, hfirst⟩ := ih before.length (by omega) before rfl
        obtain ⟨last, hlast⟩ := ih after.length (by omega) after rfl
        exact ⟨_, .replaced hdigits hfirst hlast⟩

/-! ## The scanner -/

/-- What the scanner has read since an opening brace and not written yet. -/
def undecided : Option (List Char) → List Char
  | none => []
  | some digits => '\x7b' :: digits

theorem fillFrom_digits (h : ∀ c ∈ digits, c.isDigit = true) :
    fillFrom groups (some read) (digits ++ rest) =
      fillFrom groups (some (read ++ digits)) rest := by
  induction digits generalizing read with
  | nil => simp
  | cons c digits ih =>
      obtain ⟨hc, hdigits⟩ := List.forall_mem_cons.mp h
      rw [List.cons_append, fillFrom, if_pos hc, ih hdigits, List.append_assoc, List.singleton_append]

/-- A group number in braces is replaced by its group. -/
theorem fillFrom_braced (h : IsNumber digits) : fillFrom groups none (braced digits ++ rest) =
    groups[Nat.ofDigitChars 10 digits 0]?.getD [] ++ fillFrom groups none rest := by
  calc fillFrom groups none (braced digits ++ rest)
    _ = fillFrom groups (some []) (digits ++ '\x7d' :: rest) := by simp [braced, fillFrom]
    _ = fillFrom groups (some digits) ('\x7d' :: rest) := fillFrom_digits h.2
    _ = groupOf groups digits ++ fillFrom groups none rest := by
        rw [fillFrom, if_neg (by decide), if_pos ⟨rfl, h.1⟩]
    _ = groups[Nat.ofDigitChars 10 digits 0]?.getD [] ++ fillFrom groups none rest := by
        rw [groupOf, Text.decimal_of_isDigit h.2, List.getD_eq_getElem?_getD]

/-- An opening brace is read as if it were the first one, whatever stands before it. -/
theorem fillFrom_append_brace : fillFrom groups pending (before ++ '\x7b' :: rest) =
    fillFrom groups pending before ++ fillFrom groups (some []) rest := by
  fun_induction fillFrom groups pending before with
  | case1 => simp [fillFrom]
  | case2 digits => simp [fillFrom]
  | case3 before ih => simp [fillFrom, ih]
  | case4 c before hc ih => simp [fillFrom, hc, ih]
  | case5 digits c before hdigit ih => simp [fillFrom, hdigit, ih]
  | case6 digits c before hdigit hclosed ih => simp [fillFrom, hclosed, ih]
  | case7 digits before hdigit hclosed ih => simp [fillFrom, ih]
  | case8 digits c before hdigit hclosed hc ih => simp [fillFrom, hdigit, hclosed, hc, ih]

/-- A text in which no group number stands in braces is kept. -/
theorem fillFrom_kept (pending : Option (List Char))
    (hread : ∀ digits ∈ pending, ∀ c ∈ digits, c.isDigit = true)
    (h : NoNumber (undecided pending ++ text)) :
    fillFrom groups pending text = undecided pending ++ text := by
  fun_induction fillFrom groups pending text with
  | case1 => rfl
  | case2 digits => simp [undecided]
  | case3 text ih => exact ih (by simp) h
  | case4 c text hc ih =>
      have hkept := ih nofun (h.within ⟨[c], [], by simp [undecided]⟩)
      rw [hkept]
      rfl
  | case5 digits c text hdigit ih =>
      have hmore : ∀ d ∈ digits ++ [c], d.isDigit = true := by
        intro d hd
        rcases List.mem_append.mp hd with hd | hd
        · exact hread digits rfl d hd
        · rwa [List.mem_singleton.mp hd]
      have hkept := ih (by simpa using hmore) (by simpa [undecided] using h)
      simpa [undecided] using hkept
  | case6 digits c text hdigit hclosed ih =>
      -- the digits that were read would be a group number in braces
      obtain ⟨rfl, hne⟩ := hclosed
      exact absurd ⟨[], text, by simp [braced, undecided]⟩ (h digits ⟨hne, hread digits rfl⟩)
  | case7 digits text hdigit hclosed ih =>
      have hkept := ih (by simp) (h.within ⟨'\x7b' :: digits, [], by simp [undecided]⟩)
      rw [hkept]
      rfl
  | case8 digits c text hdigit hclosed hc ih =>
      have hkept := ih nofun (h.within ⟨'\x7b' :: digits ++ [c], [], by simp [undecided]⟩)
      rw [hkept]
      rfl

theorem Filled.eq_fill (h : Filled groups template filled) : filled = fill groups template := by
  induction h with
  | kept hnone => exact (fillFrom_kept none nofun hnone).symm
  | @replaced before digits after first last hdigits _ _ hfirst hlast =>
      calc first ++ groups[Nat.ofDigitChars 10 digits 0]?.getD [] ++ last
        _ = fillFrom groups none before ++ fillFrom groups none (braced digits ++ after) := by
            rw [fillFrom_braced hdigits, ← List.append_assoc, hfirst, hlast]
            rfl
        _ = fillFrom groups none (before ++ (braced digits ++ after)) := fillFrom_append_brace.symm
        _ = fill groups (before ++ braced digits ++ after) := by rw [fill, List.append_assoc]

/-- The filled template is the one text that filling it can give. -/
theorem filled_iff : Filled groups template filled ↔ filled = fill groups template := by
  constructor
  · exact Filled.eq_fill
  · rintro rfl
    obtain ⟨filled, hfilled⟩ := exists_filled groups template
    exact hfilled.eq_fill ▸ hfilled

end Expression

open Expression

/-- **Substituting is one pass over the template.**  Every template has exactly one filled text, in which
the group numbers in braces are replaced and nothing else, and substituting reads that text as a path.
It fails, with that text, if and only if the text does not begin with a slash. -/
theorem substituted_in_one_pass (groups : List (List Char)) (template : String) :
    ∃ text : String, (∀ filled, Filled groups template.toList filled ↔ filled = text.toList) ∧
      substitute groups template = NodePath.parse text ∧
      ∀ e, substitute groups template = .error e ↔
        e = .notAbsolute text ∧ text.toList.head? ≠ some '/' := by
  refine ⟨String.ofList (fill groups template.toList), ?_, rfl, ?_⟩
  · intro filled
    rw [String.toList_ofList]
    exact filled_iff
  · intro e
    exact NodePath.parse_eq_error_iff

/-- Leading zeros do not count, braces within braces are kept, and inserted text is not read again. -/
example : fill ["/x".toList, "\x7b0\x7d".toList] "/\x7b01\x7d\x7b\x7b1\x7d\x7b7\x7d\x7b\x7d".toList =
    "/\x7b0\x7d\x7b\x7b0\x7d\x7b\x7d".toList := by
  decide

end ContentEngine
