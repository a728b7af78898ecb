import ContentEngine.Proofs.Expression.Matching
import ContentEngine.Proofs.Expression.Placeholders

/-!
# Matched paths are filled in again

A selection of literals and wildcards has a template of its own: each literal stands for itself, and
the wildcards are written as placeholders, numbered from the left.  Filled with the groups of a match,
the template gives the matched path back.

## Strategy

A placeholder is read up to its closing brace and replaced by its group (`fillFrom_placeholder`);
what is inserted is not read again, so braces in a path do no harm.  The pieces of a cut are the groups
of its wildcards in order, and the literals are pieces of their own, so the filled template is the text
that was cut (`fillFrom_templateFrom`, by induction on the cut).
-/

namespace ContentEngine

namespace Expression

/-! ## Templates of selections -/

variable {β : Type} {groups : List (List Char)} {rest : List Char} {n : Nat}

/-- The tokens that a template can write: wildcards, and literals other than an opening brace. -/
inductive Flat : Token β → Prop
  | literal {c} : c ≠ '\x7b' → Flat (.literal c)
  | segmentRun : Flat .segmentRun
  | pathRun : Flat .pathRun
  | single : Flat .single

/-- The placeholder of a group. -/
def placeholder (n : Nat) : List Char :=
  '\x7b' :: Nat.toDigits 10 n ++ ['\x7d']

/-- The template of some literals and wildcards, the first of which has the number `n`. -/
def templateFrom (n : Nat) : List (Token β) → List Char
  | [] => []
  | .literal c :: ts => c :: templateFrom n ts
  | _ :: ts => placeholder n ++ templateFrom (n + 1) ts

/-! ## Filling -/

/-- A placeholder is replaced by its group. -/
theorem fillFrom_placeholder : fillFrom groups none (placeholder n ++ rest) =
    groups.getD n [] ++ fillFrom groups none rest := by
  have hnumber : IsNumber (Nat.toDigits 10 n) := ⟨Nat.toDigits_ne_nil, fun c hc =>
    Nat.isDigit_of_mem_toDigits (by decide) (by decide) hc⟩
  calc fillFrom groups none (placeholder n ++ rest)
    _ = groups[Nat.ofDigitChars 10 (Nat.toDigits 10 n) 0]?.getD [] ++ fillFrom groups none rest :=
        fillFrom_braced hnumber
    _ = groups.getD n [] ++ fillFrom groups none rest := by
        rw [Nat.ofDigitChars_ten_toDigits, List.getD_eq_getElem?_getD]

/-- The template of the tokens along which a text is cut gives the text back, if its placeholders stand
for the pieces of the wildcards. -/
theorem fillFrom_templateFrom {es : List Element} {cs : List Char} {pieces : List (List Char)}
    (h : IsCut es cs pieces) (hflat : ∀ e ∈ es, Flat e)
    (hgroups : groups.drop n = groupTexts (es.zip pieces)) :
    fillFrom groups none (templateFrom n es) = cs := by
  induction h generalizing n with
  | nil => rfl
  | @cons e es piece cs pieces hfits _ ih =>
      obtain ⟨he, hes⟩ := List.forall_mem_cons.mp hflat
      have hwildcard (hnext : groups.drop n = piece :: groupTexts (es.zip pieces)) :
          fillFrom groups none (placeholder n ++ templateFrom (n + 1) es) = piece ++ cs := by
        have hpiece : groups[n]? = some piece := by
          rw [← List.head?_drop, hnext, List.head?_cons]
        have hlater : groups.drop (n + 1) = groupTexts (es.zip pieces) := by
          rw [← List.tail_drop, hnext, List.tail_cons]
        rw [fillFrom_placeholder, List.getD_eq_getElem?_getD, hpiece, Option.getD_some, ih hes hlater]
      cases he with
      | literal hc =>
          obtain rfl : piece = [_] := hfits
          rw [templateFrom, fillFrom, if_neg hc, ih hes hgroups, List.singleton_append]
      | segmentRun => exact hwildcard hgroups
      | pathRun => exact hwildcard hgroups
      | single => exact hwildcard hgroups

theorem nested_of_flat {ts : List (Token β)} (h : ∀ t ∈ ts, Flat t) : Nested 0 ts := by
  refine .of_no_parentheses fun t ht => ?_
  cases h t ht with
  | _ => exact ⟨nofun, nofun⟩

end Expression

open Expression

/-- The tokens of an expression are the ones that its selection spells. -/
theorem PathExpression.elements_eq {text : String} {e : PathExpression} {es : List Element}
    (h : compile text = .ok e) (hspelled : Spelled e.selection.toList es) (hnested : Nested 0 es) :
    e.elements = es := by
  obtain ⟨-, ts, hts, hes⟩ := compile_inversion h
  obtain ⟨ts', hts', hes'⟩ := hspelled.tokens hnested
  obtain rfl := Except.ok.inj (hts.symm.trans hts')
  exact Except.ok.inj (hes.symm.trans hes')

/-- **Substituting undoes matching.**  If the selection of an expression consists of literals other than
an opening brace and of wildcards, its template gives every path back that the expression matches. -/
theorem substituted_back {text : String} {e : PathExpression} {es : List Element}
    (h : PathExpression.compile text = .ok e) (hspelled : Spelled e.selection.toList es)
    (hflat : ∀ t ∈ es, Flat t) (path : NodePath) (hmatch : e.isMatch path = true) :
    ∃ groups, e.groups? path = some groups ∧
      substitute groups (String.ofList (templateFrom 1 es)) = .ok path := by
  obtain rfl := PathExpression.elements_eq h hspelled (nested_of_flat hflat)
  obtain ⟨groups, hgroups⟩ := Option.isSome_iff_exists.mp hmatch
  refine ⟨groups, hgroups, ?_⟩
  obtain ⟨pieces, hpieces, rfl⟩ := Option.map_eq_some_iff.mp hgroups
  have hfill := fillFrom_templateFrom (LongestCut.of_cut? hpieces).cut hflat
    (rfl : (path.text.toList :: groupTexts (e.elements.zip pieces)).drop 1 = _)
  unfold substitute fill
  rw [String.toList_ofList, hfill, String.ofList_toList, NodePath.parse_text]

/-- Braces in the path are not taken for placeholders. -/
theorem substituted_back_braces :
    ∃ (e : PathExpression) (es : List Element) (path : NodePath) (groups : List (List Char)),
      PathExpression.compile "/\\**/**" = .ok e ∧ Spelled e.selection.toList es ∧
      (∀ t ∈ es, Flat t) ∧ path.text = "/*\x7b2\x7d\x7d/b/\x7b0\x7d" ∧ e.isMatch path = true ∧
      e.groups? path = some groups ∧ templateFrom 1 es = "/*\x7b1\x7d/\x7b2\x7d".toList ∧
      substitute groups (String.ofList (templateFrom 1 es)) = .ok path := by
  let es : List Element := [.literal '/', .literal '*', .segmentRun, .literal '/', .pathRun]
  let e : PathExpression := ⟨"/\\**/**", "/\\**/**", none, es⟩
  let path : NodePath := ⟨["*\x7b2\x7d\x7d", "b", "\x7b0\x7d"], by decide⟩
  have hcompile : PathExpression.compile "/\\**/**" = .ok e := ok_of_toOption (by decide +kernel)
  have hselection : e.selection.toList = ['/', '\\', '*', '*', '/', '*', '*'] := by decide
  have hspelled : Spelled e.selection.toList es := by
    rw [hselection]
    exact .literal (by decide) (.escaped (.segmentRun (by decide) (.literal (by decide) (.pathRun .nil))))
  have hflat : ∀ t ∈ es, Flat t := by
    intro t ht
    simp only [es, List.mem_cons, List.not_mem_nil, or_false] at ht
    rcases ht with rfl | rfl | rfl | rfl | rfl
    · exact .literal (by decide)
    · exact .literal (by decide)
    · exact .segmentRun
    · exact .literal (by decide)
    · exact .pathRun
  have hmatch : e.isMatch path = true := by decide
  obtain ⟨groups, hgroups, hback⟩ := substituted_back hcompile hspelled hflat path hmatch
  exact ⟨e, es, path, groups, hcompile, hspelled, hflat, by decide, hmatch, hgroups, by decide, hback⟩

end ContentEngine
