import ContentEngine.Proofs.Expression.Compiling
import ContentEngine.Proofs.Expression.Cut

/-!
# What path expressions match

An expression without classes matches the paths whose text can be cut along the tokens of its
selection.  If it matches, its groups are those of the longest cut, numbered in the order in which
they open.

## Strategy

Compiling an expression scans its selection (`compile_inversion`), so its tokens are the ones that
the selection spells, with every parenthesis closed.  Matching finds the longest cut along them, in
which a parenthesis takes no text, and `getElem?_groupTexts` reads the groups off.
-/

namespace ContentEngine

open Expression

/-! ## Compiled expressions -/

theorem ok_of_toOption {α ε : Type} {x : Except ε α} {a : α} (h : x.toOption = some a) :
    x = .ok a := by
  cases x with
  | error => cases h
  | ok => exact congrArg Except.ok (Option.some.inj h)

namespace PathExpression

variable {text : String} {e : PathExpression}

/-- How a text becomes an expression: its selection is scanned, and its classes are resolved. -/
theorem compile_inversion (h : compile text = .ok e) :
    e.selection = String.ofList (splitOutput (Text.trim text.toList)).1 ∧
      ∃ ts, tokens e.selection.toList = .ok ts ∧ resolve ts = .ok e.elements := by
  obtain ⟨selection, ts, hselection, -, hts, hes, -, hwritten⟩ := of_compile_ok h
  rw [hwritten, String.toList_ofList]
  exact ⟨congrArg String.ofList (selectionOf_iff.mp hselection), ts, hts, (elements_ok_iff.mp hes).1⟩

/-- The selection is part of the text. -/
theorem mem_of_mem_selection {c : Char} (h : compile text = .ok e) (hc : c ∈ e.selection.toList) :
    c ∈ text.toList := by
  obtain ⟨selection, -, hselection, -, -, -, -, hwritten⟩ := of_compile_ok h
  rw [hwritten, String.toList_ofList] at hc
  exact Text.mem_of_mem_trim ((hselection.isPrefix fun _ => Text.head?_trim).subset hc)

/-- The tokens of an expression without classes are the ones that its selection spells. -/
theorem spelled_of_compile (h : compile text = .ok e) (hclass : '[' ∉ text.toList) :
    Spelled e.selection.toList e.elements ∧ Nested 0 e.elements := by
  obtain ⟨-, ts, hts, hes⟩ := compile_inversion h
  have hselection : '[' ∉ e.selection.toList := fun hc => hclass (mem_of_mem_selection h hc)
  obtain ⟨hspelled, hnested⟩ := spelled_of_scan hts hselection
  exact ⟨hspelled.resolve hes, hnested.resolve hes⟩

/-- An expression matches the paths whose text can be cut along its tokens. -/
theorem isMatch_iff {path : NodePath} :
    e.isMatch path = true ↔ Cuttable e.elements path.text.toList := by
  unfold isMatch groups? Expression.groups?
  rw [Option.isSome_map]
  exact cut?_isSome

end PathExpression

/-! ## Groups of the longest cut -/

theorem Expression.IsCut.noText {es : List Element} {cs : List Char} {pieces : List (List Char)}
    (h : IsCut es cs pieces) : NoText (es.zip pieces) := by
  induction h with
  | nil => nofun
  | cons hfits _ ih =>
      intro p hp hparenthesis
      rcases List.mem_cons.mp hp with rfl | hp
      · rcases hparenthesis with rfl | rfl
        · exact hfits
        · exact hfits
      · exact ih p hp hparenthesis

/-- The groups of a match with a text, group 0 first: the text itself, and then one group for each
token that captures, as the longest cut has it. -/
structure GroupsOf (elements : List Element) (cs : List Char) (groups : List (List Char)) : Prop where
  length_eq : groups.length = elements.countP Token.isCapturing + 1
  whole : groups[0]? = some cs
  numbered : ∃ pieces, LongestCut elements cs pieces ∧ ∀ before e piece after,
    elements.zip pieces = before ++ (e, piece) :: after → e.isCapturing = true →
      ∃ group, IsGroup ((e, piece) :: after) group ∧
        groups[before.countP (·.1.isCapturing) + 1]? = some group

theorem groupsOf_of_groups? {es : List Element} {cs : List Char} {groups : List (List Char)}
    (hnested : Nested 0 es) (h : groups? es cs = some groups) : GroupsOf es cs groups := by
  unfold groups? at h
  obtain ⟨pieces, hpieces, rfl⟩ := Option.map_eq_some_iff.mp h
  have hlongest : LongestCut es cs pieces := .of_cut? hpieces
  have htokens : (es.zip pieces).map Prod.fst = es :=
    List.map_fst_zip (Nat.le_of_eq hlongest.cut.length_eq.symm)
  refine ⟨?_, rfl, pieces, hlongest, fun before e piece after hzip hcapturing => ?_⟩
  · calc (cs :: groupTexts (es.zip pieces)).length
      _ = (es.zip pieces).countP (Token.isCapturing ∘ Prod.fst) + 1 :=
          congrArg (· + 1) length_groupTexts
      _ = es.countP Token.isCapturing + 1 := by rw [← List.countP_map, htokens]
  · have htext := hlongest.cut.noText
    rw [← htokens, hzip] at hnested
    rw [hzip] at htext ⊢
    obtain ⟨group, hgroup, hget⟩ := getElem?_groupTexts hcapturing hnested htext
    exact ⟨group, hgroup, by rwa [List.getElem?_cons_succ]⟩

/-- An expression without classes matches a path if and only if the text of the path can be cut along
the tokens that its selection spells.  If it matches, its groups are those of the longest cut. -/
theorem matches_longest_cut {text : String} {e : PathExpression}
    (h : PathExpression.compile text = .ok e) (hclass : '[' ∉ text.toList) (path : NodePath) :
    Spelled e.selection.toList e.elements ∧
      ((e.groups? path).isSome ↔ Cuttable e.elements path.text.toList) ∧
      (e.isMatch path = true ↔ Cuttable e.elements path.text.toList) ∧
      ∀ groups, e.groups? path = some groups →
        groups.length = e.groupCount + 1 ∧ GroupsOf e.elements path.text.toList groups := by
  obtain ⟨hspelled, hnested⟩ := PathExpression.spelled_of_compile h hclass
  have hcut : (e.groups? path).isSome ↔ Cuttable e.elements path.text.toList := by
    unfold PathExpression.groups? Expression.groups?
    rw [Option.isSome_map]
    exact cut?_isSome
  refine ⟨hspelled, hcut, hcut, fun groups hgroups => ?_⟩
  have hgroupsOf := groupsOf_of_groups? hnested hgroups
  exact ⟨hgroupsOf.length_eq, hgroupsOf⟩

/-- Of `/a/b1`, `/(a/*)?` leaves its last character to the question mark and the rest to the star. -/
theorem matches_longest_cut_nested :
    ∃ (e : PathExpression) (path : NodePath), PathExpression.compile "/(a/*)?" = .ok e ∧
      '[' ∉ "/(a/*)?".toList ∧ path.text = "/a/b1" ∧
      e.groups? path = some ["/a/b1".toList, "a/b".toList, "b".toList, "1".toList] ∧
      GroupsOf e.elements path.text.toList
        ["/a/b1".toList, "a/b".toList, "b".toList, "1".toList] := by
  let e : PathExpression := ⟨"/(a/*)?", "/(a/*)?", none,
    [.literal '/', .groupOpen, .literal 'a', .literal '/', .segmentRun, .groupClose, .single]⟩
  let path : NodePath := ⟨["a", "b1"], by decide⟩
  have hcompile : PathExpression.compile "/(a/*)?" = .ok e := ok_of_toOption (by decide +kernel)
  have hgroups : e.groups? path =
      some ["/a/b1".toList, "a/b".toList, "b".toList, "1".toList] := by decide
  obtain ⟨-, -, -, hall⟩ := matches_longest_cut hcompile (by decide) path
  exact ⟨e, path, hcompile, by decide, by decide, hgroups, (hall _ hgroups).2⟩

end ContentEngine
