import ContentEngine.Proofs.Expression.Limits
import ContentEngine.Proofs.Expression.Matching

/-!
# Doubled stars

A star takes a run of characters of one segment, a doubled star a run of characters of one line.  An
expression with a star that is doubled is an expression again.  The two agree on what stands around the
star, and differ in what it takes.

## Strategy

What follows the star is divided at its arrow and trimmed without looking at what stands before it
(`splitOutput_star`), so the two texts have selections that differ in one token.  The selection with the
doubled star is not refused, because it is not deeper and not larger than the other one.  Cutting a text
along either of them leaves a run for the star (`cuttable_around`).
-/

namespace ContentEngine

open Expression Text

namespace Expression

variable {before after cs : List Char} {us vs : List Element} {e : Element}

/-! ## Texts with a star -/

/-- What stands behind a star belongs to the selection up to its first arrow or its end. -/
theorem splitOutput_star (after : List Char) : ∃ rest output, rest <+: after ∧
    ∀ before, ¬['=', '>'] <:+: before → (∀ c, before.head? = some c → isBlank c = false) →
      splitOutput (before ++ '*' :: after) = (before ++ '*' :: rest, output) := by
  cases hcut : cutOnce ['=', '>'] after with
  | none =>
      refine ⟨after, none, List.prefix_rfl, fun before harrow _ => ?_⟩
      rw [splitOutput, cutOnce_append_cons harrow (by decide), hcut]
      rfl
  | some parts =>
      obtain ⟨rfl, -⟩ := eq_of_cutOnce (by simp) hcut
      refine ⟨trimEnd parts.1, some (trim parts.2), ?_, fun before harrow hhead => ?_⟩
      · rw [List.append_assoc]
        exact (trimEnd_isPrefix parts.1).trans (List.prefix_append _ _)
      · have htrim : trim (before ++ '*' :: parts.1) = before ++ '*' :: trimEnd parts.1 := by
          have hhead' : ∀ c, (before ++ '*' :: parts.1).head? = some c → isBlank c = false := by
            cases before with
            | nil => rintro c ⟨⟩; decide
            | cons => exact hhead
          rw [trim_eq_trimEnd hhead', trimEnd_append_cons (by decide)]
        rw [splitOutput, cutOnce_append_cons harrow (by decide), hcut, ← htrim]
        rfl

/-- One star or two, the rest of the selection and the output are the same. -/
theorem splitOutput_stars (after : List Char) (harrow : ¬['=', '>'] <:+: before)
    (hhead : ∀ c, before.head? = some c → isBlank c = false) :
    ∃ rest output, rest <+: after ∧
      splitOutput (before ++ '*' :: after) = (before ++ '*' :: rest, output) ∧
      splitOutput (before ++ '*' :: '*' :: after) = (before ++ '*' :: '*' :: rest, output) := by
  obtain ⟨rest, output, hrest, hsplit⟩ := splitOutput_star after
  have harrow' : ¬['=', '>'] <:+: before ++ ['*'] := not_arrow_append harrow (by simp) (by decide)
  have hhead' : ∀ c, (before ++ ['*']).head? = some c → isBlank c = false := by
    cases before with
    | nil => rintro c ⟨⟩; decide
    | cons => exact hhead
  refine ⟨rest, output, hrest, hsplit before harrow hhead, ?_⟩
  simpa using hsplit (before ++ ['*']) harrow' hhead'

/-- A text that is trimmed stays so if a star in it is doubled. -/
theorem trim_star (h : trim (before ++ '*' :: after) = before ++ '*' :: after) :
    trim (before ++ '*' :: '*' :: after) = before ++ '*' :: '*' :: after := by
  have hhead : (before ++ '*' :: '*' :: after).head? = (before ++ '*' :: after).head? := by
    cases before <;> rfl
  have hlast : (before ++ '*' :: '*' :: after).getLast? = (before ++ '*' :: after).getLast? := by
    simp [List.getLast?_append, List.getLast?_cons_cons]
  refine trim_eq_self (fun c hc => ?_) (fun c hc => ?_)
  · rw [hhead, ← h] at hc
    exact head?_trim hc
  · rw [hlast, ← h] at hc
    exact getLast?_trim hc

/-! ## What a star takes -/

/-- A run stands in a text between two parts that are cut along the tokens before and behind it. -/
def Around (us vs : List Element) (cs run : List Char) : Prop :=
  ∃ start stop, cs = start ++ (run ++ stop) ∧ Cuttable us start ∧ Cuttable vs stop

theorem cuttable_around :
    Cuttable (us ++ e :: vs) cs ↔ ∃ run, Around us vs cs run ∧ e.Fits run := by
  rw [cuttable_append]
  constructor
  · rintro ⟨start, _, rfl, hstart, _, hcut⟩
    cases hcut with
    | cons hfits hstop => exact ⟨_, ⟨start, _, rfl, hstart, _, hstop⟩, hfits⟩
  · rintro ⟨run, ⟨start, stop, rfl, hstart, _, hstop⟩, hfits⟩
    exact ⟨start, run ++ stop, rfl, hstart, _, .cons hfits hstop⟩

/-! ## The doubled star -/

theorem Selects.star {rest : List Char} {output : Option (List Char)}
    (h : Selects (before ++ '*' :: after) (before ++ '*' :: rest))
    (hnarrow : splitOutput (before ++ '*' :: after) = (before ++ '*' :: rest, output))
    (hdouble : splitOutput (before ++ '*' :: '*' :: after) = (before ++ '*' :: '*' :: rest, output)) :
    Selects (before ++ '*' :: '*' :: after) (before ++ '*' :: '*' :: rest) where
  nonempty := by simp
  complete := by
    have hcomplete := h.complete
    rw [lacksOutput_iff, hnarrow] at hcomplete
    rwa [lacksOutput_iff, hdouble]
  absolute := by
    rw [← h.absolute]
    cases before <;> rfl

theorem Nested.star {depth : Nat} (h : Nested depth (us ++ .segmentRun :: vs)) :
    Nested depth (us ++ .pathRun :: vs) := by
  induction us generalizing depth with
  | nil =>
      cases h with
      | other _ _ h => exact .other nofun nofun h
  | cons u us ih =>
      cases h with
      | opening h => exact .opening (ih h)
      | closing h => exact .closing (ih h)
      | other hopen hclose h => exact .other hopen hclose (ih h)

/-- Doubling a star does not get an expression refused. -/
theorem elements_star {es : List Element} {ts : List (Token (List Char))} {rest : List Char}
    (hts : tokens (before ++ '*' :: rest) = .ok ts) (hes : elements ts = .ok es)
    (hclass : '[' ∉ before ++ '*' :: rest) (hspelled : Spelled before us)
    (hlast : us.getLast? ≠ some .segmentRun) (hnext : rest.head? ≠ some '*') :
    ∃ vs ts', es = us ++ .segmentRun :: vs ∧ tokens (before ++ '*' :: '*' :: rest) = .ok ts' ∧
      elements ts' = .ok (us ++ .pathRun :: vs) := by
  obtain ⟨hresolve, hdepth, hsize⟩ := elements_ok_iff.mp hes
  obtain ⟨hall, hnested⟩ := spelled_of_scan hts hclass
  obtain ⟨others, rfl, hothers⟩ := hspelled.of_append hlast (hall.resolve hresolve)
  cases hothers with
  | pathRun => exact absurd rfl hnext
  | literal hmarks => exact absurd (by decide) hmarks
  | @segmentRun _ vs _ hvs =>
      have hwide : Spelled (before ++ '*' :: '*' :: rest) (us ++ .pathRun :: vs) :=
        hspelled.append hlast (.pathRun hvs)
      obtain ⟨ts', hts', hresolve'⟩ := hwide.scan (hnested.resolve hresolve).star
      refine ⟨vs, ts', rfl, hts', elements_ok_iff.mpr ⟨hresolve', ?_, ?_⟩⟩
      · exact (nesting_pathRun_le us vs).trans hdepth
      · rwa [size_pathRun]

end Expression

namespace PathExpression

/-- An expression with a doubled star has the tokens of the one with a single star, but for the star. -/
theorem compile_star {text : String} {e : PathExpression} {before after : List Char}
    {us : List Element} (h : compile text = .ok e) (hclass : '[' ∉ e.selection.toList)
    (hwritten : e.expression.toList = before ++ '*' :: after) (harrow : ¬['=', '>'] <:+: before)
    (hspelled : Spelled before us) (hlast : us.getLast? ≠ some .segmentRun)
    (hnext : after.head? ≠ some '*') :
    ∃ wide vs, compile (String.ofList (before ++ '*' :: '*' :: after)) = .ok wide ∧
      e.elements = us ++ .segmentRun :: vs ∧ wide.elements = us ++ .pathRun :: vs := by
  obtain ⟨selection, ts, hselection, hselects, hts, hes, hexpression, hwhole⟩ := of_compile_ok h
  obtain hcs : trim text.toList = before ++ '*' :: after := by
    rw [← hwritten, hexpression, String.toList_ofList]
  rw [hcs] at hselection hselects
  have hhead : ∀ c, before.head? = some c → isBlank c = false := by
    intro c hc
    have htrim : (trim text.toList).head? = some c := by
      rw [hcs, List.head?_append, hc, Option.some_or]
    exact head?_trim htrim
  -- the arrow and the blanks around it are behind the star, or there is no arrow
  obtain ⟨rest, output, hrest, hnarrow, hdouble⟩ := splitOutput_stars after harrow hhead
  obtain rfl : selection = before ++ '*' :: rest := by rw [selectionOf_iff.mp hselection, hnarrow]
  have hstar : rest.head? ≠ some '*' := by
    rintro hstar
    obtain ⟨more, rfl⟩ := List.head?_eq_some_iff.mp hstar
    obtain ⟨tail, rfl⟩ := hrest
    exact hnext rfl
  rw [hwhole, String.toList_ofList] at hclass
  obtain ⟨vs, ts', heq, hts', hes'⟩ := elements_star hts hes hclass hspelled hlast hstar
  have htrim : trim (String.ofList (before ++ '*' :: '*' :: after)).toList =
      before ++ '*' :: '*' :: after := by
    rw [String.toList_ofList]
    exact trim_star (by rw [← hcs, trim_trim])
  have hselection' : SelectionOf (trim (String.ofList (before ++ '*' :: '*' :: after)).toList)
      (before ++ '*' :: '*' :: rest) := by
    rw [htrim, selectionOf_iff, hdouble]
  have hselects' : Selects (trim (String.ofList (before ++ '*' :: '*' :: after)).toList)
      (before ++ '*' :: '*' :: rest) := by
    rw [htrim]
    exact hselects.star hnarrow hdouble
  exact ⟨_, vs, compile_ok hselection' hselects' hts' hes', heq, rfl⟩

end PathExpression

open PathExpression

/-- **Doubling a star.**  If a star of an expression without classes stands next to no other one and is
doubled, the result is an expression.  The first one matches a path if the star can take a run without
slashes of it, the second one if it can take a run without line feeds.  So the second one matches all
paths of the first one in which there is no line feed. -/
theorem stars_doubled {text : String} {e : PathExpression} {before after : List Char}
    {us : List Element} (h : compile text = .ok e) (hclass : '[' ∉ e.selection.toList)
    (hwritten : e.expression.toList = before ++ '*' :: after) (harrow : ¬['=', '>'] <:+: before)
    (hspelled : Spelled before us) (hlast : us.getLast? ≠ some .segmentRun)
    (hnext : after.head? ≠ some '*') :
    ∃ wide vs, compile (String.ofList (before ++ '*' :: '*' :: after)) = .ok wide ∧
      e.elements = us ++ .segmentRun :: vs ∧ wide.elements = us ++ .pathRun :: vs ∧
      (∀ path, e.isMatch path = true ↔
        ∃ run, Around us vs path.text.toList run ∧ '/' ∉ run) ∧
      (∀ path, wide.isMatch path = true ↔
        ∃ run, Around us vs path.text.toList run ∧ '\n' ∉ run) ∧
      ∀ path, '\n' ∉ path.text.toList → e.isMatch path = true → wide.isMatch path = true := by
  obtain ⟨wide, vs, hwide, hnarrow, hdouble⟩ :=
    compile_star h hclass hwritten harrow hspelled hlast hnext
  have hsingle (path : NodePath) : e.isMatch path = true ↔
      ∃ run, Around us vs path.text.toList run ∧ '/' ∉ run := by
    rw [isMatch_iff, hnarrow]
    exact cuttable_around
  have hdoubled (path : NodePath) : wide.isMatch path = true ↔
      ∃ run, Around us vs path.text.toList run ∧ '\n' ∉ run := by
    rw [isMatch_iff, hdouble]
    exact cuttable_around
  refine ⟨wide, vs, hwide, hnarrow, hdouble, hsingle, hdoubled, fun path hline hmatch => ?_⟩
  obtain ⟨run, haround, -⟩ := (hsingle path).mp hmatch
  refine (hdoubled path).mpr ⟨run, haround, fun hrun => hline ?_⟩
  obtain ⟨start, stop, hcut, -, -⟩ := haround
  rw [hcut]
  exact List.mem_append_right _ (List.mem_append_left _ hrun)

/-- Doubled before an arrow, a star crosses segments. -/
theorem stars_doubled_output :
    ∃ (e wide : PathExpression) (path : NodePath),
      compile "/in/*.pdf => /out/\x7b1\x7d" = .ok e ∧ '[' ∉ e.selection.toList ∧
      e.expression.toList = "/in/".toList ++ '*' :: ".pdf => /out/\x7b1\x7d".toList ∧
      compile "/in/**.pdf => /out/\x7b1\x7d" = .ok wide ∧ path.text = "/in/a/b.pdf" ∧
      e.isMatch path = false ∧ wide.isMatch path = true := by
  let us : List Element := "/in/".toList.map .literal
  let vs : List Element := ".pdf".toList.map .literal
  let e : PathExpression :=
    ⟨"/in/*.pdf => /out/\x7b1\x7d", "/in/*.pdf", some "/out/\x7b1\x7d", us ++ .segmentRun :: vs⟩
  let path : NodePath := ⟨["in", "a", "b.pdf"], by decide⟩
  have hcompile : compile "/in/*.pdf => /out/\x7b1\x7d" = .ok e := ok_of_toOption (by decide +kernel)
  have hspelled : Spelled "/in/".toList us := by
    have hbefore : "/in/".toList = ['/', 'i', 'n', '/'] := by decide
    rw [hbefore]
    exact .literal (by decide) (.literal (by decide) (.literal (by decide) (.literal (by decide) .nil)))
  have hwritten : e.expression.toList =
      "/in/".toList ++ '*' :: ".pdf => /out/\x7b1\x7d".toList := by decide
  obtain ⟨wide, vs', hwide, heq, hdouble, -, -, -⟩ := stars_doubled hcompile (by decide)
    hwritten (by decide) hspelled (by decide) (by decide)
  have hvs : vs' = vs := (List.cons.inj (List.append_cancel_left heq)).2.symm
  have htext : String.ofList ("/in/".toList ++ '*' :: '*' :: ".pdf => /out/\x7b1\x7d".toList) =
      "/in/**.pdf => /out/\x7b1\x7d" := by decide
  have hmatch : wide.isMatch path = true := by
    unfold isMatch PathExpression.groups?
    rw [hdouble, hvs]
    decide
  exact ⟨e, wide, path, hcompile, by decide, hwritten, htext ▸ hwide, by decide, by decide, hmatch⟩

/-- A star takes a line feed in a segment, a doubled star does not. -/
theorem doubled_star_lineFeed :
    ∃ (e wide : PathExpression) (path : NodePath), compile "/*" = .ok e ∧ compile "/**" = .ok wide ∧
      path.text = "/a\nb" ∧ e.isMatch path = true ∧ wide.isMatch path = false := by
  let e : PathExpression := ⟨"/*", "/*", none, [.literal '/', .segmentRun]⟩
  let wide : PathExpression := ⟨"/**", "/**", none, [.literal '/', .pathRun]⟩
  let path : NodePath := ⟨["a\nb"], by decide⟩
  have he : compile "/*" = .ok e := ok_of_toOption (by decide +kernel)
  have hwide : compile "/**" = .ok wide := ok_of_toOption (by decide +kernel)
  exact ⟨e, wide, path, he, hwide, by decide, by decide, by decide⟩

end ContentEngine
