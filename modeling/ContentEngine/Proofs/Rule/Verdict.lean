import ContentEngine.Proofs.Store.Paths
import ContentEngine.Rule.Matcher
import Mathlib.Data.List.Forall2
import Mathlib.Data.List.ProdSigma

/-!
# Verdicts of rules about paths

Each path of an event is judged by each rule.  The first expression of the rule that matches the path
decides: the template of that expression, filled with the groups of its match, names the output, and a
text that is no path is warned about.  A rule none of whose expressions matches passes the path over.

The matching of an event is exact: its work and its warnings are what the verdicts of all pairs of a
path and a rule give, path by path and for each path rule by rule.

## Strategy

`Verdict` says what a rule has to say about a path, with no search in it.  The expression that is found
first is the one that decides (`firstMatch?_eq_some_iff`), so `match?` gives the only verdict
(`verdict_iff`), and the matches of an event are those of its pairs in order (`matchesOf_eq`).
-/

namespace ContentEngine

/-! ## The deciding expression and its template -/

namespace ProcessorRule

variable {r : ProcessorRule} {path : NodePath} {e : PathExpression} {groups : List (List Char)}

/-- No expression of the rule matches the path. -/
def PassesOver (r : ProcessorRule) (path : NodePath) : Prop :=
  ∀ e ∈ r.expressions, e.groups? path = none

/-- The expression is the first one of the rule that matches the path, with these groups. -/
def Decides (r : ProcessorRule) (path : NodePath) (e : PathExpression)
    (groups : List (List Char)) : Prop :=
  e.groups? path = some groups ∧
    ∃ before after, r.expressions = before ++ e :: after ∧ ∀ e' ∈ before, e'.groups? path = none

theorem firstMatch?_eq_none_iff : r.firstMatch? path = none ↔ r.PassesOver path := by
  simp [firstMatch?, PassesOver]

theorem firstMatch?_eq_some_iff : r.firstMatch? path = some (e, groups) ↔ r.Decides path e groups := by
  unfold firstMatch? Decides
  rw [List.findSome?_eq_some_iff]
  constructor
  · rintro ⟨before, e', after, hsplit, hmatch, hbefore⟩
    obtain ⟨groups', hgroups, hpair⟩ := Option.map_eq_some_iff.mp hmatch
    obtain ⟨rfl, rfl⟩ := Prod.mk.inj hpair
    exact ⟨hgroups, before, after, hsplit, fun e'' he'' => Option.map_eq_none_iff.mp (hbefore e'' he'')⟩
  · rintro ⟨hgroups, before, after, hsplit, hbefore⟩
    refine ⟨before, e, after, hsplit, by rw [hgroups]; rfl, fun e' he' => ?_⟩
    exact Option.map_eq_none_iff.mpr (hbefore e' he')

/-- The template of a match of an expression: that of the expression, else that of the rule, else the
whole path. -/
inductive TemplateOf (r : ProcessorRule) (e : PathExpression) : String → Prop
  | own {template} : e.output = some template → TemplateOf r e template
  | shared {template} : e.output = none → r.outputTemplate = some template → TemplateOf r e template
  | whole : e.output = none → r.outputTemplate = none → TemplateOf r e "\x7b0\x7d"

theorem templateOf_iff {template : String} : r.TemplateOf e template ↔ r.templateFor e = template := by
  unfold templateFor
  constructor
  · rintro (howned | ⟨hnone, hshared⟩ | ⟨hnone, hneither⟩)
    · rw [howned]
      rfl
    · rw [hnone, hshared]
      rfl
    · rw [hnone, hneither]
      rfl
  · rintro rfl
    cases howned : e.output with
    | some template => exact .own howned
    | none =>
        cases hshared : r.outputTemplate with
        | some template => exact .shared howned hshared
        | none => exact .whole howned hshared

end ProcessorRule

/-! ## Verdicts -/

namespace RuleMatcher

variable {π : Type} {event : ChangeEvent} {path : NodePath} {bound : BoundRule π}

/-- The template with the groups of a match filled in. -/
def filled (groups : List (List Char)) (template : String) : String :=
  String.ofList (Expression.fill groups template.toList)

theorem substitute_eq_parse (groups : List (List Char)) (template : String) :
    Expression.substitute groups template = NodePath.parse (filled groups template) :=
  rfl

/-- What a rule has to say about a path of an event: nothing, a job from the path to the output under
the source of the event, or a warning that the output is no absolute path. -/
inductive Verdict (event : ChangeEvent) (path : NodePath) (bound : BoundRule π) :
    Option (Match π) → Prop
  | passedOver : bound.rule.PassesOver path → Verdict event path bound none
  | work {e groups template output} : bound.rule.Decides path e groups →
      bound.rule.TemplateOf e template → NodePath.parse (filled groups template) = .ok output →
      Verdict event path bound (some (.work
        ⟨⟨⟨event.source, path⟩, ⟨event.source, output⟩, bound.rule, event.sequence⟩,
          bound.processor⟩))
  | warning {e groups template} : bound.rule.Decides path e groups →
      bound.rule.TemplateOf e template → (filled groups template).toList.head? ≠ some '/' →
      Verdict event path bound (some (.warning ⟨.warning, "Rule '" ++ bound.rule.name ++ "' matched " ++
        path.text ++ " but output template '" ++ template ++ "' is not a valid path: " ++
        (PathError.notAbsolute (filled groups template)).message⟩))

/-- The match that is found is the verdict, and there is no other one. -/
theorem verdict_iff {verdict : Option (Match π)} :
    Verdict event path bound verdict ↔ match? event path bound = verdict := by
  constructor
  · rintro (hpassed | ⟨hdecides, htemplate, houtput⟩ | ⟨hdecides, htemplate, hrelative⟩)
    · rw [match?, ProcessorRule.firstMatch?_eq_none_iff.mpr hpassed]
      rfl
    · rw [match?, ProcessorRule.firstMatch?_eq_some_iff.mpr hdecides]
      simp only [Option.map_some, ProcessorRule.templateOf_iff.mp htemplate]
      rw [substitute_eq_parse, houtput]
    · rw [match?, ProcessorRule.firstMatch?_eq_some_iff.mpr hdecides]
      simp only [Option.map_some, ProcessorRule.templateOf_iff.mp htemplate]
      rw [substitute_eq_parse, NodePath.parse_relative hrelative]
  · rintro rfl
    unfold match?
    cases hfirst : bound.rule.firstMatch? path with
    | none => exact .passedOver (ProcessorRule.firstMatch?_eq_none_iff.mp hfirst)
    | some found =>
        obtain ⟨e, groups⟩ := found
        have hdecides := ProcessorRule.firstMatch?_eq_some_iff.mp hfirst
        have htemplate := ProcessorRule.templateOf_iff.mpr (rfl : bound.rule.templateFor e = _)
        simp only [Option.map_some]
        cases houtput : Expression.substitute groups (bound.rule.templateFor e) with
        | ok output => exact .work hdecides htemplate houtput
        | error fault =>
            -- a text is refused as a path only if it does not begin with a slash
            have hrelative := NodePath.head?_of_parse_error houtput
            obtain rfl := Except.error.inj (houtput.symm.trans (NodePath.parse_relative hrelative))
            exact .warning hdecides htemplate hrelative

/-- A rule without expressions passes every path over. -/
theorem verdict_of_no_expressions (h : bound.rule.expressions = []) :
    Verdict event path bound none :=
  .passedOver fun e he => by rw [h] at he; cases he

/-- Without a template the output is the path itself. -/
theorem verdict_of_no_template {e : PathExpression} {groups : List (List Char)}
    (hdecides : bound.rule.Decides path e groups) (hown : e.output = none)
    (hshared : bound.rule.outputTemplate = none) :
    Verdict event path bound (some (.work
      ⟨⟨⟨event.source, path⟩, ⟨event.source, path⟩, bound.rule, event.sequence⟩,
        bound.processor⟩)) := by
  refine .work hdecides (.whole hown hshared) ?_
  -- the first group of every match is the text that was matched
  obtain ⟨rest, rfl⟩ : ∃ rest, groups = path.text.toList :: rest := by
    obtain ⟨cut, -, hgroups⟩ := Option.map_eq_some_iff.mp hdecides.1
    exact ⟨_, hgroups.symm⟩
  have hfilled : filled (path.text.toList :: rest) "\x7b0\x7d" = path.text := by
    have hzero : Text.decimal ['0'] = 0 := by decide
    simp [filled, Expression.fill, Expression.fillFrom, Expression.groupOf, hzero]
  rw [hfilled, NodePath.parse_text]

/-- The matches of an event are those of its pairs of a path and a rule, in order. -/
theorem matchesOf_eq (matcher : RuleMatcher π) (event : ChangeEvent) :
    matcher.matchesOf event =
      ((event.paths ×ˢ matcher).map fun pair => match? event pair.1 pair.2).filterMap id := by
  unfold matchesOf
  induction event.paths with
  | nil => rfl
  | cons path rest ih =>
      rw [List.flatMap_cons, ih, List.product_cons, List.map_append, List.filterMap_append]
      simp only [List.map_map, List.filterMap_map]
      rfl

/-- The verdicts about the pairs of a path of the event and a rule, in the order of the paths and then
of the rules. -/
def Judged (matcher : RuleMatcher π) (event : ChangeEvent) (verdicts : List (Option (Match π))) : Prop :=
  List.Forall₂ (fun pair verdict => Verdict event pair.1 pair.2 verdict) (event.paths ×ˢ matcher)
    verdicts

/-- **Matching is exact.**  Every rule has one verdict about every path of an event, and the work and
the warnings of the event are those of the verdicts, path by path and for each path rule by rule: one
job for each pair with an absolute output, one warning for each pair whose deciding expression gives
none, nothing else.  A rule without expressions never gives work, and without any template the output
is the path itself. -/
theorem matching_exact (matcher : RuleMatcher π) (event : ChangeEvent) :
    (∀ path (bound : BoundRule π), ∃! verdict, Verdict event path bound verdict) ∧
    (∃ verdicts, matcher.Judged event verdicts ∧
      matcher.workFor event = verdicts.filterMap (·.bind Match.work?) ∧
      matcher.warningsFor event = verdicts.filterMap (·.bind Match.warning?)) ∧
    (∀ path (bound : BoundRule π), bound.rule.expressions = [] → Verdict event path bound none) ∧
    (∀ path (bound : BoundRule π) e groups, bound.rule.Decides path e groups → e.output = none →
      bound.rule.outputTemplate = none →
      Verdict event path bound (some (.work
        ⟨⟨⟨event.source, path⟩, ⟨event.source, path⟩, bound.rule, event.sequence⟩,
          bound.processor⟩))) := by
  refine ⟨fun path bound => ?_, ?_, fun _ _ => verdict_of_no_expressions,
    fun _ _ _ _ => verdict_of_no_template⟩
  · exact ⟨_, verdict_iff.mpr rfl, fun other hother => (verdict_iff.mp hother).symm⟩
  · refine ⟨(event.paths ×ˢ matcher).map fun pair => match? event pair.1 pair.2, ?_, ?_, ?_⟩
    · exact List.forall₂_map_right_iff.mpr (List.forall₂_same.mpr fun _ _ => verdict_iff.mpr rfl)
    · rw [workFor, matchesOf_eq, List.filterMap_filterMap]
      rfl
    · rw [warningsFor, matchesOf_eq, List.filterMap_filterMap]
      rfl

/-- What lies in an inbox, with an output of its own or without. -/
def inboxed (output : Option String) : PathExpression :=
  ⟨"/in/*", "/in/*", output, ['/', 'i', 'n', '/'].map .literal ++ [.segmentRun]⟩

/-- A rule whose first expression has a relative output, one with a template of its own, and one without
any template. -/
def inboxRules : RuleMatcher Unit :=
  [⟨⟨"relative", none, [inboxed (some "out/\x7b1\x7d"), inboxed none], none, "copy", [], []⟩, ()⟩,
    ⟨⟨"shared", none, [inboxed none], some "/out/\x7b1\x7d", "copy", [], []⟩, ()⟩,
    ⟨⟨"whole", none, [inboxed none], none, "copy", [], []⟩, ()⟩]

/-- A page in the inbox and one outside it. -/
def inboxChange : ChangeEvent :=
  ⟨"docs", none, [⟨["in", "page"], by decide⟩, ⟨["page"], by decide⟩], .modified, 7, ⟨0, 0⟩⟩

/-- The first expression decides, also where its output is no absolute path. -/
theorem matching_exact_inbox :
    (∃ verdicts, inboxRules.Judged inboxChange verdicts ∧
      inboxRules.workFor inboxChange = verdicts.filterMap (·.bind Match.work?) ∧
      inboxRules.warningsFor inboxChange = verdicts.filterMap (·.bind Match.warning?)) ∧
    ((inboxRules.workFor inboxChange).map fun w =>
        (w.assignment.rule.name, w.assignment.input.text, w.assignment.output.text)) =
      [("shared", "docs:/in/page", "docs:/out/page"), ("whole", "docs:/in/page", "docs:/in/page")] ∧
    ((inboxRules.warningsFor inboxChange).map LogLine.message) =
      ["Rule 'relative' matched /in/page but output template 'out/\x7b1\x7d' is not a valid path: " ++
        "path 'out/page' is not absolute"] :=
  ⟨(matching_exact inboxRules inboxChange).2.1, by decide +kernel, by decide +kernel⟩

end RuleMatcher

end ContentEngine
