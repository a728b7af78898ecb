import ContentEngine.System.Engine
import Mathlib.Data.List.Forall2

/-!
# Records of a configuration tree

A child of a container becomes a record that holds what is written in its node, or there is an error
about it.  So if reading ends without errors no child was left out, and neither was any of its path
expressions; and if binding does, each record has what its factory made of it.
-/

namespace ContentEngine

namespace Problems

theorem hasErrors_append (ps qs : Problems) : hasErrors (ps ++ qs) = (hasErrors ps || hasErrors qs) :=
  List.any_append

/-- If each item gives a result or an error, and there are no errors, then the results are those of all
items. -/
theorem forall₂_of_no_errors {α β γ : Type} {R : α → β → Prop} {S : α → γ → Prop}
    {f : β → Option γ × Problems} {as : List α} {items : List β} (hR : List.Forall₂ R as items)
    (h : hasErrors ((items.map f).flatMap Prod.snd) = false)
    (hf : ∀ a b, R a b → hasErrors (f b).2 = false → ∃ c, (f b).1 = some c ∧ S a c) :
    List.Forall₂ S as ((items.map f).filterMap Prod.fst) := by
  induction hR with
  | nil => exact .nil
  | @cons a b _ _ hab _ ih =>
      rw [List.map_cons, List.flatMap_cons, hasErrors_append, Bool.or_eq_false_iff] at h
      obtain ⟨c, hc, hS⟩ := hf a b hab h.1
      rw [List.map_cons, List.filterMap_cons, hc]
      exact .cons hS (ih h.2)

end Problems

/-! ## Reading -/

namespace Configuration

/-- A descriptor holds what is written in a node. -/
structure DescribesSource (n : Node) (d : SourceDescriptor) : Prop where
  name : d.name = resolvedName n
  connectorType : nonBlank? (n.text? Configuration.connectorType) = some d.connectorType
  classpath : d.classpath = n.texts Configuration.classpath
  properties : d.properties = propertyBag n

/-- A rule holds what is written in a node, with each of its path expressions in order. -/
structure DescribesRule (n : Node) (rule : ProcessorRule) : Prop where
  name : rule.name = resolvedName n
  description : rule.description = n.text? Configuration.description
  expressions : List.Forall₂ (fun text e => PathExpression.compile text = .ok e)
    (n.texts pathExpression) rule.expressions
  outputTemplate : rule.outputTemplate = nonBlank? (n.text? outputPath)
  classname : nonBlank? (n.text? Configuration.classname) = some rule.classname
  classpath : rule.classpath = n.texts Configuration.classpath
  properties : rule.properties = propertyBag n

/-- A rule for a detector holds what is written in a node. -/
structure DescribesDetector (n : Node) (rule : DetectorRule) : Prop where
  name : rule.name = resolvedName n
  description : rule.description = n.text? Configuration.description
  classname : nonBlank? (n.text? Configuration.classname) = some rule.classname
  classpath : rule.classpath = n.texts Configuration.classpath
  properties : rule.properties = propertyBag n

theorem nonBlank?_ne_empty {text : Option String} {s : String} (h : nonBlank? text = some s) :
    s.isEmpty = false := by
  refine Bool.eq_false_iff.mpr fun hempty => ?_
  have hblank := (Option.filter_eq_some_iff.mp h).2
  rw [String.isEmpty_iff.mp hempty] at hblank
  cases hblank

section child

variable {c : Child} (hname : c.name = resolvedName c.node)
include hname

theorem sourceOf_no_errors (h : Problems.hasErrors (sourceOf c).2 = false) :
    ∃ d, (sourceOf c).1 = some d ∧ DescribesSource c.node d := by
  unfold sourceOf at h ⊢
  cases htype : nonBlank? (c.node.text? connectorType) with
  | some type => exact ⟨_, rfl, hname, htype, rfl, rfl⟩
  | none =>
      rw [htype, Problems.hasErrors_append, Bool.or_eq_false_iff] at h
      cases h.2

theorem detectorOf_no_errors (h : Problems.hasErrors (detectorOf c).2 = false) :
    ∃ rule, (detectorOf c).1 = some rule ∧ DescribesDetector c.node rule := by
  unfold detectorOf at h ⊢
  cases hclass : nonBlank? (c.node.text? classname) with
  | some class' => exact ⟨_, rfl, hname, rfl, hclass, rfl, rfl⟩
  | none =>
      rw [hclass, Problems.hasErrors_append, Bool.or_eq_false_iff] at h
      cases h.2

omit hname in
/-- Texts of which none is reported are compiled, each to its expression. -/
private theorem forall₂_expressions {name : String} {written : List String}
    (h : Problems.hasErrors ((written.map (expressionOf name)).filterMap Sum.getRight?) = false) :
    List.Forall₂ (fun text e => PathExpression.compile text = .ok e) written
      ((written.map (expressionOf name)).filterMap Sum.getLeft?) := by
  induction written with
  | nil => exact .nil
  | cons text rest ih =>
      rw [List.map_cons, List.filterMap_cons] at h ⊢
      cases hcompiled : PathExpression.compile text with
      | ok e =>
          have hread : expressionOf name text = .inl e := by rw [expressionOf, hcompiled]
          rw [hread] at h ⊢
          exact .cons hcompiled (ih h)
      | error fault =>
          rw [expressionOf, hcompiled] at h
          cases h

theorem processorOf_no_errors (h : Problems.hasErrors (processorOf c).2 = false) :
    ∃ rule, (processorOf c).1 = some rule ∧ DescribesRule c.node rule := by
  unfold processorOf at h ⊢
  dsimp only at h ⊢
  rw [Problems.hasErrors_append, Problems.hasErrors_append, Bool.or_eq_false_iff,
    Bool.or_eq_false_iff] at h
  obtain ⟨⟨-, hrule⟩, hexpressions⟩ := h
  refine ⟨_, rfl, hname, rfl, forall₂_expressions hexpressions, rfl, ?_, rfl, rfl⟩
  cases hclass : nonBlank? (c.node.text? classname) with
  | some class' => rfl
  | none =>
      rw [hclass, ruleProblems, Problems.hasErrors_append, Bool.or_eq_false_iff] at hrule
      cases hrule.1

end child

/-! ### Containers -/

private theorem forall₂_childrenAfter (seen : List String) (nodes : List Node) :
    List.Forall₂ (fun n c => c.node = n ∧ c.name = resolvedName c.node) nodes
      (childrenAfter seen nodes) := by
  induction nodes generalizing seen with
  | nil => exact .nil
  | cons n rest ih => exact .cons ⟨rfl, rfl⟩ (ih (resolvedName n :: seen))

/-- If there are no errors in a container, its records are those of all its children. -/
theorem forall₂_recordsOf {α : Type} {recordOf : Child → Option α × Problems} {S : Node → α → Prop}
    {container : Subgraph} (h : Problems.hasErrors (recordsOf recordOf container).2 = false)
    (hrecord : ∀ c : Child, c.name = resolvedName c.node → Problems.hasErrors (recordOf c).2 = false →
      ∃ r, (recordOf c).1 = some r ∧ S c.node r) :
    List.Forall₂ S (container.children container.root) (recordsOf recordOf container).1 := by
  refine Problems.forall₂_of_no_errors (forall₂_childrenAfter [] _) h ?_
  rintro _ c ⟨rfl, hname⟩ hc
  exact hrecord c hname hc

/-- The first record of a name is that of the first child of that name. -/
theorem rel_find?_source {nodes : List Node} {ds : List SourceDescriptor}
    (h : List.Forall₂ DescribesSource nodes ds) (name : String) :
    Option.Rel DescribesSource (nodes.find? (resolvedName · == name)) (ds.find? (·.name == name)) := by
  induction h with
  | nil => exact .none
  | @cons n d _ _ hnd _ ih =>
      rw [List.find?_cons, List.find?_cons, hnd.name]
      cases resolvedName n == name with
      | true => exact .some hnd
      | false => exact ih

end Configuration

/-! ## Binding -/

/-- The factory of a record's type made something of it. -/
def Registry.Made {ρ α : Type} (registry : Registry ρ α) (type : String) (record : ρ) (made : α) :
    Prop :=
  ∃ factory, Table.get? registry.factories type = some factory ∧ factory record = .ok made

theorem Registry.made_of_create {ρ α : Type} {registry : Registry ρ α} {record : ρ} {made : α}
    (h : registry.create record = .ok made) : registry.Made (registry.typeOf record) record made := by
  unfold create at h
  split at h
  · exact ⟨_, ‹_›, h⟩
  · cases h

/-- A rule with an implementation is bound to what its factory made, or there is an error. -/
theorem bindRule_no_errors {registry : ProcessorRegistry} {rule : ProcessorRule}
    (hnamed : rule.classname.isEmpty = false)
    (h : Problems.hasErrors (bindRule registry rule).2 = false) :
    ∃ b, (bindRule registry rule).1 = some b ∧ b.rule = rule ∧
      registry.Made (registry.typeOf rule) rule b.processor := by
  unfold bindRule at h ⊢
  rw [hnamed, if_neg Bool.false_ne_true] at h ⊢
  cases hmade : registry.create rule with
  | ok processor => exact ⟨_, rfl, rfl, Registry.made_of_create hmade⟩
  | error failure =>
      rw [hmade] at h
      cases h

theorem bindDetector_no_errors {registry : DetectorRegistry} {rule : DetectorRule}
    (h : Problems.hasErrors (bindDetector registry rule).2 = false) :
    ∃ entry, (bindDetector registry rule).1 = some entry ∧ entry.1 = rule.name ∧
      registry.Made (registry.typeOf rule) rule entry.2 := by
  unfold bindDetector at h ⊢
  cases hmade : registry.create rule with
  | ok detector => exact ⟨_, rfl, rfl, Registry.made_of_create hmade⟩
  | error failure =>
      rw [hmade] at h
      cases h

end ContentEngine
