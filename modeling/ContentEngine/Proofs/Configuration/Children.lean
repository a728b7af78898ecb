import ContentEngine.Proofs.Configuration.Records

/-!
# Children of a container are read alone

What is wrong with one child of a container does not affect the others.  The record of a child and the
problems with it follow from its node alone; the records stand in the order of the children, and so do
the problems.  The one thing that depends on the siblings is the warning about a name that an earlier
child has, be that one left out or not.

## Strategy

A child is read as if it were alone, and the warning about a repeated name is put in front of its
problems (`sourceOf_eq_alone`, `processorOf_eq_alone`, `detectorOf_eq_alone`).  So the records are those
of the children one by one (`records_childrenAfter`).  By induction on the children, the names that were
seen are those of the earlier ones, and the problems follow one another (`inOrder_childrenAfter`).
-/

namespace ContentEngine

namespace Configuration

/-! ## What is reported -/

/-- A property of a node is missing, or its first text is blank. -/
def Lacks (n : Node) (property : String) : Prop :=
  ∀ text, n.text? property = some text → ∀ c ∈ text.toList, Text.isBlank c = true

/-- One problem is reported if there is a reason, and nothing otherwise. -/
def ReportedIf (reason : Prop) (p : Problem) (ps : Problems) : Prop :=
  reason ∧ ps = [p] ∨ ¬reason ∧ ps = []

/-- The warning about a child with the name of an earlier one. -/
def repeatedName (kind : Container) (name : String) : Problem :=
  .warningAbout name "Duplicate \x7b\x7d name '\x7b\x7d'; both definitions are kept" [kind.kind, name]

/-- The error about a source without a type of connector. -/
def untypedSource (name : String) : Problem :=
  .errorAbout name "Source '\x7b\x7d' does not name a connector type (\x7b\x7d)" [name, connectorType]

/-- The error about a processor rule without an implementation. -/
def unimplementedRule (name : String) : Problem :=
  .errorAbout name "Processor rule '\x7b\x7d' does not name an implementation (\x7b\x7d)"
    [name, classname]

/-- The warning about a processor rule without path expressions. -/
def matchlessRule (name : String) : Problem :=
  .warningAbout name "Processor rule '\x7b\x7d' has no path expressions and will never match" [name]

/-- The error about a path expression of a processor rule. -/
def uncompiledExpression (name text : String) (fault : Expression.CompileFault) : Problem :=
  (Problem.errorAbout name "Processor rule '\x7b\x7d' has an invalid path expression '\x7b\x7d'"
    [name, text]).causedBy fault.message

/-- The error about a detector without an implementation. -/
def unimplementedDetector (name : String) : Problem :=
  .errorAbout name "Detector '\x7b\x7d' does not name an implementation (\x7b\x7d)" [name, classname]

/-! ## What becomes of a child -/

/-- A child with a property becomes a record that describes it.  A child that lacks the property is left
out, and one error says so. -/
structure ReadsNamed {ρ : Type} (property : String) (Describes : Node → ρ → Prop)
    (lacking : String → Problem) (n : Node) (record : Option ρ) (own : Problems) : Prop where
  described : ∀ r, record = some r → Describes n r
  dropped : record = none ↔ Lacks n property
  problems : ReportedIf (Lacks n property) (lacking (resolvedName n)) own

/-- The expressions are those of the texts that compile, and each other text is reported, in order. -/
inductive Compiled (name : String) : List String → List PathExpression → Problems → Prop
  | nil : Compiled name [] [] []
  | kept {text : String} {e : PathExpression} {rest : List String} {es : List PathExpression}
      {ps : Problems} : PathExpression.compile text = .ok e → Compiled name rest es ps →
      Compiled name (text :: rest) (e :: es) ps
  | dropped {text : String} {fault : Expression.CompileFault} {rest : List String}
      {es : List PathExpression} {ps : Problems} : PathExpression.compile text = .error fault →
      Compiled name rest es ps →
      Compiled name (text :: rest) es (uncompiledExpression name text fault :: ps)

/-- A child becomes a processor rule whatever is wrong with it.  One error is about a missing
implementation, one warning about missing expressions, and one error about each expression that does not
compile. -/
structure ReadsRule (n : Node) (rule : ProcessorRule) (own : Problems) : Prop where
  name : rule.name = resolvedName n
  description : rule.description = n.text? Configuration.description
  outputTemplate : rule.outputTemplate = nonBlank? (n.text? outputPath)
  classname : rule.classname = (nonBlank? (n.text? Configuration.classname)).getD ""
  classpath : rule.classpath = n.texts Configuration.classpath
  properties : rule.properties = propertyBag n
  problems : ∃ unimplemented matchless uncompiled, own = unimplemented ++ matchless ++ uncompiled ∧
    ReportedIf (Lacks n Configuration.classname) (unimplementedRule (resolvedName n)) unimplemented ∧
    ReportedIf (n.texts pathExpression = []) (matchlessRule (resolvedName n)) matchless ∧
    Compiled (resolvedName n) (n.texts pathExpression) rule.expressions uncompiled

/-! ## What becomes of a container -/

/-- The problems with some children behind the earlier ones: for each child in order, a warning if an
earlier one has its name, and then its own problems. -/
inductive InOrder (kind : Container) (own : Node → Problems) : List Node → List Node → Problems → Prop
  | nil {earlier : List Node} : InOrder kind own earlier [] []
  | cons {earlier rest : List Node} {n : Node} {repeated ps : Problems} :
      ReportedIf (∃ m ∈ earlier, resolvedName m = resolvedName n) (repeatedName kind (resolvedName n))
        repeated →
      InOrder kind own (earlier ++ [n]) rest ps →
      InOrder kind own earlier (n :: rest) (repeated ++ own n ++ ps)

/-- The record of each child and the problems with it are the same in every container. -/
structure ReadAlone {ρ : Type} (kind : Container) (read : Subgraph → List ρ × Problems)
    (record : Node → Option ρ) (own : Node → Problems) : Prop where
  records : ∀ g, (read g).1 = (g.children g.root).filterMap record
  problems : ∀ g, InOrder kind own [] (g.children g.root) (read g).2
  unaffected : ∀ (g g' : Subgraph) (before changed changed' after : List Node),
    g.children g.root = before ++ changed ++ after → g'.children g'.root = before ++ changed' ++ after →
    (read g).1 = before.filterMap record ++ changed.filterMap record ++ after.filterMap record ∧
    (read g').1 = before.filterMap record ++ changed'.filterMap record ++ after.filterMap record

/-! ## Single children -/

theorem lacks_iff {n : Node} {property : String} :
    Lacks n property ↔ nonBlank? (n.text? property) = none := by
  simp [Lacks, nonBlank?, Text.isBlankText]

/-- A child as it is read alone. -/
def Child.alone (n : Node) : Child :=
  ⟨n, resolvedName n, false⟩

/-- A child is left out exactly if the text that its record needs is missing or blank. -/
theorem readsNamed_of_nonBlank? {ρ : Type} {property : String} {Describes : Node → ρ → Prop}
    {lacking : String → Problem} {n : Node} {result : Option ρ × Problems}
    (hread : ∀ text, nonBlank? (n.text? property) = some text →
      ∃ r, result = (some r, []) ∧ Describes n r)
    (hdropped : nonBlank? (n.text? property) = none → result = (none, [lacking (resolvedName n)])) :
    ReadsNamed property Describes lacking n result.1 result.2 := by
  cases htext : nonBlank? (n.text? property) with
  | some text =>
      obtain ⟨r, rfl, hr⟩ := hread text htext
      have hnamed : ¬Lacks n property := by simp [lacks_iff, htext]
      refine ⟨?_, by simpa using hnamed, .inr ⟨hnamed, rfl⟩⟩
      intro r' hr'
      exact Option.some.inj hr' ▸ hr
  | none =>
      obtain rfl := hdropped htext
      have hlacks : Lacks n property := lacks_iff.mpr htext
      exact ⟨nofun, by simpa using hlacks, .inl ⟨hlacks, rfl⟩⟩

theorem readsNamed_sourceOf (n : Node) :
    ReadsNamed connectorType DescribesSource untypedSource n (sourceOf (.alone n)).1
      (sourceOf (.alone n)).2 := by
  refine readsNamed_of_nonBlank? (fun type htype => ?_) (fun htype => ?_)
  · have hsource : sourceOf (.alone n) =
        (some ⟨resolvedName n, type, n.texts classpath, propertyBag n⟩, []) := by
      simp [sourceOf, Child.alone, repetition, htype]
    exact ⟨_, hsource, rfl, htype, rfl, rfl⟩
  · simp [sourceOf, Child.alone, repetition, htype, untypedSource]

theorem readsNamed_detectorOf (n : Node) :
    ReadsNamed classname DescribesDetector unimplementedDetector n (detectorOf (.alone n)).1
      (detectorOf (.alone n)).2 := by
  refine readsNamed_of_nonBlank? (fun class' hclass => ?_) (fun hclass => ?_)
  · have hdetector : detectorOf (.alone n) =
        (some ⟨resolvedName n, n.text? description, class', n.texts classpath, propertyBag n⟩, []) := by
      simp [detectorOf, Child.alone, repetition, hclass]
    exact ⟨_, hdetector, rfl, rfl, hclass, rfl, rfl⟩
  · simp [detectorOf, Child.alone, repetition, hclass, unimplementedDetector]

theorem compiled_expressionOf (name : String) (written : List String) :
    Compiled name written ((written.map (expressionOf name)).filterMap Sum.getLeft?)
      ((written.map (expressionOf name)).filterMap Sum.getRight?) := by
  induction written with
  | nil => exact .nil
  | cons text rest ih =>
      cases hcompiled : PathExpression.compile text with
      | ok e =>
          have hread : expressionOf name text = .inl e := by rw [expressionOf, hcompiled]
          simp only [List.map_cons, List.filterMap_cons, hread, Sum.getLeft?_inl, Sum.getRight?_inl]
          exact .kept hcompiled ih
      | error fault =>
          have hread : expressionOf name text = .inr (uncompiledExpression name text fault) := by
            rw [expressionOf, hcompiled]
            rfl
          simp only [List.map_cons, List.filterMap_cons, hread, Sum.getLeft?_inr, Sum.getRight?_inr]
          exact .dropped hcompiled ih

theorem reportedIf_ite {reason : Prop} [Decidable reason] {reason' : Prop} (h : reason ↔ reason')
    (p : Problem) : ReportedIf reason' p (if reason then [p] else []) := by
  split
  · rename_i hreason
    exact .inl ⟨h.mp hreason, rfl⟩
  · rename_i hreason
    exact .inr ⟨mt h.mpr hreason, rfl⟩

theorem readsRule_processorOf (n : Node) :
    ∃ rule, (processorOf (.alone n)).1 = some rule ∧ ReadsRule n rule (processorOf (.alone n)).2 := by
  have hclass : (nonBlank? (n.text? classname)).getD "" = "" ↔ Lacks n classname := by
    rw [lacks_iff]
    cases hclass : nonBlank? (n.text? classname) with
    | none => simp
    | some class' => simpa using nonBlank?_ne_empty hclass
  refine ⟨_, rfl, rfl, rfl, rfl, rfl, rfl, rfl, _, _, _, ?_, reportedIf_ite hclass _,
    reportedIf_ite Iff.rfl _, compiled_expressionOf (resolvedName n) (n.texts pathExpression)⟩
  rfl

/-! ## All children -/

section alone

variable {ρ : Type} {kind : Container} {recordOf : Child → Option ρ × Problems}
  (h : ∀ n repeated, recordOf ⟨n, resolvedName n, repeated⟩ =
    ((recordOf (.alone n)).1, repetition kind ⟨n, resolvedName n, repeated⟩ ++ (recordOf (.alone n)).2))
include h

theorem records_childrenAfter (seen : List String) (nodes : List Node) :
    ((childrenAfter seen nodes).map recordOf).filterMap Prod.fst =
      nodes.filterMap fun n => (recordOf (.alone n)).1 := by
  induction nodes generalizing seen with
  | nil => rfl
  | cons n rest ih =>
      rw [childrenAfter, List.map_cons, List.filterMap_cons, List.filterMap_cons, ih, h]

/-- The names that were seen are those of the earlier children. -/
theorem inOrder_childrenAfter (earlier nodes : List Node) :
    InOrder kind (fun n => (recordOf (.alone n)).2) earlier nodes
      (((childrenAfter (earlier.map resolvedName).reverse nodes).map recordOf).flatMap Prod.snd) := by
  induction nodes generalizing earlier with
  | nil => exact .nil
  | cons n rest ih =>
      have hseen : resolvedName n :: (earlier.map resolvedName).reverse =
          ((earlier ++ [n]).map resolvedName).reverse := by simp
      rw [childrenAfter, List.map_cons, List.flatMap_cons, h, hseen]
      exact .cons (reportedIf_ite (by simp) (repeatedName kind (resolvedName n))) (ih (earlier ++ [n]))

theorem readAlone_recordsOf : ReadAlone kind (recordsOf recordOf)
    (fun n => (recordOf (.alone n)).1) (fun n => (recordOf (.alone n)).2) := by
  have hrecords : ∀ g, (recordsOf recordOf g).1 =
      (g.children g.root).filterMap fun n => (recordOf (.alone n)).1 :=
    fun g => records_childrenAfter h [] (g.children g.root)
  refine ⟨hrecords, fun g => inOrder_childrenAfter h [] (g.children g.root), ?_⟩
  intro g g' before changed changed' after hg hg'
  rw [hrecords, hrecords, hg, hg']
  simp only [List.filterMap_append, and_self]

end alone

theorem sourceOf_eq_alone (n : Node) (repeated : Bool) : sourceOf ⟨n, resolvedName n, repeated⟩ =
    ((sourceOf (.alone n)).1,
      repetition .sources ⟨n, resolvedName n, repeated⟩ ++ (sourceOf (.alone n)).2) := by
  unfold sourceOf
  cases htype : nonBlank? (n.text? connectorType) <;> simp [Child.alone, repetition, htype]

theorem processorOf_eq_alone (n : Node) (repeated : Bool) :
    processorOf ⟨n, resolvedName n, repeated⟩ =
      ((processorOf (.alone n)).1,
        repetition .processors ⟨n, resolvedName n, repeated⟩ ++ (processorOf (.alone n)).2) := by
  simp [processorOf, Child.alone, repetition]

theorem detectorOf_eq_alone (n : Node) (repeated : Bool) : detectorOf ⟨n, resolvedName n, repeated⟩ =
    ((detectorOf (.alone n)).1,
      repetition .detectors ⟨n, resolvedName n, repeated⟩ ++ (detectorOf (.alone n)).2) := by
  unfold detectorOf
  cases hclass : nonBlank? (n.text? classname) <;> simp [Child.alone, repetition, hclass]

end Configuration

open ContentEngine.Configuration

/-- **A faulty child does not affect its siblings.**  In every container of sources, processor rules or
detectors, the record of each child and its own problems are those that its node has in any other
container, in the order of the children.  A source or detector that lacks its type is left out with one
error, a rule is always kept, with the expressions that compile, and a child whose name an earlier one
has is reported once more.  Nothing else is reported, and if children are put in, taken out or changed,
the records of the others stay. -/
theorem children_read_alone :
    (∃ record own, (∀ n, ReadsNamed connectorType DescribesSource untypedSource n (record n) (own n)) ∧
      ReadAlone .sources sources record own) ∧
    (∃ rule own, (∀ n, ReadsRule n (rule n) (own n)) ∧
      ReadAlone .processors processorRules (fun n => some (rule n)) own ∧
      ∀ g, (processorRules g).1 = (g.children g.root).map rule) ∧
    ∃ record own,
      (∀ n, ReadsNamed classname DescribesDetector unimplementedDetector n (record n) (own n)) ∧
      ReadAlone .detectors detectorRules record own := by
  refine ⟨⟨_, _, readsNamed_sourceOf, readAlone_recordsOf sourceOf_eq_alone⟩, ?_,
    _, _, readsNamed_detectorOf, readAlone_recordsOf detectorOf_eq_alone⟩
  choose rule hrule hreads using readsRule_processorOf
  have halone := readAlone_recordsOf processorOf_eq_alone
  simp only [hrule] at halone
  refine ⟨rule, _, hreads, halone, ?_⟩
  intro g
  calc (processorRules g).1
    _ = (g.children g.root).filterMap fun n => some (rule n) := halone.records g
    _ = (g.children g.root).map rule := congrFun List.filterMap_eq_map _

end ContentEngine
