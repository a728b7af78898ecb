import ContentEngine.Configuration.Tree
import ContentEngine.Proofs.Table

/-!
# Property bags

The bag of a record holds the properties of its node that are not reserved, by the local parts of their
names.  Names of different namespaces can have the same local part, and a bag has room for one of them:
the last one prevails (`Prevails`), in the order of the node's table, which is that of the names.  The
others are lost, and nothing reports them.
-/

namespace ContentEngine

namespace Configuration

/-- A property that is not reserved, and behind which no other such property of the node has its local
part. -/
def Prevails (properties : Properties) (name : String) (value : Value) : Prop :=
  isReserved name = false ∧ ∃ before after, properties = before ++ (name, value) :: after ∧
    ∀ other ∈ after, isReserved other.1 = false → (splitName other.1).2 ≠ (splitName name).2

/-- The bag holds the values of the properties that prevail, by local part, and nothing else. -/
structure Bagged (properties bag : Properties) : Prop where
  kept : ∀ name value, Prevails properties name value →
    Table.get? bag (splitName name).2 = some value
  only : ∀ entry ∈ bag, ∃ name, Prevails properties name entry.2 ∧ (splitName name).2 = entry.1

theorem get?_propertyBag_iff {n : Node} {key : String} {value : Value} :
    Table.get? (propertyBag n) key = some value ↔
      ∃ name, Prevails n.properties name value ∧ (splitName name).2 = key := by
  unfold propertyBag
  rw [Table.get?_ofList_eq_some_iff]
  constructor
  · rintro ⟨before, after, hentries, hafter⟩
    obtain ⟨earlier, rest, hfiltered, -, hrest⟩ := List.map_eq_append_iff.mp hentries
    obtain ⟨⟨name, value⟩, later, rfl, hentry, rfl⟩ := List.map_eq_cons_iff.mp hrest
    obtain ⟨first, last, hproperties, -, hlast⟩ := List.filter_eq_append_iff.mp hfiltered
    obtain ⟨skipped, others, rfl, -, hname, rfl⟩ := List.filter_eq_cons_iff.mp hlast
    cases hentry
    refine ⟨name, ⟨by simpa using hname, first ++ skipped, others, by simp [hproperties], ?_⟩, rfl⟩
    intro other hother hfree
    refine hafter ((splitName other.1).2, other.2) (List.mem_map_of_mem (List.mem_filter.mpr ?_))
    exact ⟨hother, by simp [hfree]⟩
  · rintro ⟨name, ⟨hname, before, after, hproperties, hafter⟩, rfl⟩
    refine ⟨_, _, by rw [hproperties, List.filter_append, List.filter_cons_of_pos (by simp [hname]),
      List.map_append, List.map_cons], ?_⟩
    intro entry hentry
    obtain ⟨other, hother, rfl⟩ := List.mem_map.mp hentry
    obtain ⟨hother, hfree⟩ := List.mem_filter.mp hother
    exact hafter other hother (by simpa using hfree)

theorem bagged_propertyBag (n : Node) : Bagged n.properties (propertyBag n) where
  kept := by
    intro name value hprevails
    exact get?_propertyBag_iff.mpr ⟨name, hprevails, rfl⟩
  only := by
    intro entry hentry
    exact get?_propertyBag_iff.mp ((Table.Sorted.ofList _).get?_of_mem hentry)

end Configuration

open ContentEngine.Configuration

/-- **What a bag holds.**  The bag of every record holds the values of exactly those properties of its
node that prevail: that are not reserved, and are the last ones of their local parts. -/
theorem properties_bagged (c : Child) :
    (∀ d, (sourceOf c).1 = some d → Bagged c.node.properties d.properties) ∧
    (∀ rule, (processorOf c).1 = some rule → Bagged c.node.properties rule.properties) ∧
    ∀ rule, (detectorOf c).1 = some rule → Bagged c.node.properties rule.properties := by
  refine ⟨?_, ?_, ?_⟩
  · intro d hd
    unfold sourceOf at hd
    split at hd <;> cases hd
    exact bagged_propertyBag c.node
  · rintro rule ⟨⟩
    exact bagged_propertyBag c.node
  · intro rule hrule
    unfold detectorOf at hrule
    split at hrule <;> cases hrule
    exact bagged_propertyBag c.node

/-- A source with two properties of one local part. -/
def ambiguousSource : Child :=
  ⟨⟨.root, [("cairn:connectorType", .text "memory"), ("cairn:quality", .text "draft"),
    ("quality", .text "final")], []⟩, "assets", false⟩

/-- A property is lost if a later one has the same local part, and nothing reports it. -/
theorem property_lost :
    ∃ d, Table.Sorted ambiguousSource.node.properties ∧
      ("cairn:quality", .text "draft") ∈ ambiguousSource.node.properties ∧
      isReserved "cairn:quality" = false ∧ (splitName "cairn:quality").2 = "quality" ∧
      sourceOf ambiguousSource = (some d, []) ∧
      Table.get? d.properties "quality" ≠ some (.text "draft") := by
  have hsorted : Table.Sorted ambiguousSource.node.properties := by
    unfold Table.Sorted
    decide +kernel
  have hsource : sourceOf ambiguousSource =
      (some ⟨"assets", "memory", [], propertyBag ambiguousSource.node⟩, []) := by rfl
  have hprevails : Prevails ambiguousSource.node.properties "quality" (.text "final") :=
    ⟨by decide +kernel, ambiguousSource.node.properties.take 2, [], rfl, by simp⟩
  have hlocal : (splitName "quality").2 = "quality" := by decide +kernel
  have hfinal : Table.get? (propertyBag ambiguousSource.node) "quality" = some (.text "final") :=
    get?_propertyBag_iff.mpr ⟨"quality", hprevails, hlocal⟩
  refine ⟨_, hsorted, by simp [ambiguousSource], by decide +kernel, by decide +kernel, hsource, ?_⟩
  simp [hfinal]

end ContentEngine
