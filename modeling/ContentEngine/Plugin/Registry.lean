import ContentEngine.Fault
import ContentEngine.Table

/-!
# Factory registries

Connectors, processors and detectors are made from configuration records by factories. A registry
holds one factory for each type name; a factory that is registered later replaces the earlier one.
-/

namespace ContentEngine

/-- The factories that make an `α` from a record `ρ`. -/
structure Registry (ρ α : Type) where
  /-- What messages call a type that is not registered. -/
  kind : String
  /-- The type name in a record. -/
  typeOf : ρ → String
  factories : Table String (ρ → Except Failure α)

namespace Registry

variable {ρ α : Type}

/-- A registry without factories. -/
def empty (kind : String) (typeOf : ρ → String) : Registry ρ α :=
  ⟨kind, typeOf, []⟩

/-- The registry with a factory for a type. -/
def register (registry : Registry ρ α) (type : String) (factory : ρ → Except Failure α) :
    Registry ρ α :=
  { registry with factories := Table.insert type factory registry.factories }

/-- Whether there is a factory for a type. -/
def has (registry : Registry ρ α) (type : String) : Bool :=
  Table.contains registry.factories type

/-- The types in ascending order. -/
def types (registry : Registry ρ α) : List String :=
  Table.keys registry.factories

/-- What the factory for the type of a record makes of it. -/
def create (registry : Registry ρ α) (record : ρ) : Except Failure α :=
  match Table.get? registry.factories (registry.typeOf record) with
  | some factory => factory record
  | none =>
    .error (.of ("Unknown " ++ registry.kind ++ ": '" ++ registry.typeOf record ++ "'"))

end Registry

end ContentEngine
