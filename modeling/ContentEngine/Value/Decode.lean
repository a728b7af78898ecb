import ContentEngine.Value.Basic

/-!
# Records in values

A record is written as an object or as the list of its fields in order. Unknown fields of an object
are ignored, a list must not be longer than the record, and fields that have a default may be
absent, in a list only at its end.
-/

namespace ContentEngine.Value.Decode

variable {α : Type}

/-- The fields of a record, in the order of `names`; `none` inside for an absent field. -/
def fields? (names : List String) (v : Value) : Option (List (Option Value)) :=
  match v with
  | object fields => some (names.map fun name => Table.get? fields name)
  | list items =>
    if items.length ≤ names.length then
      some (items.map some ++ List.replicate (names.length - items.length) none)
    else none
  | _ => none

/-- A field that has to be present. -/
def required (decode : Value → Option α) (field : Option Value) : Option α :=
  field.bind decode

/-- A field that is `default` where it is absent. -/
def orElse (default : α) (decode : Value → Option α) : Option Value → Option α
  | none => some default
  | some v => decode v

/-- A text, or nothing for `null`. -/
def textOrNull? : Value → Option (Option String)
  | null => some none
  | text s => some (some s)
  | _ => none

/-- A list whose members all satisfy `decode`. -/
def listOf? (decode : Value → Option α) : Value → Option (List α)
  | list items => items.mapM decode
  | _ => none

/-- An object. -/
def object? : Value → Option Properties
  | object fields => some fields
  | _ => none

/-- The name of a variant without content: a text, or an object with that one field and `null`. -/
def variant? : Value → Option String
  | text s => some s
  | object [(name, null)] => some name
  | _ => none

end ContentEngine.Value.Decode
