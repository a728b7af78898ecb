/-!
# Sorted tables

A table is a list of keyed entries in ascending order of their keys, each key at most once. All
tables here are built by `insert` and `erase`, which keep that order, so two tables with the same
entries are equal and every listing of a table is sorted.
-/

namespace ContentEngine

/-- Keyed entries in ascending order of their keys. -/
abbrev Table (κ α : Type) := List (κ × α)

namespace Table

variable {κ α : Type} [LT κ] [DecidableLT κ] [DecidableEq κ]

/-- The value under a key. -/
def get? (table : Table κ α) (key : κ) : Option α :=
  match table with
  | [] => none
  | (k, v) :: rest => if k = key then some v else get? rest key

/-- The table with `value` under `key`, in place of an older value if there is one. -/
def insert (key : κ) (value : α) : Table κ α → Table κ α
  | [] => [(key, value)]
  | (k, v) :: rest =>
    if key < k then (key, value) :: (k, v) :: rest
    else if k = key then (key, value) :: rest
    else (k, v) :: insert key value rest

/-- The table without `key`. -/
def erase (key : κ) (table : Table κ α) : Table κ α :=
  List.filter (fun entry => !decide (entry.1 = key)) table

/-- Whether a value is stored under `key`. -/
def contains (table : Table κ α) (key : κ) : Bool :=
  (get? table key).isSome

/-- The keys in ascending order. -/
def keys (table : Table κ α) : List κ :=
  table.map Prod.fst

/-- The table of a list of entries; the last entry of a key counts. -/
def ofList (entries : List (κ × α)) : Table κ α :=
  entries.foldl (fun table entry => insert entry.1 entry.2 table) []

/-- The table with `value` under `key` unless the key is taken already. -/
def insertNew (key : κ) (value : α) (table : Table κ α) : Table κ α :=
  if contains table key then table else insert key value table

end Table

end ContentEngine
