import ContentEngine.Proofs.Store.Paths
import ContentEngine.Proofs.Table
import ContentEngine.Store.Read
import Mathlib.Tactic.SplitIfs

/-!
# Scanning from a path on

The entries at or below a path are found in a table of paths by scanning it: from the first path that is
not before the given one, and up to the first path that is not at or below it.  This is enough because the
order of paths compares segments and not the texts of paths: a path whose last segment only begins like
another one comes behind all that is below the other one.

## Strategy

If of two entries the one that comes first is wanted whenever the other one is, then taking entries while
they are wanted takes all that are (`takeWhile_eq_filter`).  In a table from a path on, this is so for the
paths at or below the path and for those strictly below it, because between a path and one below it there
are only paths below it.  Segments are compared byte by byte: a smaller character has smaller bytes
(`utf8EncodeChar_append_lt`), so the order of texts is that of their bytes (`utf8_lt_iff`), and the order of
paths is that of the bytes of their segments (`bytes_lt_iff`).
-/

namespace ContentEngine

/-! ## Byte by byte -/

namespace Text

/-- The bytes of a text in UTF-8. -/
def utf8 (s : String) : List UInt8 :=
  s.toUTF8.data.toList

theorem utf8_eq_flatMap (s : String) : utf8 s = s.toList.flatMap String.utf8EncodeChar := by
  have hbytes : s.toUTF8 = s.toList.utf8Encode := String.utf8Encode_toList.symm
  rw [utf8, hbytes, List.utf8Encode, List.data_toByteArray]

/-- The bytes of a smaller character are smaller, whatever follows them. -/
theorem utf8EncodeChar_append_lt {c d : Char} (h : c < d) (bs bs' : List UInt8) :
    String.utf8EncodeChar c ++ bs < String.utf8EncodeChar d ++ bs' := by
  have hlt : c.val.toNat < d.val.toNat := h
  have hbound : d.val.toNat < 0x110000 := by
    have hvalid := d.valid
    unfold UInt32.isValidChar Nat.isValidChar at hvalid
    omega
  unfold String.utf8EncodeChar
  generalize c.val.toNat = m at hlt
  generalize d.val.toNat = n at hlt hbound
  dsimp only
  -- more bytes begin with a larger one, and as many bytes are digits of the characters' numbers
  split_ifs <;>
    simp (disch := omega) only [List.cons_append, List.nil_append, List.cons_lt_cons_iff,
      UInt8.lt_iff_toNat_lt, ← UInt8.toNat_inj, UInt8.toNat_ofNat', Nat.mod_eq_of_lt] <;>
    omega

theorem flatMap_utf8_lt {cs ds : List Char} (h : cs < ds) :
    cs.flatMap String.utf8EncodeChar < ds.flatMap String.utf8EncodeChar := by
  induction cs generalizing ds with
  | nil =>
      cases ds with
      | nil => exact absurd h (List.lt_irrefl _)
      | cons d ds =>
          obtain ⟨b, bs, hd⟩ := List.exists_cons_of_ne_nil (String.utf8EncodeChar_ne_nil (c := d))
          rw [List.flatMap_cons, hd]
          exact List.nil_lt_cons _ _
  | cons c cs ih =>
      cases ds with
      | nil => exact absurd h (List.not_lt_nil _)
      | cons d ds =>
          rw [List.flatMap_cons, List.flatMap_cons]
          rcases List.cons_lt_cons_iff.mp h with hlt | ⟨rfl, hlt⟩
          · exact utf8EncodeChar_append_lt hlt _ _
          · exact List.append_left_lt (ih hlt)

theorem utf8_lt {s t : String} (h : s < t) : utf8 s < utf8 t := by
  rw [utf8_eq_flatMap, utf8_eq_flatMap]
  exact flatMap_utf8_lt (String.lt_iff.mp h)

/-- Texts are in the order of their bytes. -/
theorem utf8_lt_iff {s t : String} : utf8 s < utf8 t ↔ s < t := by
  refine ⟨fun h => ?_, utf8_lt⟩
  rcases Std.lt_trichotomy s t with hlt | rfl | hgt
  · exact hlt
  · exact absurd h (List.lt_irrefl _)
  · exact absurd h (List.lt_asymm (utf8_lt hgt))

theorem utf8_inj {s t : String} : utf8 s = utf8 t ↔ s = t := by
  refine ⟨fun h => ?_, congrArg utf8⟩
  rcases Std.lt_trichotomy s t with hlt | heq | hgt
  · exact absurd (h ▸ utf8_lt hlt) (List.lt_irrefl _)
  · exact heq
  · exact absurd (h ▸ utf8_lt hgt) (List.lt_irrefl _)

end Text

namespace NodePath

/-- The bytes of a path, segment by segment. -/
def bytes (p : NodePath) : List (List UInt8) :=
  p.segments.map Text.utf8

/-- Paths are compared segment by segment, and segments byte by byte. -/
theorem bytes_lt_iff {p q : NodePath} : p.bytes < q.bytes ↔ p < q := by
  have hmap (l m : List String) : l.map Text.utf8 < m.map Text.utf8 ↔ l < m := by
    induction l generalizing m with
    | nil => cases m <;> simp
    | cons s l ih =>
        cases m with
        | nil => simp
        | cons t m =>
            rw [List.map_cons, List.map_cons, List.cons_lt_cons_iff, List.cons_lt_cons_iff,
              Text.utf8_lt_iff, Text.utf8_inj, ih]
  exact hmap p.segments q.segments

end NodePath

namespace Table

variable {α : Type} {table : Table NodePath α} {p : NodePath}

/-! ## Scans -/

/-- The entries from a path on. -/
def onwards (table : Table NodePath α) (p : NodePath) : Table NodePath α :=
  table.dropWhile fun entry => entry.1 < p

/-- The entries from a path on, while they are at or below it. -/
def scanned (table : Table NodePath α) (p : NodePath) : Table NodePath α :=
  (table.onwards p).takeWhile fun entry => entry.1.isAtOrBelow p

/-- The entries from a path on without the first one, while they are strictly below it. -/
def scannedPast (table : Table NodePath α) (p : NodePath) : Table NodePath α :=
  ((table.onwards p).drop 1).takeWhile fun entry => entry.1.isBelow p

/-- If entries are wanted before wanted ones only, taking them while they are wanted takes all. -/
private theorem takeWhile_eq_filter {entries : List (NodePath × α)} {wanted : NodePath × α → Bool}
    (h : entries.Pairwise fun a b => wanted b = true → wanted a = true) :
    entries.takeWhile wanted = entries.filter wanted := by
  induction entries with
  | nil => rfl
  | cons first rest ih =>
      obtain ⟨hfirst, hrest⟩ := List.pairwise_cons.mp h
      cases hwanted : wanted first with
      | true => rw [List.takeWhile_cons_of_pos hwanted, List.filter_cons_of_pos hwanted, ih hrest]
      | false =>
          have hnone : ∀ entry ∈ rest, ¬wanted entry = true := fun entry hentry hmore =>
            Bool.false_ne_true (hwanted.symm.trans (hfirst entry hentry hmore))
          rw [List.takeWhile_cons_of_neg (by simp [hwanted]), List.filter_cons_of_neg (by simp [hwanted]),
            List.filter_eq_nil_iff.mpr hnone]

section sorted

variable (h : Sorted table)
include h

/-- From a path on there are the entries whose paths are not before it. -/
theorem onwards_eq_filter : table.onwards p = table.filter fun entry => !decide (entry.1 < p) := by
  unfold onwards
  induction table with
  | nil => rfl
  | cons first rest ih =>
      obtain ⟨hfirst, hrest⟩ := List.pairwise_cons.mp h
      by_cases hlt : first.1 < p
      · rw [List.dropWhile_cons_of_pos (by simpa using hlt), List.filter_cons_of_neg (by simpa using hlt),
          ih hrest]
      · rw [List.dropWhile_cons_of_neg (by simpa using hlt)]
        refine (List.filter_eq_self.mpr fun entry hentry => ?_).symm
        rcases List.mem_cons.mp hentry with rfl | hentry
        · simpa using hlt
        · have hnot : ¬entry.1 < p := fun hentrylt => hlt (Trans.trans (hfirst entry hentry) hentrylt)
          simpa using hnot

theorem mem_onwards_iff {entry : NodePath × α} :
    entry ∈ table.onwards p ↔ entry ∈ table ∧ ¬entry.1 < p := by
  rw [onwards_eq_filter h, List.mem_filter]
  simp

theorem onwards_sorted : Sorted (table.onwards p) :=
  h.sublist (List.dropWhile_sublist _)

/-- Scanning finds the entries at or below the path. -/
theorem scanned_eq_filter : table.scanned p = table.filter fun entry => entry.1.isAtOrBelow p := by
  have hbetween : (table.onwards p).Pairwise fun a b =>
      b.1.isAtOrBelow p = true → a.1.isAtOrBelow p = true := by
    refine (onwards_sorted h).imp_of_mem fun ha _ hlt hb => ?_
    exact NodePath.isAtOrBelow_of_between ((mem_onwards_iff h).mp ha).2 hlt hb
  rw [scanned, takeWhile_eq_filter hbetween, onwards_eq_filter h, List.filter_filter]
  refine List.filter_congr fun entry _ => ?_
  -- nothing at or below a path is before it
  cases hbelow : entry.1.isAtOrBelow p with
  | false => rfl
  | true => simpa using NodePath.not_lt_of_isAtOrBelow hbelow

/-- The entry of a path is the first one from the path on. -/
theorem onwards_of_contains (hp : contains table p = true) :
    ∃ value rest, table.onwards p = (p, value) :: rest := by
  obtain ⟨value, hvalue⟩ := Option.isSome_iff_exists.mp hp
  have hmem : (p, value) ∈ table.onwards p :=
    (mem_onwards_iff h).mpr ⟨mem_of_get? hvalue, Std.Irrefl.irrefl p⟩
  cases honwards : table.onwards p with
  | nil => simp [honwards] at hmem
  | cons first rest =>
      rw [honwards] at hmem
      rcases List.mem_cons.mp hmem with rfl | hrest
      · exact ⟨value, rest, rfl⟩
      · have hsorted := onwards_sorted h (p := p)
        rw [honwards] at hsorted
        have hlt : first.1 < p := (List.pairwise_cons.mp hsorted).1 _ hrest
        have hfirst : first ∈ table.onwards p := by simp [honwards]
        exact absurd hlt ((mem_onwards_iff h).mp hfirst).2

/-- Scanning past the entry of a path finds the entries strictly below it. -/
theorem scannedPast_eq_filter (hp : contains table p = true) :
    table.scannedPast p = table.filter fun entry => entry.1.isBelow p := by
  obtain ⟨value, rest, honwards⟩ := onwards_of_contains h hp
  have hsorted := onwards_sorted h (p := p)
  rw [honwards] at hsorted
  obtain ⟨hafter, hrest⟩ := List.pairwise_cons.mp hsorted
  have hbetween : rest.Pairwise fun a b => b.1.isBelow p = true → a.1.isBelow p = true := by
    refine hrest.imp_of_mem fun {a b} ha _ hlt hb => ?_
    have hpa : p < a.1 := hafter a ha
    have hnot : ¬a.1 < p := fun hap => Std.Irrefl.irrefl p (Trans.trans hpa hap)
    refine NodePath.isBelow_iff.mpr ⟨?_, fun heq => ?_⟩
    · exact NodePath.isAtOrBelow_of_between hnot hlt (NodePath.isBelow_iff.mp hb).1
    · exact Std.Irrefl.irrefl p (heq ▸ hpa)
  have hself : p.isBelow p = false := by simp [NodePath.isBelow]
  calc table.scannedPast p
    _ = rest.takeWhile fun entry => entry.1.isBelow p := by
        rw [scannedPast, honwards, List.drop_one, List.tail_cons]
    _ = rest.filter fun entry => entry.1.isBelow p := takeWhile_eq_filter hbetween
    _ = (table.onwards p).filter fun entry => entry.1.isBelow p := by
        rw [honwards, List.filter_cons_of_neg (by simp [hself])]
    _ = table.filter fun entry => entry.1.isBelow p := by
        rw [onwards_eq_filter h, List.filter_filter]
        refine List.filter_congr fun entry _ => ?_
        cases hbelow : entry.1.isBelow p with
        | false => rfl
        | true => simpa using NodePath.not_lt_of_isAtOrBelow (NodePath.isBelow_iff.mp hbelow).1

end sorted

/-- A table is in order if its paths are in the order of their bytes. -/
theorem sorted_iff_bytes : (keys table).Pairwise (fun q r => q.bytes < r.bytes) ↔ Sorted table := by
  simp only [keys, List.pairwise_map, NodePath.bytes_lt_iff]
  rfl

end Table

/-! ## Workspaces -/

/-- The children of a node are found by scanning past it. -/
theorem Workspace.childPaths_eq_scannedPast {nodes : Workspace} {p : NodePath} (h : Table.Sorted nodes)
    (hp : Table.contains nodes p = true) : nodes.childPaths p =
      (Table.keys (Table.scannedPast nodes p)).filter fun q => q.depth == p.depth + 1 := by
  have hsubtree : nodes.subtree p = nodes.filter fun entry => entry.1.isAtOrBelow p :=
    Table.scanned_eq_filter h
  unfold childPaths Table.keys
  rw [hsubtree, Table.scannedPast_eq_filter h hp, List.filter_map, List.filter_map, List.filter_filter,
    List.filter_filter]
  refine congrArg _ (List.filter_congr fun entry _ => ?_)
  -- what is one level below a path is strictly below it
  unfold NodePath.isBelow
  cases hdepth : entry.1.depth == p.depth + 1 with
  | false => simp [hdepth]
  | true =>
      have hlt : p.depth < entry.1.depth := by
        rw [eq_of_beq hdepth]
        exact Nat.lt_succ_self _
      simp [hdepth, hlt]

/-- **Subtrees are contiguous.**  In a table of paths that are in the order of the bytes of their segments,
whether a path is among them or not, the entries from the path on, while they are at or below it, are
exactly the entries at or below it, each once and in order.  If the path is among them, going on behind it
while the entries are strictly below it gives exactly those that are.  This is how the subtree at a path is
found in a workspace. -/
theorem subtrees_contiguous {α : Type} {table : Table NodePath α}
    (h : (Table.keys table).Pairwise fun q r => q.bytes < r.bytes) (p : NodePath) :
    (∀ entry, entry ∈ table.onwards p ↔ entry ∈ table ∧ ¬entry.1.bytes < p.bytes) ∧
      table.scanned p = table.filter (fun entry => entry.1.isAtOrBelow p) ∧
      (Table.contains table p = true →
        table.scannedPast p = table.filter fun entry => entry.1.isBelow p) ∧
      table.scanned p <:+: table ∧
      (Table.keys (table.scanned p)).Pairwise (fun q r => q.bytes < r.bytes) ∧
      ∀ nodes : Workspace, nodes.subtree p = Table.scanned nodes p := by
  have hsorted := Table.sorted_iff_bytes.mp h
  refine ⟨fun entry => ?_, Table.scanned_eq_filter hsorted, Table.scannedPast_eq_filter hsorted, ?_, ?_,
    fun nodes => rfl⟩
  · rw [NodePath.bytes_lt_iff]
    exact Table.mem_onwards_iff hsorted
  · exact (List.takeWhile_prefix _).isInfix.trans (List.dropWhile_suffix _).isInfix
  · rw [Table.scanned_eq_filter hsorted, Table.sorted_iff_bytes]
    exact hsorted.sublist List.filter_sublist

/-- Siblings whose names begin alike do not come between a path and what is below it, although the text
`/a-b` comes before the text `/a/x`. -/
theorem subtrees_contiguous_siblings :
    let table : Table NodePath Nat := [(⟨[], by decide⟩, 0), (⟨["a"], by decide⟩, 1),
      (⟨["a", "x"], by decide⟩, 2), (⟨["a", "x", "y"], by decide⟩, 3), (⟨["a-b"], by decide⟩, 4),
      (⟨["ab"], by decide⟩, 5)]
    (Table.keys table).Pairwise (fun q r => q.bytes < r.bytes) ∧
      Table.contains table ⟨["a"], by decide⟩ = true ∧
      (table.scanned ⟨["a"], by decide⟩).map Prod.snd = [1, 2, 3] ∧
      (table.scannedPast ⟨["a"], by decide⟩).map Prod.snd = [2, 3] := by
  intro table
  have hsorted : Table.Sorted table := by
    unfold Table.Sorted
    decide
  have h : (Table.keys table).Pairwise (fun q r => q.bytes < r.bytes) :=
    Table.sorted_iff_bytes.mpr hsorted
  have hcontains : Table.contains table ⟨["a"], by decide⟩ = true := by decide
  obtain ⟨-, hscanned, hpast, -⟩ := subtrees_contiguous h ⟨["a"], by decide⟩
  refine ⟨h, hcontains, ?_, ?_⟩
  · rw [hscanned]
    decide
  · rw [hpast hcontains]
    decide

end ContentEngine
