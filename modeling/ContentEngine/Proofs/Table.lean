import ContentEngine.Table

/-!
# Looking up in tables

What is found in a table after an entry was put in or taken out, which entries it has then, and that
its keys stay in ascending order.
-/

namespace ContentEngine.Table

variable {κ α : Type} [LT κ] [DecidableLT κ] [DecidableEq κ]

omit [LT κ] [DecidableLT κ] in
theorem get?_cons (entry : κ × α) (rest : Table κ α) (key : κ) :
    get? (entry :: rest) key = if entry.1 = key then some entry.2 else get? rest key :=
  rfl

theorem get?_insert (table : Table κ α) (key : κ) (value : α) (other : κ) :
    get? (insert key value table) other = if other = key then some value else get? table other := by
  induction table with
  | nil =>
      by_cases h : key = other
      · simp [insert, get?, h]
      · simp [insert, get?, h, Ne.symm h]
  | cons entry rest ih =>
      obtain ⟨k, v⟩ := entry
      unfold insert
      split
      · by_cases h : key = other
        · simp [get?, h]
        · simp [get?, h, Ne.symm h]
      split
      · rename_i hk
        subst hk
        by_cases h : k = other
        · simp [get?, h]
        · simp [get?, h, Ne.symm h]
      · rename_i hk
        unfold get?
        rw [ih]
        by_cases h : k = other
        · subst h
          simp [hk]
        · simp [h]

@[simp] theorem get?_insert_self (table : Table κ α) (key : κ) (value : α) :
    get? (insert key value table) key = some value := by
  rw [get?_insert, if_pos rfl]

omit [LT κ] [DecidableLT κ] in
theorem mem_of_get? {table : Table κ α} {key : κ} {value : α} (h : get? table key = some value) :
    (key, value) ∈ table := by
  induction table with
  | nil => cases h
  | cons entry rest ih =>
      obtain ⟨k, v⟩ := entry
      unfold get? at h
      split at h
      · rename_i hk
        rw [hk, Option.some.inj h]
        exact List.mem_cons_self
      · exact List.mem_cons_of_mem _ (ih h)

omit [LT κ] [DecidableLT κ] in
theorem get?_erase (table : Table κ α) (key other : κ) :
    get? (erase key table) other = if other = key then none else get? table other := by
  induction table with
  | nil => simp [erase, get?]
  | cons entry rest ih =>
      obtain ⟨k, v⟩ := entry
      have ih' : get? (List.filter (fun entry => !decide (entry.1 = key)) rest) other =
          if other = key then none else get? rest other := ih
      unfold erase
      by_cases hk : k = key
      · subst hk
        rw [List.filter_cons_of_neg (by simp), ih']
        by_cases h : other = k
        · simp [h]
        · simp [h, get?, Ne.symm h]
      · rw [List.filter_cons_of_pos (by simp [hk])]
        unfold get?
        rw [ih']
        by_cases h : k = other
        · subst h
          simp [hk]
        · simp [h]

theorem get?_insertNew (table : Table κ α) (key : κ) (value : α) (other : κ) :
    get? (insertNew key value table) other =
      if other = key then some ((get? table key).getD value) else get? table other := by
  unfold insertNew contains
  cases h : get? table key with
  | none => exact get?_insert ..
  | some found =>
      rw [Option.isSome_some, if_pos rfl]
      split
      · rename_i heq
        rw [heq, h, Option.getD_some]
      · rfl

/-- Keys that are taken keep their values when new keys get a value. -/
theorem get?_foldl_insertNew (keys : List κ) (value : α) (table : Table κ α) (key : κ) :
    get? (keys.foldl (fun table key => insertNew key value table) table) key =
      if key ∈ keys then some ((get? table key).getD value) else get? table key := by
  induction keys generalizing table with
  | nil => rfl
  | cons first rest ih =>
      rw [List.foldl_cons, ih, get?_insertNew]
      by_cases heq : key = first
      · subst heq
        simp
      · simp [heq]

omit [LT κ] [DecidableLT κ] in
theorem get?_foldl_erase (removed table : Table κ α) (key : κ) :
    get? (removed.foldl (fun table entry => erase entry.1 table) table) key =
      if contains removed key then none else get? table key := by
  induction removed generalizing table with
  | nil => rfl
  | cons first rest ih =>
      rw [List.foldl_cons, ih, get?_erase]
      unfold contains
      by_cases heq : key = first.1
      · simp [get?, heq]
      · simp [get?, heq, Ne.symm heq]

/-- Entries of different keys that are put in are found, before those that were there. -/
theorem get?_foldl_insert {entries : Table κ α} (h : (entries.map Prod.fst).Nodup) (table : Table κ α)
    (key : κ) : get? (entries.foldl (fun table entry => insert entry.1 entry.2 table) table) key =
      (get? entries key).or (get? table key) := by
  induction entries generalizing table with
  | nil => rfl
  | cons first rest ih =>
      obtain ⟨hfirst, hrest⟩ := List.nodup_cons.mp h
      rw [List.foldl_cons, ih hrest, get?_insert, get?_cons]
      by_cases heq : first.1 = key
      · have hnone : get? rest key = none := by
          refine Option.eq_none_iff_forall_ne_some.mpr fun value hvalue => hfirst ?_
          exact List.mem_map.mpr ⟨(key, value), mem_of_get? hvalue, heq.symm⟩
        rw [if_pos heq.symm, if_pos heq, hnone]
        rfl
      · rw [if_neg (Ne.symm heq), if_neg heq]

theorem get?_foldl_insert_of_absent {entries : List (κ × α)} {key : κ}
    (h : ∀ entry ∈ entries, entry.1 ≠ key) (table : Table κ α) :
    get? (entries.foldl (fun table entry => insert entry.1 entry.2 table) table) key =
      get? table key := by
  induction entries generalizing table with
  | nil => rfl
  | cons first rest ih =>
      obtain ⟨hfirst, hrest⟩ := List.forall_mem_cons.mp h
      rw [List.foldl_cons, ih hrest, get?_insert, if_neg (Ne.symm hfirst)]

omit [LT κ] [DecidableLT κ] in
/-- If there are entries of a key, there is a last one. -/
private theorem absent_or_last (entries : List (κ × α)) (key : κ) :
    (∀ entry ∈ entries, entry.1 ≠ key) ∨
      ∃ before value after, entries = before ++ (key, value) :: after ∧
        ∀ entry ∈ after, entry.1 ≠ key := by
  induction entries with
  | nil => exact .inl (by simp)
  | cons first rest ih =>
      rcases ih with habsent | ⟨before, value, after, rfl, hafter⟩
      · by_cases hkey : first.1 = key
        · subst hkey
          exact .inr ⟨[], first.2, rest, rfl, habsent⟩
        · exact .inl (List.forall_mem_cons.mpr ⟨hkey, habsent⟩)
      · exact .inr ⟨first :: before, value, after, rfl, hafter⟩

/-- Of the entries of a key the last one counts. -/
theorem get?_ofList_eq_some_iff {entries : List (κ × α)} {key : κ} {value : α} :
    get? (ofList entries) key = some value ↔
      ∃ before after, entries = before ++ (key, value) :: after ∧ ∀ entry ∈ after, entry.1 ≠ key := by
  have hlast {before after : List (κ × α)} {last : α} (hafter : ∀ entry ∈ after, entry.1 ≠ key) :
      get? (ofList (before ++ (key, last) :: after)) key = some last := by
    rw [ofList, List.foldl_append, List.foldl_cons, get?_foldl_insert_of_absent hafter,
      get?_insert_self]
  constructor
  · intro h
    rcases absent_or_last entries key with habsent | ⟨before, last, after, rfl, hafter⟩
    · rw [ofList, get?_foldl_insert_of_absent habsent] at h
      cases h
    · rw [hlast hafter] at h
      obtain rfl := Option.some.inj h
      exact ⟨before, after, rfl, hafter⟩
  · rintro ⟨before, after, rfl, hafter⟩
    exact hlast hafter

omit [LT κ] [DecidableLT κ] in
theorem get?_map {β : Type} (f : κ × α → β) (table : Table κ α) (key : κ) :
    get? (table.map fun entry => (entry.1, f entry)) key =
      (get? table key).map fun value => f (key, value) := by
  induction table with
  | nil => rfl
  | cons first rest ih =>
      rw [List.map_cons, get?_cons, get?_cons]
      split
      · rename_i heq
        subst heq
        rfl
      · exact ih

/-! ## Entries -/

theorem mem_insert {table : Table κ α} {key : κ} {value : α} {entry : κ × α}
    (h : entry ∈ insert key value table) : entry = (key, value) ∨ entry ∈ table := by
  induction table with
  | nil => simpa [insert] using h
  | cons first rest ih =>
      obtain ⟨k, v⟩ := first
      unfold insert at h
      split at h
      · simpa using h
      split at h
      · rcases List.mem_cons.mp h with h | h
        · exact .inl h
        · exact .inr (List.mem_cons_of_mem _ h)
      · rcases List.mem_cons.mp h with h | h
        · exact .inr (h ▸ List.mem_cons_self)
        · exact (ih h).imp_right (List.mem_cons_of_mem _)

/-- The entries of other keys are the same after an entry was put in. -/
theorem filter_insert (table : Table κ α) {key : κ} (value : α) {p : κ → Bool} (h : p key = false) :
    (insert key value table).filter (p ·.1) = table.filter (p ·.1) := by
  induction table with
  | nil => simp [insert, h]
  | cons first rest ih =>
      obtain ⟨k, v⟩ := first
      unfold insert
      split
      · simp [h]
      split
      · rename_i hk
        simp [hk, h]
      · simp only [List.filter_cons, ih]

theorem filter_insertNew (table : Table κ α) {key : κ} (value : α) {p : κ → Bool}
    (h : p key = false) :
    (insertNew key value table).filter (p ·.1) = table.filter (p ·.1) := by
  unfold insertNew
  split
  · rfl
  · exact filter_insert table value h

omit [LT κ] [DecidableLT κ] in
theorem filter_erase (table : Table κ α) {key : κ} {p : κ → Bool} (h : p key = false) :
    (erase key table).filter (p ·.1) = table.filter (p ·.1) := by
  unfold erase
  rw [List.filter_filter]
  refine List.filter_congr fun entry _ => ?_
  by_cases hkey : entry.1 = key
  · simp [hkey, h]
  · simp [hkey]

omit [LT κ] [DecidableLT κ] in
theorem get?_filter (table : Table κ α) {key : κ} {p : κ → Bool} (h : p key = true) :
    get? (table.filter (p ·.1)) key = get? table key := by
  induction table with
  | nil => rfl
  | cons first rest ih =>
      obtain ⟨k, v⟩ := first
      cases hk : p k with
      | true => simp only [List.filter_cons, hk, if_true, get?, ih]
      | false =>
          have hne : k ≠ key := fun heq => Bool.false_ne_true (hk.symm.trans (heq ▸ h))
          simp only [List.filter_cons, hk, Bool.false_eq_true, if_false, ih, get?, if_neg hne]

omit [LT κ] [DecidableLT κ] in
theorem get?_filter_of_not (table : Table κ α) {key : κ} {p : κ → Bool} (h : p key = false) :
    get? (table.filter (p ·.1)) key = none := by
  refine Option.eq_none_iff_forall_ne_some.mpr fun value hvalue => ?_
  have hp := (List.mem_filter.mp (mem_of_get? hvalue)).2
  exact Bool.false_ne_true (h.symm.trans hp)

/-! ## Order -/

/-- The keys are in ascending order. -/
def Sorted (table : Table κ α) : Prop :=
  table.Pairwise fun a b => a.1 < b.1

omit [DecidableLT κ] in
theorem Sorted.erase {table : Table κ α} (h : Sorted table) (key : κ) : Sorted (erase key table) :=
  h.sublist List.filter_sublist

omit [DecidableLT κ] in
theorem Sorted.get?_of_mem [Std.Irrefl (α := κ) (· < ·)] {table : Table κ α} {key : κ} {value : α}
    (h : Sorted table) (hmem : (key, value) ∈ table) : get? table key = some value := by
  induction table with
  | nil => cases hmem
  | cons first rest ih =>
      obtain ⟨hfirst, hrest⟩ := List.pairwise_cons.mp h
      unfold get?
      rcases List.mem_cons.mp hmem with rfl | hmem
      · simp
      · split
        · rename_i hkey
          have hlt := hfirst _ hmem
          rw [hkey] at hlt
          exact absurd hlt (Std.Irrefl.irrefl key)
        · exact ih hrest hmem

omit [DecidableLT κ] [DecidableEq κ] in
theorem Sorted.nodup_keys [Std.Irrefl (α := κ) (· < ·)] {table : Table κ α} (h : Sorted table) :
    (table.map Prod.fst).Nodup := by
  refine List.pairwise_map.mpr (h.imp fun hlt heq => ?_)
  rw [heq] at hlt
  exact Std.Irrefl.irrefl _ hlt

section insert

variable [Std.Trichotomous (α := κ) (· < ·)]
  [Trans (α := κ) (β := κ) (γ := κ) (· < ·) (· < ·) (· < ·)]

theorem Sorted.insert {table : Table κ α} (h : Sorted table) (key : κ) (value : α) :
    Sorted (insert key value table) := by
  induction table with
  | nil => simp [Table.insert, Sorted]
  | cons first rest ih =>
      obtain ⟨k, v⟩ := first
      obtain ⟨hfirst, hrest⟩ := List.pairwise_cons.mp h
      unfold Table.insert
      split
      · rename_i hlt
        refine List.pairwise_cons.mpr ⟨fun entry hentry => ?_, h⟩
        rcases List.mem_cons.mp hentry with rfl | hentry
        · exact hlt
        · exact Trans.trans hlt (hfirst entry hentry)
      split
      · rename_i hkey
        exact List.pairwise_cons.mpr ⟨fun entry hentry => hkey ▸ hfirst entry hentry, hrest⟩
      · rename_i hlt hne
        refine List.pairwise_cons.mpr ⟨fun entry hentry => ?_, ih hrest⟩
        rcases mem_insert hentry with rfl | hentry
        · -- keys that are neither greater nor equal are less
          exact Decidable.byContradiction fun hge =>
            hne (Std.Trichotomous.trichotomous (r := (· < ·)) k key hge hlt)
        · exact hfirst entry hentry

theorem Sorted.ofList (entries : List (κ × α)) : Sorted (ofList entries) :=
  List.foldlRecOn entries _ List.Pairwise.nil fun _ h entry _ => h.insert entry.1 entry.2

theorem Sorted.insertNew {table : Table κ α} (h : Sorted table) (key : κ) (value : α) :
    Sorted (insertNew key value table) := by
  unfold Table.insertNew
  split
  · exact h
  · exact h.insert key value

end insert

end ContentEngine.Table
