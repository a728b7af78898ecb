import ContentEngine.Expression.Cut

/-!
# Groups

A cut is numbered by the tokens that capture.  The group of a wildcard is the piece of the wildcard;
the group of a parenthesis is everything between it and the parenthesis that closes it.

## Strategy

`groupText` counts parentheses while it reads on.  A list of tokens is `Nested depth` if it closes
`depth` parentheses more than it opens, none of them too early; such a list with one parenthesis too
many splits at the one that closes it (`Nested.split`), and up to there `groupText` reads everything
(`groupText_append`).
-/

namespace ContentEngine.Expression

/-! ## Nested parentheses -/

/-- The tokens close their own parentheses and `depth` others. -/
inductive Nested {β : Type} : Nat → List (Token β) → Prop
  | nil : Nested 0 []
  | opening {depth ts} : Nested (depth + 1) ts → Nested depth (.groupOpen :: ts)
  | closing {depth ts} : Nested depth ts → Nested (depth + 1) (.groupClose :: ts)
  | other {depth t ts} : t ≠ .groupOpen → t ≠ .groupClose → Nested depth ts → Nested depth (t :: ts)

variable {β : Type} {depth : Nat} {ts : List (Token β)}

namespace Nested

theorem append {more : Nat} {us : List (Token β)} (h : Nested depth ts) (h' : Nested more us) :
    Nested (depth + more) (ts ++ us) := by
  induction h with
  | nil => simpa using h'
  | @opening depth ts _ ih =>
      refine .opening ?_
      rwa [Nat.add_right_comm]
  | @closing depth ts _ ih =>
      rw [Nat.add_right_comm]
      exact .closing ih
  | other hopen hclose _ ih => exact .other hopen hclose ih

theorem of_no_parentheses (h : ∀ t ∈ ts, t ≠ .groupOpen ∧ t ≠ .groupClose) : Nested 0 ts := by
  induction ts with
  | nil => exact .nil
  | cons t ts ih =>
      obtain ⟨⟨hopen, hclose⟩, hts⟩ := List.forall_mem_cons.mp h
      exact .other hopen hclose (ih hts)

/-- Where the innermost of some open parentheses is closed. -/
theorem split (h : Nested (depth + 1) ts) :
    ∃ inner rest, ts = inner ++ .groupClose :: rest ∧ Nested 0 inner ∧ Nested depth rest := by
  -- an opening parenthesis is closed first, and then the search goes on behind that place
  induction hlength : ts.length using Nat.strongRecOn generalizing depth ts with
  | _ n ih =>
      subst hlength
      cases h with
      | @closing _ ts hts => exact ⟨[], ts, rfl, .nil, hts⟩
      | @opening _ ts hts =>
          obtain ⟨inner, rest, rfl, hinner, hrest⟩ := ih _ (by simp) hts rfl
          obtain ⟨inner', rest', rfl, hinner', hrest'⟩ := ih _ (by simp; omega) hrest rfl
          refine ⟨.groupOpen :: inner ++ .groupClose :: inner', rest', by simp, ?_, hrest'⟩
          exact .opening (Nat.zero_add 1 ▸ hinner.append hinner'.closing)
      | @other _ t ts hopen hclose hts =>
          obtain ⟨inner, rest, rfl, hinner, hrest⟩ := ih _ (by simp) hts rfl
          exact ⟨t :: inner, rest, rfl, .other hopen hclose hinner, hrest⟩

/-- Behind every place some parentheses are open. -/
theorem of_append {us : List (Token β)} (h : Nested depth (ts ++ us)) : ∃ more, Nested more us := by
  induction ts generalizing depth with
  | nil => exact ⟨depth, h⟩
  | cons t ts ih =>
      cases h with
      | opening h => exact ih h
      | closing h => exact ih h
      | other _ _ h => exact ih h

end Nested

/-! ## The text of a group -/

/-- Parentheses have no text of their own. -/
def NoText (placed : List Placed) : Prop :=
  ∀ p ∈ placed, p.1 = .groupOpen ∨ p.1 = .groupClose → p.2 = []

/-- The group of the first token of a list: what a wildcard takes, or what stands inside a
parenthesis. -/
inductive IsGroup : List Placed → List Char → Prop
  | segmentRun {piece after} : IsGroup ((.segmentRun, piece) :: after) piece
  | pathRun {piece after} : IsGroup ((.pathRun, piece) :: after) piece
  | single {piece after} : IsGroup ((.single, piece) :: after) piece
  | inside {inner after : List Placed} {start stop : List Char} :
      Nested 0 (inner.map Prod.fst) →
      IsGroup ((.groupOpen, start) :: inner ++ (.groupClose, stop) :: after)
        (inner.map Prod.snd).flatten

variable {placed inner before after : List Placed} {piece : List Char} {e : Element}

/-- The parentheses of a list are passed over, and everything else in it is read. -/
theorem groupText_append (h : Nested depth (inner.map Prod.fst)) (htext : NoText inner)
    (more : Nat) (after : List Placed) :
    groupText (depth + more) (inner ++ after) =
      (inner.map Prod.snd).flatten ++ groupText more after := by
  induction inner generalizing depth with
  | nil =>
      cases h
      simp
  | cons p inner ih =>
      obtain ⟨t, piece⟩ := p
      have hlater : NoText inner := fun p hp => htext p (List.mem_cons_of_mem _ hp)
      cases h with
      | opening h =>
          have hpiece : piece = [] := htext _ List.mem_cons_self (.inl rfl)
          subst hpiece
          simp only [List.cons_append, groupText, List.map_cons, List.flatten_cons, List.nil_append]
          rw [Nat.add_right_comm, ih h hlater]
      | @closing depth _ h =>
          have hpiece : piece = [] := htext _ List.mem_cons_self (.inr rfl)
          subst hpiece
          have hdepth : depth + 1 + more ≠ 0 := by omega
          have hless : depth + 1 + more - 1 = depth + more := by omega
          simp only [List.cons_append, groupText, if_neg hdepth, hless, List.map_cons,
            List.flatten_cons, List.nil_append]
          exact ih h hlater
      | other hopen hclose h =>
          have hread : groupText (depth + more) ((t, piece) :: (inner ++ after)) =
              piece ++ groupText (depth + more) (inner ++ after) := by
            cases t with
            | groupOpen => exact absurd rfl hopen
            | groupClose => exact absurd rfl hclose
            | _ => rfl
          rw [List.cons_append, hread, ih h hlater]
          simp

/-! ## Numbering -/

theorem length_groupTexts : (groupTexts placed).length = placed.countP fun p => p.1.isCapturing := by
  induction placed with
  | nil => rfl
  | cons p placed ih =>
      obtain ⟨t, piece⟩ := p
      cases t with
      | _ => simp [groupTexts, Token.isCapturing, ih]

/-- Groups are numbered in the order in which they open. -/
theorem drop_groupTexts (before after : List Placed) :
    (groupTexts (before ++ after)).drop (before.countP fun p => p.1.isCapturing) =
      groupTexts after := by
  induction before with
  | nil => rfl
  | cons p before ih =>
      obtain ⟨t, piece⟩ := p
      cases t with
      | _ => simpa [groupTexts, Token.isCapturing] using ih

/-- The first group is the one of the first token, if that captures. -/
theorem exists_group (hcapturing : e.isCapturing = true)
    (hnested : Nested depth (((e, piece) :: after).map Prod.fst))
    (htext : NoText ((e, piece) :: after)) :
    ∃ text, IsGroup ((e, piece) :: after) text ∧
      (groupTexts ((e, piece) :: after)).head? = some text := by
  cases e with
  | segmentRun => exact ⟨piece, .segmentRun, rfl⟩
  | pathRun => exact ⟨piece, .pathRun, rfl⟩
  | single => exact ⟨piece, .single, rfl⟩
  | groupOpen =>
      have hopen : Nested (depth + 1) (after.map Prod.fst) := by
        cases hnested with
        | opening h => exact h
        | other hopen _ _ => exact absurd rfl hopen
      obtain ⟨tokens, others, hafter, htokens, -⟩ := hopen.split
      obtain ⟨inner, rest, rfl, rfl, hrest⟩ := List.map_eq_append_iff.mp hafter
      obtain ⟨⟨_, stop⟩, rest, rfl, rfl, rfl⟩ := List.map_eq_cons_iff.mp hrest
      have hinner : NoText inner := fun p hp =>
        htext p (List.mem_cons_of_mem _ (List.mem_append_left _ hp))
      refine ⟨_, .inside htokens, ?_⟩
      -- the closing parenthesis ends the text of the group
      have hread := groupText_append htokens hinner 0 ((.groupClose, stop) :: rest)
      simpa [groupTexts, groupText] using hread
  | _ => cases hcapturing

/-- A group is found under the number of capturing tokens up to its own. -/
theorem getElem?_groupTexts (hcapturing : e.isCapturing = true)
    (hnested : Nested depth ((before ++ (e, piece) :: after).map Prod.fst))
    (htext : NoText (before ++ (e, piece) :: after)) :
    ∃ text, IsGroup ((e, piece) :: after) text ∧
      (groupTexts (before ++ (e, piece) :: after))[before.countP fun p => p.1.isCapturing]? =
        some text := by
  rw [List.map_append] at hnested
  obtain ⟨more, hmore⟩ := hnested.of_append
  obtain ⟨text, hgroup, hhead⟩ := exists_group hcapturing hmore
    fun p hp => htext p (List.mem_append_right _ hp)
  refine ⟨text, hgroup, ?_⟩
  rw [← drop_groupTexts before, List.head?_drop] at hhead
  exact hhead

end ContentEngine.Expression
