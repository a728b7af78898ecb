import ContentEngine.Expression.Cut
import Mathlib.Data.List.Lex

/-!
# The longest cut

A text is cut along tokens into consecutive pieces, one for each token.  Of all cuts the *longest* is
the one whose piece lengths are greatest from left to right.  `cut?` finds it, and finds nothing only
if there is no cut at all.

## Strategy

A row tells of every suffix of the text whether it can be cut (`IsRow`), so the longest piece that a
token can take is the longest one after which the next row holds (`pieceLength?_greatest`).  The first
piece of any other cut is not longer than that one, and if it is as long the other pieces decide: the
longest cut is found from left to right without looking back.
-/

namespace ContentEngine.Expression

/-! ## Cuts -/

/-- Whether a token can take a piece of text. -/
def Element.Fits : Element → List Char → Prop
  | .literal c, piece => piece = [c]
  | .segmentRun, piece => '/' ∉ piece
  | .pathRun, piece => '\n' ∉ piece
  | .single, piece => ∃ c, c ≠ '/' ∧ piece = [c]
  | .groupOpen, piece => piece = []
  | .groupClose, piece => piece = []
  | .oneOf characters, piece => ∃ c, characters.contains c = true ∧ piece = [c]

/-- A text is cut into consecutive pieces, one for each token. -/
inductive IsCut : List Element → List Char → List (List Char) → Prop
  | nil : IsCut [] [] []
  | cons {e es piece cs pieces} : Element.Fits e piece → IsCut es cs pieces →
      IsCut (e :: es) (piece ++ cs) (piece :: pieces)

def Cuttable (es : List Element) (cs : List Char) : Prop :=
  ∃ pieces, IsCut es cs pieces

/-- The cut whose piece lengths are greatest, compared from left to right. -/
structure LongestCut (es : List Element) (cs : List Char) (pieces : List (List Char)) : Prop where
  cut : IsCut es cs pieces
  longest : ∀ {other}, IsCut es cs other → other.map List.length ≤ pieces.map List.length

variable {e : Element} {es : List Element} {cs piece : List Char} {pieces : List (List Char)}

theorem IsCut.length_eq (h : IsCut es cs pieces) : pieces.length = es.length := by
  induction h with
  | nil => rfl
  | cons _ _ ih => simp [ih]

theorem cuttable_nil : Cuttable [] cs ↔ cs = [] := by
  constructor
  · rintro ⟨_, ⟨⟩⟩
    rfl
  · rintro rfl
    exact ⟨[], .nil⟩

/-- A cut is known by the lengths of its pieces. -/
theorem IsCut.eq_of_lengths {other : List (List Char)} (h : IsCut es cs pieces)
    (h' : IsCut es cs other) (hlengths : pieces.map List.length = other.map List.length) :
    pieces = other := by
  induction h generalizing other with
  | nil =>
      cases h'
      rfl
  | @cons e es piece cs pieces _ _ ih =>
      generalize hall : piece ++ cs = all at h'
      cases h' with
      | @cons _ _ piece' cs' pieces' _ hrest =>
          obtain ⟨hlength, hrests⟩ := List.cons.inj hlengths
          obtain ⟨rfl, rfl⟩ := List.append_inj hall hlength
          rw [ih hrest hrests]

/-- There is one longest cut. -/
theorem LongestCut.unique {other : List (List Char)} (h : LongestCut es cs pieces)
    (h' : LongestCut es cs other) : pieces = other :=
  h.cut.eq_of_lengths h'.cut (le_antisymm (h'.longest h.cut) (h.longest h'.cut))

/-! ### The first piece -/

/-- The first token can take `n` characters so that the tokens behind it can take the rest. -/
structure Possible (e : Element) (es : List Element) (cs : List Char) (n : Nat) : Prop where
  le : n ≤ cs.length
  fits : e.Fits (cs.take n)
  rest : Cuttable es (cs.drop n)

theorem possible_of_isCut (hfits : e.Fits piece) (h : Cuttable es cs) :
    Possible e es (piece ++ cs) piece.length where
  le := by simp
  fits := by simpa using hfits
  rest := by simpa using h

theorem Possible.cuttable {n : Nat} (h : Possible e es cs n) : Cuttable (e :: es) cs := by
  obtain ⟨pieces, hpieces⟩ := h.rest
  refine ⟨cs.take n :: pieces, ?_⟩
  conv =>
    arg 2
    rw [← List.take_append_drop n cs]
  exact .cons h.fits hpieces

theorem cuttable_cons : Cuttable (e :: es) cs ↔ ∃ n, Possible e es cs n := by
  constructor
  · rintro ⟨_, hcut⟩
    cases hcut with
    | cons hfits hrest => exact ⟨_, possible_of_isCut hfits ⟨_, hrest⟩⟩
  · rintro ⟨n, hn⟩
    exact hn.cuttable

/-- A text that is cut along tokens is two texts that are, one along the first of them and one along the
others. -/
theorem cuttable_append {us vs : List Element} : Cuttable (us ++ vs) cs ↔
    ∃ before after, cs = before ++ after ∧ Cuttable us before ∧ Cuttable vs after := by
  constructor
  · rintro ⟨pieces, hcut⟩
    induction us generalizing cs pieces with
    | nil => exact ⟨[], cs, rfl, cuttable_nil.mpr rfl, pieces, hcut⟩
    | cons u us ih =>
        cases hcut with
        | @cons _ _ piece _ _ hfits hrest =>
            obtain ⟨before, after, rfl, ⟨pieces, hbefore⟩, hafter⟩ := ih _ hrest
            exact ⟨piece ++ before, after, by simp, ⟨_, .cons hfits hbefore⟩, hafter⟩
  · rintro ⟨before, after, rfl, ⟨pieces, hbefore⟩, pieces', hafter⟩
    induction hbefore with
    | nil => exact ⟨pieces', hafter⟩
    | cons hfits _ ih =>
        obtain ⟨others, hothers⟩ := ih
        rw [List.append_assoc]
        exact ⟨_, .cons hfits hothers⟩

/-- A cut that begins with the longest piece and goes on with the longest cut of the rest is the
longest one. -/
theorem LongestCut.cons {n : Nat} (hn : Possible e es cs n) (hmax : ∀ m, Possible e es cs m → m ≤ n)
    (h : LongestCut es (cs.drop n) pieces) : LongestCut (e :: es) cs (cs.take n :: pieces) := by
  have hlength : (cs.take n).length = n := List.length_take_of_le hn.le
  have hwhole : cs.take n ++ cs.drop n = cs := List.take_append_drop n cs
  refine ⟨?_, fun {other} hother => ?_⟩
  · have hcut := IsCut.cons hn.fits h.cut
    rwa [hwhole] at hcut
  generalize hcs : cs = all at hother
  cases hother with
  | @cons _ _ piece rest pieces' hfits hrest =>
      subst hcs
      have hle : piece.length ≤ n := hmax _ (possible_of_isCut hfits ⟨_, hrest⟩)
      rw [List.map_cons, List.map_cons, hlength]
      rcases Nat.lt_or_eq_of_le hle with hlt | heq
      · exact le_of_lt (List.cons_lt_cons_iff.mpr (.inl hlt))
      · -- the two cuts have the first piece in common, so the others decide
        have hdrop : (piece ++ rest).drop n = rest := by simp [← heq]
        rw [hdrop] at h
        rw [heq]
        exact List.cons_le_cons n (h.longest hrest)

/-! ### Kinds of tokens -/

theorem fits_empty (h : e.extent = .empty) : e.Fits piece ↔ piece = [] := by
  cases e with
  | groupOpen => exact .rfl
  | groupClose => exact .rfl
  | _ => cases h

theorem fits_one (h : e.extent = .one) : e.Fits piece ↔ ∃ c, e.admits c = true ∧ piece = [c] := by
  cases e with
  | literal c => simp [Element.Fits, Element.admits]
  | single => simp [Element.Fits, Element.admits]
  | oneOf characters => exact .rfl
  | _ => cases h

theorem fits_run (h : e.extent = .run) : e.Fits piece ↔ ∀ c ∈ piece, e.admits c = true := by
  have hnot : ∀ d : Char, d ∉ piece ↔ ∀ c ∈ piece, (c != d) = true := fun d => by
    simp only [bne_iff_ne]
    exact ⟨fun hd c hc heq => hd (heq ▸ hc), fun hall hd => hall d hd rfl⟩
  cases e with
  | segmentRun => exact hnot '/'
  | pathRun => exact hnot '\n'
  | _ => cases h

/-! ## Rows -/

/-- A row tells of each suffix of a text, the longest first, whether it has a property. -/
inductive IsRow (P : List Char → Prop) : List Char → List Bool → Prop
  | last {here} : (here = true ↔ P []) → IsRow P [] [here]
  | cons {c cs here row} : (here = true ↔ P (c :: cs)) → IsRow P cs row →
      IsRow P (c :: cs) (here :: row)

namespace IsRow

variable {P Q : List Char → Prop} {row : List Bool} {admits : Char → Bool}

theorem head (h : IsRow P cs row) : rowHead row = true ↔ P cs := by
  cases h with
  | last hhere => exact hhere
  | cons hhere _ => exact hhere

theorem congr (h : IsRow P cs row) (hPQ : ∀ cs, P cs ↔ Q cs) : IsRow Q cs row := by
  induction h with
  | last hhere => exact .last (hhere.trans (hPQ _))
  | cons hhere _ ih => exact .cons (hhere.trans (hPQ _)) ih

theorem drop (h : IsRow P cs row) {n : Nat} (hn : n ≤ cs.length) :
    IsRow P (cs.drop n) (row.drop n) := by
  induction n generalizing cs row with
  | zero => exact h
  | succ n ih =>
      cases h with
      | last _ => cases hn
      | cons _ hrow => exact ih hrow (Nat.le_of_succ_le_succ hn)

theorem ofEnd (cs : List Char) : IsRow (· = []) cs (endRow cs) := by
  induction cs with
  | nil => exact .last (by simp)
  | cons c cs ih => exact .cons (by simp) ih

/-- The row of suffixes that begin with an admitted character before one that has the property. -/
theorem one (h : IsRow P cs row) :
    IsRow (fun cs => ∃ c rest, cs = c :: rest ∧ admits c = true ∧ P rest) cs
      (oneRow admits cs row) := by
  induction h with
  | last _ => exact .last (by simp)
  | cons _ hrow ih => exact .cons (by simp [hrow.head, and_assoc]) ih

end IsRow

/-- A run of `n` admitted characters stands before a suffix that has a property. -/
structure RunBefore (P : List Char → Prop) (admits : Char → Bool) (cs : List Char) (n : Nat) :
    Prop where
  le : n ≤ cs.length
  admitted : ∀ c ∈ cs.take n, admits c = true
  rest : P (cs.drop n)

section runs

variable {P : List Char → Prop} {row : List Bool} {admits : Char → Bool}

theorem runBefore_nil {n : Nat} : RunBefore P admits [] n ↔ n = 0 ∧ P [] := by
  constructor
  · rintro ⟨hle, -, hrest⟩
    exact ⟨Nat.le_zero.mp hle, by simpa using hrest⟩
  · rintro ⟨rfl, hP⟩
    exact ⟨Nat.le_refl _, by simp, hP⟩

@[simp] theorem runBefore_zero : RunBefore P admits cs 0 ↔ P cs :=
  ⟨fun h => h.rest, fun h => ⟨Nat.zero_le _, by simp, h⟩⟩

@[simp] theorem runBefore_succ {c : Char} {n : Nat} :
    RunBefore P admits (c :: cs) (n + 1) ↔ admits c = true ∧ RunBefore P admits cs n := by
  constructor
  · rintro ⟨hle, hrun, hrest⟩
    have hrun : admits c = true ∧ ∀ d ∈ cs.take n, admits d = true := by simpa using hrun
    exact ⟨hrun.1, Nat.le_of_succ_le_succ hle, hrun.2, hrest⟩
  · rintro ⟨hc, hle, hrun, hrest⟩
    exact ⟨Nat.succ_le_succ hle, by simpa using ⟨hc, hrun⟩, hrest⟩

/-- The row of suffixes that begin with a run of admitted characters before one that has the
property. -/
theorem IsRow.run (h : IsRow P cs row) :
    IsRow (fun cs => ∃ n, RunBefore P admits cs n) cs (runRow admits cs row) := by
  induction h with
  | last hhere => exact .last (hhere.trans (by simp [runBefore_nil]))
  | @cons c cs here row hhere _ ih =>
      refine .cons ?_ ih
      rw [Bool.or_eq_true, Bool.and_eq_true, hhere, ih.head]
      constructor
      · rintro (hP | ⟨hc, n, hn⟩)
        · exact ⟨0, runBefore_zero.mpr hP⟩
        · exact ⟨n + 1, runBefore_succ.mpr ⟨hc, hn⟩⟩
      · rintro ⟨n, hn⟩
        cases n with
        | zero => exact .inl (runBefore_zero.mp hn)
        | succ n =>
            obtain ⟨hc, hn⟩ := runBefore_succ.mp hn
            exact .inr ⟨hc, n, hn⟩

/-! ## The longest piece -/

/-- The greatest number of a kind, if there is one. -/
def IsGreatest? (p : Nat → Prop) : Option Nat → Prop
  | some n => p n ∧ ∀ m, p m → m ≤ n
  | none => ∀ m, ¬p m

theorem IsGreatest?.congr {p q : Nat → Prop} {answer : Option Nat} (h : IsGreatest? p answer)
    (hpq : ∀ n, p n ↔ q n) : IsGreatest? q answer :=
  funext (fun n => propext (hpq n)) ▸ h

/-- `longestRun?` is the length of the longest run of admitted characters before a suffix that has the
property. -/
theorem longestRun?_greatest (h : IsRow P cs row) :
    IsGreatest? (RunBefore P admits cs) (longestRun? admits cs row) := by
  induction h with
  | @last here hhere =>
      unfold longestRun?
      cases here with
      | true =>
          refine ⟨runBefore_zero.mpr (hhere.mp rfl), fun m hm => ?_⟩
          exact Nat.le_of_eq (runBefore_nil.mp hm).1
      | false => exact fun m hm => Bool.false_ne_true (hhere.mpr (runBefore_nil.mp hm).2)
  | @cons c cs here row hhere _ ih =>
      -- what a run can be that begins with this character
      have hlonger : IsGreatest? (fun n => RunBefore P admits (c :: cs) (n + 1))
          (if admits c then longestRun? admits cs row else none) := by
        cases hc : admits c with
        | true => exact ih.congr fun n => by simp [hc]
        | false => exact fun n hn => by simp [hc] at hn
      unfold longestRun?
      split
      · rename_i n hn
        rw [hn] at hlonger
        refine ⟨hlonger.1, fun m hm => ?_⟩
        cases m with
        | zero => exact Nat.zero_le _
        | succ m => exact Nat.succ_le_succ (hlonger.2 m hm)
      · rename_i hnone
        rw [hnone] at hlonger
        cases here with
        | true =>
            refine ⟨runBefore_zero.mpr (hhere.mp rfl), fun m hm => ?_⟩
            cases m with
            | zero => exact Nat.le_refl _
            | succ m => exact absurd hm (hlonger m)
        | false =>
            intro m hm
            cases m with
            | zero => exact Bool.false_ne_true (hhere.mpr (runBefore_zero.mp hm))
            | succ m => exact hlonger m hm

end runs

section possible

variable {n : Nat}

theorem possible_of_empty (h : e.extent = .empty) :
    Possible e es cs n ↔ n = 0 ∧ Cuttable es cs := by
  constructor
  · rintro ⟨hle, hfits, hrest⟩
    have hempty := (fits_empty h).mp hfits
    have hzero : n = 0 := by simpa [hle] using congrArg List.length hempty
    subst hzero
    exact ⟨rfl, hrest⟩
  · rintro ⟨rfl, hrest⟩
    exact ⟨Nat.zero_le _, (fits_empty h).mpr rfl, hrest⟩

theorem possible_of_one (h : e.extent = .one) : Possible e es cs n ↔
    n = 1 ∧ ∃ c rest, cs = c :: rest ∧ e.admits c = true ∧ Cuttable es rest := by
  constructor
  · rintro ⟨hle, hfits, hrest⟩
    obtain ⟨c, hc, htake⟩ := (fits_one h).mp hfits
    have hone : n = 1 := by simpa [hle] using congrArg List.length htake
    subst hone
    cases cs with
    | nil => cases htake
    | cons d rest =>
        obtain ⟨rfl, -⟩ := List.cons.inj htake
        exact ⟨rfl, d, rest, rfl, hc, hrest⟩
  · rintro ⟨rfl, c, rest, rfl, hc, hrest⟩
    exact ⟨by simp, (fits_one h).mpr ⟨c, hc, rfl⟩, hrest⟩

theorem possible_of_run (h : e.extent = .run) :
    Possible e es cs n ↔ RunBefore (Cuttable es) e.admits cs n :=
  ⟨fun ⟨hle, hfits, hrest⟩ => ⟨hle, (fits_run h).mp hfits, hrest⟩,
    fun ⟨hle, hrun, hrest⟩ => ⟨hle, (fits_run h).mpr hrun, hrest⟩⟩

end possible

/-- `pieceLength?` is the length of the longest piece that the first token can take. -/
theorem pieceLength?_greatest {next : List Bool} (h : IsRow (Cuttable es) cs next) :
    IsGreatest? (Possible e es cs) (pieceLength? e cs next) := by
  unfold pieceLength?
  cases hextent : e.extent with
  | empty =>
      have hpossible : ∀ n, Possible e es cs n ↔ _ := fun _ => possible_of_empty hextent
      dsimp only
      split
      · rename_i hhead
        refine ⟨(hpossible 0).mpr ⟨rfl, h.head.mp hhead⟩, fun m hm => ?_⟩
        exact Nat.le_of_eq ((hpossible m).mp hm).1
      · rename_i hhead
        exact fun m hm => hhead (h.head.mpr ((hpossible m).mp hm).2)
  | one =>
      have hpossible : ∀ cs n, Possible e es cs n ↔ _ := fun _ _ => possible_of_one hextent
      cases h with
      | last _ => exact fun m hm => by simpa using (hpossible [] m).mp hm
      | @cons c cs here row _ hrow =>
          dsimp only
          split
          · rename_i hboth
            obtain ⟨hc, hhead⟩ := (Bool.and_eq_true _ _).mp hboth
            refine ⟨(hpossible _ 1).mpr ⟨rfl, c, cs, rfl, hc, hrow.head.mp hhead⟩, fun m hm => ?_⟩
            exact Nat.le_of_eq ((hpossible _ m).mp hm).1
          · rename_i hnot
            intro m hm
            obtain ⟨-, _, _, heq, hc, hrest⟩ := (hpossible _ m).mp hm
            obtain ⟨rfl, rfl⟩ := List.cons.inj heq
            exact hnot ((Bool.and_eq_true _ _).mpr ⟨hc, hrow.head.mpr hrest⟩)
  | run => exact (longestRun?_greatest h).congr fun n => (possible_of_run hextent).symm

/-! ## All rows -/

/-- The rows of all lists of tokens that remain after some number of them. -/
inductive AreRows : List Element → List Char → List (List Bool) → Prop
  | last {cs row} : IsRow (Cuttable []) cs row → AreRows [] cs [row]
  | cons {e es cs row rows} : IsRow (Cuttable (e :: es)) cs row → AreRows es cs rows →
      AreRows (e :: es) cs (row :: rows)

namespace AreRows

variable {all : List (List Bool)}

theorem head (h : AreRows es cs all) : IsRow (Cuttable es) cs (all.headD []) := by
  cases h with
  | last hrow => exact hrow
  | cons hrow _ => exact hrow

theorem drop (h : AreRows es cs all) {n : Nat} (hn : n ≤ cs.length) :
    AreRows es (cs.drop n) (all.map (List.drop n)) := by
  induction h with
  | last hrow => exact .last (hrow.drop hn)
  | cons hrow _ ih => exact .cons (hrow.drop hn) (ih hn)

end AreRows

theorem isRow_rowBefore {next : List Bool} (h : IsRow (Cuttable es) cs next) :
    IsRow (Cuttable (e :: es)) cs (rowBefore e cs next) := by
  unfold rowBefore
  cases hextent : e.extent with
  | empty =>
      refine h.congr fun cs => ?_
      rw [cuttable_cons]
      simp only [possible_of_empty hextent, exists_eq_left]
  | one =>
      refine h.one.congr fun cs => ?_
      rw [cuttable_cons]
      simp only [possible_of_one hextent, exists_eq_left]
  | run =>
      refine h.run.congr fun cs => ?_
      rw [cuttable_cons]
      simp only [possible_of_run hextent]

theorem areRows_rows (cs : List Char) (es : List Element) : AreRows es cs (rows cs es) := by
  induction es with
  | nil => exact .last ((IsRow.ofEnd cs).congr fun _ => cuttable_nil.symm)
  | cons e es ih => exact .cons (isRow_rowBefore ih.head) ih

/-! ## The cut that is found -/

private theorem cutAlong_longest {row : List Bool} {later : List (List Bool)}
    (h : AreRows es cs (row :: later)) (hcs : Cuttable es cs) :
    ∃ pieces, cutAlong es later cs = some pieces ∧ LongestCut es cs pieces := by
  induction es generalizing cs row later with
  | nil =>
      obtain rfl := cuttable_nil.mp hcs
      refine ⟨[], rfl, .nil, fun {other} hother => ?_⟩
      cases hother
      exact le_refl _
  | cons e es ih =>
      cases h with
      | cons _ hlater =>
          cases later with
          | nil => cases hlater
          | cons next later =>
              have hgreatest := pieceLength?_greatest (e := e) hlater.head
              unfold cutAlong
              cases hn : pieceLength? e cs next with
              | none =>
                  -- a text that can be cut has a first piece
                  rw [List.headD_cons, hn] at hgreatest
                  obtain ⟨n, hpossible⟩ := cuttable_cons.mp hcs
                  exact absurd hpossible (hgreatest n)
              | some n =>
                  rw [List.headD_cons, hn] at hgreatest
                  obtain ⟨hpossible, hmax⟩ := hgreatest
                  obtain ⟨pieces, hpieces, hlongest⟩ := ih (hlater.drop hpossible.le) hpossible.rest
                  refine ⟨cs.take n :: pieces, ?_, hlongest.cons hpossible hmax⟩
                  dsimp only
                  rw [hpieces]
                  rfl

/-- A cut is found if there is one. -/
theorem cut?_isSome : (cut? es cs).isSome ↔ Cuttable es cs := by
  have hrows := areRows_rows cs es
  unfold cut?
  dsimp only
  rw [← hrows.head.head]
  split
  · rename_i hhead
    cases hall : rows cs es with
    | nil =>
        rw [hall] at hrows
        cases hrows
    | cons row later =>
        rw [hall] at hrows
        obtain ⟨pieces, hpieces, -⟩ := cutAlong_longest hrows (hrows.head.head.mp (hall ▸ hhead))
        rw [List.drop_one, List.tail_cons, hpieces]
        simpa [hall] using hhead
  · rename_i hhead
    simpa using hhead

/-- The cut that is found is the longest one. -/
theorem LongestCut.of_cut? (h : cut? es cs = some pieces) : LongestCut es cs pieces := by
  have hcs : Cuttable es cs := cut?_isSome.mp (by rw [h]; rfl)
  have hrows := areRows_rows cs es
  unfold cut? at h
  dsimp only at h
  split at h
  · cases hall : rows cs es with
    | nil =>
        rw [hall] at hrows
        cases hrows
    | cons row later =>
        rw [hall] at hrows h
        obtain ⟨pieces', hpieces', hlongest⟩ := cutAlong_longest hrows hcs
        rw [List.drop_one, List.tail_cons, hpieces'] at h
        exact Option.some.inj h ▸ hlongest
  · cases h

end ContentEngine.Expression
