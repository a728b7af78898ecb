import ContentEngine.Proofs.Expression.Selection
import ContentEngine.Proofs.Text
import Mathlib.Tactic.Common

/-!
# The grammar of selections

A selection is a sequence of escaped characters, classes, groups and plain characters, where a group
encloses a selection again.  `tokens` accepts the texts of this grammar and no others, and refuses
every other text at the first point behind which nothing can make it a selection.

## Strategy

Behind the beginning of a selection some groups are open, and possibly a class or an escape (`Begun`).
It goes on with the next character, or that character is its fault (`Begun.step`), so every text is a
selection or has a fault (`isSelection_or_hasFault`).  `scan` finds no fault in the first case and that
one in the second, since it passes over whole selections (`faultFrom?_of_isSelection`).  Two stars in a
row are one token for `scan` and two characters for the grammar, so it is faults that are compared,
and not tokens.
-/

namespace ContentEngine

namespace Expression

open Text (byteLength byteLength_cons)

/-! ## Derivations -/

/-- The text between the brackets of a class: escaped characters, and any others than brackets and
backslashes. -/
inductive IsContent : List Char → Prop
  | nil : IsContent []
  | escaped {c cs} : IsContent cs → IsContent ('\\' :: c :: cs)
  | plain {c cs} : c ∉ ['[', ']', '\\'] → IsContent cs → IsContent (c :: cs)

/-- The texts that are selections: sequences of escaped characters, classes, groups around a
selection, and other characters. -/
inductive IsSelection : List Char → Prop
  | nil : IsSelection []
  | escaped {c cs} : IsSelection cs → IsSelection ('\\' :: c :: cs)
  | oneOf {content cs} : IsContent content → IsSelection cs →
      IsSelection ('[' :: content ++ ']' :: cs)
  | group {inner cs} : IsSelection inner → IsSelection cs → IsSelection ('(' :: inner ++ ')' :: cs)
  | plain {c cs} : c ∉ ['\\', '[', '(', ')'] → IsSelection cs → IsSelection (c :: cs)

/-- The texts behind which `depth` groups are open, and neither a class nor an escape. -/
inductive Opens : Nat → List Char → Prop
  | selection {cs} : IsSelection cs → Opens 0 cs
  | group {depth before inner} : Opens depth before → IsSelection inner →
      Opens (depth + 1) (before ++ '(' :: inner)

/-- The beginnings of selections: some groups are open, and possibly a class or an escape. -/
inductive Begun : List Char → Prop
  | outside {depth before} : Opens depth before → Begun before
  | escape {depth before} : Opens depth before → Begun (before ++ ['\\'])
  | inside {depth before content} : Opens depth before → IsContent content →
      Begun (before ++ '[' :: content)
  | escapeInside {depth before content} : Opens depth before → IsContent content →
      Begun (before ++ '[' :: content ++ ['\\'])

/-- The fault of a text of which `before` has been read and `rest` comes next. -/
inductive FaultAt : (before rest : List Char) → SelectionFault → Prop
  /-- A parenthesis closes a group where none is open. -/
  | unopened {before rest} : IsSelection before →
      FaultAt before (')' :: rest) .unbalancedParentheses
  /-- A bracket stands inside a class. -/
  | nested {depth before content rest} : Opens depth before → IsContent content →
      FaultAt (before ++ '[' :: content) ('[' :: rest)
        (.nestedBracket (byteLength (before ++ '[' :: content)))
  /-- The text ends behind a backslash. -/
  | dangling {depth before} : Opens depth before → FaultAt (before ++ ['\\']) [] .danglingEscape
  /-- The text ends behind a backslash inside a class. -/
  | danglingInside {depth before content} : Opens depth before → IsContent content →
      FaultAt (before ++ '[' :: content ++ ['\\']) [] .danglingEscape
  /-- The text ends inside a class. -/
  | unclosed {depth before content} : Opens depth before → IsContent content →
      FaultAt (before ++ '[' :: content) [] (.unclosedBracket (byteLength before))
  /-- The text ends inside a group. -/
  | openGroup {depth before} : Opens (depth + 1) before → FaultAt before [] .unbalancedParentheses

/-- The text has a fault somewhere. -/
def HasFault (cs : List Char) (fault : SelectionFault) : Prop :=
  ∃ before rest, cs = before ++ rest ∧ FaultAt before rest fault

variable {position depth : Nat} {bracket : Option OpenBracket} {b : OpenBracket} {c : Char}
  {cs before content rest : List Char} {fault : SelectionFault}

theorem IsContent.append (h : IsContent content) (hcs : IsContent cs) : IsContent (content ++ cs) := by
  induction h with
  | nil => exact hcs
  | escaped _ ih => exact .escaped ih
  | plain hc _ ih => exact .plain hc ih

theorem IsSelection.append (h : IsSelection before) (hcs : IsSelection cs) :
    IsSelection (before ++ cs) := by
  induction h with
  | nil => exact hcs
  | escaped _ ih => exact .escaped ih
  | oneOf hcontent _ ih => simpa using IsSelection.oneOf hcontent ih
  | group hinner _ _ ih => simpa using IsSelection.group hinner ih
  | plain hc _ ih => exact .plain hc ih

namespace Opens

theorem append (h : Opens depth before) (hcs : IsSelection cs) : Opens depth (before ++ cs) := by
  cases h with
  | selection h => exact .selection (h.append hcs)
  | group h hinner => simpa using Opens.group h (hinner.append hcs)

theorem opening (h : Opens depth before) : Opens (depth + 1) (before ++ ['(']) :=
  .group h .nil

theorem closing (h : Opens (depth + 1) before) : Opens depth (before ++ [')']) := by
  cases h with
  | group h hinner => simpa using h.append (.group hinner .nil)

theorem isSelection (h : Opens 0 cs) : IsSelection cs := by
  cases h with
  | selection h => exact h

/-- Once its groups are closed, the text is a selection. -/
theorem closed (h : Opens depth before) : IsSelection (before ++ List.replicate depth ')') := by
  induction depth generalizing before with
  | zero => simpa using h.isSelection
  | succ depth ih => simpa [List.replicate_succ] using ih h.closing

end Opens

/-! ## Every text is a selection or has a fault -/

namespace Begun

/-- A beginning goes on with the next character, or has its fault there. -/
theorem step (h : Begun before) (c : Char) :
    Begun (before ++ [c]) ∨ ∃ fault, ∀ rest, FaultAt before (c :: rest) fault := by
  cases h with
  | @outside depth _ h =>
      by_cases hc : c ∈ ['\\', '[', '(', ')']
      · simp only [List.mem_cons, List.not_mem_nil, or_false] at hc
        rcases hc with rfl | rfl | rfl | rfl
        · exact .inl (.escape h)
        · exact .inl (.inside h .nil)
        · exact .inl (.outside h.opening)
        · cases depth with
          | zero => exact .inr ⟨_, fun _ => .unopened h.isSelection⟩
          | succ depth => exact .inl (.outside h.closing)
      · exact .inl (.outside (h.append (.plain hc .nil)))
  | escape h =>
      have hnext := h.append (.escaped (c := c) .nil)
      exact .inl (.outside (by simpa using hnext))
  | inside h hcontent =>
      by_cases hc : c ∈ ['[', ']', '\\']
      · simp only [List.mem_cons, List.not_mem_nil, or_false] at hc
        rcases hc with rfl | rfl | rfl
        · exact .inr ⟨_, fun _ => .nested h hcontent⟩
        · have hnext := h.append (.oneOf hcontent .nil)
          exact .inl (.outside (by simpa using hnext))
        · exact .inl (.escapeInside h hcontent)
      · have hnext := hcontent.append (.plain hc .nil)
        exact .inl (by simpa using Begun.inside h hnext)
  | escapeInside h hcontent =>
      have hnext := hcontent.append (.escaped (c := c) .nil)
      exact .inl (by simpa using Begun.inside h hnext)

/-- A beginning behind which the text ends is a selection, or has its fault there. -/
theorem finish (h : Begun before) : IsSelection before ∨ ∃ fault, FaultAt before [] fault := by
  cases h with
  | @outside depth _ h =>
      cases depth with
      | zero => exact .inl h.isSelection
      | succ depth => exact .inr ⟨_, .openGroup h⟩
  | escape h => exact .inr ⟨_, .dangling h⟩
  | inside h hcontent => exact .inr ⟨_, .unclosed h hcontent⟩
  | escapeInside h hcontent => exact .inr ⟨_, .danglingInside h hcontent⟩

theorem isSelection_or_hasFault (h : Begun before) (rest : List Char) :
    IsSelection (before ++ rest) ∨ ∃ fault, HasFault (before ++ rest) fault := by
  induction rest generalizing before with
  | nil =>
      rw [List.append_nil]
      rcases h.finish with hselection | ⟨fault, hfault⟩
      · exact .inl hselection
      · exact .inr ⟨fault, before, [], (List.append_nil _).symm, hfault⟩
  | cons c rest ih =>
      rcases h.step c with hnext | ⟨fault, hfault⟩
      · rw [List.append_cons]
        exact ih hnext
      · exact .inr ⟨fault, before, c :: rest, rfl, hfault rest⟩

/-- What has begun goes on to a selection: the escape is completed, the class and the groups are
closed. -/
theorem completed (h : Begun before) : ∃ more, IsSelection (before ++ more) := by
  have hgroups {depth : Nat} {before cs : List Char} (h : Opens depth before) (hcs : IsSelection cs) :=
    (h.append hcs).closed
  cases h with
  | outside h => exact ⟨_, h.closed⟩
  | escape h => exact ⟨'\\' :: _, by simpa using hgroups h (.escaped (c := '\\') .nil)⟩
  | inside h hcontent => exact ⟨']' :: _, by simpa using hgroups h (.oneOf hcontent .nil)⟩
  | escapeInside h hcontent =>
      have hnext := hcontent.append (.escaped (c := '\\') .nil)
      exact ⟨'\\' :: ']' :: _, by simpa using hgroups h (.oneOf hnext .nil)⟩

end Begun

theorem isSelection_or_hasFault (cs : List Char) : IsSelection cs ∨ ∃ fault, HasFault cs fault :=
  (Begun.outside (.selection .nil)).isSelection_or_hasFault cs

/-! ## Scanning finds the fault -/

/-- The fault of the rest of a selection, if it has one. -/
def faultFrom? (position depth : Nat) (bracket : Option OpenBracket) (cs : List Char) :
    Option SelectionFault :=
  match scan position depth bracket cs with
  | .ok _ => none
  | .error fault => some fault

theorem faultFrom?_of_map {position' depth' : Nat} {bracket' : Option OpenBracket} {cs' : List Char}
    {t : Token (List Char)}
    (h : scan position depth bracket cs = (scan position' depth' bracket' cs').map (t :: ·)) :
    faultFrom? position depth bracket cs = faultFrom? position' depth' bracket' cs' := by
  unfold faultFrom?
  rw [h]
  cases scan position' depth' bracket' cs' with
  | _ => rfl

/-- Two stars in a row are one token, but nothing would change if each were one. -/
theorem faultFrom?_star : faultFrom? position depth none ('*' :: cs) =
    faultFrom? (position + 1) depth none cs := by
  induction cs generalizing position with
  | nil => exact faultFrom?_of_map rfl
  | cons c cs ih =>
      by_cases hc : c = '*'
      · subst hc
        rw [ih]
        exact faultFrom?_of_map rfl
      · exact faultFrom?_of_map (scan_segmentRun (by simpa using hc))

theorem faultFrom?_plain (hc : c ∉ ['\\', '[', '(', ')']) :
    faultFrom? position depth none (c :: cs) =
      faultFrom? (position + c.utf8Size) depth none cs := by
  by_cases hmarks : c ∈ marks
  · have hwildcard : c = '*' ∨ c = '?' := by
      simp only [marks, List.mem_cons, List.not_mem_nil, or_false] at hmarks hc
      tauto
    rcases hwildcard with rfl | rfl
    · exact faultFrom?_star
    · exact faultFrom?_of_map rfl
  · exact faultFrom?_of_map (scan_literal hmarks)

theorem scan_inside (hc : c ∉ ['[', ']', '\\']) :
    scan position depth (some b) (c :: cs) =
      scan (position + c.utf8Size) depth (some { b with read := c :: b.read }) cs := by
  have hmarks : c ≠ '[' ∧ c ≠ ']' ∧ c ≠ '\\' := by simpa using hc
  induction cs generalizing position b c with
  | nil =>
      rw [scan.eq_def]
      split <;> simp_all
  | cons d cs ih =>
      by_cases hstars : c = '*' ∧ d = '*'
      · obtain ⟨rfl, rfl⟩ := hstars
        rw [ih hc hmarks]
        rfl
      · rw [scan.eq_def]
        split <;> simp_all

/-- A class is read up to the end of its content. -/
theorem scan_of_isContent (h : IsContent content) :
    scan position depth (some b) (content ++ rest) =
      scan (position + byteLength content) depth
        (some { b with read := content.reverse ++ b.read }) rest := by
  induction h generalizing position b with
  | nil => rfl
  | @escaped c cs _ ih =>
      have hstep : scan position depth (some b) ('\\' :: c :: (cs ++ rest)) =
          scan (position + 1 + c.utf8Size) depth (some { b with read := c :: '\\' :: b.read })
            (cs ++ rest) := rfl
      rw [List.cons_append, List.cons_append, hstep, ih]
      simp [Nat.add_assoc, Char.utf8Size]
  | @plain c cs hc _ ih =>
      rw [List.cons_append, scan_inside hc, ih]
      simp [Nat.add_assoc]

/-- Scanning passes over a selection. -/
theorem faultFrom?_of_isSelection (h : IsSelection cs) :
    faultFrom? position depth none (cs ++ rest) =
      faultFrom? (position + byteLength cs) depth none rest := by
  induction h generalizing position depth rest with
  | nil => rfl
  | @escaped c cs _ ih =>
      have hstep : faultFrom? position depth none ('\\' :: c :: (cs ++ rest)) =
          faultFrom? (position + 1 + c.utf8Size) depth none (cs ++ rest) := faultFrom?_of_map rfl
      calc faultFrom? position depth none ('\\' :: c :: (cs ++ rest))
        _ = faultFrom? (position + 1 + c.utf8Size + byteLength cs) depth none rest := hstep.trans ih
        _ = faultFrom? (position + byteLength ('\\' :: c :: cs)) depth none rest := by
            rw [byteLength_cons, byteLength_cons, ← Nat.add_assoc, ← Nat.add_assoc]
            rfl
  | @oneOf content cs hcontent _ ih =>
      have hclass : scan position depth none ('[' :: (content ++ ']' :: (cs ++ rest))) =
          (scan (position + 1 + byteLength content + 1) depth none (cs ++ rest)).map
            (.oneOf (content.reverse ++ []).reverse :: ·) :=
        scan_of_isContent hcontent
      calc faultFrom? position depth none ('[' :: content ++ ']' :: cs ++ rest)
        _ = faultFrom? position depth none ('[' :: (content ++ ']' :: (cs ++ rest))) := by simp
        _ = faultFrom? (position + 1 + byteLength content + 1 + byteLength cs) depth none rest :=
            (faultFrom?_of_map hclass).trans ih
        _ = faultFrom? (position + byteLength ('[' :: content ++ ']' :: cs)) depth none rest := by
            simp [Nat.add_assoc, Char.utf8Size]
  | @group inner cs _ _ hinner ih =>
      have hopen : faultFrom? position depth none ('(' :: (inner ++ ')' :: (cs ++ rest))) =
          faultFrom? (position + 1) (depth + 1) none (inner ++ ')' :: (cs ++ rest)) :=
        faultFrom?_of_map rfl
      have hclose {position : Nat} : faultFrom? position (depth + 1) none (')' :: (cs ++ rest)) =
          faultFrom? (position + 1) depth none (cs ++ rest) :=
        faultFrom?_of_map rfl
      calc faultFrom? position depth none ('(' :: inner ++ ')' :: cs ++ rest)
        _ = faultFrom? position depth none ('(' :: (inner ++ ')' :: (cs ++ rest))) := by simp
        _ = faultFrom? (position + 1 + byteLength inner + 1) depth none (cs ++ rest) :=
            (hopen.trans hinner).trans hclose
        _ = faultFrom? (position + byteLength ('(' :: inner ++ ')' :: cs)) depth none rest := by
            rw [ih]
            simp [Nat.add_assoc, Char.utf8Size]
  | @plain c cs hc _ ih =>
      rw [List.cons_append, faultFrom?_plain hc, ih, Nat.add_assoc, byteLength_cons]

/-- Scanning passes over a text behind which some groups are open. -/
theorem faultFrom?_of_opens (h : Opens depth before) :
    faultFrom? 0 0 none (before ++ rest) = faultFrom? (byteLength before) depth none rest := by
  induction h generalizing rest with
  | selection h => rw [faultFrom?_of_isSelection h, Nat.zero_add]
  | @group depth before inner _ hinner ih =>
      have hopen {position : Nat} : faultFrom? position depth none ('(' :: (inner ++ rest)) =
          faultFrom? (position + 1) (depth + 1) none (inner ++ rest) :=
        faultFrom?_of_map rfl
      rw [List.append_assoc, List.cons_append, ih, hopen, faultFrom?_of_isSelection hinner]
      simp [Nat.add_assoc, Char.utf8Size]

/-- Scanning goes on inside a class that opens behind such a text. -/
theorem faultFrom?_of_opens_inside (h : Opens depth before) (hcontent : IsContent content) :
    faultFrom? 0 0 none (before ++ '[' :: content ++ rest) =
      faultFrom? (byteLength (before ++ '[' :: content)) depth
        (some ⟨byteLength before, content.reverse⟩) rest := by
  have hclass {position : Nat} : scan position depth none ('[' :: (content ++ rest)) =
      scan (position + 1 + byteLength content) depth (some ⟨position, content.reverse ++ []⟩) rest :=
    scan_of_isContent hcontent
  rw [List.append_assoc, List.cons_append, faultFrom?_of_opens h]
  unfold faultFrom?
  rw [hclass, List.append_nil]
  simp [Nat.add_assoc, Char.utf8Size]

theorem faultFrom?_of_faultAt (h : FaultAt before rest fault) :
    faultFrom? 0 0 none (before ++ rest) = some fault := by
  cases h with
  | unopened h =>
      rw [faultFrom?_of_opens (.selection h)]
      rfl
  | nested h hcontent =>
      rw [faultFrom?_of_opens_inside h hcontent]
      rfl
  | dangling h =>
      rw [List.append_nil, faultFrom?_of_opens h]
      rfl
  | danglingInside h hcontent =>
      rw [List.append_nil, faultFrom?_of_opens_inside h hcontent]
      rfl
  | unclosed h hcontent =>
      rw [faultFrom?_of_opens_inside h hcontent]
      rfl
  | openGroup h =>
      rw [faultFrom?_of_opens h]
      rfl

/-! ## What scanning accepts -/

theorem faultFrom?_eq_none_iff :
    faultFrom? position depth bracket cs = none ↔ ∃ ts, scan position depth bracket cs = .ok ts := by
  unfold faultFrom?
  cases scan position depth bracket cs with
  | ok ts => simp
  | error => simp

theorem faultFrom?_eq_some_iff :
    faultFrom? position depth bracket cs = some fault ↔
      scan position depth bracket cs = .error fault := by
  unfold faultFrom?
  cases scan position depth bracket cs with
  | ok ts => simp
  | error => simp

theorem faultFrom?_selection (h : IsSelection cs) : faultFrom? 0 0 none cs = none := by
  calc faultFrom? 0 0 none cs
    _ = faultFrom? 0 0 none (cs ++ []) := by rw [List.append_nil]
    _ = faultFrom? (byteLength cs) 0 none [] := faultFrom?_of_opens (.selection h)
    _ = none := rfl

/-- The texts that are accepted are the selections. -/
theorem tokens_ok_iff : (∃ ts, tokens cs = .ok ts) ↔ IsSelection cs := by
  refine ⟨fun h => ?_, fun h => faultFrom?_eq_none_iff.mp (faultFrom?_selection h)⟩
  rcases isSelection_or_hasFault cs with hselection | ⟨fault, before, rest, rfl, hfault⟩
  · exact hselection
  · have hnone := faultFrom?_eq_none_iff.mpr h
    cases hnone.symm.trans (faultFrom?_of_faultAt hfault)

/-- A text is refused with the fault that it has. -/
theorem tokens_error_iff : tokens cs = .error fault ↔ HasFault cs fault := by
  rw [tokens, ← faultFrom?_eq_some_iff]
  constructor
  · intro h
    rcases isSelection_or_hasFault cs with hselection | ⟨fault', before, rest, rfl, hfault⟩
    · cases h.symm.trans (faultFrom?_selection hselection)
    · obtain rfl := Option.some.inj (h.symm.trans (faultFrom?_of_faultAt hfault))
      exact ⟨before, rest, rfl, hfault⟩
  · rintro ⟨before, rest, rfl, hfault⟩
    exact faultFrom?_of_faultAt hfault

/-! ## The point of a fault -/

namespace FaultAt

/-- The next character decides, or the end of the text. -/
theorem congr {more : List Char} (h : FaultAt before rest fault) (hhead : more.head? = rest.head?) :
    FaultAt before more fault := by
  cases h with
  | unopened h =>
      obtain ⟨_, rfl⟩ := List.head?_eq_some_iff.mp hhead
      exact .unopened h
  | nested h hcontent =>
      obtain ⟨_, rfl⟩ := List.head?_eq_some_iff.mp hhead
      exact .nested h hcontent
  | dangling h =>
      obtain rfl := List.head?_eq_none_iff.mp hhead
      exact .dangling h
  | danglingInside h hcontent =>
      obtain rfl := List.head?_eq_none_iff.mp hhead
      exact .danglingInside h hcontent
  | unclosed h hcontent =>
      obtain rfl := List.head?_eq_none_iff.mp hhead
      exact .unclosed h hcontent
  | openGroup h =>
      obtain rfl := List.head?_eq_none_iff.mp hhead
      exact .openGroup h

theorem begun (h : FaultAt before rest fault) : Begun before := by
  cases h with
  | unopened h => exact .outside (.selection h)
  | nested h hcontent | unclosed h hcontent => exact .inside h hcontent
  | dangling h => exact .escape h
  | danglingInside h hcontent => exact .escapeInside h hcontent
  | openGroup h => exact .outside h

theorem not_isSelection (h : FaultAt before rest fault) : ¬IsSelection (before ++ rest) :=
  fun hselection => by cases (faultFrom?_selection hselection).symm.trans (faultFrom?_of_faultAt h)

/-- A bracket stands where the fault says so. -/
theorem at_bracket (h : FaultAt before rest fault)
    (hposition : fault = .unclosedBracket position ∨ fault = .nestedBracket position) :
    ∃ start stop, before ++ rest = start ++ '[' :: stop ∧ byteLength start = position := by
  cases h with
  | nested => exact ⟨_, _, rfl, by simpa using hposition⟩
  | @unclosed _ start content => exact ⟨start, content, by simp, by simpa using hposition⟩
  | _ => simp at hposition

end FaultAt

/-- The leftmost point of a text at which nothing can make it a selection any more: what stands before
goes on to some selection, but to none that has the same next character, or ends there as well. -/
structure StopsAt (before rest : List Char) : Prop where
  begins : ∃ more, IsSelection (before ++ more)
  stops : ∀ more, more.head? = rest.head? → ¬IsSelection (before ++ more)

theorem FaultAt.stopsAt (h : FaultAt before rest fault) : StopsAt before rest where
  begins := h.begun.completed
  stops _ hhead := (h.congr hhead).not_isSelection

end Expression

end ContentEngine
