import ContentEngine.Expression.Basic
import ContentEngine.Proofs.Expression.Grammar

/-!
# Which texts are expressions

A text is trimmed and divided at its first `=>`.  It is refused if nothing is left of it, if nothing
stands behind the arrow, if its selection does not start with a slash or is not derivable, in this
order.  Every other text is an expression, unless its classes, depth or size are refused.

## Strategy

`splitOutput` finds the first arrow (`selectionOf_iff`, `lacksOutput_iff`), so each check of `compile`
is a statement about the text.  What is left to scanning is settled by the grammar of selections.  A
selection begins where the trimmed text begins (`SelectionOf.isPrefix`), so positions count alike in
both.
-/

namespace ContentEngine

open Expression Text

namespace Expression

/-! ## The parts of a trimmed text -/

/-- The selection of a trimmed text: the text as a whole, or what stands before its first arrow. -/
inductive SelectionOf : List Char → List Char → Prop
  | whole {cs} : ¬['=', '>'] <:+: cs → SelectionOf cs cs
  | beforeArrow {before after} : ¬['=', '>'] <:+: before →
      SelectionOf (before ++ '=' :: '>' :: after) (trim before)

/-- Only blanks follow the first arrow of a text. -/
def LacksOutput (cs : List Char) : Prop :=
  ∃ before after, cs = before ++ '=' :: '>' :: after ∧ ¬['=', '>'] <:+: before ∧
    ∀ c ∈ after, isBlank c = true

/-- A trimmed text with a selection of absolute paths, and an output if it has an arrow. -/
structure Selects (cs selection : List Char) : Prop where
  nonempty : cs ≠ []
  complete : ¬LacksOutput cs
  absolute : selection.head? = some '/'

variable {cs selection before after : List Char}

theorem splitOutput_whole (h : ¬['=', '>'] <:+: cs) : splitOutput cs = (cs, none) := by
  rw [splitOutput, cutOnce_eq_none_iff.mpr h]

theorem splitOutput_arrow (h : ¬['=', '>'] <:+: before) :
    splitOutput (before ++ '=' :: '>' :: after) = (trim before, some (trim after)) := by
  rw [splitOutput, cutOnce_arrow h]

/-- A text has no arrow, or a first one. -/
theorem firstArrow (cs : List Char) : ¬['=', '>'] <:+: cs ∨
    ∃ before after, cs = before ++ '=' :: '>' :: after ∧ ¬['=', '>'] <:+: before := by
  cases hcut : cutOnce ['=', '>'] cs with
  | none => exact .inl (cutOnce_eq_none_iff.mp hcut)
  | some parts =>
      obtain ⟨rfl, hbefore⟩ := eq_of_cutOnce (by simp) hcut
      exact .inr ⟨parts.1, parts.2, by simp, hbefore⟩

theorem selectionOf_iff : SelectionOf cs selection ↔ selection = (splitOutput cs).1 := by
  constructor
  · rintro (h | h)
    · rw [splitOutput_whole h]
    · rw [splitOutput_arrow h]
  · rintro rfl
    rcases firstArrow cs with h | ⟨before, after, rfl, h⟩
    · rw [splitOutput_whole h]
      exact .whole h
    · rw [splitOutput_arrow h]
      exact .beforeArrow h

theorem lacksOutput_iff : LacksOutput cs ↔ (splitOutput cs).2 = some [] := by
  constructor
  · rintro ⟨before, after, rfl, hbefore, hblank⟩
    rw [splitOutput_arrow hbefore, trim_eq_nil_iff.mpr hblank]
  · intro h
    rcases firstArrow cs with hnone | ⟨before, after, rfl, hbefore⟩
    · rw [splitOutput_whole hnone] at h
      cases h
    · rw [splitOutput_arrow hbefore] at h
      exact ⟨before, after, rfl, hbefore, trim_eq_nil_iff.mp (Option.some.inj h)⟩

/-- A selection stands at the beginning of its text, because that does not begin with a blank. -/
theorem SelectionOf.isPrefix (h : SelectionOf cs selection)
    (hhead : ∀ c, cs.head? = some c → isBlank c = false) : selection <+: cs := by
  cases h with
  | whole _ => exact List.prefix_rfl
  | @beforeArrow before after _ =>
      cases before with
      | nil => exact List.nil_prefix
      | cons c before =>
          have htrim : trim (c :: before) = trimEnd (c :: before) := trim_eq_trimEnd hhead
          rw [htrim]
          exact (trimEnd_isPrefix _).trans (List.prefix_append _ _)

theorem elements_ok_iff {ts : List (Token (List Char))} {es : List Element} :
    elements ts = .ok es ↔ resolve ts = .ok es ∧ nesting es ≤ nestingLimit ∧ size es ≤ sizeLimit := by
  unfold elements
  cases resolve ts with
  | error => simp
  | ok => grind

end Expression

/-! ## Compiling -/

namespace PathExpression

variable {text : String} {cs selection : List Char}

theorem compile_empty (h : trim text.toList = []) : compile text = .error .empty := by
  simp [compile, h]

theorem compile_missingOutput (hne : trim text.toList ≠ []) (h : LacksOutput (trim text.toList)) :
    compile text = .error (.missingOutput (String.ofList (trim text.toList))) := by
  simp [compile, hne, lacksOutput_iff.mp h]

theorem compile_notAbsolute (hne : trim text.toList ≠ []) (h : ¬LacksOutput (trim text.toList))
    (hselection : SelectionOf (trim text.toList) selection) (hhead : selection.head? ≠ some '/') :
    compile text = .error (.notAbsolute (String.ofList (trim text.toList))) := by
  rw [lacksOutput_iff] at h
  rw [selectionOf_iff.mp hselection] at hhead
  simp [compile, hne, h, hhead]

section selects

variable {ts : List (Token (List Char))} (hselection : SelectionOf (trim text.toList) selection)
  (hselects : Selects (trim text.toList) selection)

include hselection hselects

theorem compile_fault {fault : SelectionFault} (hfault : tokens selection = .error fault) :
    compile text = .error (.ofSelection (String.ofList (trim text.toList)) fault) := by
  obtain ⟨hne, hcomplete, habsolute⟩ := hselects
  obtain rfl := selectionOf_iff.mp hselection
  simp [compile, hne, lacksOutput_iff.not.mp hcomplete, habsolute, hfault]

theorem compile_invalid {refusal : Refusal} (hts : tokens selection = .ok ts)
    (hes : Expression.elements ts = .error refusal) :
    compile text = .error (.invalid (String.ofList (trim text.toList)) refusal) := by
  obtain ⟨hne, hcomplete, habsolute⟩ := hselects
  obtain rfl := selectionOf_iff.mp hselection
  simp [compile, hne, lacksOutput_iff.not.mp hcomplete, habsolute, hts, hes]

theorem compile_ok {es : List Element} (hts : tokens selection = .ok ts)
    (hes : Expression.elements ts = .ok es) :
    compile text = .ok ⟨String.ofList (trim text.toList), String.ofList selection,
      (splitOutput (trim text.toList)).2.map String.ofList, es⟩ := by
  obtain ⟨hne, hcomplete, habsolute⟩ := hselects
  obtain rfl := selectionOf_iff.mp hselection
  simp [compile, hne, lacksOutput_iff.not.mp hcomplete, habsolute, hts, hes]

end selects

/-- How a text is settled: for each result the reason that leads to it. -/
inductive Settled (cs selection : List Char) : Except CompileFault PathExpression → Prop
  | empty : cs = [] → Settled cs selection (.error .empty)
  | missingOutput : cs ≠ [] → LacksOutput cs →
      Settled cs selection (.error (.missingOutput (String.ofList cs)))
  | notAbsolute : cs ≠ [] → ¬LacksOutput cs → selection.head? ≠ some '/' →
      Settled cs selection (.error (.notAbsolute (String.ofList cs)))
  | fault {fault} : Selects cs selection → HasFault selection fault →
      Settled cs selection (.error (.ofSelection (String.ofList cs) fault))
  | invalid {ts refusal} : Selects cs selection → tokens selection = .ok ts →
      Expression.elements ts = .error refusal →
      Settled cs selection (.error (.invalid (String.ofList cs) refusal))
  | ok {ts} {e : PathExpression} : Selects cs selection → tokens selection = .ok ts →
      Expression.elements ts = .ok e.elements → Settled cs selection (.ok e)

theorem settled_compile (hselection : SelectionOf (trim text.toList) selection) :
    Settled (trim text.toList) selection (compile text) := by
  by_cases hne : trim text.toList = []
  · rw [compile_empty hne]
    exact .empty hne
  by_cases hcomplete : LacksOutput (trim text.toList)
  · rw [compile_missingOutput hne hcomplete]
    exact .missingOutput hne hcomplete
  by_cases habsolute : selection.head? = some '/'
  · have hselects : Selects (trim text.toList) selection := ⟨hne, hcomplete, habsolute⟩
    cases hts : tokens selection with
    | error fault =>
        rw [compile_fault hselection hselects hts]
        exact .fault hselects (tokens_error_iff.mp hts)
    | ok ts =>
        cases hes : Expression.elements ts with
        | error refusal =>
            rw [compile_invalid hselection hselects hts hes]
            exact .invalid hselects hts hes
        | ok es =>
            rw [compile_ok hselection hselects hts hes]
            exact .ok hselects hts hes
  · rw [compile_notAbsolute hne hcomplete hselection habsolute]
    exact .notAbsolute hne hcomplete habsolute

/-- What an expression was compiled from: a selection that is derivable, with tokens that were not
refused. -/
theorem of_compile_ok {e : PathExpression} (h : compile text = .ok e) :
    ∃ selection ts, SelectionOf (trim text.toList) selection ∧ Selects (trim text.toList) selection ∧
      tokens selection = .ok ts ∧ Expression.elements ts = .ok e.elements ∧
      e.expression = String.ofList (trim text.toList) ∧ e.selection = String.ofList selection := by
  have hselection := selectionOf_iff.mpr (rfl : (splitOutput (trim text.toList)).1 = _)
  have hsettled := settled_compile hselection
  rw [h] at hsettled
  cases hsettled with
  | ok hselects hts hes =>
      have he := Except.ok.inj (h.symm.trans (compile_ok hselection hselects hts hes))
      exact ⟨_, _, hselection, hselects, hts, hes, by rw [he], by rw [he]⟩

/-- What is made of a text that is `cs` when it is trimmed, and has the given selection.  It is refused
for the first of four reasons that applies; a fault of the selection is the one at the leftmost point
behind which nothing can be derived, and its position counts the bytes before a bracket of the text.
A selection that is derivable is only refused for its classes, its depth or its size. -/
structure Judged (cs selection : List Char) (result : Except CompileFault PathExpression) : Prop where
  empty : result = .error .empty ↔ cs = []
  missingOutput : cs ≠ [] →
    (result = .error (.missingOutput (String.ofList cs)) ↔ LacksOutput cs)
  notAbsolute : cs ≠ [] → ¬LacksOutput cs →
    (result = .error (.notAbsolute (String.ofList cs)) ↔ selection.head? ≠ some '/')
  underivable : Selects cs selection →
    ((∃ fault, result = .error (.ofSelection (String.ofList cs) fault)) ↔ ¬IsSelection selection)
  leftmost : ∀ fault, result = .error (.ofSelection (String.ofList cs) fault) →
    ∃ before rest, selection = before ++ rest ∧ StopsAt before rest ∧ FaultAt before rest fault
  position : ∀ fault position, result = .error (.ofSelection (String.ofList cs) fault) →
    fault = .unclosedBracket position ∨ fault = .nestedBracket position →
    ∃ before rest, cs = before ++ '[' :: rest ∧ byteLength before = position
  derivable : Selects cs selection → IsSelection selection → ∃ ts, tokens selection = .ok ts ∧
    ((∃ e, Expression.elements ts = .ok e.elements ∧ result = .ok e) ∨
      ∃ refusal, Expression.elements ts = .error refusal ∧
        result = .error (.invalid (String.ofList cs) refusal))

namespace Settled

variable {result : Except CompileFault PathExpression} {fault : SelectionFault}

theorem empty_iff (h : Settled cs selection result) : result = .error .empty ↔ cs = [] := by
  cases h with
  | empty hempty => simpa using hempty
  | missingOutput hne => simpa using hne
  | notAbsolute hne => simpa using hne
  | @fault fault hselects _ =>
      cases fault with
      | _ => simpa [CompileFault.ofSelection] using hselects.nonempty
  | invalid hselects => simpa using hselects.nonempty
  | ok hselects => simpa using hselects.nonempty

theorem missingOutput_iff (h : Settled cs selection result) (hne : cs ≠ []) :
    result = .error (.missingOutput (String.ofList cs)) ↔ LacksOutput cs := by
  cases h with
  | empty hempty => exact absurd hempty hne
  | missingOutput _ hlacks => simpa using hlacks
  | notAbsolute _ hcomplete => simpa using hcomplete
  | @fault fault hselects _ =>
      cases fault with
      | _ => simpa [CompileFault.ofSelection] using hselects.complete
  | invalid hselects => simpa using hselects.complete
  | ok hselects => simpa using hselects.complete

theorem notAbsolute_iff (h : Settled cs selection result) (hne : cs ≠ []) (hcomplete : ¬LacksOutput cs) :
    result = .error (.notAbsolute (String.ofList cs)) ↔ selection.head? ≠ some '/' := by
  cases h with
  | empty hempty => exact absurd hempty hne
  | missingOutput _ hlacks => exact absurd hlacks hcomplete
  | notAbsolute _ _ hhead => simpa using hhead
  | @fault fault hselects _ =>
      cases fault with
      | _ => simpa [CompileFault.ofSelection] using hselects.absolute
  | invalid hselects => simpa using hselects.absolute
  | ok hselects => simpa using hselects.absolute

theorem of_fault (h : Settled cs selection (.error (.ofSelection (String.ofList cs) fault))) :
    HasFault selection fault := by
  generalize hresult : (.error (.ofSelection (String.ofList cs) fault) :
    Except CompileFault PathExpression) = result at h
  cases h with
  | @fault fault' _ hfault =>
      have hsame : fault = fault' := by
        cases fault <;> cases fault' <;> simp_all [CompileFault.ofSelection]
      exact hsame ▸ hfault
  | _ => cases fault <;> simp [CompileFault.ofSelection] at hresult

theorem fault_iff (h : Settled cs selection result) (hselects : Selects cs selection) :
    (∃ fault, result = .error (.ofSelection (String.ofList cs) fault)) ↔ ¬IsSelection selection := by
  constructor
  · rintro ⟨fault, rfl⟩
    obtain ⟨before, rest, rfl, hfault⟩ := h.of_fault
    exact hfault.not_isSelection
  · intro hunderivable
    cases h with
    | empty hempty => exact absurd hempty hselects.nonempty
    | missingOutput _ hlacks => exact absurd hlacks hselects.complete
    | notAbsolute _ _ hhead => exact absurd hselects.absolute hhead
    | fault => exact ⟨_, rfl⟩
    | invalid _ hts => exact absurd (tokens_ok_iff.mp ⟨_, hts⟩) hunderivable
    | ok _ hts => exact absurd (tokens_ok_iff.mp ⟨_, hts⟩) hunderivable

theorem of_isSelection (h : Settled cs selection result) (hselects : Selects cs selection)
    (hderivable : IsSelection selection) : ∃ ts, tokens selection = .ok ts ∧
      ((∃ e, Expression.elements ts = .ok e.elements ∧ result = .ok e) ∨
        ∃ refusal, Expression.elements ts = .error refusal ∧
          result = .error (.invalid (String.ofList cs) refusal)) := by
  cases h with
  | empty hempty => exact absurd hempty hselects.nonempty
  | missingOutput _ hlacks => exact absurd hlacks hselects.complete
  | notAbsolute _ _ hhead => exact absurd hselects.absolute hhead
  | fault _ hfault =>
      obtain ⟨before, rest, rfl, hfault⟩ := hfault
      exact absurd hderivable hfault.not_isSelection
  | invalid _ hts hes => exact ⟨_, hts, .inr ⟨_, hes, rfl⟩⟩
  | ok _ hts hes => exact ⟨_, hts, .inl ⟨_, hes, rfl⟩⟩

/-- A position counts the bytes before a bracket, also in the text to which the selection belongs. -/
theorem bracket (h : Settled cs selection (.error (.ofSelection (String.ofList cs) fault)))
    (hbegins : selection <+: cs) {position : Nat}
    (hposition : fault = .unclosedBracket position ∨ fault = .nestedBracket position) :
    ∃ before rest, cs = before ++ '[' :: rest ∧ byteLength before = position := by
  obtain ⟨read, next, hsplit, hfault⟩ := h.of_fault
  obtain ⟨before, rest, hbracket, hbytes⟩ := hfault.at_bracket hposition
  obtain ⟨more, hmore⟩ := hbegins
  exact ⟨before, rest ++ more, by rw [← hmore, hsplit, hbracket]; simp, hbytes⟩

end Settled

end PathExpression

/-- **Compiling accepts exactly the grammar.**  A trimmed text has one selection, and is judged by it:
it is refused if it is empty, if only blanks follow its first arrow, or if its selection is no absolute
one; otherwise it has a fault if and only if its selection is not derivable, and that is the fault of
the leftmost point at which no continuation can be derived.  In all other cases it is an expression,
unless its tokens are refused for their classes, their depth or their size. -/
theorem compile_exact (text : String) :
    ∃ selection, (∀ other, SelectionOf (trim text.toList) other ↔ other = selection) ∧
      PathExpression.Judged (trim text.toList) selection (PathExpression.compile text) := by
  refine ⟨_, fun _ => selectionOf_iff, ?_⟩
  have hselection := selectionOf_iff.mpr (rfl : (splitOutput (trim text.toList)).1 = _)
  have hsettled := PathExpression.settled_compile hselection
  exact {
    empty := hsettled.empty_iff
    missingOutput := hsettled.missingOutput_iff
    notAbsolute := hsettled.notAbsolute_iff
    underivable := hsettled.fault_iff
    leftmost := fun fault hresult => by
      obtain ⟨before, rest, hsplit, hfault⟩ := (hresult ▸ hsettled).of_fault
      exact ⟨before, rest, hsplit, hfault.stopsAt, hfault⟩
    position := fun fault position hresult =>
      (hresult ▸ hsettled).bracket (hselection.isPrefix fun _ => head?_trim)
    derivable := hsettled.of_isSelection }

end ContentEngine
