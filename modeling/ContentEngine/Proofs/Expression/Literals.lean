import ContentEngine.Proofs.Expression.Limits
import ContentEngine.Proofs.Expression.Matching
import ContentEngine.Proofs.Store.Paths

/-!
# Paths written literally

A path is written literally if every character behind the first slash of its text stands behind a
backslash.  Compiled, this selects the path and no other one, unless the path ends in a blank: the blank
is trimmed away from behind its backslash, which is left dangling.

## Strategy

The escaped characters spell literals (`spelled_escaped`), along which only the text itself can be cut
(`cuttable_literals`), and no arrow stands between backslashes (`not_arrow_escaped`).  Trimming changes
the text at its last character or not at all.
-/

namespace ContentEngine

open Expression Text

namespace Expression

variable {cs ds : List Char} {c : Char}

/-- Every character behind a backslash. -/
def escaped (cs : List Char) : List Char :=
  cs.flatMap fun c => ['\\', c]

theorem escaped_cons (c : Char) (cs : List Char) :
    escaped (c :: cs) = '\\' :: c :: escaped cs := rfl

theorem escaped_append (cs ds : List Char) :
    escaped (cs ++ ds) = escaped cs ++ escaped ds :=
  List.flatMap_append

theorem spelled_escaped {β : Type} (cs : List Char) :
    Spelled (escaped cs) (cs.map .literal : List (Token β)) := by
  induction cs with
  | nil => exact .nil
  | cons c cs ih => exact .escaped ih

theorem isSelection_escaped (cs : List Char) : IsSelection (escaped cs) := by
  induction cs with
  | nil => exact .nil
  | cons c cs ih => exact .escaped ih

theorem nested_literals {β : Type} (cs : List Char) :
    Nested 0 (cs.map .literal : List (Token β)) := by
  refine .of_no_parentheses fun t ht => ?_
  obtain ⟨c, -, rfl⟩ := List.mem_map.mp ht
  exact ⟨nofun, nofun⟩

/-- No arrow stands between backslashes. -/
theorem not_arrow_escaped (c : Char) (cs : List Char) : ¬['=', '>'] <:+: c :: escaped cs := by
  induction cs generalizing c with
  | nil => exact not_arrow_singleton c
  | cons d cs ih => exact not_arrow_append (not_arrow_singleton c) (ih d) (by decide)

theorem getLast?_escaped (c : Char) (cs : List Char) :
    (c :: escaped cs).getLast? = (c :: cs).getLast? := by
  induction cs generalizing c with
  | nil => rfl
  | cons d cs ih =>
      rw [escaped_cons, List.getLast?_cons_cons, List.getLast?_cons_cons, List.getLast?_cons_cons, ih]

/-- Along literals only their own text can be cut. -/
theorem cuttable_literals : Cuttable (ds.map .literal) cs ↔ cs = ds := by
  induction ds generalizing cs with
  | nil => exact cuttable_nil
  | cons d ds ih =>
      rw [List.map_cons, cuttable_cons]
      constructor
      · rintro ⟨n, hn⟩
        obtain ⟨-, c, rest, rfl, hc, hrest⟩ := (possible_of_one rfl).mp hn
        rw [ih.mp hrest, beq_iff_eq.mp hc]
      · rintro rfl
        exact ⟨1, (possible_of_one rfl).mpr ⟨rfl, d, ds, rfl, beq_self_eq_true d, ih.mpr rfl⟩⟩

theorem elements_literals {ts : List (Token (List Char))} (h : resolve ts = .ok (cs.map .literal)) :
    elements ts = if sizeLimit < 4 * stateSize + stateSize * byteLength cs then .error .tooLarge
      else .ok (cs.map .literal) := by
  unfold elements
  rw [h, ← size_literals]
  exact if_neg (by rw [nesting_literals]; decide)

end Expression

namespace NodePath

/-- The text of a path with all characters escaped that follow its first slash. -/
def literally (p : NodePath) : String :=
  String.ofList ('/' :: escaped p.text.toList.tail)

/-- The text of a path ends in a blank. -/
def EndsBlank (p : NodePath) : Prop :=
  ∃ c, p.text.toList.getLast? = some c ∧ isBlank c = true

theorem text_toList (p : NodePath) : p.text.toList = '/' :: p.text.toList.tail := by
  rw [text_eq_joined, String.toList_append]
  rfl

theorem text_inj {p q : NodePath} : p.text = q.text ↔ p = q := by
  constructor
  · intro h
    have hparse : parse p.text = parse q.text := congrArg parse h
    rw [parse_text, parse_text] at hparse
    exact Except.ok.inj hparse
  · rintro rfl
    rfl

theorem literally_toList (p : NodePath) : p.literally.toList = '/' :: escaped p.text.toList.tail :=
  String.toList_ofList

/-- Unless the path ends in a blank, nothing is trimmed away. -/
theorem trim_literally {p : NodePath} (h : ¬p.EndsBlank) :
    trim p.literally.toList = p.literally.toList := by
  rw [literally_toList]
  refine trim_eq_self (by rintro c ⟨⟩; decide) (fun c hc => ?_)
  rw [getLast?_escaped, ← text_toList] at hc
  exact Bool.eq_false_iff.mpr fun hblank => h ⟨c, hc, hblank⟩

/-- If the path ends in a blank, that one is trimmed away from behind its backslash. -/
theorem trim_literally_blank {p : NodePath} (h : p.EndsBlank) :
    ∃ cs, p.literally.toList.dropLast = '/' :: escaped cs ++ ['\\'] ∧
      trim p.literally.toList = '/' :: escaped cs ++ ['\\'] := by
  obtain ⟨c, hlast, hblank⟩ := h
  rw [text_toList] at hlast
  obtain hnil | ⟨cs, d, hcs⟩ := List.eq_nil_or_concat p.text.toList.tail
  · rw [hnil] at hlast
    cases hlast
    exact absurd hblank (by decide)
  · have hd : d = c := by
      rw [hcs, List.concat_eq_append, ← List.cons_append, List.getLast?_concat] at hlast
      exact Option.some.inj hlast
    have hwritten : p.literally.toList = '/' :: escaped cs ++ '\\' :: [d] := by
      rw [literally_toList, hcs, List.concat_eq_append, escaped_append]
      rfl
    refine ⟨cs, ?_, ?_⟩
    · rw [hwritten, List.append_cons, List.dropLast_concat]
    · rw [hwritten, trim_eq_trimEnd (by rintro c ⟨⟩; decide), trimEnd_append_cons (by decide)]
      simp [trimEnd, hd, hblank]

end NodePath

namespace PathExpression

variable {p : NodePath}

/-- A trimmed text without an arrow that begins with a slash is its own selection. -/
theorem selects_whole {text : String} {cs : List Char} (htrim : trim text.toList = '/' :: cs)
    (h : ¬['=', '>'] <:+: '/' :: cs) :
    SelectionOf (trim text.toList) ('/' :: cs) ∧ Selects (trim text.toList) ('/' :: cs) := by
  rw [htrim]
  refine ⟨.whole h, by simp, ?_, rfl⟩
  rw [lacksOutput_iff, splitOutput_whole h]
  exact nofun

/-- A path that is written literally selects its own text, unless that is too large. -/
theorem compile_literally (h : ¬p.EndsBlank) : compile p.literally =
    if sizeLimit < 4 * stateSize + stateSize * byteLength p.text.toList then
      .error (.invalid p.literally .tooLarge)
    else .ok ⟨p.literally, p.literally, none, p.text.toList.map .literal⟩ := by
  have htrim : trim p.literally.toList = '/' :: escaped p.text.toList.tail := by
    rw [NodePath.trim_literally h, NodePath.literally_toList]
  have harrow := not_arrow_escaped '/' p.text.toList.tail
  have hspelled : Spelled ('/' :: escaped p.text.toList.tail)
      (p.text.toList.map .literal : List Element) := by
    rw [NodePath.text_toList]
    exact .literal (by decide) (spelled_escaped _)
  obtain ⟨ts, hts, hresolve⟩ := hspelled.tokens (nested_literals _)
  obtain ⟨hselection, hselects⟩ := selects_whole htrim harrow
  have helements := elements_literals hresolve
  split
  · rename_i hsize
    rw [if_pos hsize] at helements
    rw [compile_invalid hselection hselects hts helements, htrim]
    rfl
  · rename_i hsize
    rw [if_neg hsize] at helements
    rw [compile_ok hselection hselects hts helements, htrim, splitOutput_whole harrow]
    rfl

/-- The backslash in front of a blank at the end of a path is left dangling. -/
theorem compile_literally_blank (h : p.EndsBlank) : compile p.literally =
    .error (.danglingEscape (String.ofList p.literally.toList.dropLast)) := by
  obtain ⟨cs, hlast, htrim⟩ := NodePath.trim_literally_blank h
  have harrow : ¬['=', '>'] <:+: '/' :: (escaped cs ++ ['\\']) :=
    not_arrow_append (not_arrow_escaped '/' cs) (by simp) (by decide)
  have hfault : HasFault ('/' :: escaped cs ++ ['\\']) .danglingEscape :=
    ⟨_, [], (List.append_nil _).symm,
      .dangling (.selection (.plain (by decide) (isSelection_escaped cs)))⟩
  obtain ⟨hselection, hselects⟩ := selects_whole htrim harrow
  rw [compile_fault hselection hselects (tokens_error_iff.mpr hfault), htrim, ← hlast]
  rfl

theorem isMatch_literally {e : PathExpression} {q : NodePath}
    (h : e.elements = p.text.toList.map .literal) : e.isMatch q = true ↔ q = p := by
  rw [isMatch_iff, h, cuttable_literals, String.toList_inj]
  exact NodePath.text_inj

end PathExpression

open PathExpression

/-- **Paths can be written literally.**  If every character behind the first slash of a path is escaped,
the result is an expression that matches the path and no other one, as long as it is not too large.  This
fails for the paths that end in a blank, and for these always: the blank is not taken for an escaped
character but trimmed, and the text ends behind a backslash. -/
theorem literally_selects (p : NodePath) :
    (p.EndsBlank → compile p.literally =
      .error (.danglingEscape (String.ofList p.literally.toList.dropLast))) ∧
    (¬p.EndsBlank → sizeLimit < 4 * stateSize + stateSize * byteLength p.text.toList →
      compile p.literally = .error (.invalid p.literally .tooLarge)) ∧
    (¬p.EndsBlank → 4 * stateSize + stateSize * byteLength p.text.toList ≤ sizeLimit →
      ∃ e, compile p.literally = .ok e ∧ ∀ q, e.isMatch q = true ↔ q = p) := by
  refine ⟨compile_literally_blank, fun hend hsize => ?_, fun hend hsize => ?_⟩
  · rw [compile_literally hend, if_pos hsize]
  · refine ⟨_, (compile_literally hend).trans (if_neg (Nat.not_lt.mpr hsize)), fun q => ?_⟩
    exact isMatch_literally rfl

/-- The marks of expressions, blanks and an arrow stand for themselves. -/
theorem literally_selects_marks :
    ∃ (p q : NodePath) (e : PathExpression), p.text = "/ *?/[(=> \\)" ∧ ¬p.EndsBlank ∧
      p.literally = "/\\ \\*\\?\\/\\[\\(\\=\\>\\ \\\\\\)" ∧ compile p.literally = .ok e ∧
      e.isMatch p = true ∧ q.text = "/ a" ∧ e.isMatch q = false := by
  let p : NodePath := ⟨[" *?", "[(=> \\)"], by decide⟩
  let q : NodePath := ⟨[" a"], by decide⟩
  have hend : ¬p.EndsBlank := by
    rintro ⟨c, hlast, hblank⟩
    have hparenthesis : p.text.toList.getLast? = some ')' := by decide
    obtain rfl := Option.some.inj (hlast.symm.trans hparenthesis)
    exact absurd hblank (by decide)
  obtain ⟨e, hcompile, hmatch⟩ := (literally_selects p).2.2 hend (by decide)
  have hother : e.isMatch q = false :=
    Bool.eq_false_iff.mpr fun hq => absurd ((hmatch q).mp hq) (by decide)
  exact ⟨p, q, e, by decide, hend, by decide, hcompile, (hmatch p).mpr rfl, by decide, hother⟩

/-- An escaped blank at the end is lost. -/
theorem literally_blank :
    ∃ p : NodePath, p.text = "/a " ∧ p.literally = "/\\a\\ " ∧
      compile p.literally = .error (.danglingEscape "/\\a\\") := by
  let p : NodePath := ⟨["a "], by decide⟩
  have hend : p.EndsBlank := ⟨' ', by decide, by decide⟩
  have htrimmed : String.ofList p.literally.toList.dropLast = "/\\a\\" := by decide
  refine ⟨p, by decide, by decide, ?_⟩
  rw [compile_literally_blank hend, htrimmed]

end ContentEngine
