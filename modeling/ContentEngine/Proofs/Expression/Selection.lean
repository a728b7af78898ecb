import ContentEngine.Expression.Basic
import ContentEngine.Proofs.Expression.Groups

/-!
# Reading a selection

A selection without classes is read from left to right, two stars before one, and a backslash makes
the next character a literal.  `Spelled` says so as a relation between a text and its tokens, in which
neither positions nor open parentheses are counted.

## Strategy

`scan` carries the position, the number of open parentheses and an open class.  Where no class opens,
its tokens are spelled by the text and close the open parentheses (`spelled_of_scan`), by induction on
the text it still has to read.  Resolving the classes leaves such tokens as they are.
-/

namespace ContentEngine.Expression

/-- The characters that are not literals by themselves. -/
def marks : List Char := ['\\', '*', '?', '(', ')', '[']

/-- The tokens of a selection without classes, read from left to right. -/
inductive Spelled {β : Type} : List Char → List (Token β) → Prop
  | nil : Spelled [] []
  | escaped {c cs ts} : Spelled cs ts → Spelled ('\\' :: c :: cs) (.literal c :: ts)
  | pathRun {cs ts} : Spelled cs ts → Spelled ('*' :: '*' :: cs) (.pathRun :: ts)
  | segmentRun {cs ts} : cs.head? ≠ some '*' → Spelled cs ts → Spelled ('*' :: cs) (.segmentRun :: ts)
  | single {cs ts} : Spelled cs ts → Spelled ('?' :: cs) (.single :: ts)
  | groupOpen {cs ts} : Spelled cs ts → Spelled ('(' :: cs) (.groupOpen :: ts)
  | groupClose {cs ts} : Spelled cs ts → Spelled (')' :: cs) (.groupClose :: ts)
  | literal {c cs ts} : c ∉ marks → Spelled cs ts → Spelled (c :: cs) (.literal c :: ts)

/-- A text spells one list of tokens. -/
theorem Spelled.unique {β : Type} {cs : List Char} {ts us : List (Token β)} (h : Spelled cs ts)
    (h' : Spelled cs us) : ts = us := by
  induction h generalizing us with
  | nil =>
      cases h'
      rfl
  | escaped _ ih | pathRun _ ih | segmentRun _ _ ih | single _ ih | groupOpen _ ih | groupClose _ ih
  | literal _ _ ih =>
      -- the first character decides, except that a star may be doubled
      cases h' <;> simp_all [marks]
      exact ih ‹_›

section append

variable {β : Type} {before cs : List Char} {us vs es : List (Token β)}

private theorem getLast?_of_cons {t last : Token β} (h : (t :: us).getLast? ≠ some last) :
    us.getLast? ≠ some last := by
  intro hlast
  rw [List.getLast?_cons, hlast] at h
  exact h rfl

/-- Behind a single star the next text may begin with a star too, but not behind another token. -/
theorem Spelled.append (h : Spelled before us) (hlast : us.getLast? ≠ some .segmentRun)
    (hcs : Spelled cs vs) : Spelled (before ++ cs) (us ++ vs) := by
  induction h with
  | nil => exact hcs
  | escaped _ ih => exact .escaped (ih (getLast?_of_cons hlast))
  | pathRun _ ih => exact .pathRun (ih (getLast?_of_cons hlast))
  | segmentRun hstar h ih =>
      cases h with
      | nil => exact absurd rfl hlast
      | _ => exact .segmentRun hstar (ih (getLast?_of_cons hlast))
  | single _ ih => exact .single (ih (getLast?_of_cons hlast))
  | groupOpen _ ih => exact .groupOpen (ih (getLast?_of_cons hlast))
  | groupClose _ ih => exact .groupClose (ih (getLast?_of_cons hlast))
  | literal hc _ ih => exact .literal hc (ih (getLast?_of_cons hlast))

/-- What follows such tokens is spelled on its own. -/
theorem Spelled.of_append (h : Spelled before us) (hlast : us.getLast? ≠ some .segmentRun)
    (hall : Spelled (before ++ cs) es) : ∃ vs, es = us ++ vs ∧ Spelled cs vs := by
  induction h generalizing es with
  | nil => exact ⟨es, rfl, hall⟩
  | escaped _ ih | pathRun _ ih | single _ ih | groupOpen _ ih | groupClose _ ih =>
      -- the first character decides, as in `Spelled.unique`
      cases hall <;> simp_all [marks]
      exact ih (getLast?_of_cons hlast) ‹_›
  | @segmentRun more _ hstar h ih =>
      have hhead : (more ++ cs).head? ≠ some '*' := by
        cases h with
        | nil => exact absurd rfl hlast
        | _ => exact hstar
      rw [List.cons_append] at hall
      generalize hrest : more ++ cs = rest at hall hhead ih
      cases hall <;> simp_all [marks]
      exact ih (getLast?_of_cons hlast) ‹_›
  | @literal c more _ _ _ ih =>
      rw [List.cons_append] at hall
      generalize hrest : more ++ cs = rest at hall ih
      cases hall <;> simp_all [marks]
      exact ih (getLast?_of_cons hlast) ‹_›

end append

/-! ## Scanning -/

theorem map_cons_ok {α ε : Type} {x : Except ε (List α)} {a : α} {all : List α}
    (h : x.map (a :: ·) = .ok all) : ∃ rest, x = .ok rest ∧ all = a :: rest := by
  cases x with
  | error => cases h
  | ok rest =>
      cases h
      exact ⟨rest, rfl, rfl⟩

section steps

variable {position depth : Nat} {c : Char} {cs : List Char}

theorem scan_literal (hc : c ∉ marks) : scan position depth none (c :: cs) =
    (scan (position + c.utf8Size) depth none cs).map (.literal c :: ·) := by
  have hmarks : c ≠ '\\' ∧ c ≠ '*' ∧ c ≠ '?' ∧ c ≠ '(' ∧ c ≠ ')' ∧ c ≠ '[' := by
    simpa [marks] using hc
  rw [scan.eq_def]
  split <;> simp_all

theorem scan_segmentRun (hstar : cs.head? ≠ some '*') : scan position depth none ('*' :: cs) =
    (scan (position + 1) depth none cs).map (.segmentRun :: ·) := by
  rw [scan.eq_def]
  split <;> simp_all
  rename_i heq
  obtain ⟨rfl, rfl⟩ := heq
  rfl

end steps

/-- The tokens that are scanned are spelled by the text, and close the open parentheses. -/
theorem spelled_of_scan {position depth : Nat} {cs : List Char} {ts : List (Token (List Char))}
    (h : scan position depth none cs = .ok ts) (hclass : '[' ∉ cs) :
    Spelled cs ts ∧ Nested depth ts := by
  generalize hbracket : (none : Option OpenBracket) = bracket at h
  fun_induction scan position depth bracket cs generalizing ts <;> try cases hbracket
  case case2 =>
    cases h
    exact ⟨.nil, .nil⟩
  case case3 => cases h
  case case4 => cases h
  case case6 ih =>
    obtain ⟨rest, hrest, rfl⟩ := map_cons_ok h
    obtain ⟨hspelled, hnested⟩ := ih (by simp_all) rfl hrest
    exact ⟨.escaped hspelled, .other nofun nofun hnested⟩
  case case8 ih =>
    obtain ⟨rest, hrest, rfl⟩ := map_cons_ok h
    obtain ⟨hspelled, hnested⟩ := ih (by simp_all) rfl hrest
    exact ⟨.pathRun hspelled, .other nofun nofun hnested⟩
  case case12 cs _ _ hstar _ ih =>
    obtain ⟨rest, hrest, rfl⟩ := map_cons_ok h
    obtain ⟨hspelled, hnested⟩ := ih (by simp_all) rfl hrest
    refine ⟨.segmentRun (fun hhead => ?_) hspelled, .other nofun nofun hnested⟩
    obtain ⟨more, rfl⟩ := List.head?_eq_some_iff.mp hhead
    exact hstar more rfl rfl
  case case13 ih =>
    obtain ⟨rest, hrest, rfl⟩ := map_cons_ok h
    obtain ⟨hspelled, hnested⟩ := ih (by simp_all) rfl hrest
    exact ⟨.single hspelled, .other nofun nofun hnested⟩
  case case14 ih =>
    obtain ⟨rest, hrest, rfl⟩ := map_cons_ok h
    obtain ⟨hspelled, hnested⟩ := ih (by simp_all) rfl hrest
    exact ⟨.groupOpen hspelled, .opening hnested⟩
  case case15 => cases h
  case case16 depth cs hdepth _ _ _ _ _ _ _ ih =>
    obtain ⟨rest, hrest, rfl⟩ := map_cons_ok h
    obtain ⟨hspelled, hnested⟩ := ih (by simp_all) rfl hrest
    refine ⟨.groupClose hspelled, ?_⟩
    obtain ⟨less, rfl⟩ := Nat.exists_eq_succ_of_ne_zero hdepth
    exact .closing hnested
  case case17 => simp at hclass
  case case18 c cs hend hescape _ _ hstar hquestion hopen hclose hbracket' ih =>
    obtain ⟨rest, hrest, rfl⟩ := map_cons_ok h
    obtain ⟨hspelled, hnested⟩ := ih (by simp_all) rfl hrest
    have hbackslash : c ≠ '\\' := fun hc => by
      cases cs with
      | nil => exact hend hc rfl
      | cons d cs => exact hescape d cs hc rfl
    have hmarks : c ∉ marks := by simp_all [marks]
    exact ⟨.literal hmarks hspelled, .other nofun nofun hnested⟩

/-! ## Resolving classes -/

section resolving

variable {ts : List (Token (List Char))} {es : List Element} {t : Token (List Char)}

theorem resolve_cons_ok (h : resolve (t :: ts) = .ok es) : ∃ e rest,
    t.resolve readClass = .ok e ∧ resolve ts = .ok rest ∧ es = e :: rest := by
  unfold resolve at h
  split at h
  · rename_i e rest he hrest
    cases h
    exact ⟨e, rest, he, hrest, rfl⟩
  · cases h
  · cases h

/-- Tokens without classes are resolved to themselves. -/
theorem Spelled.resolve {cs : List Char} (h : Spelled cs ts)
    (hresolve : Expression.resolve ts = .ok es) : Spelled cs es := by
  induction h generalizing es with
  | nil =>
      cases hresolve
      exact .nil
  | escaped _ ih =>
      obtain ⟨_, rest, ⟨⟩, hrest, rfl⟩ := resolve_cons_ok hresolve
      exact .escaped (ih hrest)
  | pathRun _ ih =>
      obtain ⟨_, rest, ⟨⟩, hrest, rfl⟩ := resolve_cons_ok hresolve
      exact .pathRun (ih hrest)
  | segmentRun hstar _ ih =>
      obtain ⟨_, rest, ⟨⟩, hrest, rfl⟩ := resolve_cons_ok hresolve
      exact .segmentRun hstar (ih hrest)
  | single _ ih =>
      obtain ⟨_, rest, ⟨⟩, hrest, rfl⟩ := resolve_cons_ok hresolve
      exact .single (ih hrest)
  | groupOpen _ ih =>
      obtain ⟨_, rest, ⟨⟩, hrest, rfl⟩ := resolve_cons_ok hresolve
      exact .groupOpen (ih hrest)
  | groupClose _ ih =>
      obtain ⟨_, rest, ⟨⟩, hrest, rfl⟩ := resolve_cons_ok hresolve
      exact .groupClose (ih hrest)
  | literal hmarks _ ih =>
      obtain ⟨_, rest, ⟨⟩, hrest, rfl⟩ := resolve_cons_ok hresolve
      exact .literal hmarks (ih hrest)

theorem Nested.resolve {depth : Nat} (h : Nested depth ts) (hresolve : Expression.resolve ts = .ok es) :
    Nested depth es := by
  induction h generalizing es with
  | nil =>
      cases hresolve
      exact .nil
  | opening _ ih =>
      obtain ⟨_, rest, ⟨⟩, hrest, rfl⟩ := resolve_cons_ok hresolve
      exact .opening (ih hrest)
  | closing _ ih =>
      obtain ⟨_, rest, ⟨⟩, hrest, rfl⟩ := resolve_cons_ok hresolve
      exact .closing (ih hrest)
  | @other _ t _ hopen hclose _ ih =>
      obtain ⟨e, rest, he, hrest, rfl⟩ := resolve_cons_ok hresolve
      refine .other ?_ ?_ (ih hrest) <;> rintro rfl <;>
      · cases t with
        | groupOpen => exact hopen rfl
        | groupClose => exact hclose rfl
        | oneOf content =>
            change (readClass content).map _ = _ at he
            cases hread : readClass content with
            | error => simp [hread, Except.map] at he
            | ok k => simp [hread, Except.map] at he
        | _ => cases he

theorem resolve_cons {e : Element} (he : t.resolve readClass = .ok e) (hes : resolve ts = .ok es) :
    resolve (t :: ts) = .ok (e :: es) := by
  unfold resolve
  rw [he, hes]

/-- A text that spells tokens which close the open parentheses is scanned and resolved to them. -/
theorem Spelled.scan {position depth : Nat} {cs : List Char} (h : Spelled cs es)
    (hnested : Nested depth es) :
    ∃ ts, Expression.scan position depth none cs = .ok ts ∧ Expression.resolve ts = .ok es := by
  -- what is behind the first token is scanned in front of it
  have hcons {position depth position' depth' : Nat} {cs cs' : List Char} {t : Token (List Char)}
      {e : Element} {es : List Element} (he : t.resolve readClass = .ok e)
      (hscan : Expression.scan position depth none cs =
        (Expression.scan position' depth' none cs').map (t :: ·))
      (hrest : ∃ ts, Expression.scan position' depth' none cs' = .ok ts ∧
        Expression.resolve ts = .ok es) :
      ∃ ts, Expression.scan position depth none cs = .ok ts ∧
        Expression.resolve ts = .ok (e :: es) := by
    obtain ⟨ts, hts, hes⟩ := hrest
    exact ⟨t :: ts, by rw [hscan, hts]; rfl, resolve_cons he hes⟩
  induction h generalizing position depth with
  | nil =>
      cases hnested
      exact ⟨[], rfl, rfl⟩
  | escaped _ ih =>
      cases hnested with
      | other _ _ hnested => exact hcons (t := .literal _) rfl rfl (ih hnested)
  | pathRun _ ih =>
      cases hnested with
      | other _ _ hnested => exact hcons (t := .pathRun) rfl rfl (ih hnested)
  | segmentRun hstar _ ih =>
      cases hnested with
      | other _ _ hnested => exact hcons rfl (scan_segmentRun hstar) (ih hnested)
  | single _ ih =>
      cases hnested with
      | other _ _ hnested => exact hcons (t := .single) rfl rfl (ih hnested)
  | groupOpen _ ih =>
      cases hnested with
      | opening hnested => exact hcons (t := .groupOpen) rfl rfl (ih hnested)
      | other hopen _ _ => exact absurd rfl hopen
  | groupClose _ ih =>
      cases hnested with
      | closing hnested => exact hcons (t := .groupClose) rfl rfl (ih hnested)
      | other _ hclose _ => exact absurd rfl hclose
  | literal hmarks _ ih =>
      cases hnested with
      | other _ _ hnested => exact hcons rfl (scan_literal hmarks) (ih hnested)

theorem Spelled.tokens {cs : List Char} (h : Spelled cs es) (hnested : Nested 0 es) :
    ∃ ts, Expression.tokens cs = .ok ts ∧ Expression.resolve ts = .ok es :=
  h.scan hnested

end resolving

end ContentEngine.Expression
