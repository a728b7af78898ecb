import ContentEngine.Proofs.Program.Ensures

/-!
# Calls in pieces

Starting an engine and shutting it down call several components in turn.  Two such calls do not run at
the same time, since each holds the lock of the engine, but everything else goes on meanwhile: jobs have
their turns, time passes, others call.  A call is therefore a program in `Pieces`, and between two of
them the system may change.

## Strategy

`Pieces.Ensures` is `Ensures` for such programs.  After each piece there has to be a condition that
holds then and that everything which others may do leaves so: it `Withstands` them.  The rules are those
of `Ensures`, with that one duty more at each piece.  What a single run of a program came by is told by
`Pieces.Leads`, and by `Pieces.Traced` piece by piece.  What each of its pieces leaves as it is, the
program `Keeps`.
-/

namespace ContentEngine

/-- A program that others may interrupt between its pieces. -/
inductive Pieces (α : Type) : Type 1 where
  | done (answer : α)
  | piece {β : Type} (first : InSystem β) (rest : β → Pieces α)

namespace Pieces

variable {α β : Type}

/-- A program of one piece. -/
def one (x : InSystem α) : Pieces α :=
  .piece x .done

/-- One program after another. -/
def followedBy (f : α → Pieces β) : Pieces α → Pieces β
  | .done a => f a
  | .piece first rest => .piece first fun b => (rest b).followedBy f

instance : Monad Pieces where
  pure := .done
  bind x f := x.followedBy f

/-- The program if nobody interrupts it. -/
def whole : Pieces α → InSystem α
  | .done a => pure a
  | .piece first rest => first >>= fun b => (rest b).whole

theorem whole_one (x : InSystem α) : (one x).whole = x :=
  bind_pure x

theorem whole_bind (x : Pieces α) (f : α → Pieces β) :
    (x >>= f).whole = x.whole >>= fun a => (f a).whole := by
  induction x with
  | done a => rfl
  | piece first rest ih =>
      change (first >>= fun b => (rest b >>= f).whole) = _
      simp only [ih]
      rfl

end Pieces

/-! ## Conditions before and after -/

/-- Whatever others do, the condition still holds. -/
def Withstands (others : System → System → Prop) (P : System → Prop) : Prop :=
  ∀ s s', others s s' → P s → P s'

namespace Pieces

variable {α β : Type} {others : System → System → Prop} {P P' : System → Prop}
  {Q : α → System → Prop}

/-- Begun in a system where `P` holds, the program ends in one where `Q` holds of its answer, whatever
others do between its pieces. -/
def Ensures (others : System → System → Prop) :
    (System → Prop) → Pieces α → (α → System → Prop) → Prop
  | P, .done a, Q => ∀ s, P s → Q a s
  | P, @piece _ β first rest, Q => ∃ R : β → System → Prop,
      ContentEngine.Ensures P first R ∧
        ∀ b, Withstands others (R b) ∧ (rest b).Ensures others (R b) Q

namespace Ensures

theorem answer {a : α} (h : ∀ s, P s → Q a s) : Ensures others P (pure a) Q :=
  h

theorem one {x : InSystem α} (hx : ContentEngine.Ensures P x Q)
    (hQ : ∀ a, Withstands others (Q a)) : Ensures others P (one x) Q :=
  ⟨Q, hx, fun a => ⟨hQ a, fun _ hs => hs⟩⟩

theorem weaken {Q' : α → System → Prop} {x : Pieces α} (h : Ensures others P x Q)
    (hP : ∀ s, P' s → P s) (hQ : ∀ a s, Q a s → Q' a s) : Ensures others P' x Q' := by
  induction x generalizing P P' with
  | done a => exact fun s hs => hQ a s (h s (hP s hs))
  | piece first rest ih =>
      obtain ⟨R, hfirst, hrest⟩ := h
      refine ⟨R, fun s hs => hfirst s (hP s hs), fun b => ⟨(hrest b).1, ?_⟩⟩
      exact ih b (hrest b).2 fun _ hs => hs

theorem seq {x : Pieces α} {f : α → Pieces β} {R : β → System → Prop}
    (hx : Ensures others P x Q) (hf : ∀ a, Ensures others (Q a) (f a) R) :
    Ensures others P (x >>= f) R := by
  induction x generalizing P with
  | done a => exact (hf a).weaken hx fun _ _ hs => hs
  | piece first rest ih =>
      obtain ⟨S, hfirst, hrest⟩ := hx
      exact ⟨S, hfirst, fun b => ⟨(hrest b).1, ih b (hrest b).2⟩⟩

/-- From what never holds a program ends anywhere. -/
theorem absurd (x : Pieces α) (h : ∀ s, ¬P s) : Ensures others P x Q := by
  induction x generalizing P with
  | done a => exact fun s hs => False.elim (h s hs)
  | piece first rest ih =>
      refine ⟨fun _ _ => False, fun s hs => h s hs, fun b => ⟨fun _ _ _ hs => hs, ?_⟩⟩
      exact ih b fun _ hs => hs

/-- The rule for what is known besides of no system. -/
theorem given {φ : Prop} {x : Pieces α} (h : φ → Ensures others P x Q) :
    Ensures others (fun s => φ ∧ P s) x Q := by
  by_cases hφ : φ
  · exact (h hφ).weaken (fun _ hs => hs.2) fun _ _ hs => hs
  · exact absurd x fun _ hs => hφ hs.1

end Ensures

end Pieces

/-! ## What a program may lead to -/

namespace Pieces

variable {α β : Type} {others : System → System → Prop} {s s' : System}

/-- Begun in the first system, the program may end in the second one with an answer, where others do
between its pieces what they may. -/
inductive Leads (others : System → System → Prop) :
    Pieces α → System → α → System → Prop
  | done (a s) : Leads others (.done a) s a s
  | piece {γ : Type} {first : InSystem γ} {rest : γ → Pieces α} {s t a s'} :
      others (first.run s).2 t → Leads others (rest (first.run s).1) t a s' →
      Leads others (.piece first rest) s a s'

/-- A program that nobody interrupts leads to where it ends as a whole. -/
theorem leads_whole (x : Pieces α) (h : ∀ s, others s s) (s : System) :
    x.Leads others s (x.whole.run s).1 (x.whole.run s).2 := by
  induction x generalizing s with
  | done a => exact .done a s
  | piece first rest ih => exact .piece (h _) (ih (first.run s).1 (first.run s).2)

theorem Leads.of_one {x : InSystem α} {a : α} (h : (one x).Leads others s a s') :
    a = (x.run s).1 ∧ others (x.run s).2 s' := by
  cases h with
  | piece hothers hdone =>
      cases hdone
      exact ⟨rfl, hothers⟩

/-- One program after another leads to where the second one leads from where the first one does. -/
theorem Leads.of_bind {x : Pieces α} {f : α → Pieces β} {b : β}
    (h : (x >>= f).Leads others s b s') :
    ∃ a t, x.Leads others s a t ∧ (f a).Leads others t b s' := by
  induction x generalizing s with
  | done a => exact ⟨a, s, .done a s, h⟩
  | piece first rest ih =>
      cases h with
      | piece hothers hrest =>
          obtain ⟨a, t, hx, hf⟩ := ih _ hrest
          exact ⟨a, t, .piece hothers hx, hf⟩

/-- As `Leads`, with each piece of the program: the system in which it began and the one in which it
ended. -/
inductive Traced (others : System → System → Prop) :
    Pieces α → System → List (System × System) → α → System → Prop
  | done (a s) : Traced others (.done a) s [] a s
  | piece {γ : Type} {first : InSystem γ} {rest : γ → Pieces α} {s t trace a s'} :
      others (first.run s).2 t → Traced others (rest (first.run s).1) t trace a s' →
      Traced others (.piece first rest) s ((s, (first.run s).2) :: trace) a s'

namespace Traced

variable {trace : List (System × System)}

theorem of_done {a b : α} (h : (pure a : Pieces α).Traced others s trace b s') :
    trace = [] ∧ b = a ∧ s' = s := by
  cases h
  exact ⟨rfl, rfl, rfl⟩

theorem of_one {x : InSystem α} {a : α} (h : (one x).Traced others s trace a s') :
    trace = [(s, (x.run s).2)] ∧ a = (x.run s).1 ∧ others (x.run s).2 s' := by
  cases h with
  | piece hothers hdone =>
      cases hdone
      exact ⟨rfl, rfl, hothers⟩

/-- A program of one piece comes first. -/
theorem of_first {x : InSystem α} {f : α → Pieces β} {b : β}
    (h : (one x >>= f).Traced others s trace b s') :
    ∃ t rest, others (x.run s).2 t ∧ trace = (s, (x.run s).2) :: rest ∧
      (f (x.run s).1).Traced others t rest b s' := by
  cases h with
  | piece hothers hrest => exact ⟨_, _, hothers, rfl, hrest⟩

theorem one {x : InSystem α} (h : others (x.run s).2 s') :
    (one x).Traced others s [(s, (x.run s).2)] (x.run s).1 s' :=
  .piece h (.done _ _)

theorem first {x : InSystem α} {f : α → Pieces β} {t : System} {b : β}
    (h : others (x.run s).2 t) (hrest : (f (x.run s).1).Traced others t trace b s') :
    (Pieces.one x >>= f).Traced others s ((s, (x.run s).2) :: trace) b s' :=
  .piece h hrest

end Traced

/-- Goes on with what a piece answered, unless it failed. -/
def unlessFailed (x : InSystem (Except Fault α)) (f : α → Pieces (Except Fault β)) :
    Pieces (Except Fault β) := do
  match ← one x with
  | .error fault => pure (.error fault)
  | .ok a => f a

section unlessFailed

variable {x : InSystem (Except Fault α)} {f : α → Pieces (Except Fault β)} {t : System}

theorem traced_failed {fault : Fault} (h : (x.run s).1 = .error fault) (ht : others (x.run s).2 t) :
    ∃ trace, (unlessFailed x f).Traced others s trace (.error fault) t := by
  refine ⟨[(s, (x.run s).2)], .first ht ?_⟩
  rw [h]
  exact .done _ t

theorem traced_onward {a : α} {answer : Except Fault β} (h : (x.run s).1 = .ok a)
    (ht : others (x.run s).2 t) (hrest : ∃ trace, (f a).Traced others t trace answer s') :
    ∃ trace, (unlessFailed x f).Traced others s trace answer s' := by
  obtain ⟨rest, hrest⟩ := hrest
  refine ⟨(s, (x.run s).2) :: rest, .first ht ?_⟩
  rw [h]
  exact hrest

end unlessFailed

end Pieces

/-! ## What a program keeps -/

namespace Pieces

variable {α β : Type} {P : System → Prop} {Q : α → Prop}

/-- Each piece of the program leaves a condition as it is, however far the program has come, and in the
end it has one of some answers. -/
def Keeps (P : System → Prop) : Pieces α → (α → Prop) → Prop
  | .done a, Q => Q a
  | .piece first rest, Q => ∀ s, P s → P (first.run s).2 ∧ (rest (first.run s).1).Keeps P Q

namespace Keeps

theorem one {x : InSystem α} (h : ContentEngine.Ensures P x fun a s => Q a ∧ P s) :
    (one x).Keeps P Q := by
  intro s hs
  obtain ⟨hanswer, hafter⟩ := h s hs
  exact ⟨hafter, hanswer⟩

theorem seq {x : Pieces α} {f : α → Pieces β} {R : β → Prop} (hx : x.Keeps P Q)
    (hf : ∀ a, Q a → (f a).Keeps P R) : (x >>= f).Keeps P R := by
  induction x with
  | done a => exact hf a hx
  | piece first rest ih =>
      intro s hs
      obtain ⟨hafter, hrest⟩ := hx s hs
      exact ⟨hafter, ih _ hrest⟩

theorem weaken {Q' : α → Prop} {x : Pieces α} (hx : x.Keeps P Q) (hQ : ∀ a, Q a → Q' a) :
    x.Keeps P Q' := by
  induction x with
  | done a => exact hQ a hx
  | piece first rest ih =>
      intro s hs
      obtain ⟨hafter, hrest⟩ := hx s hs
      exact ⟨hafter, ih _ hrest⟩

end Keeps

end Pieces

/-! ## Starting and shutting down -/

/-- The first piece of a start.  It answers the engine if its parts are to be started. -/
def claimStart (id : EngineId) : InSystem (Except Fault (Option Engine)) := do
  let e ← fromSystem (System.engine · id)
  if Problems.hasErrors e.problems then
    writeLog (refusalLines e)
    pure (.error (refusalFault e))
  else
    match ← withLifecycle id Lifecycle.beginStart with
    | .error fault => pure (.error fault)
    | .ok false => pure (.ok none)
    | .ok true =>
      writeLog [.starting "engine" e.settings.id]
      pure (.ok (some e))

/-- Starts the parts of an engine in their order, up to the first that fails. -/
def partsPieces (e : Engine) : Pieces (Except Fault Unit) := do
  match ← Pieces.one (startFederation e.federation) with
  | .error fault => pure (.error fault)
  | .ok () =>
    match ← Pieces.one (startDispatcher e.dispatcher) with
    | .error fault => pure (.error fault)
    | .ok () => Pieces.one (startService e.service)

/-- A start. -/
def startPieces (id : EngineId) : Pieces (Except Fault Unit) := do
  match ← Pieces.one (claimStart id) with
  | .error fault => pure (.error fault)
  | .ok none => pure (.ok ())
  | .ok (some e) =>
    match ← partsPieces e with
    | .ok () =>
      Pieces.one (withLifecycle id fun l => (l.markRunning, ()))
      pure (.ok ())
    | .error fault =>
      Pieces.one (writeLog [.errorIn "engine" e.settings.id ("failed to start: " ++ fault.message)])
      Pieces.one (shutdownDispatcher e.dispatcher)
      Pieces.one (shutdownService e.service)
      Pieces.one (shutdownFederation e.federation)
      Pieces.one (withLifecycle id fun l => (l.markTerminated, ()))
      pure (.error fault)

/-- The first piece of a shutdown.  It answers the engine, and what is to be done. -/
def claimShutdown (id : EngineId) : InSystem (Engine × ShutdownStep) := do
  let e ← fromSystem (System.engine · id)
  let step ← withLifecycle id Lifecycle.beginShutdown
  if step = .drain then writeLog [.stopping "engine" e.settings.id]
  pure (e, step)

/-- A shutdown. -/
def shutdownPieces (id : EngineId) : Pieces Unit := do
  let (e, step) ← Pieces.one (claimShutdown id)
  match step with
  | .alreadyShuttingDown => pure ()
  | .terminated =>
    Pieces.one (shutdownDispatcher e.dispatcher)
    Pieces.one (shutdownService e.service)
    Pieces.one (shutdownFederation e.federation)
  | .drain =>
    Pieces.one (shutdownDispatcher e.dispatcher)
    Pieces.one (shutdownService e.service)
    Pieces.one (modify fun s => (s.setEngine id { s.engine id with closing := .due }).enqueue [.close id])

theorem whole_partsPieces (e : Engine) : (partsPieces e).whole = startComponents e := by
  unfold partsPieces startComponents
  rw [Pieces.whole_bind, Pieces.whole_one]
  refine congrArg (_ >>= ·) (funext fun started => ?_)
  cases started with
  | error fault => rfl
  | ok _ =>
      dsimp only
      rw [Pieces.whole_bind, Pieces.whole_one]
      refine congrArg (_ >>= ·) (funext fun started => ?_)
      cases started with
      | error fault => rfl
      | ok _ => exact Pieces.whole_one _

/-- A start that nobody interrupts is what starts an engine. -/
theorem whole_startPieces (id : EngineId) : (startPieces id).whole = startEngine id := by
  unfold startPieces startEngine claimStart
  rw [Pieces.whole_bind, Pieces.whole_one, bind_assoc]
  refine congrArg (_ >>= ·) (funext fun e => ?_)
  split
  · rfl
  rw [bind_assoc]
  refine congrArg (_ >>= ·) (funext fun begun => ?_)
  match begun with
  | .error fault => rfl
  | .ok false => rfl
  | .ok true =>
      dsimp only
      rw [bind_assoc]
      refine congrArg (_ >>= ·) (funext fun _ => ?_)
      rw [pure_bind]
      dsimp only
      rw [Pieces.whole_bind, whole_partsPieces]
      refine congrArg (startComponents e >>= ·) (funext fun started => ?_)
      cases started with
      | error fault => rfl
      | ok _ => rfl

/-- A shutdown that nobody interrupts is what shuts an engine down. -/
theorem whole_shutdownPieces (id : EngineId) : (shutdownPieces id).whole = shutdownEngine id := by
  unfold shutdownPieces shutdownEngine claimShutdown
  rw [Pieces.whole_bind, Pieces.whole_one, bind_assoc]
  refine congrArg (_ >>= ·) (funext fun e => ?_)
  rw [bind_assoc]
  refine congrArg (_ >>= ·) (funext fun step => ?_)
  cases step with
  | drain => rfl
  | terminated => rfl
  | alreadyShuttingDown => rfl

end ContentEngine
