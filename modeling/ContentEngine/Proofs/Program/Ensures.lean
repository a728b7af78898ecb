import ContentEngine.System.Engine

/-!
# Reasoning about what happens in a system

`Ensures P x Q` says that `x`, begun in a system where `P` holds, ends in one where `Q` holds of the
answer.  Programs are sequences of a few kinds of pieces, and there is one rule for each kind: what
follows from one piece after another is shown piece by piece, and the condition in between is all
that has to be found.  Most conditions hold before, between and after all pieces alike; for these
there is `Ensures.andThen`.
-/

namespace ContentEngine

/-! ## One piece after another -/

theorem run_bind {α β : Type} (x : InSystem α) (g : α → InSystem β) (s : System) :
    (x >>= g).run s = (g (x.run s).1).run (x.run s).2 :=
  rfl

theorem fromSystem_bind {α β : Type} (f : System → α) (g : α → InSystem β) (s : System) :
    (fromSystem f >>= g).run s = (g (f s)).run s :=
  rfl

theorem get_bind {α : Type} (g : System → InSystem α) (s : System) :
    ((get : InSystem System) >>= g).run s = (g s).run s :=
  rfl

theorem modify_run (f : System → System) (s : System) :
    (modify f : InSystem PUnit).run s = (⟨⟩, f s) :=
  rfl

theorem modify_bind {α : Type} (f : System → System) (g : PUnit → InSystem α) (s : System) :
    ((modify f : InSystem PUnit) >>= g).run s = (g ⟨⟩).run (f s) :=
  rfl

theorem withDispatcher_bind {α β : Type} (id : DispatcherId) (f : Dispatcher → α × Dispatcher)
    (g : α → InSystem β) (s : System) :
    (withDispatcher id f >>= g).run s =
      (g (f (s.dispatcher id)).1).run (s.setDispatcher id (f (s.dispatcher id)).2) :=
  rfl

theorem withLifecycle_bind {α β : Type} (id : EngineId) (f : Lifecycle → Lifecycle × α)
    (g : α → InSystem β) (s : System) :
    (withLifecycle id f >>= g).run s = (g (f (s.engine id).lifecycle).2).run
      (s.setEngine id { s.engine id with lifecycle := (f (s.engine id).lifecycle).1 }) :=
  rfl

/-! ## Conditions before and after -/

variable {α β : Type} {P P' : System → Prop} {Q Q' : α → System → Prop}

/-- Begun in a system where `P` holds, `x` ends in one where `Q` holds of its answer. -/
def Ensures (P : System → Prop) (x : InSystem α) (Q : α → System → Prop) : Prop :=
  ∀ s, P s → Q (x.run s).1 (x.run s).2

namespace Ensures

theorem answer {a : α} (h : ∀ s, P s → Q a s) : Ensures P (pure a) Q :=
  h

theorem seq {x : InSystem α} {f : α → InSystem β} {R : α → System → Prop}
    {Q : β → System → Prop} (hx : Ensures P x R) (hf : ∀ a, Ensures (R a) (f a) Q) :
    Ensures P (x >>= f) Q :=
  fun s hs => hf _ _ (hx s hs)

/-- The rule for a condition that holds between two pieces whatever the first one answers. -/
theorem andThen {x : InSystem α} {f : α → InSystem β} {R : System → Prop} {Q : β → System → Prop}
    (hx : Ensures P x fun _ => R) (hf : ∀ a, Ensures R (f a) Q) : Ensures P (x >>= f) Q :=
  hx.seq hf

theorem image {x : InSystem α} {f : α → β} {Q : β → System → Prop}
    (hx : Ensures P x fun a => Q (f a)) : Ensures P (f <$> x) Q :=
  hx

theorem read {Q : System → System → Prop} (h : ∀ s, P s → Q s s) :
    Ensures P (get : InSystem System) Q :=
  h

theorem write {s' : System} {Q : PUnit → System → Prop} (h : ∀ s, P s → Q ⟨⟩ s') :
    Ensures P (set s' : InSystem PUnit) Q :=
  h

theorem update {f : System → System} {Q : PUnit → System → Prop} (h : ∀ s, P s → Q ⟨⟩ (f s)) :
    Ensures P (modify f : InSystem PUnit) Q :=
  h

theorem exchange {f : System → α × System} (h : ∀ s, P s → Q (f s).1 (f s).2) :
    Ensures P (modifyGet f : InSystem α) Q :=
  h

theorem part {f : System → α} (h : ∀ s, P s → Q (f s) s) : Ensures P (fromSystem f) Q :=
  h

theorem weaken {x : InSystem α} (h : Ensures P x Q) (hP : ∀ s, P' s → P s)
    (hQ : ∀ a s, Q a s → Q' a s) : Ensures P' x Q' :=
  fun s hs => hQ _ _ (h s (hP s hs))

/-- The rule for what is known besides of no system. -/
theorem given {φ : Prop} {x : InSystem α} (h : φ → Ensures P x Q) :
    Ensures (fun s => P s ∧ φ) x Q :=
  fun s hs => h hs.2 s hs.1

/-- What one round of a loop over a list upholds, the loop upholds. -/
theorem loop {f : β → α → InSystem β} {I : β → System → Prop} {items : List α}
    (h : ∀ b, ∀ a ∈ items, Ensures (I b) (f b a) I) (b : β) :
    Ensures (I b) (items.foldlM f b) I := by
  induction items generalizing b with
  | nil => exact answer fun _ hs => hs
  | cons a rest ih =>
      rw [List.foldlM_cons]
      exact (h b a (List.mem_cons_self ..)).seq
        (ih fun b a ha => h b a (List.mem_cons_of_mem _ ha))

end Ensures

end ContentEngine
