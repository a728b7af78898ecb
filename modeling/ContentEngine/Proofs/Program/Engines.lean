import ContentEngine.Proofs.Program.Ensures

/-!
# Calls to engines

Starting an engine and shutting it down call its parts in turn.  A condition that each of these calls
upholds is upheld by the whole.
-/

namespace ContentEngine

/-- A dispatcher starts, or nothing changes. -/
theorem startDispatcher_run (id : DispatcherId) (s : System) :
    ((startDispatcher id).run s).2 = s ∨
      ∃ d lines, (s.dispatcher id).start = (.ok d, lines) ∧
        ((startDispatcher id).run s).2 = (s.setDispatcher id d).addLog lines := by
  unfold startDispatcher
  rw [fromSystem_bind]
  split
  · exact .inl rfl
  · rename_i d lines hstart
    exact .inr ⟨d, lines, hstart, rfl⟩

/-- A condition is upheld by the calls to the parts of an engine `e`, and by changes of the lifecycle of
the engine with a number. -/
structure Upholding (I : System → Prop) (id : EngineId) (e : Engine) : Prop where
  writeLog : ∀ lines, Ensures I (writeLog lines) fun _ => I
  withLifecycle : ∀ {α : Type} (f : Lifecycle → Lifecycle × α),
    Ensures I (withLifecycle id f) fun _ => I
  startFederation : Ensures I (startFederation e.federation) fun _ => I
  startDispatcher : Ensures I (startDispatcher e.dispatcher) fun _ => I
  startService : Ensures I (startService e.service) fun _ => I
  shutdownFederation : Ensures I (shutdownFederation e.federation) fun _ => I
  shutdownDispatcher : Ensures I (shutdownDispatcher e.dispatcher) fun _ => I
  shutdownService : Ensures I (shutdownService e.service) fun _ => I

namespace Upholding

variable {I : System → Prop} {id : EngineId} {e : Engine} {s : System}

theorem startComponents (h : Upholding I id e) : Ensures I (startComponents e) fun _ => I := by
  unfold ContentEngine.startComponents
  refine .andThen h.startFederation fun started => ?_
  cases started with
  | error fault => exact .answer fun _ hs => hs
  | ok _ =>
      refine .andThen h.startDispatcher fun started => ?_
      cases started with
      | error fault => exact .answer fun _ hs => hs
      | ok _ => exact h.startService

theorem startEngine (h : Upholding I id (s.engine id)) (hs : I s) : I ((startEngine id).run s).2 := by
  unfold ContentEngine.startEngine
  rw [fromSystem_bind]
  refine (?_ : Ensures I _ fun _ => I) s hs
  split
  · exact .andThen (h.writeLog _) fun _ => .answer fun _ hs => hs
  refine .andThen (h.withLifecycle _) fun begun => ?_
  match begun with
  | .error fault => exact .answer fun _ hs => hs
  | .ok false => exact .answer fun _ hs => hs
  | .ok true =>
      refine .andThen (h.writeLog _) fun _ => ?_
      refine .andThen h.startComponents fun started => ?_
      cases started with
      | ok _ => exact .andThen (h.withLifecycle _) fun _ => .answer fun _ hs => hs
      | error fault =>
          refine .andThen (h.writeLog _) fun _ => ?_
          refine .andThen h.shutdownDispatcher fun _ => ?_
          refine .andThen h.shutdownService fun _ => ?_
          refine .andThen h.shutdownFederation fun _ => ?_
          exact .andThen (h.withLifecycle _) fun _ => .answer fun _ hs => hs

theorem shutdownEngine (h : Upholding I id (s.engine id))
    (hdue : ∀ t, I t → I ((t.setEngine id { t.engine id with closing := .due }).enqueue [.close id]))
    (hs : I s) : I ((shutdownEngine id).run s).2 := by
  unfold ContentEngine.shutdownEngine
  rw [fromSystem_bind]
  refine (?_ : Ensures I _ fun _ => I) s hs
  refine .andThen (h.withLifecycle _) fun step => ?_
  cases step with
  | alreadyShuttingDown => exact .answer fun _ hs => hs
  | terminated =>
      refine .andThen h.shutdownDispatcher fun _ => ?_
      exact .andThen h.shutdownService fun _ => h.shutdownFederation
  | drain =>
      refine .andThen (h.writeLog _) fun _ => ?_
      refine .andThen h.shutdownDispatcher fun _ => ?_
      exact .andThen h.shutdownService fun _ => .update hdue

end Upholding

end ContentEngine
