import ContentEngine.Proofs.Bus.Telling
import ContentEngine.Proofs.Run.JobProblems

/-!
# What components put on record

Buses, dispatchers and federations keep problems, each as many as it has room for.  A bus puts on record
that an observer failed, a dispatcher what became of a job, and a federation what was found when its
sources were reloaded.

What a program puts on record depends on the system in which it begins, and nothing else: it has an
`Account`.  An account tells what a program puts on record if the log of each component afterwards is what
it was, with the component's own problems from the account pushed one after the other (`Account.Tells`).

## Strategy

Each kind of recording changes the log of one component and no other log (`logged_conclude`,
`logged_endJob`, `logged_recordProblems`).  Accounts of programs are put together as the programs are.
-/

namespace ContentEngine

/-! ## Logs -/

/-- The problems that a component has kept, and for how many it has room. -/
structure ProblemLog where
  problems : Problems
  capacity : Nat

namespace ProblemLog

/-- The log after more problems, one after the other. -/
def add (l : ProblemLog) (more : Problems) : ProblemLog :=
  { l with problems := Problems.pushAllBounded l.problems more l.capacity }

theorem add_append (l : ProblemLog) (more others : Problems) :
    l.add (more ++ others) = (l.add more).add others :=
  congrArg (ProblemLog.mk · l.capacity) (Problems.pushAllBounded_append ..)

end ProblemLog

/-- The log of a bus. -/
def Bus.problemLog (b : Bus) : ProblemLog :=
  ⟨b.problems, b.problemCapacity⟩

/-- The log of a dispatcher. -/
def Dispatcher.problemLog (d : Dispatcher) : ProblemLog :=
  ⟨d.problems, d.problemCapacity⟩

/-- The log of a federation. -/
def Federation.problemLog (f : Federation) : ProblemLog :=
  ⟨f.problems, f.problemCapacity⟩

/-- A component that keeps problems. -/
inductive Component where
  | bus (id : BusId)
  | dispatcher (id : DispatcherId)
  | federation (id : FederationId)
  deriving DecidableEq

namespace System

/-- Whether a component was made. -/
def Has (s : System) : Component → Prop
  | .bus id => id < s.buses.size
  | .dispatcher id => id < s.dispatchers.size
  | .federation id => id < s.federations.size

/-- The log of a component. -/
def problemLog (s : System) : Component → ProblemLog
  | .bus id => (s.bus id).problemLog
  | .dispatcher id => (s.dispatcher id).problemLog
  | .federation id => (s.federation id).problemLog

end System

/-! ## Recordings -/

/-- What a component puts on record. -/
inductive Recording where
  /-- An observer failed when it was told of an event. -/
  | failed (bus : BusId) (observer : Observer) (event : ChangeEvent) (cause : String)
  /-- A job ended. -/
  | ended (dispatcher : DispatcherId) (job : EndedJob)
  /-- Sources were reloaded, and the problems were answered. -/
  | reloaded (federation : FederationId) (problems : Problems)

namespace Recording

/-- Whose record it is. -/
def component : Recording → Component
  | failed bus _ _ _ => .bus bus
  | ended dispatcher _ => .dispatcher dispatcher
  | reloaded federation _ => .federation federation

/-- The problems that are recorded: one for an observer that failed; those that the processor of a job
reported, or the one that it failed; and those of a reload. -/
def problems : Recording → Problems
  | failed _ observer event cause => [Bus.failureProblem observer.name event cause]
  | ended _ job => job.problems
  | reloaded _ problems => problems

/-- The recording of what came of telling an observer of an event; there is none unless it failed. -/
def ofOutcome (bus : BusId) (observer : Observer) (event : ChangeEvent) (outcome : Notified) :
    List Recording :=
  (outcome.cause?.map (failed bus observer event)).toList

end Recording

/-- All problems that a component put on record, in the order in which it did. -/
def recordedBy (c : Component) (history : List Recording) : Problems :=
  (history.filter fun r => r.component = c).flatMap Recording.problems

theorem recordedBy_append (c : Component) (history more : List Recording) :
    recordedBy c (history ++ more) = recordedBy c history ++ recordedBy c more := by
  unfold recordedBy
  rw [List.filter_append, List.flatMap_append]

/-- The log of a component grows by what the component records, ... -/
theorem eq_add_of_component {c : Component} {r : Recording} {l l' : ProblemLog} (h : r.component = c)
    (hl : l' = l.add r.problems) : l' = l.add (recordedBy c [r]) := by
  unfold recordedBy
  rw [List.filter_singleton, decide_eq_true h, cond_true, List.flatMap_singleton, hl]

/-- ... and by no more. -/
theorem eq_add_of_other {c : Component} {r : Recording} {l l' : ProblemLog} (h : r.component ≠ c)
    (hl : l' = l) : l' = l.add (recordedBy c [r]) := by
  unfold recordedBy
  rw [List.filter_singleton, decide_eq_false h, hl]
  rfl

/-- The logs of the components of one kind after one of them has put something on record. -/
theorem log_recorded {α : Type} [Inhabited α] (log : α → ProblemLog) (component : Nat → Component)
    (hinj : component.Injective) {items : Array α} {id other : Nat} {a : α} {r : Recording}
    (hself : r.component = component id) (hlog : log a = (log (items.getD id default)).add r.problems)
    (h : other < items.size) :
    other < (items.setIfInBounds id a).size ∧ log ((items.setIfInBounds id a).getD other default) =
      (log (items.getD other default)).add (recordedBy (component other) [r]) := by
  refine ⟨Nat.lt_of_lt_of_eq h Array.size_setIfInBounds.symm, ?_⟩
  rw [System.getD_set]
  by_cases hid : other = id
  · subst hid
    exact eq_add_of_component hself (by rw [if_pos ⟨rfl, h⟩, hlog])
  · refine eq_add_of_other (fun heq => hid (hinj (heq.symm.trans hself))) ?_
    rw [if_neg fun heq => hid heq.1]

/-! ## Changes without recordings -/

/-- Components of one kind stay, and so do their logs. -/
def LogsStay {α : Type} [Inhabited α] (log : α → ProblemLog) (items items' : Array α) : Prop :=
  ∀ id < items.size, id < items'.size ∧ log (items'.getD id default) = log (items.getD id default)

namespace LogsStay

variable {α : Type} [Inhabited α] {log : α → ProblemLog} {items items' : Array α}

theorem of_eq (h : items' = items) : LogsStay log items items' := by
  intro id hid
  rw [h]
  exact ⟨hid, rfl⟩

theorem set {id : Nat} {a : α} (h : log a = log (items.getD id default)) :
    LogsStay log items (items.setIfInBounds id a) := by
  intro other hother
  refine ⟨Nat.lt_of_lt_of_eq hother Array.size_setIfInBounds.symm, ?_⟩
  rw [System.getD_set]
  by_cases hid : other = id ∧ id < items.size
  · rw [if_pos hid, h, hid.1]
  · rw [if_neg hid]

theorem push (a : α) : LogsStay log items (items.push a) := by
  intro id hid
  refine ⟨Nat.lt_of_lt_of_le hid (Nat.le_trans (Nat.le_succ _) (Nat.le_of_eq (Array.size_push a).symm)), ?_⟩
  rw [System.getD_push, if_neg (Nat.ne_of_lt hid)]

end LogsStay

/-- Nothing is put on record: all components stay, and their logs are the same. -/
def Unrecorded (s s' : System) : Prop :=
  ∀ c, s.Has c → s'.Has c ∧ s'.problemLog c = s.problemLog c

namespace Unrecorded

variable {s s' : System}

theorem intro (hbuses : LogsStay Bus.problemLog s.buses s'.buses)
    (hdispatchers : LogsStay Dispatcher.problemLog s.dispatchers s'.dispatchers)
    (hfederations : LogsStay Federation.problemLog s.federations s'.federations) : Unrecorded s s' :=
  fun
  | .bus id => hbuses id
  | .dispatcher id => hdispatchers id
  | .federation id => hfederations id

/-- A change of no components. -/
theorem of_eq (hbuses : s'.buses = s.buses) (hdispatchers : s'.dispatchers = s.dispatchers)
    (hfederations : s'.federations = s.federations) : Unrecorded s s' :=
  intro (.of_eq hbuses) (.of_eq hdispatchers) (.of_eq hfederations)

theorem refl (s : System) : Unrecorded s s :=
  of_eq rfl rfl rfl

theorem setDispatcher {id : DispatcherId} {d : Dispatcher}
    (h : d.problemLog = (s.dispatcher id).problemLog) : Unrecorded s (s.setDispatcher id d) :=
  intro (.of_eq rfl) (.set h) (.of_eq rfl)

/-- Acts on buses that are no failures. -/
theorem act (s : System) (id : BusId) {act : Bus.Act} (h : act.problem? = none) :
    Unrecorded s (s.setBus id ((s.bus id).after act)) := by
  refine intro (.set ?_) (.of_eq rfl) (.of_eq rfl)
  cases act with
  | register o => rfl
  | unregister number => rfl
  | fail observer event cause => cases h

/-- Whatever is done with a federation and the depot that leaves the log of the federation. -/
theorem withFederation {α : Type} (id : FederationId) {f : Federation → Depot → α × Federation × Depot}
    (hf : ∀ federation depot, (f federation depot).2.1.problemLog = federation.problemLog) (s : System) :
    Unrecorded s ((withFederation id f).run s).2 :=
  intro (.of_eq rfl) (.of_eq rfl) (.set (hf (s.federation id) s.depot))

theorem trans {s'' : System} (h : Unrecorded s s') (h' : Unrecorded s' s'') : Unrecorded s s'' := by
  intro c hmade
  obtain ⟨hmade', hlog⟩ := h c hmade
  obtain ⟨hmade'', hlog'⟩ := h' c hmade'
  exact ⟨hmade'', hlog'.trans hlog⟩

end Unrecorded

/-! ## One recording -/

/-- The log of each component is what it was, with all that the component put on record. -/
def Logged (s : System) (history : List Recording) (s' : System) : Prop :=
  ∀ c, s.Has c → s'.Has c ∧ s'.problemLog c = (s.problemLog c).add (recordedBy c history)

namespace Logged

variable {s s' s'' : System} {history more : List Recording}

theorem of_unrecorded (h : Unrecorded s s') : Logged s [] s' :=
  h

theorem trans (h : Logged s history s') (h' : Logged s' more s'') : Logged s (history ++ more) s'' := by
  intro c hmade
  obtain ⟨hmade', hlog⟩ := h c hmade
  obtain ⟨hmade'', hlog'⟩ := h' c hmade'
  exact ⟨hmade'', by rw [hlog', hlog, recordedBy_append, ProblemLog.add_append]⟩

/-- Changes by which nothing is put on record, before and afterwards. -/
theorem after (h : Unrecorded s s') (h' : Logged s' history s'') : Logged s history s'' :=
  trans (of_unrecorded h) h'

theorem before (h : Logged s history s') (h' : Unrecorded s' s'') : Logged s history s'' :=
  List.append_nil history ▸ h.trans (of_unrecorded h')

end Logged

section recording

variable (s : System)

/-- The failure of an observer is recorded, if it failed. -/
theorem logged_conclude (bus : BusId) (event : ChangeEvent) (observer : Observer) (outcome : Notified) :
    Logged s (Recording.ofOutcome bus observer event outcome) (s.conclude bus event observer outcome) := by
  intro c h
  unfold System.conclude Recording.ofOutcome
  cases outcome.cause? with
  | none => exact ⟨h, rfl⟩
  | some cause =>
      cases c with
      | bus id => exact log_recorded Bus.problemLog .bus (fun _ _ => Component.bus.inj) rfl rfl h
      | dispatcher id => exact ⟨h, eq_add_of_other nofun rfl⟩
      | federation id => exact ⟨h, eq_add_of_other nofun rfl⟩

/-- A job has ended. -/
theorem logged_endJob (id : DispatcherId) (e : EndedJob) :
    Logged s [.ended id e] ((endJob id e.index e.job e.ending).run s).2 := by
  intro c h
  obtain ⟨lines, drains, -, heq⟩ := endJob_run id e.index e.job e.ending s
  let d := ((((s.dispatcher id).record e.job e.ending).1.setStage e.index .finished).returnPermit).2
  have hd : d.problemLog = (s.dispatcher id).problemLog.add e.problems := by
    have hrecorded := congrArg (ProblemLog.mk · (s.dispatcher id).problemCapacity)
      ((s.dispatcher id).record_problems e)
    refine Eq.trans ?_ hrecorded
    unfold d Dispatcher.returnPermit
    split <;> rfl
  rw [heq]
  cases c with
  | bus other => exact ⟨h, eq_add_of_other nofun rfl⟩
  | dispatcher other =>
      exact log_recorded Dispatcher.problemLog .dispatcher (fun _ _ => Component.dispatcher.inj) rfl hd h
  | federation other => exact ⟨h, eq_add_of_other nofun rfl⟩

/-- A federation has recorded the problems of a reload. -/
theorem logged_recordProblems (id : FederationId) (problems : Problems) :
    Logged s [.reloaded id problems]
      (s.setFederation id ((s.federation id).recordProblems problems)) := by
  intro c h
  cases c with
  | bus other => exact ⟨h, eq_add_of_other nofun rfl⟩
  | dispatcher other => exact ⟨h, eq_add_of_other nofun rfl⟩
  | federation other =>
      exact log_recorded Federation.problemLog .federation (fun _ _ => Component.federation.inj) rfl rfl h

end recording

/-! ## Accounts -/

/-- What a program puts on record, which depends on the system in which it begins. -/
abbrev Account :=
  System → List Recording

namespace Account

variable {α β : Type}

/-- Nothing is put on record. -/
def nothing : Account := fun _ => []

/-- What one program puts on record, and then another one that depends on its answer. -/
def andThen (first : Account) (x : InSystem α) (next : α → Account) : Account := fun s =>
  first s ++ next (x.run s).1 (x.run s).2

/-- What is put on record after a program that puts nothing on record itself. -/
def after (x : InSystem α) (next : α → Account) : Account := fun s =>
  next (x.run s).1 (x.run s).2

/-- The account tells what a program puts on record, wherever it begins. -/
def Tells (account : Account) (x : InSystem α) : Prop :=
  ∀ s, Logged s (account s) (x.run s).2

namespace Tells

variable {account : Account} {x : InSystem α} {f : α → InSystem β} {next : α → Account}

theorem of_unrecorded (h : ∀ s, Unrecorded s (x.run s).2) : nothing.Tells x :=
  h

theorem answer (a : α) : nothing.Tells (pure a) :=
  of_unrecorded Unrecorded.refl

theorem seq (hx : account.Tells x) (hf : ∀ a, (next a).Tells (f a)) :
    (account.andThen x next).Tells (x >>= f) :=
  fun s => (hx s).trans (hf _ _)

/-- The rule for a program that puts nothing on record before the rest. -/
theorem tail (hx : nothing.Tells x) (hf : ∀ a, (next a).Tells (f a)) : (after x next).Tells (x >>= f) :=
  fun s => (hx s).trans (hf _ _)

/-- The rule for a rest that puts nothing on record. -/
theorem head (hx : account.Tells x) (hf : ∀ a, nothing.Tells (f a)) : account.Tells (x >>= f) :=
  fun s => (hx s).before (hf _ _)

end Tells

end Account

end ContentEngine
