import ContentEngine.Proofs.Run.Mutations
import ContentEngine.Proofs.Run.Offers
import ContentEngine.Proofs.Run.Submitting
import Mathlib.Algebra.GroupWithZero.Nat

/-!
# Jobs of delivered events

A service that observes buses is told of events, one after the other or several at once, while anything
else goes on: the dispatcher is started and shut down, its jobs have their turns, time passes.  As long as
nobody else offers jobs to the dispatcher it has been offered, accepted and rejected ones together, as
many jobs as the events call for, no more and no less.

## Strategy

`DeliveryRun` are the runs with the events that the service was told of and with what it has still to do
about them, as programs in pieces.  Such a program `Owes` the dispatcher a number of jobs: however it goes
on, it offers as many before it ends.  What was offered and what is owed together grow with the events
only, by induction on the run.  All operations on stores and buses are such runs, since being one is
`Robust`.
-/

namespace ContentEngine

/-! ## What a service is called to do -/

/-- The work that rules call for when an event is delivered; removed nodes have no content left. -/
def RuleMatcher.workOn (rules : RuleMatcher Processor) (event : ChangeEvent) :
    List (WorkItem Processor) :=
  if event.kind = .removed then [] else rules.workFor event

/-- A service works with rules for a dispatcher that was made. -/
structure Feeds (service : ServiceId) (d : DispatcherId) (rules : RuleMatcher Processor)
    (s : System) : Prop where
  rules : (s.service service).rules = rules
  dispatcher : (s.service service).dispatcher = d
  made : d < s.dispatchers.size

section owing

variable {α β : Type} {service : ServiceId} {d : DispatcherId} {rules : RuleMatcher Processor}
  {s s' : System}

theorem Feeds.of_eq (h : Feeds service d rules s) (hservices : s'.services = s.services)
    (hmade : s'.dispatchers.size = s.dispatchers.size) : Feeds service d rules s' := by
  refine ⟨?_, ?_, hmade ▸ h.made⟩
  · rw [System.service, hservices]
    exact h.rules
  · rw [System.service, hservices]
    exact h.dispatcher

/-- However the program goes on, it offers so many jobs to the dispatcher of a service before it ends. -/
def Pieces.Owes (service : ServiceId) (d : DispatcherId) (rules : RuleMatcher Processor) :
    Pieces α → Nat → Prop
  | .done _, owed => owed = 0
  | .piece first rest, owed => ∀ s, Feeds service d rules s →
      Feeds service d rules (first.run s).2 ∧ ∃ now later, owed = now + later ∧
        ((first.run s).2.dispatcher d).offered = (s.dispatcher d).offered + now ∧
        (rest (first.run s).1).Owes service d rules later

/-- Several programs owe together what each of them does. -/
def OwesAll (service : ServiceId) (d : DispatcherId) (rules : RuleMatcher Processor) :
    List (Pieces α) → Nat → Prop
  | [], owed => owed = 0
  | x :: rest, owed => ∃ now later, owed = now + later ∧ x.Owes service d rules now ∧
      OwesAll service d rules rest later

theorem owesAll_append {xs ys : List (Pieces α)} {owed : Nat} :
    OwesAll service d rules (xs ++ ys) owed ↔ ∃ now later, owed = now + later ∧
      OwesAll service d rules xs now ∧ OwesAll service d rules ys later := by
  induction xs generalizing owed with
  | nil =>
      constructor
      · intro h
        exact ⟨0, owed, (Nat.zero_add owed).symm, rfl, h⟩
      · rintro ⟨now, later, rfl, rfl, hys⟩
        rwa [Nat.zero_add]
  | cons x rest ih =>
      constructor
      · rintro ⟨first, more, rfl, hx, hmore⟩
        obtain ⟨now, later, rfl, hrest, hys⟩ := ih.mp hmore
        exact ⟨first + now, later, by omega, ⟨first, now, rfl, hx, hrest⟩, hys⟩
      · rintro ⟨_, later, rfl, ⟨first, now, rfl, hx, hrest⟩, hys⟩
        exact ⟨first, now + later, by omega, hx, ih.mpr ⟨now, later, rfl, hrest, hys⟩⟩

theorem buses_submitWork (id : DispatcherId) (work : WorkItem Processor) (s : System) :
    ((submitWork id work).run s).2.buses = s.buses ∧
      ((submitWork id work).run s).2.services = s.services ∧
      ((submitWork id work).run s).2.dispatchers.size = s.dispatchers.size := by
  by_cases haccepts : ((s.dispatcher id).accepting && (s.dispatcher id).lifecycle.isRunning) = true
  · rw [submitWork_accepted work haccepts]
    exact ⟨rfl, rfl, System.dispatchers_size_setDispatcher _ id _⟩
  · rw [submitWork_rejected work haccepts]
    exact ⟨rfl, rfl, System.dispatchers_size_setDispatcher _ id _⟩

theorem buses_startDispatcher (id : DispatcherId) (s : System) :
    ((startDispatcher id).run s).2.buses = s.buses ∧
      ((startDispatcher id).run s).2.services = s.services := by
  rcases startDispatcher_run id s with heq | ⟨d, lines, -, heq⟩
  all_goals
    rw [heq]
    exact ⟨rfl, rfl⟩

theorem countP_submission (id : DispatcherId) (s : System) :
    (s.submission id).countP (JobEvent.offers id) = 1 := by
  unfold System.submission
  split <;> simp [JobEvent.offers]

theorem Pieces.Owes.seq {x : Pieces α} {f : α → Pieces β} {now later : Nat}
    (hx : x.Owes service d rules now) (hf : ∀ a, (f a).Owes service d rules later) :
    (x >>= f).Owes service d rules (now + later) := by
  induction x generalizing now with
  | done a =>
      obtain rfl : now = 0 := hx
      rw [Nat.zero_add]
      exact hf a
  | piece first rest ih =>
      intro s hs
      obtain ⟨hfeeds, first, more, rfl, hoffered, hrest⟩ := hx s hs
      exact ⟨hfeeds, first, more + later, by omega, hoffered, ih _ hrest⟩

theorem owes_submission (work : WorkItem Processor) :
    (Pieces.one (submitWork d work)).Owes service d rules 1 := by
  intro s hs
  obtain ⟨-, hservices, hsize⟩ := buses_submitWork d work s
  refine ⟨hs.of_eq hservices hsize, 1, 0, rfl, ?_, rfl⟩
  have hoffered : Offered d (s.dispatcher d).offered s := ⟨hs.made, rfl⟩
  have hsubmitted := (hoffered.submit d work).count
  rwa [countP_submission] at hsubmitted

/-- The submissions of work items are owed, as many as there are. -/
theorem owes_submitPieces (works : List (WorkItem Processor)) :
    (submitPieces d works).Owes service d rules works.length := by
  induction works with
  | nil => exact rfl
  | cons work rest ih =>
      rw [List.length_cons, Nat.add_comm]
      refine Pieces.Owes.seq (owes_submission work) fun submitted => ?_
      obtain ⟨job, result⟩ := submitted
      -- the faults are gathered from what is submitted later
      change Pieces.Owes service d rules _ (rest.length + 0)
      refine Pieces.Owes.seq ih fun faults => ?_
      cases result <;> exact rfl

/-- What a service does about an event owes as many jobs as the event calls for. -/
theorem owes_processPieces (event : ChangeEvent) :
    (processPieces service event).Owes service d rules (rules.workOn event).length := by
  unfold processPieces RuleMatcher.workOn
  split
  · exact rfl
  -- nothing is offered while the service is read and the warnings are written
  intro s hs
  refine ⟨hs, 0, _, (Nat.zero_add _).symm, rfl, ?_⟩
  intro s' hs'
  have hrules : (s.service service).rules = rules := hs.rules
  have hdispatcher : (s.service service).dispatcher = d := hs.dispatcher
  refine ⟨hs'.of_eq rfl rfl, 0, _, (Nat.zero_add _).symm, rfl, ?_⟩
  change (submitPieces (s.service service).dispatcher
    ((s.service service).rules.workFor event) >>= _).Owes service d rules _
  rw [hrules, hdispatcher]
  have hanswer : ∀ faults : List Fault, (if faults.isEmpty then pure .done
      else pure (.failed (rejectionFailure faults)) : Pieces Notified).Owes service d rules 0 := by
    intro faults
    cases faults <;> exact rfl
  exact (owes_submitPieces _).seq hanswer

end owing

/-! ## Runs -/

/-- The service works with the same rules for the same dispatcher. -/
structure SameFeed (service : ServiceId) (s s' : System) : Prop where
  rules : (s'.service service).rules = (s.service service).rules
  dispatcher : (s'.service service).dispatcher = (s.service service).dispatcher

theorem SameFeed.of_services {service : ServiceId} {s s' : System} (h : s'.services = s.services) :
    SameFeed service s s' := by
  refine ⟨?_, ?_⟩ <;> rw [System.service, h, System.service]

/-- The runs from a first system on in which nobody but a service offers jobs to its dispatcher, with the
events that the service was told of and what it has still to do about them. -/
inductive DeliveryRun (service : ServiceId) (d : DispatcherId) (s₀ : System) :
    List ChangeEvent → List (Pieces Notified) → System → Prop
  | start : DeliveryRun service d s₀ [] [] s₀
  | tell {told pending s} (event : ChangeEvent) : DeliveryRun service d s₀ told pending s →
      DeliveryRun service d s₀ (told ++ [event]) (pending ++ [processPieces service event]) s
  | goOn {told before after s} {γ : Type} {first : InSystem γ} {rest : γ → Pieces Notified} :
      DeliveryRun service d s₀ told (before ++ .piece first rest :: after) s →
      DeliveryRun service d s₀ told (before ++ rest (first.run s).1 :: after) (first.run s).2
  | answered {told before outcome after s} :
      DeliveryRun service d s₀ told (before ++ .done outcome :: after) s →
      DeliveryRun service d s₀ told (before ++ after) s
  | other {told pending s events s'} : DeliveryRun service d s₀ told pending s →
      Step (fun _ => True) s events s' → (∀ e ∈ events, e.offers d = false) →
      SameFeed service s s' → DeliveryRun service d s₀ told pending s'

section runs

variable {service : ServiceId} {d : DispatcherId} {rules : RuleMatcher Processor} {s₀ s s' : System}
  {told : List ChangeEvent} {pending : List (Pieces Notified)}

/-- What was offered to the dispatcher and what is owed to it grow with the events that the service is
told of, and with nothing else. -/
theorem DeliveryRun.accounted (h : DeliveryRun service d s₀ told pending s)
    (hfeeds : Feeds service d rules s₀) :
    Feeds service d rules s ∧ ∃ owed, OwesAll service d rules pending owed ∧
      (s.dispatcher d).offered + owed = (s₀.dispatcher d).offered +
        (told.map fun event => (rules.workOn event).length).sum := by
  induction h with
  | start => exact ⟨hfeeds, 0, rfl, rfl⟩
  | @tell told pending s event _ ih =>
      obtain ⟨hs, owed, howes, hcount⟩ := ih
      refine ⟨hs, owed + (rules.workOn event).length, owesAll_append.mpr ?_, ?_⟩
      · exact ⟨owed, _, rfl, howes, _, 0, rfl, owes_processPieces event, rfl⟩
      · rw [← Nat.add_assoc, hcount, List.map_append, List.sum_append, List.map_singleton,
          List.sum_singleton, Nat.add_assoc]
  | @goOn told before after s _ first rest _ ih =>
      obtain ⟨hs, _, howes, hcount⟩ := ih
      obtain ⟨earlier, _, rfl, hbefore, _, later, rfl, hpiece, hafter⟩ := owesAll_append.mp howes
      obtain ⟨hfirst, now, more, rfl, hoffered, hrest⟩ := hpiece s hs
      -- what the piece offers `now` is not owed any longer
      refine ⟨hfirst, earlier + (more + later), owesAll_append.mpr ?_, ?_⟩
      · exact ⟨earlier, _, rfl, hbefore, more, later, rfl, hrest, hafter⟩
      · rw [hoffered]
        omega
  | answered _ ih =>
      obtain ⟨hs, _, howes, hcount⟩ := ih
      obtain ⟨earlier, _, rfl, hbefore, _, later, rfl, rfl, hafter⟩ := owesAll_append.mp howes
      refine ⟨hs, earlier + later, owesAll_append.mpr ⟨earlier, later, rfl, hbefore, hafter⟩, ?_⟩
      rwa [Nat.zero_add] at hcount
  | @other told pending s events s' _ hstep hnone hfeed ih =>
      obtain ⟨hs, owed, howes, hcount⟩ := ih
      have hoffered : Offered d (s.dispatcher d).offered s := ⟨hs.made, rfl⟩
      have hafter := hoffered.step hstep
      have hzero : events.countP (JobEvent.offers d) = 0 :=
        List.countP_eq_zero.mpr fun e he => Bool.eq_false_iff.mp (hnone e he)
      rw [hzero, Nat.add_zero] at hafter
      refine ⟨⟨hfeed.rules.trans hs.rules, hfeed.dispatcher.trans hs.dispatcher, hafter.made⟩,
        owed, howes, ?_⟩
      rw [hafter.count]
      exact hcount

namespace DeliveryRun

/-- A change that concerns neither jobs nor services. -/
theorem quiet (h : DeliveryRun service d s₀ told pending s) (hquiet : Quiet s s')
    (hservices : s'.services = s.services) : DeliveryRun service d s₀ told pending s' :=
  h.other (.quiet hquiet) (fun _ he => absurd he List.not_mem_nil) (.of_services hservices)

theorem turn (h : DeliveryRun service d s₀ told pending s) (deadline : Nat) :
    DeliveryRun service d s₀ told pending ((ContentEngine.turn deadline).run s).2 := by
  refine h.other (.turn deadline s) (fun e he => ?_) (.of_services ?_)
  · exact Bool.eq_false_iff.mpr (List.countP_eq_zero.mp (not_offers_invocations s) e he)
  · exact ((Background.enduring s).turn deadline s (.refl s)).services

/-- A submission to another dispatcher. -/
theorem submit (h : DeliveryRun service d s₀ told pending s) {other : DispatcherId} (hother : other ≠ d)
    (work : WorkItem Processor) :
    DeliveryRun service d s₀ told pending ((submitWork other work).run s).2 := by
  refine h.other (.submit other work s) (fun e he => ?_) (.of_services (buses_submitWork ..).2.1)
  unfold System.submission at he
  split at he <;> obtain rfl := List.mem_singleton.mp he <;> simpa [JobEvent.offers] using hother

theorem startDispatcher (h : DeliveryRun service d s₀ told pending s) (dispatcher : DispatcherId) :
    DeliveryRun service d s₀ told pending ((ContentEngine.startDispatcher dispatcher).run s).2 := by
  exact h.other (.startDispatcher dispatcher s) (fun _ he => absurd he List.not_mem_nil)
    (.of_services (buses_startDispatcher dispatcher s).2)

/-- What the service has to do about an event may be done without interruption. -/
theorem finish {before after : List (Pieces Notified)} {x : Pieces Notified}
    (h : DeliveryRun service d s₀ told (before ++ x :: after) s) :
    DeliveryRun service d s₀ told (before ++ after) (x.whole.run s).2 := by
  induction x generalizing s with
  | done outcome => exact h.answered
  | piece first rest ih => exact ih _ h.goOn

/-- The service is told of an event and does at once what it has to. -/
theorem process (h : DeliveryRun service d s₀ told [] s) (event : ChangeEvent) :
    DeliveryRun service d s₀ (told ++ [event]) [] ((processEvent service event).run s).2 := by
  have hdone : DeliveryRun service d s₀ (told ++ [event]) []
      ((processPieces service event).whole.run s).2 :=
    finish (h.tell event : DeliveryRun service d s₀ _ ([] ++ _ :: []) s)
  rwa [whole_processPieces] at hdone

end DeliveryRun

end runs

end ContentEngine
