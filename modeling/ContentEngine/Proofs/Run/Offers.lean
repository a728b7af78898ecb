import ContentEngine.Proofs.Run.Intake

/-!
# Jobs that are offered to a dispatcher

A dispatcher counts the jobs that it accepts and the jobs that it rejects, and nothing but a submission
changes either count.  So along a run the two together have grown by as much as the run tells of jobs
that were accepted or rejected (`Run.offered`).

## Strategy

All calls besides a submission leave both counts of all dispatchers as they are.  This is shown for each
part that calls and turns are made of; what is started and shut down in an order is put together of these.
-/

namespace ContentEngine

/-- How many jobs were offered to a dispatcher, whether it accepted them or not. -/
def Dispatcher.offered (d : Dispatcher) : Nat :=
  d.submitted + d.rejected

/-- Whether a job was offered to a dispatcher. -/
def JobEvent.offers (id : DispatcherId) : JobEvent → Bool
  | .accepted dispatcher _ => dispatcher == id
  | .rejected dispatcher _ => dispatcher == id
  | .invoked _ _ => false

/-- A dispatcher that was made has been offered so many jobs. -/
structure Offered (id : DispatcherId) (n : Nat) (s : System) : Prop where
  made : id < s.dispatchers.size
  count : (s.dispatcher id).offered = n

section offered

variable {id : DispatcherId} {n : Nat} {s s' : System}

namespace Offered

theorem of_dispatchers (h : Offered id n s) (hsame : s'.dispatchers = s.dispatchers) :
    Offered id n s' := by
  refine ⟨hsame ▸ h.made, ?_⟩
  rw [System.dispatcher, hsame]
  exact h.count

/-- A dispatcher may change, if it is another one or has been offered as many jobs. -/
theorem setDispatcher (h : Offered id n s) (other : DispatcherId) {d : Dispatcher}
    (hd : other = id → d.offered = (s.dispatcher id).offered) :
    Offered id n (s.setDispatcher other d) := by
  refine ⟨s.dispatchers_size_setDispatcher other d ▸ h.made, ?_⟩
  rw [s.dispatcher_setDispatcher]
  split
  · rename_i hother
    exact (hd hother.1.symm).trans h.count
  · exact h.count

theorem of_jobTurn (h : Offered id n s) {other : DispatcherId} {index : JobIndex}
    (hturn : JobTurn other index s s') : Offered id n s' := by
  obtain ⟨hsize, hoffice⟩ := hturn.office
  refine ⟨hsize ▸ h.made, ?_⟩
  unfold Dispatcher.offered
  rw [(hoffice id).submitted, (hoffice id).rejected]
  exact h.count

end Offered

theorem Dispatcher.offered_start {d d' : Dispatcher} {lines : List LogLine}
    (h : d.start = (.ok d', lines)) : d'.offered = d.offered := by
  unfold Dispatcher.start at h
  split at h <;> cases h <;> rfl

/-! ## Calls -/

private theorem offered_writeLog (lines : List LogLine) :
    Ensures (Offered id n) (writeLog lines) fun _ => Offered id n :=
  fun _ hs => hs.of_dispatchers rfl

private theorem offered_startFederation (federation : FederationId) :
    Ensures (Offered id n) (startFederation federation) fun _ => Offered id n := by
  refine .seq (.part (Q := fun _ => Offered id n) fun _ hs => hs) fun f => ?_
  split
  · exact .answer fun _ hs => hs
  · refine .andThen (.update fun s hs => ?_) fun _ => .answer fun _ hs => hs
    exact hs.of_dispatchers rfl

private theorem offered_shutdownFederation (federation : FederationId) :
    Ensures (Offered id n) (shutdownFederation federation) fun _ => Offered id n := by
  refine .andThen (R := Offered id n) (fun s hs => ?_) fun lines => offered_writeLog lines
  exact hs.of_dispatchers rfl

private theorem offered_startDispatcher (dispatcher : DispatcherId) :
    Ensures (Offered id n) (startDispatcher dispatcher) fun _ => Offered id n := by
  intro s hs
  rcases startDispatcher_run dispatcher s with heq | ⟨d, lines, hstart, heq⟩
  · rwa [heq]
  · rw [heq]
    have hset : Offered id n (s.setDispatcher dispatcher d) := by
      apply hs.setDispatcher
      intro hother
      rw [← hother]
      exact Dispatcher.offered_start hstart
    exact hset.of_dispatchers rfl

private theorem offered_shutdownDispatcher (dispatcher : DispatcherId) :
    Ensures (Offered id n) (shutdownDispatcher dispatcher) fun _ => Offered id n := by
  refine .andThen (R := Offered id n) (fun s hs => ?_) fun answer => ?_
  · apply hs.setDispatcher
    intro hother
    rw [← hother]
    rfl
  · refine .andThen (offered_writeLog _) fun _ => ?_
    split
    · exact .update fun s hs => hs.of_dispatchers rfl
    · exact .answer fun _ hs => hs

private theorem offered_upholding (engine : EngineId) (e : Engine) :
    Upholding (Offered id n) engine e where
  writeLog := offered_writeLog
  withLifecycle _ _ hs := hs.of_dispatchers rfl
  startFederation := offered_startFederation e.federation
  startDispatcher := offered_startDispatcher e.dispatcher
  startService s hs := hs.of_dispatchers (Aside.startService e.service s).dispatchers
  shutdownFederation := offered_shutdownFederation e.federation
  shutdownDispatcher := offered_shutdownDispatcher e.dispatcher
  shutdownService s hs := hs.of_dispatchers (Aside.shutdownService e.service s).dispatchers

/-! ## Turns -/

private theorem Offered.of_drainTurn {dispatcher : DispatcherId} (hs : Offered id n s)
    (h : DrainTurn dispatcher s s') : Offered id n s' := by
  cases h with
  | idle _ => exact hs
  | drained _ _ =>
      refine (hs.setDispatcher dispatcher fun hother => ?_).of_dispatchers rfl
      rw [← hother]
      rfl

private theorem offered_closeEngine (hs : Offered id n s) (engine : EngineId) :
    Offered id n ((closeEngine engine).run s).2 := by
  suffices h : Ensures (Offered id n) (closeEngine engine) fun _ => Offered id n from h s hs
  refine .seq (.part (Q := fun _ => Offered id n) fun _ hs => hs) fun e => ?_
  refine .andThen (offered_shutdownFederation e.federation) fun _ => ?_
  exact .update fun s hs => hs.of_dispatchers rfl

private theorem Offered.of_closeTurn {engine : EngineId} (hs : Offered id n s)
    (h : CloseTurn engine s s') : Offered id n s' := by
  cases h with
  | idle _ => exact hs
  | close _ _ => exact offered_closeEngine hs engine
  | wait _ _ => exact hs.of_dispatchers rfl
  | overdue _ _ =>
      have hlog : ∀ lines, Offered id n (s.addLog lines) := fun _ => hs.of_dispatchers rfl
      exact offered_closeEngine (hlog _) engine

theorem Offered.turn (hs : Offered id n s) (deadline : Nat) :
    Offered id n ((ContentEngine.turn deadline).run s).2 := by
  rcases turn_cases deadline s with ⟨-, heq⟩ | ⟨-, moment, -, heq⟩ | ⟨errand, rest, -, heq⟩
  all_goals rw [heq]
  · exact hs
  · exact hs.of_dispatchers rfl
  have hpop : Offered id n { s with ready := rest } := hs.of_dispatchers rfl
  cases errand with
  | job dispatcher index => exact hpop.of_jobTurn (runJob_turn dispatcher index _)
  | drain dispatcher => exact hpop.of_drainTurn (runDrain_turn dispatcher _)
  | close engine => exact hpop.of_closeTurn (runClose_turn engine _)

/-! ## Submissions -/

/-- A submission is the one offer that it tells of. -/
theorem Offered.submit (hs : Offered id n s) (other : DispatcherId) (work : WorkItem Processor) :
    Offered id (n + (s.submission other).countP (JobEvent.offers id))
      ((submitWork other work).run s).2 := by
  let numbered : System := { s with nextJob := s.nextJob + 1 }
  -- accepted or rejected, one of the two counts goes up
  have hset : ∀ d : Dispatcher, d.offered = (s.dispatcher other).offered + 1 →
      Offered id (n + if other == id then 1 else 0) (numbered.setDispatcher other d) := by
    intro d hd
    have hmade : id < numbered.dispatchers.size := hs.made
    refine ⟨(numbered.dispatchers_size_setDispatcher other d).symm ▸ hmade, ?_⟩
    rw [numbered.dispatcher_setDispatcher]
    by_cases hother : other = id
    · subst hother
      rw [if_pos ⟨rfl, hmade⟩, hd, hs.count, beq_self_eq_true, if_pos rfl]
    · rw [if_neg fun h => hother h.1.symm, if_neg (by simpa using hother)]
      exact hs.count
  unfold System.submission
  by_cases haccepts : ((s.dispatcher other).accepting &&
      (s.dispatcher other).lifecycle.isRunning) = true
  · rw [if_pos haccepts, submitWork_accepted work haccepts, List.countP_singleton]
    refine (hset ((s.dispatcher other).accept ⟨s.nextJob, work⟩) ?_).of_dispatchers rfl
    exact Nat.add_right_comm ..
  · rw [if_neg haccepts, submitWork_rejected work haccepts, List.countP_singleton]
    exact hset _ rfl

/-! ## Steps and runs -/

variable {direct : FederationId → Prop} {events : List JobEvent}

theorem not_offers_invocations (s : System) :
    s.invocations.countP (JobEvent.offers id) = 0 := by
  apply List.countP_eq_zero.mpr
  intro e he
  unfold System.invocations at he
  split at he
  · obtain ⟨job, -, rfl⟩ := Option.map_eq_some_iff.mp (Option.mem_toList.mp he)
    exact Bool.false_ne_true
  · cases he

/-- A step offers the jobs to a dispatcher that it tells of. -/
theorem Offered.step (hs : Offered id n s) (h : Step direct s events s') :
    Offered id (n + events.countP (JobEvent.offers id)) s' := by
  cases h with
  | quiet hquiet => exact hs.of_dispatchers hquiet.dispatchers
  | turn deadline =>
      rw [not_offers_invocations]
      exact hs.turn deadline
  | pass moment => exact hs.of_dispatchers rfl
  | submit other work => exact hs.submit other work
  | openGate name permits => exact hs.of_dispatchers rfl
  | startFederation federation => exact offered_startFederation federation s hs
  | shutdownFederation federation _ => exact offered_shutdownFederation federation s hs
  | startDispatcher dispatcher => exact offered_startDispatcher dispatcher s hs
  | shutdownDispatcher dispatcher => exact offered_shutdownDispatcher dispatcher s hs
  | startEngine _ => exact (offered_upholding _ _).startEngine hs
  | shutdownEngine _ =>
      exact (offered_upholding _ _).shutdownEngine (fun t ht => ht.of_dispatchers rfl) hs
  | @addDispatcher _ _ _ _ d _ hnew =>
      have hsame := System.dispatcher_addDispatcher_of_ne (Nat.ne_of_lt hs.made) d
      refine ⟨?_, hsame ▸ hs.count⟩
      exact Nat.lt_of_lt_of_eq (Nat.lt_succ_of_lt hs.made) (Array.size_push d).symm
  | addEngine _ => exact hs.of_dispatchers rfl

/-- Along a run a dispatcher is offered the jobs that the run tells of. -/
theorem Run.offered {history : List JobEvent} (h : Run direct s history s')
    (hid : id < s.dispatchers.size) :
    (s'.dispatcher id).offered =
      (s.dispatcher id).offered + history.countP (JobEvent.offers id) := by
  suffices hoffered : Offered id
      ((s.dispatcher id).offered + history.countP (JobEvent.offers id)) s' from hoffered.count
  induction h with
  | start => exact ⟨hid, rfl⟩
  | step _ hstep ih =>
      rw [List.countP_append, ← Nat.add_assoc]
      exact ih.step hstep

end offered

end ContentEngine
