import ContentEngine.Proofs.Run.JobOrder
import ContentEngine.Proofs.Run.Trade

/-!
# Borrowers

Connections are borrowed by callers and by the jobs that run.  `System.jobStakes` lists what the jobs
hold, and `Dealt` says that what callers and jobs hold comes of deals.  This outlasts every operation,
also those that wait while jobs go on.

## Strategy

While a processor goes on, its job's stakes are in hand and all others rest.  The stakes of the
dispatchers differ before and after a turn only in those of that job, which is shown by counting.
-/

namespace ContentEngine

/-! ## What jobs hold -/

/-- What a loan is to whoever has it. -/
def Loan.stakes? : Option Loan → List Stake
  | some loan => [.loan loan]
  | none => []

/-- What a running job holds: the connection that it waits for, or the one that it has. -/
def Activity.stakes (a : Activity) : List Stake :=
  match a.opening with
  | some o => [.opening o]
  | none => Loan.stakes? a.loan

/-- What a job holds. -/
def Stage.stakes : Stage → List Stake
  | .running a => a.stakes
  | .accepted | .queued | .permitted | .finished => []

/-- What the jobs of a dispatcher hold. -/
def Dispatcher.stakes (d : Dispatcher) : List Stake :=
  d.jobs.toList.flatMap fun job => job.stage.stakes

/-- What all jobs hold. -/
def System.jobStakes (s : System) : List Stake :=
  s.dispatchers.toList.flatMap Dispatcher.stakes

/-- What a job holds when its processor pauses or ends. -/
def Advance.stakes : Advance → List Stake
  | .ended _ loan => Loan.stakes? loan
  | .paused _ _ (.opening o _) => [.opening o]
  | .paused _ loan (.gate _) => Loan.stakes? loan
  | .paused _ loan (.sleep _) => Loan.stakes? loan

/-! ### Counting -/

private theorem count_flatMap_modify {α β : Type} [BEq β] (f : α → List β) (g : α → α) {l : List α}
    {i : Nat} {a : α} (h : l[i]? = some a) (x : β) :
    ((l.modify i g).flatMap f).count x + (f a).count x =
      (l.flatMap f).count x + (f (g a)).count x := by
  induction l generalizing i with
  | nil => simp at h
  | cons first rest ih =>
      cases i with
      | zero =>
          obtain rfl : first = a := by simpa using h
          simp only [List.modify_zero_cons, List.flatMap_cons, List.count_append]
          omega
      | succ i =>
          have := ih (i := i) (by simpa using h)
          simp only [List.modify_succ_cons, List.flatMap_cons, List.count_append]
          omega

namespace Dispatcher

/-- Stakes change by those of the job whose stage does. -/
theorem count_setStage {d : Dispatcher} {index : JobIndex} {job : Job Processor} {before : Stage}
    (h : d.jobs[index]? = some ⟨job, before⟩) (stage : Stage) (x : Stake) :
    (d.setStage index stage).stakes.count x + before.stakes.count x =
      d.stakes.count x + stage.stakes.count x := by
  unfold stakes setStage
  rw [Array.toList_modify]
  exact count_flatMap_modify (fun job => job.stage.stakes) _ (Array.getElem?_toList ▸ h) x

theorem count_requestPermit {d : Dispatcher} {index : JobIndex} {job : Job Processor}
    (h : d.jobs[index]? = some ⟨job, .accepted⟩) (x : Stake) :
    (d.requestPermit index).stakes.count x = d.stakes.count x := by
  unfold requestPermit
  split
  · exact count_setStage h .queued x
  · exact count_setStage h .permitted x

/-- The job that gets a permit when one is taken back holds nothing before and after. -/
theorem count_finish {d : Dispatcher} {granted asked : Nat} (h : Standing d granted asked)
    {index : JobIndex} {job : Job Processor} {stage : Stage}
    (hjob : d.jobs[index]? = some ⟨job, stage⟩) (hholds : stage.holdsPermit = true)
    (ending : Ending) (x : Stake) :
    ((d.record job ending).1.setStage index .finished).returnPermit.2.stakes.count x =
      (d.setStage index .finished).stakes.count x := by
  have hline : ((d.record job ending).1.setStage index .finished).line = d.line := rfl
  have hjobs : ((d.record job ending).1.setStage index .finished).jobs =
      (d.setStage index .finished).jobs := rfl
  cases hfront : d.line with
  | nil =>
      rw [returnPermit_nil (hline.trans hfront)]
      rfl
  | cons next rest =>
      obtain ⟨rfl, -, -, other, hother⟩ := h.front hfront
      have hne : index ≠ next := fun heq => by
        rw [heq, hother] at hjob
        obtain ⟨-, rfl⟩ := DispatchedJob.mk.inj (Option.some.inj hjob)
        cases hholds
      rw [returnPermit_cons (hline.trans hfront)]
      have hqueued : ((d.record job ending).1.setStage index .finished).jobs[next]? =
          some ⟨other, .queued⟩ := by
        rw [hjobs, jobs_setStage_of_ne _ hne, hother]
      exact count_setStage hqueued .permitted x

theorem stakes_accept (d : Dispatcher) (job : Job Processor) : (d.accept job).stakes = d.stakes := by
  unfold stakes accept
  rw [Array.toList_push, List.flatMap_append]
  exact List.append_nil _

end Dispatcher

theorem System.count_setDispatcher {s : System} {id : DispatcherId} (h : id < s.dispatchers.size)
    (d : Dispatcher) (x : Stake) :
    (s.setDispatcher id d).jobStakes.count x + (s.dispatcher id).stakes.count x =
      s.jobStakes.count x + d.stakes.count x := by
  have hget : s.dispatchers.toList[id]? = some (s.dispatcher id) := by
    rw [Array.getElem?_toList, dispatcher, Array.getD_eq_getD_getElem?, Array.getElem?_eq_getElem h]
    rfl
  unfold jobStakes setDispatcher
  rw [Array.toList_setIfInBounds, ← List.modify_eq_set fun _ => d]
  exact count_flatMap_modify Dispatcher.stakes _ hget x

theorem System.count_setDispatcher_same (s : System) (id : DispatcherId) {d : Dispatcher}
    (h : d.stakes = (s.dispatcher id).stakes) (x : Stake) :
    (s.setDispatcher id d).jobStakes.count x = s.jobStakes.count x := by
  rcases Nat.lt_or_ge id s.dispatchers.size with hlt | hge
  · have hset := s.count_setDispatcher hlt d x
    rw [h] at hset
    exact Nat.add_right_cancel hset
  · unfold setDispatcher
    rw [Array.setIfInBounds_eq_of_size_le hge]

/-! ## Deals of callers and jobs -/

/-- What callers and jobs hold comes of deals. -/
def Dealt (held : List Stake) (s : System) : Prop :=
  ∃ history, Dealings history (held ++ s.jobStakes) s

/-- A change that has to do neither with connections nor with what jobs hold. -/
theorem Dealt.calm {held : List Stake} {s s' : System} (h : Dealt held s) (hcalm : Calm s s')
    (hcount : ∀ x, s'.jobStakes.count x = s.jobStakes.count x) : Dealt held s' := by
  obtain ⟨history, hdealings⟩ := h
  refine ⟨_, (hdealings.deal (.calm hcalm)).deal (.order (List.perm_iff_count.mpr fun x => ?_))⟩
  rw [List.count_append, List.count_append, hcount]

/-- What is held comes of deals, since a turn of a job began in a system with the same dispatchers. -/
private def Amid (s₁ : System) (stakes : List Stake) (s : System) : Prop :=
  s.dispatchers = s₁.dispatchers ∧ ∃ history, Dealings history stakes s

section actions

variable {s₁ : System} {others stakes : List Stake}

/-- A deal that leaves dispatchers alone. -/
private theorem Amid.deal {s s' : System} {events : List Handling} {stakes' : List Stake}
    (h : Amid s₁ stakes s) (hdeal : Deal stakes s events stakes' s')
    (hdispatchers : s'.dispatchers = s.dispatchers) : Amid s₁ stakes' s' :=
  let ⟨heq, _, hdealings⟩ := h
  ⟨hdispatchers.trans heq, _, hdealings.deal hdeal⟩

private theorem amid_giveBack (loan : Option Loan) :
    Ensures (Amid s₁ (Loan.stakes? loan ++ others)) (giveBack loan)
      fun _ => Amid s₁ others := by
  cases loan with
  | none => exact .answer fun _ hs => hs
  | some loan =>
      intro s hs
      have hgiven := hs.deal (.giveBack (List.mem_cons_self (a := Stake.loan loan))) rfl
      rwa [show (Loan.stakes? (some loan) ++ others).erase (.loan loan) = others from
        List.erase_cons_head ..] at hgiven

private theorem amid_addNote (entry : Value) :
    Ensures (Amid s₁ stakes) (addNote entry) fun _ => Amid s₁ stakes :=
  .update fun _ hs => hs.deal (.calm ⟨rfl, rfl, Nat.le_refl _, fun _ => rfl, fun _ => .rfl⟩) rfl

private theorem amid_takePermit (name : String) :
    Ensures (Amid s₁ stakes) (takePermit name) fun _ => Amid s₁ stakes := by
  refine .exchange fun s hs => ?_
  dsimp only
  split
  · exact hs
  · exact hs.deal (.calm ⟨rfl, rfl, Nat.le_refl _, fun _ => rfl, fun _ => .rfl⟩) rfl

private theorem amid_readNode (loan : Option Loan) (path : NodePath) :
    Ensures (Amid s₁ stakes) (readNode loan path) fun _ => Amid s₁ stakes := by
  unfold readNode
  cases loan with
  | none => exact .answer fun _ hs => hs
  | some loan =>
      refine .seq (.part (Q := fun _ => Amid s₁ stakes) fun _ hs => hs) fun d => ?_
      split <;> exact .answer fun _ hs => hs

/-- Each action of a processor is a deal, if it has to do with connections at all. -/
private theorem amid_runActions (federation : FederationId) (ending : Ending)
    (actions : List Action) (loan : Option Loan) :
    Ensures (Amid s₁ (Loan.stakes? loan ++ others))
      (runActions federation ending actions loan)
      fun advance => Amid s₁ (advance.stakes ++ others) := by
  induction actions generalizing loan with
  | nil => exact .answer fun _ hs => hs
  | cons action rest ih =>
      cases action with
      | note entry => exact .andThen (amid_addNote entry) fun _ => ih loan
      | expect source =>
          refine .seq (.part (Q := fun _ => Amid s₁ (Loan.stakes? loan ++ others))
            fun _ hs => hs) fun f => ?_
          split
          · exact ih loan
          · exact .answer fun _ hs => hs
      | borrow source =>
          refine .andThen (amid_giveBack loan) fun _ => ?_
          refine .seq (R := fun b => Amid s₁ (b.stakes ++ others)) (fun s hs =>
            hs.deal (.request federation source) rfl) fun borrowing => ?_
          cases borrowing with
          | done loan => exact ih (some loan)
          | failed fault => exact .answer fun _ hs => hs
          | opening o millis => exact .answer fun _ hs => hs
      | pass gate =>
          refine .andThen (amid_takePermit gate) fun passed => ?_
          cases passed with
          | true => exact ih loan
          | false => exact .answer fun _ hs => hs
      | sleep millis =>
          cases millis with
          | zero => exact ih loan
          | succ millis => exact .answer fun _ hs => hs
      | ping =>
          cases loan with
          | none => exact .answer fun _ hs => hs
          | some held =>
              refine .andThen (R := Amid s₁ (Loan.stakes? (some held) ++ others))
                (fun s hs => hs.deal (.ping held.connection) rfl) fun reached => ?_
              cases reached with
              | ok _ => exact ih (some held)
              | error failure => exact .answer fun _ hs => hs
      | read path entry =>
          refine .andThen (amid_readNode loan path) fun result => ?_
          cases result with
          | ok properties => exact .andThen (amid_addNote _) fun _ => ih loan
          | error failure => exact .answer fun _ hs => hs
      | readOf source path entry =>
          refine .andThen (amid_readNode loan path) fun result => ?_
          cases result with
          | ok properties => exact .andThen (amid_addNote _) fun _ => ih loan
          | error failure => exact .answer fun _ hs => hs
      | giveBack => exact .andThen (amid_giveBack loan) fun _ => ih none

end actions

/-! ### Turns of jobs -/

section turns

variable {s₁ s s' : System} {held others stakes : List Stake} {id : DispatcherId} {index : JobIndex}
  {job : Job Processor}

/-- In the end of a turn nothing has changed but one dispatcher and what the job holds. -/
private theorem Amid.leave {d : Dispatcher} (h : Amid s₁ stakes s) (hlt : id < s₁.dispatchers.size)
    (hcalm : Calm s s') (hdispatchers : s'.dispatchers = s.dispatchers.setIfInBounds id d)
    (hcount : ∀ x, stakes.count x + (s₁.dispatcher id).stakes.count x =
      held.count x + s₁.jobStakes.count x + d.stakes.count x) : Dealt held s' := by
  obtain ⟨heq, history, hdealings⟩ := h
  refine ⟨_, (hdealings.deal (.calm hcalm)).deal (.order (List.perm_iff_count.mpr fun x => ?_))⟩
  have hafter := s₁.count_setDispatcher hlt d x
  have hsame : s'.jobStakes = (s₁.setDispatcher id d).jobStakes := by
    unfold System.jobStakes System.setDispatcher
    rw [hdispatchers, heq]
  have hbefore := hcount x
  rw [List.count_append, hsame]
  omega

/-- The stakes that rest while a job has its turn. -/
private def Rest (s₁ : System) (held others : List Stake) (stage : Stage) : Prop :=
  ∀ x, others.count x + stage.stakes.count x = held.count x + s₁.jobStakes.count x

section leave

variable {stage : Stage} {granted asked : Nat} (hstanding : Standing (s₁.dispatcher id) granted asked)
  (hjob : (s₁.dispatcher id).jobs[index]? = some ⟨job, stage⟩) (hholds : stage.holdsPermit = true)
  (hrest : Rest s₁ held others stage)
include hstanding hjob hholds hrest

private theorem dealt_endJob (ending : Ending) :
    Ensures (Amid s₁ others) (endJob id index job ending) fun _ => Dealt held := by
  intro s hs
  have hdispatcher : s.dispatcher id = s₁.dispatcher id := by
    rw [System.dispatcher, hs.1, System.dispatcher]
  obtain ⟨lines, drains, -, heq⟩ := endJob_run id index job ending s
  rw [heq]
  refine hs.leave (s₁.dispatcher_lt_of_job hjob) ⟨rfl, rfl, Nat.le_refl _, fun _ => rfl, fun _ => .rfl⟩ rfl
    fun x => ?_
  have hfinish := Dispatcher.count_finish hstanding hjob hholds ending x
  have hstage := Dispatcher.count_setStage hjob .finished x
  have hother := hrest x
  rw [hdispatcher, hfinish]
  have hnothing : Stage.finished.stakes.count x = 0 := List.count_nil
  omega

private theorem dealt_settleJob (ending : Ending) (advance : Advance) :
    Ensures (Amid s₁ (advance.stakes ++ others)) (settleJob id index job ending advance)
      fun _ => Dealt held := by
  have hwait : ∀ {s s' : System} (a : Activity), Amid s₁ (a.stakes ++ others) s → Calm s s' →
      s'.dispatchers = s.dispatchers.setIfInBounds id ((s₁.dispatcher id).setStage index (.running a)) →
      Dealt held s' := fun a hs hcalm hdispatchers => by
    refine hs.leave (s₁.dispatcher_lt_of_job hjob) hcalm hdispatchers fun x => ?_
    have hstage := Dispatcher.count_setStage hjob (.running a) x
    have hother := hrest x
    have hactivity : (Stage.running a).stakes = a.stakes := rfl
    rw [hactivity] at hstage
    rw [List.count_append]
    omega
  cases advance with
  | ended outcome loan =>
      refine .andThen (amid_giveBack loan) fun _ => ?_
      exact dealt_endJob hstanding hjob hholds hrest outcome
  | paused rest loan pause =>
      intro s hs
      have hdispatcher : s.dispatcher id = s₁.dispatcher id := by
        rw [System.dispatcher, hs.1, System.dispatcher]
      cases pause with
      | opening o millis =>
          refine hwait ⟨rest, ending, loan, some o⟩ hs ⟨rfl, rfl, Nat.le_refl _, fun _ => rfl, fun _ => .rfl⟩ ?_
          rw [← hdispatcher]
          rfl
      | sleep millis =>
          refine hwait ⟨rest, ending, loan, none⟩ hs ⟨rfl, rfl, Nat.le_refl _, fun _ => rfl, fun _ => .rfl⟩ ?_
          rw [← hdispatcher]
          rfl
      | gate name =>
          refine hwait ⟨rest, ending, loan, none⟩ hs ⟨rfl, rfl, Nat.le_refl _, fun _ => rfl, fun _ => .rfl⟩ ?_
          rw [← hdispatcher]
          rfl

private theorem dealt_invoke (hnothing : stage.stakes = []) :
    Ensures (Amid s₁ (stage.stakes ++ others)) (invoke id index job) fun _ => Dealt held := by
  rw [hnothing]
  refine .seq (.part (Q := fun _ => Amid s₁ others) fun _ hs => hs) fun d => ?_
  refine .seq (amid_runActions _ _ _ none) fun advance => ?_
  exact dealt_settleJob hstanding hjob hholds hrest _ advance

private theorem dealt_resume {a : Activity} (hrunning : stage = .running a) :
    Ensures (Amid s₁ (stage.stakes ++ others)) (resume id index job a) fun _ => Dealt held := by
  have hsettle := dealt_settleJob hstanding hjob hholds hrest
  have hgoOn : ∀ federation loan, Ensures (Amid s₁ (Loan.stakes? loan ++ others)) (do
      let advance ← runActions federation a.ending a.rest loan
      settleJob id index job a.ending advance) fun _ => Dealt held := fun federation loan =>
    .seq (amid_runActions _ _ _ loan) fun advance => hsettle _ advance
  rw [hrunning]
  change Ensures (Amid s₁ (a.stakes ++ others)) _ _
  unfold Activity.stakes
  refine .seq (.part (Q := fun _ => Amid s₁ (_ ++ others)) fun _ hs => hs) fun d => ?_
  cases a.opening with
  | none => exact hgoOn d.federation a.loan
  | some o =>
      refine .seq (R := fun b => Amid s₁ (b.stakes ++ others)) (fun s hs => ?_) fun borrowing => ?_
      · have hresumed := hs.deal (.resume d.federation (List.mem_cons_self (a := Stake.opening o))) rfl
        rwa [show ([Stake.opening o] ++ others).erase (.opening o) = others from
          List.erase_cons_head ..] at hresumed
      · cases borrowing with
        | done loan => exact hgoOn d.federation (some loan)
        | failed fault => exact hsettle _ (.ended _ none)
        | opening o millis => exact hsettle _ (.paused _ none (.opening o millis))

end leave

/-- A job that begins or goes on holds what its stage says, and all other stakes rest. -/
private theorem Dealt.take {stage : Stage} (h : Dealt held s₁)
    (hjob : (s₁.dispatcher id).jobs[index]? = some ⟨job, stage⟩) :
    ∃ others, Rest s₁ held others stage ∧ Amid s₁ (stage.stakes ++ others) s₁ := by
  obtain ⟨history, hdealings⟩ := h
  have hlt := s₁.dispatcher_lt_of_job hjob
  have hcount : ∀ x, ((s₁.setDispatcher id
      ((s₁.dispatcher id).setStage index .finished)).jobStakes).count x + stage.stakes.count x =
        s₁.jobStakes.count x := fun x => by
    have hsystem := s₁.count_setDispatcher hlt ((s₁.dispatcher id).setStage index .finished) x
    have hstage := Dispatcher.count_setStage hjob .finished x
    have hnothing : Stage.finished.stakes.count x = 0 := List.count_nil
    omega
  refine ⟨held ++ (s₁.setDispatcher id ((s₁.dispatcher id).setStage index .finished)).jobStakes,
    fun x => ?_, rfl, _, hdealings.deal (.order (List.perm_iff_count.mpr fun x => ?_))⟩
  · rw [List.count_append, ← hcount x]
    omega
  · rw [List.count_append, List.count_append, List.count_append, ← hcount x]
    omega

/-- A job that asks for a permit holds nothing. -/
private theorem Dealt.ask (h : Dealt held s)
    (hjob : (s.dispatcher id).jobs[index]? = some ⟨job, .accepted⟩) :
    Dealt held (s.setDispatcher id ((s.dispatcher id).requestPermit index)) := by
  refine h.calm ⟨rfl, rfl, Nat.le_refl _, fun _ => rfl, fun _ => .rfl⟩ fun x => ?_
  have hsystem := s.count_setDispatcher (s.dispatcher_lt_of_job hjob)
    ((s.dispatcher id).requestPermit index) x
  have hrequest := Dispatcher.count_requestPermit hjob x
  omega

private theorem dealt_runJob (h : Dealt held s)
    (hstanding : ∀ {job s₁}, Begins id index job s s₁ →
      ∃ granted asked, Standing (s₁.dispatcher id) granted asked) :
    Dealt held ((runJob id index).run s).2 := by
  have hinvoke : ∀ {job s₁}, Begins id index job s s₁ →
      (s₁.dispatcher id).jobs[index]? = some ⟨job, .permitted⟩ → Dealt held s₁ →
      Dealt held ((invoke id index job).run s₁).2 := by
    intro job s₁ hbegins hjob h
    obtain ⟨_, _, hstanding⟩ := hstanding hbegins
    obtain ⟨others, hrest, hamid⟩ := h.take hjob
    exact dealt_invoke hstanding hjob rfl hrest rfl s₁ hamid
  unfold runJob
  rw [fromSystem_bind]
  split
  · exact h
  · rename_i job hjob
    have hlt := s.dispatcher_lt_of_job hjob
    rw [withDispatcher_bind, fromSystem_bind, System.dispatcher_setDispatcher_self _ hlt]
    dsimp only
    rw [Dispatcher.jobs_requestPermit_self hjob]
    by_cases hfree : (s.dispatcher id).freePermits = 0
    · rw [if_pos hfree]
      exact h.ask hjob
    · rw [if_neg hfree]
      refine hinvoke (.granted hjob hfree) ?_ (h.ask hjob)
      rw [System.dispatcher_setDispatcher_self _ hlt, Dispatcher.jobs_requestPermit_self hjob,
        if_neg hfree]
  · rename_i job hjob
    exact hinvoke (.permitted hjob) hjob h
  · rename_i job a hjob
    obtain ⟨_, _, hstanding⟩ := hstanding (.running hjob)
    obtain ⟨others, hrest, hamid⟩ := h.take hjob
    exact dealt_resume hstanding hjob rfl hrest rfl _ hamid
  · exact h
  · exact h

private theorem Dealt.of_drainTurn {id : DispatcherId} (h : Dealt held s) (hturn : DrainTurn id s s') :
    Dealt held s' := by
  cases hturn with
  | idle _ => exact h
  | drained _ _ =>
      exact h.calm ⟨rfl, rfl, Nat.le_refl _, fun _ => rfl, fun _ => .rfl⟩
        (s.count_setDispatcher_same id (d := { s.dispatcher id with
          lifecycle := (s.dispatcher id).lifecycle.markTerminated }) rfl)

private theorem dealt_shutdownFederation (id : FederationId) (h : Dealt held s) :
    Dealt held ((shutdownFederation id).run s).2 :=
  let ⟨_, hdealings⟩ := h
  ⟨_, hdealings.deal (.shutdown id)⟩

private theorem dealt_closeEngine (id : EngineId) (h : Dealt held s) :
    Dealt held ((closeEngine id).run s).2 :=
  (dealt_shutdownFederation (s.engine id).federation h).calm
    ⟨rfl, rfl, Nat.le_refl _, fun _ => rfl, fun _ => .rfl⟩ fun _ => rfl

private theorem Dealt.of_closeTurn {id : EngineId} (h : Dealt held s) (hturn : CloseTurn id s s') :
    Dealt held s' := by
  cases hturn with
  | idle _ => exact h
  | close _ _ => exact dealt_closeEngine id h
  | wait _ _ => exact h.calm ⟨rfl, rfl, Nat.le_refl _, fun _ => rfl, fun _ => .rfl⟩ fun _ => rfl
  | overdue _ _ =>
      refine dealt_closeEngine id (h.calm ?_ fun _ => rfl)
      exact ⟨rfl, rfl, Nat.le_refl _, fun _ => rfl, fun _ => .rfl⟩

/-- Turns of the background work keep that all that is held comes of deals. -/
theorem Dealt.turn {direct : FederationId → Prop} (h : Dealt held s) (hreachable : Reachable direct s)
    (deadline : Nat) : Dealt held ((turn deadline).run s).2 := by
  rcases turn_cases deadline s with ⟨-, heq⟩ | ⟨-, moment, -, heq⟩ | ⟨errand, rest, hready, heq⟩
  · rw [heq]
    exact h
  · rw [heq]
    exact h.calm ⟨rfl, rfl, Nat.le_refl _, fun _ => rfl, fun _ => .rfl⟩ fun _ => rfl
  rw [heq]
  have hpopped : Dealt held { s with ready := rest } :=
    h.calm ⟨rfl, rfl, Nat.le_refl _, fun _ => rfl, fun _ => .rfl⟩ fun _ => rfl
  cases errand with
  | job id index =>
      obtain ⟨_, _, horder⟩ := inOrder_of_reachable hreachable id
      refine dealt_runJob hpopped fun hbegins => ?_
      obtain ⟨_, _, horder', -⟩ := horder.begins hready hbegins
      exact ⟨_, _, horder'.standing⟩
  | drain id => exact hpopped.of_drainTurn (runDrain_turn id _)
  | close id => exact hpopped.of_closeTurn (runClose_turn id _)

end turns

/-! ## All operations -/

section operations

variable {s s' : System} {held held' : List Stake}

/-- A deal of a caller. -/
theorem Dealt.deal {events : List Handling} (h : Dealt held s)
    (hdeal : Deal (held ++ s.jobStakes) s events (held' ++ s.jobStakes) s')
    (hdispatchers : s'.dispatchers = s.dispatchers) : Dealt held' s' := by
  obtain ⟨_, hdealings⟩ := h
  have hsame : s'.jobStakes = s.jobStakes := by rw [System.jobStakes, hdispatchers, System.jobStakes]
  exact ⟨_, hsame ▸ hdealings.deal hdeal⟩

theorem Dealt.aside (h : Dealt held s) (haside : Aside s s') : Dealt held s' := by
  refine h.calm ⟨haside.connections, haside.pools, Nat.le_of_eq haside.federations_size.symm,
    fun id => ?_, fun id => ?_⟩ fun x => by rw [System.jobStakes, haside.dispatchers, System.jobStakes]
  · obtain ⟨problems, heq⟩ := haside.federations id
    rw [heq]
  · obtain ⟨problems, heq⟩ := haside.federations id
    unfold System.IsOpen
    rw [heq]
    exact .rfl

theorem Dealt.request (h : Dealt held s) (id : FederationId) (name : String) :
    Dealt (((requestConnection id name).run s).1.stakes ++ held)
      ((requestConnection id name).run s).2 := by
  have hdeal : Deal (held ++ s.jobStakes) s _ _ _ := .request id name
  rw [← List.append_assoc] at hdeal
  exact h.deal hdeal rfl

theorem Dealt.resume {o : Opening} (h : Dealt (.opening o :: held) s) (id : FederationId) :
    Dealt (((s.federation id).resumeBorrow s.depot o).1.stakes ++ held)
      ((withFederation id fun f d => ((f.resumeBorrow d o).1, f, (f.resumeBorrow d o).2)).run s).2 := by
  have hdeal : Deal (.opening o :: (held ++ s.jobStakes)) s _ _ _ := .resume id List.mem_cons_self
  rw [List.erase_cons_head, ← List.append_assoc] at hdeal
  exact h.deal hdeal rfl

theorem Dealt.abandon {o : Opening} (h : Dealt (.opening o :: held) s) : Dealt held s := by
  have hdeal : Deal (.opening o :: (held ++ s.jobStakes)) s _ _ _ := .abandon List.mem_cons_self
  rw [List.erase_cons_head] at hdeal
  exact h.deal hdeal rfl

theorem Dealt.giveBack {loan : Loan} (h : Dealt (.loan loan :: held) s) :
    Dealt held ((giveBack (some loan)).run s).2 := by
  have hdeal : Deal (.loan loan :: (held ++ s.jobStakes)) s _ _ _ := .giveBack List.mem_cons_self
  rw [List.erase_cons_head] at hdeal
  exact h.deal hdeal rfl

/-- A job that was submitted holds nothing yet. -/
theorem Dealt.submit (h : Dealt held s) (id : DispatcherId) (work : WorkItem Processor) :
    Dealt held ((submitWork id work).run s).2 := by
  by_cases haccepts : ((s.dispatcher id).accepting && (s.dispatcher id).lifecycle.isRunning) = true
  · rw [submitWork_accepted work haccepts]
    refine h.calm ⟨rfl, rfl, Nat.le_refl _, fun _ => rfl, fun _ => .rfl⟩ fun x => ?_
    exact s.count_setDispatcher_same id (Dispatcher.stakes_accept _ _) x
  · rw [submitWork_rejected work haccepts]
    refine h.calm ⟨rfl, rfl, Nat.le_refl _, fun _ => rfl, fun _ => .rfl⟩ fun x => ?_
    exact s.count_setDispatcher_same id (d := { s.dispatcher id with
      rejected := (s.dispatcher id).rejected + 1 }) rfl x

/-- A source may also be registered with a federation that was never made: that leaves it a pool. -/
private theorem dealt_install (id : FederationId) (name : String) (connector : Connector)
    (descriptor : Option SourceDescriptor) (h : Dealt held s) :
    Dealt held ((withFederation id fun f d => f.install d name connector descriptor).run s).2 := by
  rcases Nat.lt_or_ge id s.federations.size with hlt | hge
  · exact h.deal (.install name connector descriptor hlt) rfl
  have hfederation : s.federation id = default := s.federation_out hge
  have hsame : ∀ (f : Federation) (d : Depot), (s.setFederation id f).setDepot d = s.setDepot d :=
    fun f d => by rw [System.setFederation, Array.setIfInBounds_eq_of_size_le hge]
  have hrun : ((withFederation id fun f d => f.install d name connector descriptor).run s).2 =
      s.setDepot ((default : Federation).install s.depot name connector descriptor).2.2 := by
    rw [← hfederation, ← hsame]
    rfl
  rw [hrun]
  have hstores : ∀ {d : Depot}, d.connections = s.depot.connections → d.pools = s.depot.pools →
      Dealt held (s.setDepot d) := fun hconnections hpools =>
    h.calm ⟨hconnections, hpools, Nat.le_refl _, fun _ => rfl, fun _ => .rfl⟩ fun _ => rfl
  rcases (default : Federation).install_cases s.depot name connector descriptor with
    ⟨fault, d', herror, hconnections, hpools⟩ | ⟨d', -, hconnections, hpools, hok⟩
  · rw [herror]
    exact hstores hconnections hpools
  · rw [hok]
    exact (hstores hconnections hpools).deal (.addPool rfl) rfl

/-- That what is held comes of deals outlasts every operation. -/
theorem lasting_dealt : Lasting fun held s => Reachable (fun _ => True) s ∧ Dealt held s where
  aside haside := fun ⟨hreachable, h⟩ =>
    ⟨hreachable.run (.step .start (.quiet (.of_aside haside))), h.aside haside⟩
  turn deadline _ s := fun ⟨hreachable, h⟩ =>
    ⟨hreachable.run (.step .start (.turn deadline s)), h.turn hreachable deadline⟩
  pass moment := fun ⟨hreachable, h⟩ =>
    ⟨hreachable.run (.step .start (.pass moment _)),
      h.calm ⟨rfl, rfl, Nat.le_refl _, fun _ => rfl, fun _ => .rfl⟩ fun _ => rfl⟩
  install id name connector descriptor _ s := fun ⟨hreachable, h⟩ =>
    ⟨hreachable.run (.step .start (.quiet (.withFederation id (fun f d => install_state f d _ _ _) s))),
      dealt_install id name connector descriptor h⟩
  remove id name _ s := fun ⟨hreachable, h⟩ =>
    ⟨hreachable.run (.step .start (.quiet (.withFederation id (fun f d => remove_state f d name) s))),
      h.deal (.remove id name) rfl⟩
  request id name _ s := fun ⟨hreachable, h⟩ =>
    ⟨hreachable.run (.step .start (.quiet (.withFederation id (fun _ _ => rfl) s))),
      h.request id name⟩
  resume id _ _ s := fun ⟨hreachable, h⟩ =>
    ⟨hreachable.run (.step .start (.quiet (.withFederation id (fun _ _ => rfl) s))), h.resume id⟩
  abandon := fun ⟨hreachable, h⟩ => ⟨hreachable, h.abandon⟩
  giveBack _ _ _ := fun ⟨hreachable, h⟩ =>
    ⟨hreachable.run (.step .start (.quiet (.of_eq rfl rfl rfl rfl rfl rfl rfl rfl))), h.giveBack⟩
  submit id work _ s := fun ⟨hreachable, h⟩ =>
    ⟨hreachable.run (.step .start (.submit id work s)), h.submit id work⟩

end operations

end ContentEngine
