import ContentEngine.Proofs.Run.JobRecord

/-!
# The intake of a dispatcher

A dispatcher accepts a job if it is running and its intake is open.  The two are changed by different
calls: starting makes it run, every call that begins to shut it down closes its intake, and what goes on
in the background terminates it once its jobs have ended.  `Attended` are the runs that tell whether a
shutdown has begun, and `intake_gated` says what a submission is answered in each system that they reach.

## Strategy

`Attends` says what a change does to the intake and to whether the lifecycle is closed: it closes both,
or it leaves both as they are.  Changes after one another close them if one of them does, so it is enough
to look at each kind of step.  A closed intake stays closed, and only a submission accepts a job.
-/

namespace ContentEngine

/-! ## Changes of the intake -/

/-- A dispatcher that exists is shut by a change, or its intake stays as it is. -/
structure Attends (id : DispatcherId) (shut : Bool) (s s' : System) : Prop where
  made : id < s'.dispatchers.size
  accepting : (s'.dispatcher id).accepting = ((s.dispatcher id).accepting && !shut)
  closed : (s'.dispatcher id).lifecycle.state.isClosed =
    ((s.dispatcher id).lifecycle.state.isClosed || shut)

namespace Dispatcher

variable {d d' : Dispatcher}

/-- A start that succeeds finds the dispatcher open and leaves it so. -/
theorem start_intake {lines : List LogLine} (h : d.start = (.ok d', lines)) :
    d'.accepting = d.accepting ∧ d'.lifecycle.state.isClosed = d.lifecycle.state.isClosed := by
  have hforward := (SameWork.start h).lifecycle
  have hopen : ∀ begun, d.lifecycle.beginStart.2 = .ok begun → _ :=
    fun _ => Lifecycle.not_closed_of_beginStart
  have hsame : d'.lifecycle.state.isClosed = false →
      d'.lifecycle.state.isClosed = d.lifecycle.state.isClosed := by
    intro hd'
    cases hd : d.lifecycle.state.isClosed with
    | false => exact hd'
    | true => exact hforward.closed hd
  unfold start at h
  split at h
  · cases h
  · rename_i lifecycle hstart
    rw [hstart] at hopen
    cases h
    exact ⟨rfl, hsame (hopen false rfl).1⟩
  · rename_i lifecycle hstart
    rw [hstart] at hopen
    cases h
    exact ⟨rfl, hsame (hopen true rfl).2⟩

theorem accepting_of_new? {engine : String} {federation : FederationId} {poolSize capacity : Nat}
    (h : new? engine federation poolSize capacity = some d) : d.accepting = true := by
  unfold new? at h
  split at h
  · cases h
  · obtain rfl := Option.some.inj h
    rfl

end Dispatcher

namespace Attends

variable {id : DispatcherId} {shut shut' : Bool} {s s' s'' : System}

theorem trans (h : Attends id shut s s') (h' : Attends id shut' s' s'') :
    Attends id (shut || shut') s s'' where
  made := h'.made
  accepting := by rw [h'.accepting, h.accepting, Bool.not_or, Bool.and_assoc]
  closed := by rw [h'.closed, h.closed, Bool.or_assoc]

/-- A change that leaves the intake as it is, after any other one. -/
theorem calm (h : Attends id shut s s') (h' : Attends id false s' s'') : Attends id shut s s'' := by
  have := h.trans h'
  rwa [Bool.or_false] at this

theorem of_dispatcher (hid : id < s'.dispatchers.size)
    (haccepting : (s'.dispatcher id).accepting = (s.dispatcher id).accepting)
    (hclosed : (s'.dispatcher id).lifecycle.state.isClosed =
      (s.dispatcher id).lifecycle.state.isClosed) : Attends id false s s' where
  made := hid
  accepting := by rw [haccepting, Bool.not_false, Bool.and_true]
  closed := by rw [hclosed, Bool.or_false]

theorem of_dispatchers (hid : id < s.dispatchers.size) (h : s'.dispatchers = s.dispatchers) :
    Attends id false s s' := by
  have hsame : s'.dispatcher id = s.dispatcher id := by rw [System.dispatcher, h, System.dispatcher]
  exact of_dispatcher (h ▸ hid) (by rw [hsame]) (by rw [hsame])

theorem refl (hid : id < s.dispatchers.size) : Attends id false s s :=
  of_dispatchers hid rfl

/-- Another dispatcher may change, and this one in what is not about its intake. -/
theorem setDispatcher (hid : id < s.dispatchers.size) (other : DispatcherId) {d : Dispatcher}
    (h : other = id → d.accepting = (s.dispatcher id).accepting ∧
      d.lifecycle.state.isClosed = (s.dispatcher id).lifecycle.state.isClosed) :
    Attends id false s (s.setDispatcher other d) := by
  have hmade := s.dispatchers_size_setDispatcher other d
  by_cases hother : other = id
  · subst hother
    refine of_dispatcher (hmade ▸ hid) ?_ ?_
    · rw [s.dispatcher_setDispatcher_self hid, (h rfl).1]
    · rw [s.dispatcher_setDispatcher_self hid, (h rfl).2]
  · have hsame : (s.setDispatcher other d).dispatcher id = s.dispatcher id := by
      rw [s.dispatcher_setDispatcher, if_neg fun hh => hother hh.1.symm]
    exact of_dispatcher (hmade ▸ hid) (by rw [hsame]) (by rw [hsame])

theorem of_jobTurn (hid : id < s.dispatchers.size) {other : DispatcherId} {index : JobIndex}
    (h : JobTurn other index s s') : Attends id false s s' := by
  obtain ⟨hsize, hoffice⟩ := h.office
  exact of_dispatcher (hsize ▸ hid) (hoffice id).accepting
    (congrArg (·.state.isClosed) (hoffice id).lifecycle)

end Attends

/-! ## Calls -/

section calls

variable {id : DispatcherId} {shut : Bool} {s₀ s : System}

private theorem attend {α : Type} {x : InSystem α}
    (h : ∀ s, id < s.dispatchers.size → Attends id false s (x.run s).2) :
    Ensures (Attends id shut s₀) x fun _ => Attends id shut s₀ :=
  fun s hs => hs.calm (h s hs.made)

private theorem attend_writeLog (lines : List LogLine) :
    Ensures (Attends id shut s₀) (writeLog lines) fun _ => Attends id shut s₀ :=
  attend fun _ hid => .of_dispatchers hid rfl

private theorem attend_service {α : Type} {x : InSystem α} (h : ∀ s, Aside s (x.run s).2) :
    Ensures (Attends id shut s₀) x fun _ => Attends id shut s₀ :=
  attend fun s hid => .of_dispatchers hid (h s).dispatchers

private theorem attend_withLifecycle {α : Type} (engine : EngineId) (f : Lifecycle → Lifecycle × α) :
    Ensures (Attends id shut s₀) (withLifecycle engine f) fun _ => Attends id shut s₀ :=
  attend fun _ hid => .of_dispatchers hid rfl

private theorem attend_startFederation (federation : FederationId) :
    Ensures (Attends id shut s₀) (startFederation federation) fun _ => Attends id shut s₀ := by
  refine .seq (.part (Q := fun _ => Attends id shut s₀) fun _ hs => hs) fun f => ?_
  split
  · exact .answer fun _ hs => hs
  · refine .andThen (.update fun s hs => hs.calm ?_) fun _ => .answer fun _ hs => hs
    exact .of_dispatchers hs.made rfl

private theorem attend_shutdownFederation (federation : FederationId) :
    Ensures (Attends id shut s₀) (shutdownFederation federation) fun _ => Attends id shut s₀ := by
  refine .andThen (attend fun s hid => ?_) fun lines => attend_writeLog lines
  exact .of_dispatchers hid rfl

private theorem attend_startDispatcher (dispatcher : DispatcherId) :
    Ensures (Attends id shut s₀) (startDispatcher dispatcher) fun _ => Attends id shut s₀ := by
  refine attend fun s hid => ?_
  rcases startDispatcher_run dispatcher s with heq | ⟨d, lines, hstart, heq⟩
  · rw [heq]
    exact .refl hid
  · rw [heq]
    refine .calm (.setDispatcher hid dispatcher fun hother => ?_) (.of_dispatchers ?_ rfl)
    · subst hother
      exact Dispatcher.start_intake hstart
    · exact s.dispatchers_size_setDispatcher dispatcher d ▸ hid

/-- What follows in a shutdown on closing the intake. -/
private theorem attend_shutdownDispatcher_rest (dispatcher : DispatcherId) (step : ShutdownStep)
    (lines : List LogLine) :
    Ensures (Attends id shut s₀)
      (do writeLog lines; if step = .drain then modify (·.enqueue [.drain dispatcher]))
      fun _ => Attends id shut s₀ := by
  refine .andThen (attend_writeLog lines) fun _ => ?_
  split
  · exact attend fun _ hid => .of_dispatchers hid rfl
  · exact .answer fun _ hs => hs

/-- A dispatcher is left alone by the shutdown of another one. -/
private theorem attend_shutdownDispatcher {dispatcher : DispatcherId} (h : dispatcher ≠ id) :
    Ensures (Attends id shut s₀) (shutdownDispatcher dispatcher) fun _ => Attends id shut s₀ := by
  refine .andThen (attend fun s hid => ?_) fun answer => attend_shutdownDispatcher_rest dispatcher _ _
  exact .setDispatcher hid dispatcher fun hother => absurd hother h

/-- A shutdown of a dispatcher closes its intake, whether that was open or not. -/
private theorem attends_shutdownDispatcher :
    Ensures (Attends id shut s₀) (shutdownDispatcher id) fun _ => Attends id true s₀ := by
  intro s hs
  have hclosed := (s.dispatcher id).lifecycle.beginShutdown_closed
  have hshut : Attends id true s (s.setDispatcher id (s.dispatcher id).beginShutdown.2.1) := by
    refine ⟨s.dispatchers_size_setDispatcher id _ ▸ hs.made, ?_, ?_⟩
    · rw [s.dispatcher_setDispatcher_self hs.made, Bool.not_true, Bool.and_false]
      rfl
    · rw [s.dispatcher_setDispatcher_self hs.made, Bool.or_true]
      exact hclosed
  have hafter := hs.trans hshut
  rw [Bool.or_true] at hafter
  unfold shutdownDispatcher
  rw [withDispatcher_bind]
  exact attend_shutdownDispatcher_rest id _ _ _ hafter

/-- The calls of an engine with another dispatcher. -/
private theorem attend_upholding (engine : EngineId) {e : Engine} (h : e.dispatcher ≠ id) :
    Upholding (Attends id shut s₀) engine e where
  writeLog := attend_writeLog
  withLifecycle := attend_withLifecycle engine
  startFederation := attend_startFederation e.federation
  startDispatcher := attend_startDispatcher e.dispatcher
  startService := attend_service (.startService e.service)
  shutdownFederation := attend_shutdownFederation e.federation
  shutdownDispatcher := attend_shutdownDispatcher h
  shutdownService := attend_service (.shutdownService e.service)

private theorem attend_startComponents (e : Engine) :
    Ensures (Attends id shut s₀) (startComponents e) fun _ => Attends id shut s₀ := by
  refine .andThen (attend_startFederation e.federation) fun started => ?_
  cases started with
  | error fault => exact .answer fun _ hs => hs
  | ok _ =>
      refine .andThen (attend_startDispatcher e.dispatcher) fun started => ?_
      cases started with
      | error fault => exact .answer fun _ hs => hs
      | ok _ => exact attend_service (.startService e.service)

/-! ## Calls that begin a shutdown -/

/-- The calls that begin to shut a dispatcher down: its own shutdown, that of an engine that works with it
and was not closed yet, and a start of such an engine that fails half-way. -/
inductive ShutsDown (id : DispatcherId) (s : System) : System → Prop
  | dispatcher : ShutsDown id s ((shutdownDispatcher id).run s).2
  | engine {e} : (s.engine e).dispatcher = id → (s.engine e).lifecycle.state.isClosed = false →
      ShutsDown id s ((shutdownEngine e).run s).2
  | failedStart {e fault} : (s.engine e).dispatcher = id →
      Problems.hasErrors (s.engine e).problems = false →
      (s.engine e).lifecycle.state = .notStarted → ((startEngine e).run s).1 = .error fault →
      ShutsDown id s ((startEngine e).run s).2

/-- A start of an engine that begins shuts the dispatcher down if it fails, and only then. -/
private theorem attends_startEngine {e : EngineId} (hid : id < s.dispatchers.size)
    (hdispatcher : (s.engine e).dispatcher = id)
    (hproblems : Problems.hasErrors (s.engine e).problems = false)
    (hstate : (s.engine e).lifecycle.state = .notStarted) :
    ((startEngine e).run s).1 = .ok () ∧ Attends id false s ((startEngine e).run s).2 ∨
      (∃ fault, ((startEngine e).run s).1 = .error fault) ∧
        Attends id true s ((startEngine e).run s).2 := by
  unfold startEngine
  rw [fromSystem_bind, if_neg (Bool.not_eq_true _ ▸ hproblems), withLifecycle_bind,
    Lifecycle.beginStart_of_notStarted hstate]
  refine (?_ : Ensures (Attends id false s) _ fun (answer : Except Fault Unit) s' =>
    answer = .ok () ∧ Attends id false s s' ∨
      (∃ fault, answer = .error fault) ∧ Attends id true s s') _ (.of_dispatchers hid rfl)
  refine .andThen (attend_writeLog _) fun _ => ?_
  refine .andThen (attend_startComponents _) fun started => ?_
  cases started with
  | ok _ =>
      exact .andThen (attend_withLifecycle e _) fun _ => .answer fun _ hs => .inl ⟨rfl, hs⟩
  | error fault =>
      refine .andThen (attend_writeLog _) fun _ => ?_
      rw [hdispatcher]
      refine .andThen attends_shutdownDispatcher fun _ => ?_
      refine .andThen (attend_service (.shutdownService _)) fun _ => ?_
      refine .andThen (attend_shutdownFederation _) fun _ => ?_
      exact .andThen (attend_withLifecycle e _) fun _ => .answer fun _ hs => .inr ⟨⟨fault, rfl⟩, hs⟩

/-- A start of an engine that does not begin leaves the dispatcher alone. -/
private theorem attends_startEngine_refused {e : EngineId} (hid : id < s.dispatchers.size)
    (h : Problems.hasErrors (s.engine e).problems = true ∨
      (s.engine e).lifecycle.state ≠ .notStarted) :
    Attends id false s ((startEngine e).run s).2 := by
  unfold startEngine
  rw [fromSystem_bind]
  split
  · exact attend_writeLog _ s (.refl hid)
  rename_i hproblems
  obtain ⟨-, hother⟩ := Lifecycle.beginStart_of_ne (h.resolve_left hproblems)
  rw [withLifecycle_bind]
  split
  · exact .of_dispatchers hid rfl
  · exact .of_dispatchers hid rfl
  · rename_i hbegun
    exact absurd hbegun hother

/-- The shutdown of an engine shuts its dispatcher down, unless the engine is closed already. -/
private theorem attends_shutdownEngine {e : EngineId} (hid : id < s.dispatchers.size)
    (hdispatcher : (s.engine e).dispatcher = id) :
    Attends id (!(s.engine e).lifecycle.state.isClosed) s ((shutdownEngine e).run s).2 := by
  have hbefore : ∀ lifecycle, Attends id false s
      (s.setEngine e { s.engine e with lifecycle := lifecycle }) :=
    fun _ => .of_dispatchers hid rfl
  unfold shutdownEngine
  rw [fromSystem_bind, withLifecycle_bind, hdispatcher]
  cases hclosed : (s.engine e).lifecycle.state.isClosed with
  | true =>
      rw [Lifecycle.beginShutdown_of_closed hclosed]
      exact hbefore _
  | false =>
      have hstep := Lifecycle.beginShutdown_of_open hclosed
      split
      · rename_i heq
        exact absurd heq hstep
      · refine (?_ : Ensures (Attends id false s) _ fun _ => Attends id true s) _ (hbefore _)
        refine .andThen attends_shutdownDispatcher fun _ => ?_
        refine .andThen (attend_service (.shutdownService _)) fun _ => ?_
        exact attend_shutdownFederation _
      · refine (?_ : Ensures (Attends id false s) _ fun _ => Attends id true s) _ (hbefore _)
        refine .andThen (attend_writeLog _) fun _ => ?_
        refine .andThen attends_shutdownDispatcher fun _ => ?_
        refine .andThen (attend_service (.shutdownService _)) fun _ => ?_
        exact attend fun _ hid => .of_dispatchers hid rfl

/-- A call that begins to shut a dispatcher down closes its intake. -/
theorem ShutsDown.attends {s' : System} (h : ShutsDown id s s') (hid : id < s.dispatchers.size) :
    Attends id true s s' := by
  cases h with
  | dispatcher => exact attends_shutdownDispatcher s (.refl hid)
  | engine hdispatcher hopen =>
      have := attends_shutdownEngine hid hdispatcher
      rwa [hopen] at this
  | failedStart hdispatcher hproblems hstate hfault =>
      rcases attends_startEngine hid hdispatcher hproblems hstate with ⟨hok, -⟩ | ⟨-, hshut⟩
      · rw [hfault] at hok
        cases hok
      · exact hshut

end calls

/-! ## Steps -/

section steps

variable {direct : FederationId → Prop} {id : DispatcherId} {s s' : System} {events : List JobEvent}

/-- A dispatcher that drains is closed before as it is afterwards. -/
private theorem attends_drainTurn {dispatcher : DispatcherId} (hid : id < s.dispatchers.size)
    (h : DrainTurn dispatcher s s') : Attends id false s s' := by
  cases h with
  | idle _ => exact .refl hid
  | drained hstopping _ =>
      refine .calm (.setDispatcher hid dispatcher fun hother => ?_) (.of_dispatchers ?_ rfl)
      · subst hother
        exact ⟨rfl, (congrArg LifecycleState.isClosed hstopping).symm⟩
      · exact s.dispatchers_size_setDispatcher dispatcher _ ▸ hid

private theorem attends_closeEngine (hid : id < s.dispatchers.size) (engine : EngineId) :
    Attends id false s ((closeEngine engine).run s).2 := by
  suffices h : Ensures (Attends id false s) (closeEngine engine) fun _ => Attends id false s from
    h s (.refl hid)
  refine .seq (.part (Q := fun _ => Attends id false s) fun _ hs => hs) fun e => ?_
  refine .andThen (attend_shutdownFederation e.federation) fun _ => ?_
  exact attend fun _ hid => .of_dispatchers hid rfl

private theorem attends_closeTurn {engine : EngineId} (hid : id < s.dispatchers.size)
    (h : CloseTurn engine s s') : Attends id false s s' := by
  cases h with
  | idle _ => exact .refl hid
  | close _ _ => exact attends_closeEngine hid engine
  | wait _ _ => exact .of_dispatchers hid rfl
  | overdue _ _ =>
      have hwarned : ∀ lines, Attends id false s (s.addLog lines) := fun _ => .of_dispatchers hid rfl
      exact (hwarned _).calm (attends_closeEngine (hwarned _).made engine)

private theorem attends_turn (hid : id < s.dispatchers.size) (deadline : Nat) :
    Attends id false s ((turn deadline).run s).2 := by
  rcases turn_cases deadline s with ⟨-, heq⟩ | ⟨-, moment, -, heq⟩ | ⟨errand, rest, -, heq⟩
  all_goals rw [heq]
  · exact .refl hid
  · exact .of_dispatchers hid rfl
  have hpop : Attends id false s { s with ready := rest } := .of_dispatchers hid rfl
  refine hpop.calm ?_
  cases errand with
  | job dispatcher index => exact .of_jobTurn hpop.made (runJob_turn dispatcher index _)
  | drain dispatcher => exact attends_drainTurn hpop.made (runDrain_turn dispatcher _)
  | close engine => exact attends_closeTurn hpop.made (runClose_turn engine _)

private theorem attends_submitWork (hid : id < s.dispatchers.size) (other : DispatcherId)
    (work : WorkItem Processor) : Attends id false s ((submitWork other work).run s).2 := by
  let numbered : System := { s with nextJob := s.nextJob + 1 }
  have hset : ∀ d : Dispatcher, d.accepting = (s.dispatcher other).accepting →
      d.lifecycle = (s.dispatcher other).lifecycle →
      Attends id false s (numbered.setDispatcher other d) := by
    intro d haccepting hlifecycle
    have hnumbered : Attends id false s numbered := .of_dispatchers hid rfl
    refine hnumbered.calm (.setDispatcher hnumbered.made other fun hother => ?_)
    subst hother
    exact ⟨haccepting, congrArg (·.state.isClosed) hlifecycle⟩
  by_cases haccepts : ((s.dispatcher other).accepting &&
      (s.dispatcher other).lifecycle.isRunning) = true
  · rw [submitWork_accepted work haccepts]
    have haccept := hset ((s.dispatcher other).accept ⟨s.nextJob, work⟩) rfl rfl
    exact haccept.calm (.of_dispatchers haccept.made rfl)
  · rw [submitWork_rejected work haccepts]
    exact hset _ rfl rfl

/-- A step that does not begin a shutdown of a dispatcher leaves its intake as it is. -/
theorem attends_of_step (h : Step direct s events s') (hid : id < s.dispatchers.size)
    (hcalm : ¬ShutsDown id s s') : Attends id false s s' := by
  cases h with
  | quiet hquiet => exact .of_dispatchers hid hquiet.dispatchers
  | turn deadline => exact attends_turn hid deadline
  | pass moment => exact .of_dispatchers hid rfl
  | submit other work => exact attends_submitWork hid other work
  | openGate name permits => exact .of_dispatchers hid rfl
  | startFederation federation => exact attend_startFederation federation s (.refl hid)
  | shutdownFederation federation _ => exact attend_shutdownFederation federation s (.refl hid)
  | startDispatcher dispatcher => exact attend_startDispatcher dispatcher s (.refl hid)
  | shutdownDispatcher dispatcher =>
      by_cases hother : dispatcher = id
      · subst hother
        exact absurd .dispatcher hcalm
      · exact attend_shutdownDispatcher hother s (.refl hid)
  | @startEngine e _ _ =>
      by_cases hother : (s.engine e).dispatcher = id
      · by_cases hbegins : Problems.hasErrors (s.engine e).problems = false ∧
            (s.engine e).lifecycle.state = .notStarted
        · rcases attends_startEngine hid hother hbegins.1 hbegins.2 with ⟨-, hs⟩ | ⟨⟨fault, h⟩, -⟩
          · exact hs
          · exact absurd (.failedStart hother hbegins.1 hbegins.2 h) hcalm
        · refine attends_startEngine_refused hid ?_
          rwa [Decidable.not_and_iff_or_not, Bool.not_eq_false] at hbegins
      · exact (attend_upholding e hother).startEngine (.refl hid)
  | @shutdownEngine e _ _ =>
      by_cases hother : (s.engine e).dispatcher = id
      · cases hopen : (s.engine e).lifecycle.state.isClosed with
        | false => exact absurd (.engine hother hopen) hcalm
        | true =>
            have := attends_shutdownEngine hid hother
            rwa [hopen] at this
      · exact (attend_upholding e hother).shutdownEngine
          (fun t ht => ht.calm (.of_dispatchers ht.made rfl)) (.refl hid)
  | @addDispatcher _ _ _ _ d _ hnew =>
      have hsame := System.dispatcher_addDispatcher_of_ne (Nat.ne_of_lt hid) d
      refine .of_dispatcher ?_ (by rw [hsame]) (by rw [hsame])
      exact Nat.lt_of_lt_of_eq (Nat.lt_succ_of_lt hid) (Array.size_push d).symm
  | addEngine _ => exact .of_dispatchers hid rfl

/-- A job is accepted only by a dispatcher whose intake is open. -/
theorem not_accepted_of_step (h : Step direct s events s')
    (hclosed : (s.dispatcher id).accepting = false) (n : JobId) : .accepted id n ∉ events := by
  cases h with
  | turn deadline =>
      intro hn
      unfold System.invocations at hn
      split at hn
      · obtain ⟨job, -, heq⟩ := Option.map_eq_some_iff.mp (Option.mem_toList.mp hn)
        cases heq
      · cases hn
  | submit other work =>
      intro hn
      unfold System.submission at hn
      split at hn
      · rename_i haccepts
        obtain ⟨rfl, -⟩ := JobEvent.accepted.inj (List.mem_singleton.mp hn)
        rw [hclosed] at haccepts
        cases haccepts
      · cases List.mem_singleton.mp hn
  | _ => exact List.not_mem_nil

/-- A closed intake stays closed, and no job is accepted from then on. -/
theorem Run.intake_closed (h : Run direct s events s') (hid : id < s.dispatchers.size)
    (hclosed : (s.dispatcher id).accepting = false) :
    (id < s'.dispatchers.size ∧ (s'.dispatcher id).accepting = false) ∧
      ∀ n, .accepted id n ∉ events := by
  induction h with
  | start => exact ⟨⟨hid, hclosed⟩, fun _ => List.not_mem_nil⟩
  | @step history t events t' _ hstep ih =>
      obtain ⟨⟨hmade, hshut⟩, hnone⟩ := ih
      have hattends : ∃ shut, Attends id shut t t' := by
        by_cases hcalm : ShutsDown id t t'
        · exact ⟨true, hcalm.attends hmade⟩
        · exact ⟨false, attends_of_step hstep hmade hcalm⟩
      obtain ⟨shut, hattends⟩ := hattends
      refine ⟨⟨hattends.made, by rw [hattends.accepting, hshut, Bool.false_and]⟩, fun n hn => ?_⟩
      rcases List.mem_append.mp hn with hn | hn
      · exact hnone n hn
      · exact not_accepted_of_step hstep hshut n hn

end steps

/-! ## Along a run -/

/-- The runs that tell of a dispatcher whether a shutdown of it has begun. -/
inductive Attended (direct : FederationId → Prop) (id : DispatcherId) (s₀ : System) :
    Bool → List JobEvent → System → Prop
  | start : Attended direct id s₀ false [] s₀
  | calm {shut history s events s'} : Attended direct id s₀ shut history s →
      Step direct s events s' → ¬ShutsDown id s s' →
      Attended direct id s₀ shut (history ++ events) s'
  | shut {shut history s events s'} : Attended direct id s₀ shut history s →
      Step direct s events s' → ShutsDown id s s' →
      Attended direct id s₀ true (history ++ events) s'

section runs

variable {direct : FederationId → Prop} {id : DispatcherId} {s₀ s s' : System} {shut : Bool}
  {history : List JobEvent}

theorem Attended.run (h : Attended direct id s₀ shut history s) : Run direct s₀ history s := by
  induction h with
  | start => exact .start
  | calm _ hstep _ ih => exact ih.step hstep
  | shut _ hstep _ ih => exact ih.step hstep

/-- Every run is one of them. -/
theorem Run.attended (h : Run direct s₀ history s) :
    ∃ shut, Attended direct id s₀ shut history s := by
  induction h with
  | start => exact ⟨false, .start⟩
  | @step history t events t' _ hstep ih =>
      obtain ⟨shut, hbefore⟩ := ih
      by_cases hcalm : ShutsDown id t t'
      · exact ⟨true, hbefore.shut hstep hcalm⟩
      · exact ⟨shut, hbefore.calm hstep hcalm⟩

/-- The intake of a dispatcher is closed along a run if a shutdown has begun, and so is its lifecycle. -/
theorem Attended.attends (h : Attended direct id s₀ shut history s)
    (hid : id < s₀.dispatchers.size) : Attends id shut s₀ s := by
  induction h with
  | start => exact .refl hid
  | calm _ hstep hcalm ih => exact ih.calm (attends_of_step hstep ih.made hcalm)
  | shut _ _ hshut ih =>
      have := ih.trans (hshut.attends ih.made)
      rwa [Bool.or_true] at this

end runs

/-! ## Submissions -/

section submissions

variable {direct : FederationId → Prop} {id : DispatcherId} {s₀ s s' : System} {shut : Bool}
  {history : List JobEvent}

/-- What a submission is answered, and what it does, if the dispatcher accepts the job. -/
theorem submitWork_run_accepted (work : WorkItem Processor)
    (haccepting : (s.dispatcher id).accepting = true)
    (hrunning : (s.dispatcher id).lifecycle.state = .running) :
    (submitWork id work).run s =
      ((⟨s.nextJob, work⟩, .ok (s.dispatcher id).jobs.size), s.accept id work) := by
  have haccepts : ((s.dispatcher id).accepting && (s.dispatcher id).lifecycle.isRunning) = true := by
    rw [haccepting, Bool.true_and]
    exact decide_eq_true hrunning
  exact submitWork_run_of_accepts work haccepts

/-- The system where a dispatcher has rejected the next job. -/
def System.reject (s : System) (id : DispatcherId) : System :=
  { s with nextJob := s.nextJob + 1 }.setDispatcher id
    { s.dispatcher id with rejected := (s.dispatcher id).rejected + 1 }

/-- The fault of a job that is rejected. -/
def WorkItem.rejection (work : WorkItem Processor) : Fault :=
  .jobRejected work.assignment.rule.name work.assignment.input.text

/-- What a submission is answered, and what it does, if the dispatcher rejects the job. -/
theorem submitWork_run_rejected (work : WorkItem Processor)
    (h : (s.dispatcher id).accepting = false ∨ (s.dispatcher id).lifecycle.state ≠ .running) :
    (submitWork id work).run s = ((⟨s.nextJob, work⟩, .error work.rejection), s.reject id) := by
  have hrejects : ¬((s.dispatcher id).accepting && (s.dispatcher id).lifecycle.isRunning) = true := by
    intro haccepts
    obtain ⟨haccepting, hrunning⟩ := (Bool.and_eq_true _ _).mp haccepts
    rcases h with h | h
    · rw [h] at haccepting
      cases haccepting
    · exact h (of_decide_eq_true hrunning)
  exact submitWork_run_of_rejects work hrejects

/-- No run from a system lets a dispatcher accept a job. -/
def System.Shut (direct : FederationId → Prop) (id : DispatcherId) (s : System) : Prop :=
  ∀ {later s'}, Run direct s later s' → (∀ n, .accepted id n ∉ later) ∧
    ∀ work, (submitWork id work).run s' = ((⟨s'.nextJob, work⟩, .error work.rejection), s'.reject id)

theorem shut_of_closed (hid : id < s.dispatchers.size) (hclosed : (s.dispatcher id).accepting = false) :
    s.Shut direct id := by
  intro later s' hlater
  obtain ⟨⟨-, hclosed'⟩, hnone⟩ := hlater.intake_closed hid hclosed
  exact ⟨hnone, fun work => submitWork_run_rejected work (.inl hclosed')⟩

/-! ## The end of all jobs -/

/-- A dispatcher has terminated, and all jobs that it accepted have run to their end. -/
structure RanOut (id : DispatcherId) (history : List JobEvent) (s : System) : Prop where
  terminated : (s.dispatcher id).lifecycle.state = .terminated
  inFlight : (s.dispatcher id).inFlight = 0
  counts : (s.dispatcher id).completed + (s.dispatcher id).failed = (s.dispatcher id).submitted
  /-- The processor of each job was invoked, once, and the job has ended. -/
  ended : ∀ n, .accepted id n ∈ history → history.count (.invoked id n) = 1 ∧
    ∃ j ∈ (s.dispatcher id).jobs, j.job.id = n ∧ j.stage.isFinished = true

/-- The jobs that were accepted are among those of the dispatcher. -/
theorem JobRecord.exists_of_accepted (h : JobRecord id history s) {n : JobId}
    (hn : .accepted id n ∈ history) :
    ∃ (i : JobIndex) (j : DispatchedJob), (s.dispatcher id).jobs[i]? = some j ∧ j.job.id = n := by
  have hmem : n ∈ history.filterMap (JobEvent.acceptedBy? id) :=
    List.mem_filterMap.mpr ⟨_, hn, if_pos rfl⟩
  rw [h.accepted] at hmem
  obtain ⟨job, hjob, rfl⟩ := List.mem_map.mp hmem
  obtain ⟨j, hj, rfl⟩ := List.mem_map.mp hjob
  obtain ⟨i, hi⟩ := List.mem_iff_getElem?.mp hj
  exact ⟨i, j, (Array.getElem?_toList ..).symm.trans hi, rfl⟩

theorem JobRecord.ranOut (h : JobRecord id history s) (hsettled : (s.dispatcher id).Settled)
    {granted asked : Nat} (horder : InOrder s id granted asked [])
    (hterminated : (s.dispatcher id).lifecycle.state = .terminated) : RanOut id history s := by
  have hdrained := hsettled.terminated hterminated
  have hnone : (s.dispatcher id).inFlight = 0 := beq_iff_eq.mp hdrained
  refine ⟨hterminated, hnone, ?_, fun n hn => ?_⟩
  · have := horder.standing.submitted_eq
    omega
  · obtain ⟨i, j, hj, rfl⟩ := h.exists_of_accepted hn
    have hfinished := Dispatcher.finished_of_isDrained hdrained hj
    refine ⟨?_, j, Array.mem_of_getElem? hj, rfl, hfinished⟩
    rw [h.invoked_eq hj]
    revert hfinished
    cases j.stage <;> simp [Stage.isFinished, Stage.isInvoked]

/-- A dispatcher that has terminated stays so. -/
theorem Run.terminated (h : Run direct s history s') (hid : id < s.dispatchers.size)
    (hterminated : (s.dispatcher id).lifecycle.state = .terminated) :
    (s'.dispatcher id).lifecycle.state = .terminated := by
  have hboth : id < s'.dispatchers.size ∧ (s'.dispatcher id).lifecycle.state = .terminated := by
    refine h.invariant
      (I := fun s => id < s.dispatchers.size ∧ (s.dispatcher id).lifecycle.state = .terminated)
      ⟨hid, hterminated⟩ fun hstep ⟨hid, hs⟩ => ?_
    have hjobs := jobStep_of_step id hstep
    exact ⟨Nat.lt_of_lt_of_le hid hjobs.size_le, (hjobs.lifecycle hid).terminated hs⟩
  exact hboth.2

/-! ## The gate -/

/-- How a dispatcher takes jobs in and how it ends, after a run that tells whether a shutdown of it has
begun. -/
structure IntakeGated (direct : FederationId → Prop) (id : DispatcherId) (shut : Bool)
    (history : List JobEvent) (s : System) : Prop where
  /-- A job is accepted if the dispatcher is running and no shutdown has begun, ... -/
  accepts : ∀ work, (s.dispatcher id).lifecycle.state = .running ∧ shut = false →
    (submitWork id work).run s =
      ((⟨s.nextJob, work⟩, .ok (s.dispatcher id).jobs.size), s.accept id work)
  /-- ... and else it is rejected, which is counted and changes nothing else. -/
  rejects : ∀ work, ¬((s.dispatcher id).lifecycle.state = .running ∧ shut = false) →
    (submitWork id work).run s = ((⟨s.nextJob, work⟩, .error work.rejection), s.reject id)
  /-- Once a shutdown has begun no job is ever accepted again, ... -/
  never_again : shut = true → s.Shut direct id
  /-- ... from the moment on at which a shutdown has closed the intake and nothing else. -/
  closing : (s.setDispatcher id { s.dispatcher id with accepting := false }).Shut direct id
  /-- Nothing but a shutdown closes the dispatcher. -/
  closed : (s.dispatcher id).lifecycle.state.isClosed = shut
  /-- When the dispatcher has terminated its jobs have ended, and it stays that way. -/
  terminated : (s.dispatcher id).lifecycle.state = .terminated →
    ∀ {later s'}, Run direct s later s' → RanOut id (history ++ later) s'

/-- Along every run that starts when a dispatcher was made its intake is gated: the dispatcher accepts
the jobs that are submitted while it runs and no shutdown of it has begun, and these have ended when it
has terminated. -/
theorem intake_gated {engine : String} {federation : FederationId} {poolSize capacity : Nat}
    {d : Dispatcher} (hreach : Reachable direct s₀)
    (hnew : Dispatcher.new? engine federation poolSize capacity = some d)
    (hrun : Attended direct s₀.dispatchers.size ((addDispatcher d).run s₀).2 shut history s) :
    IntakeGated direct s₀.dispatchers.size shut history s := by
  let id := s₀.dispatchers.size
  have hmade : id < ((addDispatcher d).run s₀).2.dispatchers.size :=
    Nat.lt_of_lt_of_eq (Nat.lt_succ_self _) (Array.size_push d).symm
  have hdispatcher : System.dispatcher ((addDispatcher d).run s₀).2 id = d := by
    change (s₀.dispatchers.push d).getD _ _ = d
    rw [System.getD_push, if_pos rfl]
  have hattends := hrun.attends hmade
  have hid := hattends.made
  -- the gate and the lifecycle are changed apart, and agree on every run
  have haccepting : (s.dispatcher id).accepting = !shut := by
    rw [hattends.accepting, hdispatcher, Dispatcher.accepting_of_new? hnew, Bool.true_and]
  have hclosed : (s.dispatcher id).lifecycle.state.isClosed = shut := by
    rw [hattends.closed, hdispatcher, (Dispatcher.asMade hnew).lifecycle]
    rfl
  refine ⟨fun work h => ?_, fun work h => ?_, fun h => ?_, ?_, hclosed, fun h later s' hlater => ?_⟩
  · refine submitWork_run_accepted work ?_ h.1
    rw [haccepting, h.2]
    rfl
  · refine submitWork_run_rejected work ?_
    by_cases hrunning : (s.dispatcher id).lifecycle.state = .running
    · have hshut : shut = true := Bool.of_not_eq_false fun hnot => h ⟨hrunning, hnot⟩
      exact .inl (by rw [haccepting, hshut]; rfl)
    · exact .inr hrunning
  · exact shut_of_closed hid (by rw [haccepting, h]; rfl)
  · refine shut_of_closed ?_ ?_
    · exact s.dispatchers_size_setDispatcher id _ ▸ hid
    · rw [s.dispatcher_setDispatcher_self hid]
  · have hboth := hrun.run.append hlater
    obtain ⟨⟨granted, asked, horder⟩, hrecord, -⟩ := conserved_invariant hreach hnew hboth
    have hreach' : Reachable direct s' :=
      (hreach.run (.step .start (.addDispatcher s₀ hnew))).run hboth
    exact hrecord.ranOut (settled_of_reachable hreach' _) horder (hlater.terminated hid h)

/-- A dispatcher with one job that waits for a moment, when its shutdown begins. -/
theorem intake_gated_napping :
    IntakeGated (fun _ => True) 0 true [.accepted 0 0, .invoked 0 0]
      ((shutdownDispatcher 0).run .napping).2 := by
  have hopen : ∀ s s' : System, 0 < s.dispatchers.size →
      (s'.dispatcher 0).lifecycle.state.isClosed = false → ¬ShutsDown 0 s s' := by
    intro s s' hid hs' hshut
    have := (hshut.attends hid).closed
    rw [hs', Bool.or_true] at this
    cases this
  refine intake_gated (show Reachable (fun _ => True) .empty from ⟨[], .start⟩)
    (show Dispatcher.new? "engine" 0 0 1 = some ((Dispatcher.new? "engine" 0 0 1).getD default)
      from rfl) ?_
  refine .shut (.calm (.calm (.calm .start (.startDispatcher 0 _) ?_) (.submit 0 .nap _) ?_)
    (.turn 0 _) ?_) (.shutdownDispatcher 0 _) .dispatcher
  all_goals exact hopen _ _ (by decide +kernel) (by decide +kernel)

end submissions

end ContentEngine
