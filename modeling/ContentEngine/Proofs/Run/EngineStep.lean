import ContentEngine.Proofs.Run.JobStep

/-!
# What a step does to one engine

Most steps leave a given engine as it is, let its federation stay open, and neither begin nor wake the
errand that closes it: `SameEngine`.  The other steps start it, begin to shut it down, let that errand
go on or wake it.  `EngineStep` lists the cases, and `engineStep_of_step` says that there are no more,
provided that no other engine uses the same federation and nobody shuts that down directly.
-/

namespace ContentEngine

/-! ## Steps that leave an engine alone -/

/-- The parts of an engine, which it keeps. -/
structure SameParts (e e' : Engine) : Prop where
  federation : e'.federation = e.federation
  dispatcher : e'.dispatcher = e.dispatcher
  settings : e'.settings = e.settings

theorem SameParts.refl (e : Engine) : SameParts e e :=
  ⟨rfl, rfl, rfl⟩

/-- The engine is as it was, and no more errands that close it wait; its federation stays open, unless
it may be shut down directly. -/
structure Alike (direct : FederationId → Prop) (id : EngineId) (s s' : System) : Prop where
  engine : s'.engine id = s.engine id
  made : id < s'.engines.size ↔ id < s.engines.size
  clock : s.clock ≤ s'.clock
  isOpen : id < s.engines.size → ¬direct (s.engine id).federation →
    s.IsOpen (s.engine id).federation → s'.IsOpen (s.engine id).federation
  timers : ∀ t ∈ s'.timers, t.errand = .close id → t ∈ s.timers

theorem Alike.trans {direct : FederationId → Prop} {id : EngineId} {s s' s'' : System}
    (h : Alike direct id s s') (h' : Alike direct id s' s'') : Alike direct id s s'' where
  engine := h'.engine.trans h.engine
  made := h'.made.trans h.made
  clock := Nat.le_trans h.clock h'.clock
  isOpen hid hdirect hopen := by
    have := h'.isOpen (h.made.mpr hid)
    rw [h.engine] at this
    exact this hdirect (h.isOpen hid hdirect hopen)
  timers t ht hclose := h.timers t (h'.timers t ht hclose) hclose

/-- The engine is as it was, and so are the errands that close it. -/
structure SameEngine (direct : FederationId → Prop) (id : EngineId) (s s' : System) : Prop
    extends Alike direct id s s' where
  ready : s'.ready.count (.close id) = s.ready.count (.close id)

namespace SameEngine

variable {direct : FederationId → Prop} {id : EngineId} {s s' s'' : System}

theorem trans (h : SameEngine direct id s s') (h' : SameEngine direct id s' s'') :
    SameEngine direct id s s'' :=
  ⟨h.toAlike.trans h'.toAlike, h'.ready.trans h.ready⟩

/-- A change that leaves engines and errands alone and closes no federation but those of others. -/
theorem of_engines (hengines : s'.engines = s.engines) (hclock : s.clock ≤ s'.clock)
    (hopen : id < s.engines.size → ¬direct (s.engine id).federation →
      s.IsOpen (s.engine id).federation → s'.IsOpen (s.engine id).federation)
    (hready : s'.ready = s.ready) (htimers : s'.timers = s.timers) : SameEngine direct id s s' where
  engine := by rw [System.engine, hengines, System.engine]
  made := by rw [hengines]
  clock := hclock
  isOpen := hopen
  ready := by rw [hready]
  timers := fun t ht _ => htimers ▸ ht

theorem of_quiet (h : Quiet s s') : SameEngine direct id s s' :=
  .of_engines h.engines (Nat.le_of_eq h.clock.symm) (fun _ _ hopen => (congrArg _ (h.states _)).trans hopen)
    h.ready h.timers

theorem refl (s : System) : SameEngine direct id s s :=
  of_quiet (.refl s)

theorem enqueue (s : System) {errands : List Errand} (h : .close id ∉ errands) :
    SameEngine direct id s (s.enqueue errands) where
  engine := rfl
  made := .rfl
  clock := Nat.le_refl _
  isOpen := fun _ _ hopen => hopen
  ready := by
    unfold System.enqueue
    rw [List.count_append, List.count_eq_zero.mpr h, Nat.add_zero]
  timers := fun _ ht _ => ht

theorem after (s : System) (millis : Nat) {errand : Errand} (h : errand ≠ .close id) :
    SameEngine direct id s (s.after millis errand) where
  engine := rfl
  made := .rfl
  clock := Nat.le_refl _
  isOpen := fun _ _ hopen => hopen
  ready := rfl
  timers := fun t ht hclose => by
    rcases List.mem_append.mp ht with ht | ht
    · exact ht
    · obtain rfl := List.mem_singleton.mp ht
      exact absurd hclose h

theorem setDispatcher (s : System) (dispatcher : DispatcherId) (d : Dispatcher) :
    SameEngine direct id s (s.setDispatcher dispatcher d) :=
  .of_engines rfl (Nat.le_refl _) (fun _ _ hopen => hopen) rfl rfl

theorem setGate (s : System) (name : String) (g : Gate) : SameEngine direct id s (s.setGate name g) :=
  .of_engines rfl (Nat.le_refl _) (fun _ _ hopen => hopen) rfl rfl

/-- Another engine may change, and this one may be set to what it is. -/
theorem setEngine (s : System) {other : EngineId} {e : Engine} (h : other = id → e = s.engine id) :
    SameEngine direct id s (s.setEngine other e) where
  engine := by
    rw [s.engine_setEngine]
    split
    · rename_i hid
      exact h hid.1.symm
    · rfl
  made := by
    rw [System.setEngine, Array.size_setIfInBounds]
  clock := Nat.le_refl _
  isOpen := fun _ _ hopen => hopen
  ready := rfl
  timers := fun _ ht _ => ht

theorem weaken {direct' : FederationId → Prop} (h : SameEngine direct id s s')
    (hdirect : ∀ federation, direct federation → direct' federation) : SameEngine direct' id s s' :=
  { h with isOpen := fun hid hother => h.isOpen hid fun hfederation => hother (hdirect _ hfederation) }

/-- Taking an errand off the list that does not close the engine. -/
theorem pop {errand : Errand} {rest : List Errand} (hready : s.ready = errand :: rest)
    (h : errand ≠ .close id) : SameEngine direct id s { s with ready := rest } where
  engine := rfl
  made := .rfl
  clock := Nat.le_refl _
  isOpen := fun _ _ hopen => hopen
  ready := by
    rw [hready, List.count_cons_of_ne h]
  timers := fun _ ht _ => ht

end SameEngine

section calls

variable {direct : FederationId → Prop} {id : EngineId} {s₀ : System}

private theorem leave {α : Type} {x : InSystem α} (h : ∀ s, SameEngine direct id s (x.run s).2) :
    Ensures (SameEngine direct id s₀) x fun _ => SameEngine direct id s₀ :=
  fun s hs => hs.trans (h s)

private theorem leave_writeLog (lines : List LogLine) :
    Ensures (SameEngine direct id s₀) (writeLog lines) fun _ => SameEngine direct id s₀ :=
  leave fun _ => .of_quiet (.of_aside (.addLog _ _))

private theorem leave_startService (service : ServiceId) :
    Ensures (SameEngine direct id s₀) (startService service) fun _ => SameEngine direct id s₀ :=
  leave fun s => .of_quiet (.of_aside (.startService service s))

private theorem leave_shutdownService (service : ServiceId) :
    Ensures (SameEngine direct id s₀) (shutdownService service) fun _ => SameEngine direct id s₀ :=
  leave fun s => .of_quiet (.of_aside (.shutdownService service s))

/-- A federation that starts is open. -/
theorem Federation.open_of_start {f f' : Federation} {lines : List LogLine}
    (h : f.start = (.ok f', lines)) : f'.state.isClosed = false := by
  have hopen : ∀ begun, f.lifecycle.beginStart.2 = .ok begun → _ :=
    fun _ => Lifecycle.not_closed_of_beginStart
  unfold Federation.start at h
  split at h
  · cases h
  · rename_i lifecycle hstart
    cases h
    rw [hstart] at hopen
    exact (hopen false rfl).1
  · rename_i lifecycle hstart
    cases h
    rw [hstart] at hopen
    exact (hopen true rfl).2

theorem startFederation_run (id : FederationId) (s : System) :
    ((startFederation id).run s = (((startFederation id).run s).1, s) ∧
        ∃ fault, ((startFederation id).run s).1 = .error fault) ∨
      ∃ f lines, f.state.isClosed = false ∧
        (startFederation id).run s = (.ok (), (s.setFederation id f).addLog lines) := by
  unfold startFederation
  rw [fromSystem_bind]
  split
  · exact .inl ⟨rfl, _, rfl⟩
  · rename_i f lines hstart
    exact .inr ⟨f, lines, Federation.open_of_start hstart, rfl⟩

private theorem leave_startFederation (federation : FederationId) :
    Ensures (SameEngine direct id s₀) (startFederation federation) fun _ => SameEngine direct id s₀ := by
  refine leave fun s => ?_
  rcases startFederation_run federation s with ⟨heq, -⟩ | ⟨f, lines, hopen, heq⟩
  · rw [heq]
    exact .refl s
  · rw [heq]
    refine .of_engines rfl (Nat.le_refl _) (fun _ _ hother => ?_) rfl rfl
    change ((s.setFederation federation f).federation _).state.isClosed = false
    rw [s.federation_setFederation]
    split
    · exact hopen
    · exact hother

/-- Shutting another federation down, or one that may be shut down directly, leaves the engine alone. -/
private theorem leave_shutdownFederation {federation : FederationId}
    (h : id < s₀.engines.size → (s₀.engine id).federation = federation → direct federation) :
    Ensures (SameEngine direct id s₀) (shutdownFederation federation) fun _ =>
      SameEngine direct id s₀ := by
  intro s hs
  refine hs.trans (.of_engines rfl (Nat.le_refl _) (fun hid hdirect hopen => ?_) rfl rfl)
  change ((s.setFederation federation _).federation _).state.isClosed = false
  rw [s.federation_setFederation, if_neg fun hother => ?_]
  · exact hopen
  · rw [hs.engine] at hother hdirect
    exact hdirect (hother.1.symm ▸ h (hs.made.mp hid) hother.1)

private theorem leave_startDispatcher (dispatcher : DispatcherId) :
    Ensures (SameEngine direct id s₀) (startDispatcher dispatcher) fun _ => SameEngine direct id s₀ := by
  refine leave fun s => ?_
  rcases startDispatcher_run dispatcher s with heq | ⟨d, lines, -, heq⟩
  · rw [heq]
    exact .refl s
  · rw [heq]
    exact .trans (.setDispatcher s dispatcher d) (.of_quiet (.of_aside (.addLog _ lines)))

private theorem leave_shutdownDispatcher (dispatcher : DispatcherId) :
    Ensures (SameEngine direct id s₀) (shutdownDispatcher dispatcher) fun _ => SameEngine direct id s₀ := by
  refine .andThen (leave fun s => .setDispatcher s dispatcher _) fun answer => ?_
  refine .andThen (leave_writeLog _) fun _ => ?_
  split
  · exact leave fun s => .enqueue s (by simp)
  · exact .answer fun _ hs => hs

private theorem leave_withLifecycle {α : Type} {other : EngineId} (h : other ≠ id)
    (f : Lifecycle → Lifecycle × α) :
    Ensures (SameEngine direct id s₀) (withLifecycle other f) fun _ => SameEngine direct id s₀ :=
  leave fun s => .setEngine s fun hid => absurd hid h

private theorem leave_upholding {other : EngineId} {e : Engine} (h : other ≠ id)
    (hown : id < s₀.engines.size → (s₀.engine id).federation ≠ e.federation) :
    Upholding (SameEngine direct id s₀) other e where
  writeLog := leave_writeLog
  withLifecycle := leave_withLifecycle h
  startFederation := leave_startFederation e.federation
  startDispatcher := leave_startDispatcher e.dispatcher
  startService := leave_startService e.service
  shutdownFederation := leave_shutdownFederation fun hid heq => absurd heq (hown hid)
  shutdownDispatcher := leave_shutdownDispatcher e.dispatcher
  shutdownService := leave_shutdownService e.service

/-- Starting another engine. -/
private theorem leave_startEngine {other : EngineId} (h : other ≠ id)
    (hown : id < s₀.engines.size → (s₀.engine id).federation ≠ (s₀.engine other).federation) :
    SameEngine direct id s₀ ((startEngine other).run s₀).2 :=
  (leave_upholding h hown).startEngine (.refl s₀)

/-- Shutting another engine down. -/
private theorem leave_shutdownEngine {other : EngineId} (h : other ≠ id)
    (hown : id < s₀.engines.size → (s₀.engine id).federation ≠ (s₀.engine other).federation) :
    SameEngine direct id s₀ ((shutdownEngine other).run s₀).2 := by
  refine (leave_upholding h hown).shutdownEngine (fun s hs => hs.trans ?_) (.refl s₀)
  refine .trans (.setEngine s fun hid => absurd hid h) (.enqueue _ ?_)
  simpa using Ne.symm h

/-- Closing another engine. -/
private theorem leave_closeTurn {other : EngineId} {s' : System} (h : other ≠ id)
    (hown : id < s₀.engines.size → (s₀.engine id).federation ≠ (s₀.engine other).federation)
    (hturn : CloseTurn other s₀ s') : SameEngine direct id s₀ s' := by
  have hclose : Ensures (SameEngine direct id s₀) (do
      shutdownFederation (s₀.engine other).federation
      modify fun s => s.setEngine other { s.engine other with
        lifecycle := (s.engine other).lifecycle.markTerminated, closing := .idle })
      fun _ => SameEngine direct id s₀ := by
    refine .andThen (leave_shutdownFederation fun hid heq => absurd heq (hown hid)) fun _ => ?_
    exact leave fun s => .setEngine s fun hid => absurd hid h
  cases hturn with
  | idle _ => exact .refl s₀
  | close _ _ => exact hclose s₀ (.refl s₀)
  | wait _ _ => exact .trans (.setEngine s₀ fun hid => absurd hid h) (.after _ _ (by simpa using h))
  | overdue _ _ => exact hclose _ (.of_quiet (.of_aside (.addLog _ _)))

end calls

/-! ## Starting the engine -/

/-- The engine was not started and now is, its federation open, or it is terminated. -/
structure Started (id : EngineId) (s s' : System) : Prop where
  notStarted : (s.engine id).lifecycle.state = .notStarted
  parts : SameParts (s.engine id) (s'.engine id)
  closing : (s'.engine id).closing = (s.engine id).closing
  made : id < s'.engines.size ↔ id < s.engines.size
  clock : s.clock ≤ s'.clock
  running : (s'.engine id).lifecycle.state = .running → s'.IsOpen (s.engine id).federation
  ready : s'.ready.count (.close id) = s.ready.count (.close id)
  timers : ∀ t ∈ s'.timers, t.errand = .close id → t ∈ s.timers

section start

variable {id : EngineId} {s₀ : System}

/-- A federation that was started is open. -/
private theorem open_of_startFederation {federation : FederationId} {s : System}
    (h : ((startFederation federation).run s).1 = .ok ()) :
    System.IsOpen ((startFederation federation).run s).2 federation := by
  rcases startFederation_run federation s with ⟨-, fault, hfault⟩ | ⟨f, lines, hopen, heq⟩
  · rw [hfault] at h
    cases h
  · rw [heq]
    change ((s.setFederation federation f).federation federation).state.isClosed = false
    rw [s.federation_setFederation]
    split
    · exact hopen
    · rename_i hout
      rw [s.federation_out (Nat.not_lt.mp fun hlt => hout ⟨rfl, hlt⟩)]
      rfl

/-- The system is as it was for the engine, except for its federation, which is open. -/
private def Opened (id : EngineId) (s s' : System) : Prop :=
  SameEngine (fun _ => True) id s s' ∧ s'.IsOpen (s.engine id).federation

private theorem keep_opened {x : InSystem (Except Fault Unit)} (hid : id < s₀.engines.size)
    (hx : ∀ s, Ensures (SameEngine (fun _ => False) id s) x fun _ =>
      SameEngine (fun _ => False) id s) :
    Ensures (Opened id s₀) x fun _ => Opened id s₀ := by
  intro s ⟨hsame, hopen⟩
  have hstep := hx s s (.refl s)
  have hstays := hstep.isOpen (hsame.made.mpr hid) not_false
  rw [hsame.engine] at hstays
  exact ⟨hsame.trans (hstep.weaken fun _ h => h.elim), hstays hopen⟩

/-- When the parts of an engine have started, its federation is open. -/
private theorem open_startComponents {e : Engine} (hid : id < s₀.engines.size)
    (he : (s₀.engine id).federation = e.federation) :
    Ensures (SameEngine (fun _ => True) id s₀) (startComponents e) fun answer s =>
      SameEngine (fun _ => True) id s₀ s ∧ (answer = .ok () → s.IsOpen (s₀.engine id).federation) := by
  unfold startComponents
  refine .seq (R := fun answer s => SameEngine (fun _ => True) id s₀ s ∧
      (answer = .ok () → s.IsOpen (s₀.engine id).federation)) (fun s hs => ?_) fun started => ?_
  · rw [he]
    exact ⟨leave_startFederation _ s hs, open_of_startFederation⟩
  cases started with
  | error fault => exact .answer fun _ hs => ⟨hs.1, fun h => nomatch h⟩
  | ok _ =>
      refine .seq (R := fun _ => Opened id s₀) ?_ fun started => ?_
      · exact (keep_opened hid fun s => leave_startDispatcher _).weaken
          (fun _ hs => ⟨hs.1, hs.2 rfl⟩) fun _ _ hs => hs
      · cases started with
        | error fault => exact .answer fun _ hs => ⟨hs.1, fun h => nomatch h⟩
        | ok _ =>
            exact (keep_opened hid fun s => leave_startService _).weaken (fun _ hs => hs)
              fun _ _ hs => ⟨hs.1, fun _ => hs.2⟩

/-- The end of a start. -/
private theorem started_withLifecycle {α : Type} {s₁ s : System} {begun : Lifecycle}
    {f : Lifecycle → Lifecycle × α} (hid : id < s₀.engines.size)
    (hstate : (s₀.engine id).lifecycle.state = .notStarted)
    (hs₁ : s₁ = s₀.setEngine id { s₀.engine id with lifecycle := begun })
    (hs : SameEngine (fun _ => True) id s₁ s)
    (hopen : (f begun).1.state = .running → s.IsOpen (s₀.engine id).federation) :
    Started id s₀ ((withLifecycle id f).run s).2 := by
  subst hs₁
  have hmade := hs.made
  have hengine := hs.engine
  rw [System.setEngine, Array.size_setIfInBounds] at hmade
  rw [s₀.engine_setEngine, if_pos ⟨rfl, hid⟩] at hengine
  have hafter : System.engine ((withLifecycle id f).run s).2 id =
      { s₀.engine id with lifecycle := (f begun).1 } := by
    change (s.setEngine id _).engine id = _
    rw [s.engine_setEngine, if_pos ⟨rfl, hmade.mpr hid⟩, hengine]
  refine ⟨hstate, ?_, ?_, ?_, hs.clock, ?_, hs.ready, hs.timers⟩
  · rw [hafter]
    exact ⟨rfl, rfl, rfl⟩
  · rw [hafter]
  · rw [← hmade]
    exact iff_of_eq (congrArg (id < ·) Array.size_setIfInBounds)
  · rw [hafter]
    exact hopen

/-- Starting the engine. -/
private theorem startEngine_self (hid : id < s₀.engines.size) :
    SameEngine (fun _ => False) id s₀ ((startEngine id).run s₀).2 ∨
      Started id s₀ ((startEngine id).run s₀).2 := by
  unfold startEngine
  rw [fromSystem_bind]
  split
  · exact .inl (leave_writeLog _ s₀ (.refl s₀))
  rw [withLifecycle_bind]
  by_cases hstate : (s₀.engine id).lifecycle.state = .notStarted
  · rw [Lifecycle.beginStart_of_notStarted hstate]
    generalize hs₁ : s₀.setEngine id _ = s₁
    have hfederation : (s₁.engine id).federation = (s₀.engine id).federation := by
      rw [← hs₁, s₀.engine_setEngine, if_pos ⟨rfl, hid⟩]
    have hid₁ : id < s₁.engines.size := by
      rwa [← hs₁, System.setEngine, Array.size_setIfInBounds]
    refine .inr ((?_ : Ensures (SameEngine (fun _ => True) id s₁) _ fun _ => Started id s₀) s₁
      (.refl s₁))
    refine .andThen (leave_writeLog _) fun _ => ?_
    refine .seq (open_startComponents hid₁ hfederation) fun started => ?_
    cases started with
    | ok _ =>
        refine .andThen (R := Started id s₀) (fun s ⟨hs, hopen⟩ => ?_) fun _ => .answer fun _ hs => hs
        exact started_withLifecycle hid hstate hs₁.symm hs fun _ => hfederation ▸ hopen rfl
    | error fault =>
        refine .seq (R := fun _ => SameEngine (fun _ => True) id s₁)
          ((leave_writeLog _).weaken (fun _ hs => hs.1) fun _ _ hs => hs) fun _ => ?_
        refine .andThen (leave_shutdownDispatcher _) fun _ => ?_
        refine .andThen (leave_shutdownService _) fun _ => ?_
        refine .andThen (leave_shutdownFederation fun _ _ => trivial) fun _ => ?_
        refine .andThen (R := Started id s₀) (fun s hs => ?_) fun _ => .answer fun _ hs => hs
        exact started_withLifecycle hid hstate hs₁.symm hs fun h => nomatch h
  · obtain ⟨hsame, hother⟩ := Lifecycle.beginStart_of_ne hstate
    rw [hsame]
    left
    split
    · exact .setEngine s₀ fun _ => rfl
    · exact .setEngine s₀ fun _ => rfl
    · rename_i hbegun
      exact absurd hbegun hother

end start

/-! ## Shutting the engine down -/

/-- The engine was not closed and now is. -/
structure Asked (id : EngineId) (s s' : System) : Prop where
  before : (s.engine id).lifecycle.state.isClosed = false
  after : (s'.engine id).lifecycle.state.isClosed = true
  parts : SameParts (s.engine id) (s'.engine id)
  made : id < s'.engines.size ↔ id < s.engines.size
  clock : s.clock ≤ s'.clock

section shutdown

variable {id : EngineId} {s₀ : System}

/-- After its shutdown a dispatcher is closed. -/
private theorem closed_of_shutdownDispatcher {dispatcher : DispatcherId} {s : System}
    (h : dispatcher < s.dispatchers.size) :
    (System.dispatcher ((shutdownDispatcher dispatcher).run s).2 dispatcher).lifecycle.state.isClosed =
      true := by
  have hset : (s.setDispatcher dispatcher (s.dispatcher dispatcher).beginShutdown.2.1).dispatcher
      dispatcher = (s.dispatcher dispatcher).beginShutdown.2.1 :=
    s.dispatcher_setDispatcher_self h _
  have hclosed := (s.dispatcher dispatcher).lifecycle.beginShutdown_closed
  unfold shutdownDispatcher
  rw [withDispatcher_bind]
  refine (?_ : Ensures (fun s' => s'.dispatcher dispatcher =
      (s.dispatcher dispatcher).beginShutdown.2.1) _ fun _ s' =>
        (s'.dispatcher dispatcher).lifecycle.state.isClosed = true) _ hset
  refine .andThen (R := fun s' => s'.dispatcher dispatcher = _) (.update fun _ hs => hs) fun _ => ?_
  split
  · exact .update fun _ hs => (congrArg (·.lifecycle.state.isClosed) hs).trans hclosed
  · exact .answer fun _ hs => (congrArg (·.lifecycle.state.isClosed) hs).trans hclosed

/-- A shutdown that waits for jobs closes the dispatcher and leaves the rest to an errand. -/
theorem shutdownEngine_drain
    (hstate : (s₀.engine id).lifecycle.state = .starting ∨
      (s₀.engine id).lifecycle.state = .running) :
    ∃ s, SameEngine (fun _ => False) id (s₀.setEngine id { s₀.engine id with
        lifecycle := { (s₀.engine id).lifecycle with state := .stopping } }) s ∧
      ((s₀.engine id).dispatcher < s₀.dispatchers.size →
        (s.dispatcher (s₀.engine id).dispatcher).lifecycle.state.isClosed = true) ∧
      ((shutdownEngine id).run s₀).2 =
        (s.setEngine id { s.engine id with closing := .due }).enqueue [.close id] := by
  unfold shutdownEngine
  rw [fromSystem_bind, withLifecycle_bind, Lifecycle.beginShutdown_of_begun hstate]
  generalize hs₁ : s₀.setEngine id _ = s₁
  have hdispatchers : s₁.dispatchers = s₀.dispatchers := hs₁ ▸ rfl
  refine ⟨((shutdownService (s₀.engine id).service).run ((shutdownDispatcher
    (s₀.engine id).dispatcher).run (s₁.addLog [.stopping "engine" (s₀.engine id).settings.id])).2).2,
    ?_, fun hlt => ?_, rfl⟩
  · exact leave_shutdownService _ _ (leave_shutdownDispatcher _ _ (leave_writeLog _ s₁ (.refl s₁)))
  · rw [System.dispatcher, (Aside.shutdownService _ _).dispatchers]
    exact closed_of_shutdownDispatcher (hdispatchers ▸ hlt)

/-- The end of a shutdown, as far as the caller sees it. -/
private theorem asked_of_same {s : System} {closed : Lifecycle} (hid : id < s₀.engines.size)
    (hbefore : (s₀.engine id).lifecycle.state.isClosed = false) (hclosed : closed.state.isClosed = true)
    (hs : SameEngine (fun _ => True) id (s₀.setEngine id { s₀.engine id with lifecycle := closed }) s) :
    Asked id s₀ s where
  before := hbefore
  after := by
    rw [hs.engine, s₀.engine_setEngine, if_pos ⟨rfl, hid⟩]
    exact hclosed
  parts := by
    rw [hs.engine, s₀.engine_setEngine, if_pos ⟨rfl, hid⟩]
    exact ⟨rfl, rfl, rfl⟩
  made := by
    rw [hs.made, System.setEngine, Array.size_setIfInBounds]
  clock := hs.clock

/-- Shutting the engine down. -/
private theorem shutdownEngine_self (hid : id < s₀.engines.size) :
    SameEngine (fun _ => False) id s₀ ((shutdownEngine id).run s₀).2 ∨
      Asked id s₀ ((shutdownEngine id).run s₀).2 := by
  have hdrain : (s₀.engine id).lifecycle.state = .starting ∨
      (s₀.engine id).lifecycle.state = .running → Asked id s₀ ((shutdownEngine id).run s₀).2 := by
    intro hstate
    obtain ⟨s, hs, -, heq⟩ := shutdownEngine_drain hstate
    have hasked : Asked id s₀ s :=
      asked_of_same hid (by rcases hstate with h | h <;> rw [h] <;> rfl) rfl
        (hs.weaken fun _ h => h.elim)
    have hlt := hasked.made.mpr hid
    have hengine : System.engine ((shutdownEngine id).run s₀).2 id =
        { s.engine id with closing := .due } := by
      rw [heq]
      change (s.setEngine id _).engine id = _
      rw [s.engine_setEngine, if_pos ⟨rfl, hlt⟩]
    refine ⟨hasked.before, ?_, ?_, ?_, heq ▸ hasked.clock⟩
    · rw [hengine]
      exact hasked.after
    · rw [hengine]
      exact ⟨hasked.parts.federation, hasked.parts.dispatcher, hasked.parts.settings⟩
    · rw [← hasked.made, heq]
      exact iff_of_eq (congrArg (id < ·) Array.size_setIfInBounds)
  cases hstate : (s₀.engine id).lifecycle.state with
  | starting => exact .inr (hdrain (.inl hstate))
  | running => exact .inr (hdrain (.inr hstate))
  | notStarted =>
      unfold shutdownEngine
      rw [fromSystem_bind, withLifecycle_bind, Lifecycle.beginShutdown_of_notStarted hstate]
      have hclosed : ({ (s₀.engine id).lifecycle with state := .terminated } : Lifecycle).state.isClosed =
        true := rfl
      refine .inr (asked_of_same hid (hstate ▸ rfl) hclosed ?_)
      refine (?_ : Ensures (SameEngine (fun _ => True) id _) _ fun _ => SameEngine _ id _) _ (.refl _)
      refine .andThen (leave_shutdownDispatcher _) fun _ => ?_
      refine .andThen (leave_shutdownService _) fun _ => ?_
      exact leave_shutdownFederation fun _ _ => trivial
  | stopping =>
      unfold shutdownEngine
      rw [fromSystem_bind, withLifecycle_bind, Lifecycle.beginShutdown_of_closed (hstate ▸ rfl)]
      exact .inl (.setEngine s₀ fun _ => rfl)
  | terminated =>
      unfold shutdownEngine
      rw [fromSystem_bind, withLifecycle_bind, Lifecycle.beginShutdown_of_closed (hstate ▸ rfl)]
      exact .inl (.setEngine s₀ fun _ => rfl)

end shutdown

/-! ## Turns and other steps -/

/-- No two engines use the same federation. -/
def System.Apart (s : System) : Prop :=
  ∀ i j, i < s.engines.size → j < s.engines.size → i ≠ j →
    (s.engine i).federation ≠ (s.engine j).federation

/-- What a step can do to one engine. -/
inductive EngineStep (direct : FederationId → Prop) (id : EngineId) (s : System) : System → Prop
  | same {s'} : SameEngine direct id s s' → EngineStep direct id s s'
  /-- A moment has come for which an errand that closes the engine waits. -/
  | woken {t s'} : Alike direct id s s' → t ∈ s.timers → t.errand = .close id →
      t.deadline ≤ s'.clock → EngineStep direct id s s'
  /-- The dispatcher has terminated for which the engine waits. -/
  | drained {deadline s'} : Alike direct id s s' → (s.engine id).closing = .waiting deadline →
      (s'.dispatcher (s.engine id).dispatcher).lifecycle.state = .terminated →
      EngineStep direct id s s'
  | closing {rest} : s.ready = .close id :: rest →
      EngineStep direct id s ((runClose id).run { s with ready := rest }).2
  | started {s'} : id < s.engines.size → Started id s s' → EngineStep direct id s s'
  | asked {s'} : id < s.engines.size → Asked id s s' → EngineStep direct id s s'
  | made {e} : Fresh s e → id = s.engines.size →
      EngineStep direct id s { s with engines := s.engines.push e }

section steps

variable {direct : FederationId → Prop} {id : EngineId} {s s' : System}

private theorem sameEngine_enqueueJobs (dispatcher : DispatcherId) (jobs : List JobIndex) (s : System) :
    SameEngine direct id s (s.enqueue (jobs.map (.job dispatcher))) :=
  .enqueue s (by simp)

theorem sameEngine_jobTurn {dispatcher : DispatcherId} {index : JobIndex}
    (h : JobTurn dispatcher index s s') : SameEngine direct id s s' := by
  cases h with
  | idle _ => exact .refl s
  | queue _ _ => exact .setDispatcher s _ _
  | @goOn job s₁ s₂ s' hbegins hquiet hleaves =>
      have hbefore : SameEngine direct id s s₂ := by
        refine .trans ?_ (.of_quiet hquiet)
        cases hbegins with
        | running _ => exact .refl s
        | permitted _ => exact .refl s
        | granted _ _ => exact .setDispatcher s _ _
      refine hbefore.trans ?_
      cases hleaves with
      | ended ending =>
          obtain ⟨lines, drains, hdrains, heq⟩ := endJob_run dispatcher index job ending s₂
          rw [heq]
          refine .trans (.trans (.trans (.setDispatcher s₂ _ _) (.of_quiet (.of_aside (.addLog _ _))))
            (sameEngine_enqueueJobs _ _ _)) (.enqueue _ fun hclose => ?_)
          cases hdrains _ hclose
      | timed a millis => exact (SameEngine.setDispatcher s₂ _ _).trans (.after _ _ (by simp))
      | lined a name => exact (SameEngine.setDispatcher s₂ _ _).trans (.setGate _ _ _)

/-- When the clock moves on, the errand that closes the engine may have waited for that. -/
private theorem engineStep_wake (moment : Nat) (s : System) :
    EngineStep direct id s (s.wake moment) := by
  have halike : Alike direct id s (s.wake moment) :=
    ⟨rfl, .rfl, Nat.le_max_left _ _, fun _ _ hopen => hopen, fun t ht _ => (List.mem_filter.mp ht).1⟩
  by_cases hclose : .close id ∈ (s.timers.filter fun t => t.deadline == moment).map Timer.errand
  · obtain ⟨t, ht, hclose⟩ := List.mem_map.mp hclose
    obtain ⟨ht, hmoment⟩ := List.mem_filter.mp ht
    exact .woken halike ht hclose (Nat.le_trans (Nat.le_of_eq (beq_iff_eq.mp hmoment))
      (Nat.le_max_right _ _))
  · refine .same ⟨halike, ?_⟩
    exact List.count_append.trans (by rw [List.count_eq_zero.mpr hclose, Nat.add_zero])

/-- An engine that waits for a dispatcher. -/
private theorem waiting_of_mem {dispatcher : DispatcherId} (h : id ∈ waitingEngines s dispatcher) :
    (s.engine id).dispatcher = dispatcher ∧ ∃ deadline, (s.engine id).closing = .waiting deadline := by
  have hfilter := (List.mem_filter.mp h).2
  simp only [Bool.and_eq_true, beq_iff_eq] at hfilter
  refine ⟨hfilter.1, ?_⟩
  have hclosing := hfilter.2
  split at hclosing
  · rename_i deadline hwaiting
    exact ⟨deadline, hwaiting⟩
  · cases hclosing

/-- When a dispatcher has terminated, the engines that waited for it are woken. -/
private theorem engineStep_wakeEngines {s₀ : System} {dispatcher : DispatcherId}
    (hs : SameEngine direct id s₀ s)
    (hterminated : (s.dispatcher dispatcher).lifecycle.state = .terminated) :
    EngineStep direct id s₀ (s.wakeEngines dispatcher) := by
  have halike : Alike direct id s₀ (s.wakeEngines dispatcher) :=
    { hs.toAlike with timers := fun t ht => hs.timers t (List.mem_filter.mp ht).1 }
  by_cases hclose : .close id ∈ (waitingEngines s dispatcher).map Errand.close
  · obtain ⟨e, hmem, heq⟩ := List.mem_map.mp hclose
    obtain rfl : e = id := Errand.close.inj heq
    obtain ⟨hdispatcher, deadline, hwaiting⟩ := waiting_of_mem hmem
    rw [hs.engine] at hdispatcher hwaiting
    exact .drained halike hwaiting (hdispatcher ▸ hterminated)
  · refine .same ⟨halike, ?_⟩
    rw [← hs.ready]
    exact List.count_append.trans (by rw [List.count_eq_zero.mpr hclose, Nat.add_zero])

private theorem engineStep_drainTurn {s₀ : System} {dispatcher : DispatcherId}
    (hs : SameEngine direct id s₀ s) (h : DrainTurn dispatcher s s') : EngineStep direct id s₀ s' := by
  cases h with
  | idle _ => exact .same hs
  | drained hstopping _ =>
      exact engineStep_wakeEngines (hs.trans (.setDispatcher s _ _)) (s.state_of_drained hstopping)

private theorem engineStep_turn (happart : s.Apart) (deadline : Nat) :
    EngineStep direct id s ((turn deadline).run s).2 := by
  rcases turn_cases deadline s with ⟨-, heq⟩ | ⟨-, moment, -, heq⟩ | ⟨errand, rest, hready, heq⟩
  · rw [heq]
    exact .same (.refl s)
  · rw [heq]
    exact engineStep_wake moment s
  rw [heq]
  by_cases hclose : errand = .close id
  · subst hclose
    exact .closing hready
  have hpop : SameEngine direct id s { s with ready := rest } := .pop hready hclose
  cases errand with
  | job dispatcher index => exact .same (hpop.trans (sameEngine_jobTurn (runJob_turn dispatcher index _)))
  | drain dispatcher => exact engineStep_drainTurn hpop (runDrain_turn dispatcher _)
  | close other =>
      have hne : other ≠ id := fun h => hclose (h ▸ rfl)
      refine .same (hpop.trans ?_)
      rcases Nat.lt_or_ge other s.engines.size with hlt | hge
      · exact leave_closeTurn hne (fun hid => happart id other hid hlt (Ne.symm hne)) (runClose_turn other _)
      · have hidle : (System.engine { s with ready := rest } other).closing = .idle :=
          congrArg Engine.closing (s.engine_out hge)
        exact ((runClose_turn other _).eq_of_idle hidle).symm ▸ .refl _

private theorem engineStep_submit (dispatcher : DispatcherId) (work : WorkItem Processor) (s : System) :
    SameEngine direct id s ((submitWork dispatcher work).run s).2 := by
  have hset : ∀ d, SameEngine direct id s ({ s with nextJob := s.nextJob + 1 }.setDispatcher
      dispatcher d) := fun d => .of_engines rfl (Nat.le_refl _) (fun _ _ hopen => hopen) rfl rfl
  by_cases haccepts : ((s.dispatcher dispatcher).accepting &&
      (s.dispatcher dispatcher).lifecycle.isRunning) = true
  · rw [submitWork_accepted work haccepts]
    exact (hset _).trans (.enqueue _ (by simp))
  · rw [submitWork_rejected work haccepts]
    exact hset _

/-- What a step does to an engine. -/
theorem engineStep_of_step {events : List JobEvent} (id : EngineId) (happart : s.Apart)
    (h : Step direct s events s') : EngineStep direct id s s' := by
  have hown : ∀ {other}, other < s.engines.size → other ≠ id → id < s.engines.size →
      (s.engine id).federation ≠ (s.engine other).federation :=
    fun hother hne hid => happart id _ hid hother (Ne.symm hne)
  cases h with
  | quiet hquiet => exact .same (.of_quiet hquiet)
  | turn deadline => exact engineStep_turn happart deadline
  | pass moment =>
      exact .same (.of_engines rfl (Nat.le_max_left _ _) (fun _ _ hopen => hopen) rfl rfl)
  | submit dispatcher work => exact .same (engineStep_submit dispatcher work s)
  | openGate name permits =>
      refine .same (.trans (.setGate s name _) (.enqueue _ fun hclose => ?_))
      obtain ⟨_, _, hjob⟩ := List.mem_map.mp hclose
      cases hjob
  | startFederation federation => exact .same (leave_startFederation federation s (.refl s))
  | shutdownFederation federation _ hdirect =>
      exact .same (leave_shutdownFederation (fun _ _ => hdirect) s (.refl s))
  | startDispatcher dispatcher => exact .same (leave_startDispatcher dispatcher s (.refl s))
  | shutdownDispatcher dispatcher => exact .same (leave_shutdownDispatcher dispatcher s (.refl s))
  | @startEngine other _ hother =>
      by_cases hid : other = id
      · subst hid
        rcases startEngine_self hother with hsame | hstarted
        · exact .same (hsame.weaken fun _ h => h.elim)
        · exact .started hother hstarted
      · exact .same (leave_startEngine hid (hown hother hid))
  | @shutdownEngine other _ hother =>
      by_cases hid : other = id
      · subst hid
        rcases shutdownEngine_self hother with hsame | hasked
        · exact .same (hsame.weaken fun _ h => h.elim)
        · exact .asked hother hasked
      · exact .same (leave_shutdownEngine hid (hown hother hid))
  | addDispatcher _ _ =>
      exact .same (.of_engines rfl (Nat.le_refl _) (fun _ _ hopen => hopen) rfl rfl)
  | @addEngine _ e hfresh =>
      by_cases hid : id = s.engines.size
      · exact .made hfresh hid
      · refine .same ⟨⟨?_, ?_, Nat.le_refl _, fun _ _ hopen => hopen, fun _ ht _ => ht⟩, rfl⟩
        · change (s.engines.push e).getD id default = _
          rw [System.getD_push, if_neg hid]
          rfl
        · change id < (s.engines.push e).size ↔ _
          rw [Array.size_push]
          exact ⟨fun h => (Nat.lt_succ_iff_lt_or_eq.mp h).resolve_right hid, Nat.lt_succ_of_lt⟩

end steps

end ContentEngine
