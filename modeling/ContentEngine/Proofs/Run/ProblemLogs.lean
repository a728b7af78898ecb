import ContentEngine.Proofs.Run.Accounts
import ContentEngine.Proofs.Run.Mutations
import ContentEngine.Proofs.Run.Permits

/-!
# Logs keep the newest problems

A bus, a dispatcher and a federation are made with a capacity for problems, which is at least one whatever is
configured.  From then on, whatever happens, each keeps exactly the newest problems among those that it put
on record: as many as it has room for, in the order in which they were recorded.  A batch of problems may be
larger than the room that there is for it.

## Strategy

Whatever happens puts on record what its account says (`Happening.logged`), and so does a run, one after the
other.  A log that was empty holds what was pushed since, one problem after the other, and that is what is
left of all if only the newest stay (`Problems.pushAllBounded_eq`).  An engine that is built has logs of its
own, in which building it put nothing.
-/

namespace ContentEngine

/-! ## Calls to components -/

namespace Unrecorded

theorem startFederation (id : FederationId) (s : System) : Unrecorded s ((startFederation id).run s).2 := by
  unfold ContentEngine.startFederation Federation.start
  rw [fromSystem_bind]
  cases (s.federation id).lifecycle.beginStart with
  | mk lifecycle result =>
      match result with
      | .error fault => exact refl s
      | .ok false => exact intro (.of_eq rfl) (.of_eq rfl) (.set rfl)
      | .ok true => exact intro (.of_eq rfl) (.of_eq rfl) (.set rfl)

theorem startDispatcher (id : DispatcherId) (s : System) :
    Unrecorded s ((startDispatcher id).run s).2 := by
  rcases startDispatcher_run id s with heq | ⟨d, lines, hstart, heq⟩
  · rw [heq]
    exact refl s
  · rw [heq]
    refine intro (.of_eq rfl) (.set ?_) (.of_eq rfl)
    unfold Dispatcher.start at hstart
    split at hstart <;> cases hstart <;> rfl

theorem startService (id : ServiceId) (s : System) : Unrecorded s ((startService id).run s).2 := by
  suffices h : Ensures (· = s) (ContentEngine.startService id) fun _ => Unrecorded s from h s rfl
  refine .exchange ?_
  rintro _ rfl
  split
  · exact refl _
  · exact of_eq rfl rfl rfl
  · exact intro (.set rfl) (.of_eq rfl) (.of_eq rfl)

theorem shutdownDispatcher (id : DispatcherId) (s : System) :
    Unrecorded s ((shutdownDispatcher id).run s).2 := by
  unfold ContentEngine.shutdownDispatcher
  rw [withDispatcher_bind]
  refine intro (.of_eq ?_) ?_ (.of_eq ?_)
  all_goals
    dsimp only
    rw [run_bind]
  · split <;> rfl
  · split <;> exact .set rfl
  · split <;> rfl

theorem shutdownService (id : ServiceId) (s : System) : Unrecorded s ((shutdownService id).run s).2 := by
  suffices h : Ensures (· = s) (ContentEngine.shutdownService id) fun _ => Unrecorded s from h s rfl
  refine .update ?_
  rintro _ rfl
  split
  · exact of_eq rfl rfl rfl
  · refine intro (.set ?_) (.of_eq rfl) (.of_eq rfl)
    split <;> rfl

end Unrecorded

/-- Calls to the parts of an engine put nothing on record. -/
theorem upholding_unrecorded (s₀ : System) (id : EngineId) (e : Engine) :
    Upholding (Unrecorded s₀) id e where
  writeLog _ _ hs := hs.trans (.of_eq rfl rfl rfl)
  withLifecycle _ _ hs := hs.trans (.of_eq rfl rfl rfl)
  startFederation s hs := hs.trans (.startFederation e.federation s)
  startDispatcher s hs := hs.trans (.startDispatcher e.dispatcher s)
  startService s hs := hs.trans (.startService e.service s)
  shutdownFederation s hs := hs.trans (.shutdownFederation e.federation s)
  shutdownDispatcher s hs := hs.trans (.shutdownDispatcher e.dispatcher s)
  shutdownService s hs := hs.trans (.shutdownService e.service s)

/-! ## Building -/

namespace Account

/-- The sources that the configuration describes are read and registered. -/
def buildOn (root : NodePath) (federation : FederationId) (graph : Graph) : Account :=
  (scanConfiguration graph root).andThen (ContentEngine.scanConfiguration graph root) fun scan =>
    applyDescriptors federation scan.sources

/-- The configuration source is handed over, and then the sources are read from it. -/
def raise (b : Blueprint) (root : NodePath) (federation : FederationId) : Account :=
  (registerConnector federation b.plan).andThen
    (ContentEngine.registerConnector federation b.settings.configurationSource b.plan) fun
  | .error _ => nothing
  | .ok () => after (Repository.configurationGraph ⟨federation, root, b.settings.workspace⟩) fun
    | .error _ => nothing
    | .ok graph => buildOn root federation graph

def buildEngine (b : Blueprint) : Account := fun s =>
  match b.settings.validate, b.settings.configurationRoot with
  | .ok (), .ok root => raise b root s.federations.size (b.grounds s)
  | _, _ => []

end Account

theorem tells_buildOn (b : Blueprint) (root : NodePath) (bus : BusId) (federation : FederationId)
    (graph : Graph) :
    (Account.buildOn root federation graph).Tells (buildOn b root bus federation graph) := by
  unfold buildOn
  refine .seq (tells_scanConfiguration graph root) fun scan => ?_
  refine .head (tells_applyDescriptors federation scan.sources) fun applied => ?_
  have hobserve : ∀ o, Account.nothing.Tells (observe bus o) := fun o =>
    .of_unrecorded fun s => .intro (.set rfl) (.of_eq rfl) (.of_eq rfl)
  refine .head (hobserve _) fun observer => ?_
  split
  · exact .answer _
  · rename_i d _
    exact .of_unrecorded fun s => .intro (.of_eq rfl) (.push d) (.of_eq rfl)

theorem tells_raise (b : Blueprint) (root : NodePath) (bus : BusId) (federation : FederationId) :
    (Account.raise b root federation).Tells (b.raise root bus federation) := by
  have hlooked : ∀ r : Repository, Account.nothing.Tells r.configurationGraph := fun r =>
    .of_unrecorded fun s => Repository.ensures_configurationGraph r s (.refl s)
  refine .seq (tells_registerConnector federation _ b.plan) fun registered => ?_
  cases registered with
  | error fault => exact .answer _
  | ok _ =>
      refine .tail (hlooked _) fun graph => ?_
      cases graph with
      | error fault => exact .answer _
      | ok graph => exact tells_buildOn b root bus federation graph

theorem tells_buildEngine (b : Blueprint) : (Account.buildEngine b).Tells (buildEngine b) := by
  intro s
  unfold Account.buildEngine
  cases hvalid : b.settings.validate with
  | error fault =>
      unfold buildEngine
      dsimp only
      rw [hvalid]
      exact .of_unrecorded (.refl s)
  | ok _ =>
      obtain ⟨root, hroot⟩ := Settings.configurationRoot_of_validate hvalid
      have hgrounds : Unrecorded s (b.grounds s) := .intro (.push _) (.of_eq rfl) (.push _)
      rw [buildEngine_run hvalid hroot, hroot]
      exact .after hgrounds (tells_raise b root s.buses.size s.federations.size _)

/-- Nothing is put on record but by dispatchers. -/
def Discreet (s s' : System) : Prop :=
  ∀ c, (∀ id, c ≠ .dispatcher id) → s.Has c → s'.Has c ∧ s'.problemLog c = s.problemLog c

namespace Discreet

variable {s s' s'' : System}

theorem of_unrecorded (h : Unrecorded s s') : Discreet s s' :=
  fun c _ => h c

theorem trans (h : Discreet s s') (h' : Discreet s' s'') : Discreet s s'' := by
  intro c hc hmade
  obtain ⟨hmade', hlog⟩ := h c hc hmade
  obtain ⟨hmade'', hlog'⟩ := h' c hc hmade'
  exact ⟨hmade'', hlog'.trans hlog⟩

/-- The background changes no bus, and of federations nothing but lifecycles. -/
theorem of_background (h : Background s s') : Discreet s s' := by
  intro c hc hmade
  cases c with
  | bus id =>
      have hstay : LogsStay Bus.problemLog s.buses s'.buses := .of_eq h.buses
      exact hstay id hmade
  | dispatcher id => exact absurd rfl (hc id)
  | federation id =>
      obtain ⟨lifecycle, heq⟩ := h.federations id
      have hlog := congrArg Federation.problemLog heq
      exact ⟨Nat.lt_of_lt_of_eq hmade h.size.symm, hlog⟩

/-- While sources are registered and read, buses and federations put nothing on record. -/
theorem tough (s₀ : System) : Tough fun _ s => Discreet s₀ s where
  slim hslight hfederations hs :=
    hs.trans (of_unrecorded (.of_eq hslight.buses hslight.dispatchers hfederations))
  attend id _ _ hproblem hs := hs.trans (of_unrecorded (.act _ id hproblem))
  turn deadline _ s hs :=
    hs.trans (of_background ((Background.enduring s).turn deadline s (.refl s)))
  pass _ _ _ hs := hs.trans (of_unrecorded (.of_eq rfl rfl rfl))
  install id name connector descriptor _ s hs := hs.trans (of_unrecorded
    (.withFederation id (fun f d => install_problemLog f d name connector descriptor) s))
  remove id name _ s hs := hs.trans (of_unrecorded
    (.withFederation id (fun f d => remove_problemLog f d name) s))
  request id _ _ s hs := hs.trans (of_unrecorded (.withFederation id (fun _ _ => rfl) s))
  resume id _ _ s hs := hs.trans (of_unrecorded (.withFederation id (fun _ _ => rfl) s))
  abandon hs := hs
  giveBack _ _ _ hs := hs.trans (of_unrecorded (.of_eq rfl rfl rfl))

end Discreet

/-- The components of an engine that keep problems. -/
def Engine.components (e : Engine) : List Component :=
  [.bus e.bus, .dispatcher e.dispatcher, .federation e.federation]

/-- A component was made with a configured capacity, and has put nothing on record. -/
structure Blank (capacity : Nat) (c : Component) (s : System) : Prop where
  made : s.Has c
  log : s.problemLog c = ⟨[], max capacity 1⟩

theorem Blank.dispatcher {engine : String} {federation : FederationId} {poolSize capacity : Nat}
    {d : Dispatcher} (h : Dispatcher.new? engine federation poolSize capacity = some d) {s s' : System}
    (hdispatchers : s'.dispatchers = s.dispatchers.push d) :
    Blank capacity (.dispatcher s.dispatchers.size) s' := by
  obtain ⟨hproblems, hcapacity⟩ := Dispatcher.problems_of_new? h
  refine ⟨?_, ?_⟩
  · change s.dispatchers.size < s'.dispatchers.size
    rw [hdispatchers, Array.size_push]
    exact Nat.lt_succ_self _
  · change (s'.dispatchers.getD s.dispatchers.size default).problemLog = _
    rw [hdispatchers, System.getD_push, if_pos rfl, Dispatcher.problemLog, hproblems, hcapacity]

theorem blank_grounds (b : Blueprint) (s : System) :
    Blank b.settings.problemCapacity (.bus s.buses.size) (b.grounds s) ∧
      Blank b.settings.problemCapacity (.federation s.federations.size) (b.grounds s) := by
  refine ⟨⟨?_, ?_⟩, ?_, ?_⟩
  · exact Nat.lt_of_lt_of_eq (Nat.lt_succ_self _) (Array.size_push _).symm
  · exact congrArg Bus.problemLog ((System.getD_push ..).trans (if_pos rfl))
  · exact Nat.lt_of_lt_of_eq (Nat.lt_succ_self _) (Array.size_push _).symm
  · exact congrArg Federation.problemLog (b.federation_grounds s)

/-- An engine that is made on a bus and a federation which have put nothing on record has a dispatcher that
has put nothing on record either. -/
private theorem blank_buildOn (b : Blueprint) (root : NodePath) {bus : BusId} {federation : FederationId}
    (graph : Graph) {s₀ : System} (hbus : Blank b.settings.problemCapacity (.bus bus) s₀)
    (hfederation : Blank b.settings.problemCapacity (.federation federation) s₀) :
    Ensures (Discreet s₀) (buildOn b root bus federation graph) fun answer s => ∀ id, answer = .ok id →
      ∀ c ∈ (s.engine id).components, Blank b.settings.problemCapacity c s := by
  have htough := Discreet.tough s₀
  unfold buildOn
  refine .andThen (htough.scanConfiguration [] graph root) fun scan => ?_
  refine .andThen (htough.applyDescriptors [] federation scan.sources) fun applied => ?_
  dsimp only
  refine .andThen (htough.attendOn [] bus (.register (.configuration federation root b.settings.workspace))
    rfl rfl fun _ => rfl) fun observer => ?_
  split
  · exact .answer fun _ _ _ hid => nomatch hid
  · rename_i d hnew
    intro s hs id hid c hc
    obtain rfl := Except.ok.inj hid
    change c ∈ Engine.components ((s.engines.push _).getD s.engines.size default) at hc
    rw [System.getD_push, if_pos rfl] at hc
    rcases List.mem_cons.mp hc with rfl | hc
    · obtain ⟨hmade, hlog⟩ := hs (.bus bus) nofun hbus.made
      exact ⟨hmade, hlog.trans hbus.log⟩
    rcases List.mem_cons.mp hc with rfl | hc
    · exact .dispatcher hnew rfl
    · obtain rfl := List.mem_singleton.mp hc
      obtain ⟨hmade, hlog⟩ := hs (.federation federation) nofun hfederation.made
      exact ⟨hmade, hlog.trans hfederation.log⟩

/-- The components of an engine as it is built have put nothing on record. -/
theorem blank_buildEngine {b : Blueprint} {id : EngineId} {s s' : System}
    (h : (buildEngine b).run s = (.ok id, s')) {c : Component} (hc : c ∈ (s'.engine id).components) :
    Blank b.settings.problemCapacity c s' := by
  obtain ⟨hbus, hfederation⟩ := blank_grounds b s
  have hraise : ∀ root, Ensures (Discreet (b.grounds s)) (b.raise root s.buses.size s.federations.size)
      fun answer t => ∀ id, answer = .ok id →
        ∀ c ∈ (t.engine id).components, Blank b.settings.problemCapacity c t := by
    intro root
    unfold Blueprint.raise
    refine .andThen ((Discreet.tough _).registerConnector [] _ _ _) fun registered => ?_
    cases registered with
    | error fault => exact .answer fun _ _ _ hid => nomatch hid
    | ok _ =>
        refine .andThen (Repository.ensures_configurationGraph _) fun graph => ?_
        cases graph with
        | error fault => exact .answer fun _ _ _ hid => nomatch hid
        | ok graph => exact blank_buildOn b root graph hbus hfederation
  cases hvalid : b.settings.validate with
  | error fault =>
      unfold buildEngine at h
      dsimp only at h
      rw [hvalid] at h
      exact nomatch h
  | ok _ =>
      obtain ⟨root, hroot⟩ := Settings.configurationRoot_of_validate hvalid
      have hblank := hraise root (b.grounds s) (.of_unrecorded (.refl _))
      rw [← buildEngine_run hvalid hroot, h] at hblank
      exact hblank id rfl c hc

/-- How a component comes to be made with a configured capacity: by itself, or with an engine. -/
inductive Component.Made (capacity : Nat) : Component → System → Prop
  | bus (engine s) : Made capacity (.bus s.buses.size) ((addBus (.new engine capacity)).run s).2
  | dispatcher {engine federation poolSize d} (s) :
      Dispatcher.new? engine federation poolSize capacity = some d →
      Made capacity (.dispatcher s.dispatchers.size) ((addDispatcher d).run s).2
  | federation (engine source bus connectors maxIdle s) :
      Made capacity (.federation s.federations.size)
        ((addFederation (.new engine source bus connectors maxIdle capacity)).run s).2
  | built {b : Blueprint} {id s s' c} : b.settings.problemCapacity = capacity →
      (buildEngine b).run s = (.ok id, s') → c ∈ (s'.engine id).components → Made capacity c s'

theorem Component.Made.blank {capacity : Nat} {c : Component} {s : System} (h : c.Made capacity s) :
    Blank capacity c s := by
  have hpushed : ∀ {α : Type} (items : Array α) a, items.size < (items.push a).size := fun items a =>
    Nat.lt_of_lt_of_eq (Nat.lt_succ_self _) (Array.size_push a).symm
  cases h with
  | bus engine s =>
      exact ⟨hpushed _ _, congrArg Bus.problemLog ((System.getD_push ..).trans (if_pos rfl))⟩
  | dispatcher s hnew => exact .dispatcher hnew rfl
  | federation engine source bus connectors maxIdle s =>
      exact ⟨hpushed _ _, congrArg Federation.problemLog ((System.getD_push ..).trans (if_pos rfl))⟩
  | built hcapacity hbuilt hc => exact hcapacity ▸ blank_buildEngine hbuilt hc

/-! ## Runs -/

/-- What can happen in a system, and what is put on record then.  An operation may happen as a whole.
Operations that overlap where they wait happen part by part: somebody changes the `sources` of a federation,
an observer has `answered` in a delivery, a reload has come to its end and is `reloaded`, and what is done to
stores and connections in between is `aside`. -/
inductive Happening (s : System) : List Recording → System → Prop
  | turn (deadline) : Happening s (Account.turn s) ((turn deadline).run s).2
  /-- Somebody waits, for whatever condition, and lets the background go on meanwhile. -/
  | await (millis stop) : Happening s (Account.waitFor millis stop s) ((waitFor millis stop).run s).2
  | publish (bus event) : Happening s (Account.publish bus event s) ((publish bus event).run s).2
  /-- A store is changed, and the change announced on the bus of the source that the store serves. -/
  | change {α : Type} (depth id) (change : Store → Except StoreFault (α × Store × Option Change)) :
      Happening s (Account.changeStore depth id (fun t => (change t).map Prod.snd) s)
        ((changeStore depth id change).run s).2
  | edit (store) (e : StoreEdit) :
      Happening s (Account.changeStore s.eventDepth store e.change s) (e.run store s)
  | reload (id root workspace) : Happening s (Account.reloadSources id root workspace s)
      ((reloadSources id root workspace).run s).2
  | apply (id descriptors) : Happening s (Account.applyDescriptors id descriptors s)
      ((applyDescriptors id descriptors).run s).2
  | registerSource (id descriptor) : Happening s (Account.registerSource id descriptor s)
      ((registerSource id descriptor).run s).2
  | registerConnector (id name plan) : Happening s (Account.registerConnector id plan s)
      ((registerConnector id name plan).run s).2
  | removeSource (id name) : Happening s [] ((removeSource id name).run s).2
  | borrow (id name) : Happening s (Account.borrowConnection id name s)
      ((borrowConnection id name).run s).2
  | read (graph : Graph) (root depth) : Happening s (Account.subgraph graph s)
      ((graph.subgraph root depth).run s).2
  | submit (id work) : Happening s [] ((submitWork id work).run s).2
  /-- Observers come to a bus and go. -/
  | act (bus act) : Bus.Act.problem? act = none → Happening s [] (s.setBus bus ((s.bus bus).after act))
  | build (blueprint) : Happening s (Account.buildEngine blueprint s) ((buildEngine blueprint).run s).2
  | startEngine (id) : Happening s [] ((startEngine id).run s).2
  | shutdownEngine (id) : Happening s [] ((shutdownEngine id).run s).2
  | startFederation (id) : Happening s [] ((startFederation id).run s).2
  | startDispatcher (id) : Happening s [] ((startDispatcher id).run s).2
  | startService (id) : Happening s [] ((startService id).run s).2
  | shutdownFederation (id) : Happening s [] ((shutdownFederation id).run s).2
  | shutdownDispatcher (id) : Happening s [] ((shutdownDispatcher id).run s).2
  | shutdownService (id) : Happening s [] ((shutdownService id).run s).2
  | addBus (bus) : Happening s [] ((addBus bus).run s).2
  | addDispatcher (dispatcher) : Happening s [] ((addDispatcher dispatcher).run s).2
  | addFederation (federation) : Happening s [] ((addFederation federation).run s).2
  /-- Sources are registered or removed, or the federation is started or closed. -/
  | sources (id pools lifecycle) :
      Happening s [] (s.setFederation id { s.federation id with pools := pools, lifecycle := lifecycle })
  /-- In a delivery an observer has answered, and the answer may be a failure. -/
  | answered (bus event observer outcome) : Happening s
      (Recording.ofOutcome bus observer event outcome) (s.conclude bus event observer outcome)
  /-- A reload has come to its end, whatever it has found. -/
  | reloaded (id read applying) :
      Happening s [.reloaded id ((s.federation id).reloadProblems read applying)]
        (s.setFederation id
          ((s.federation id).recordProblems ((s.federation id).reloadProblems read applying)))
  /-- Whatever else happens, to no bus, dispatcher or federation. -/
  | aside {s' : System} : s'.buses = s.buses → s'.dispatchers = s.dispatchers →
      s'.federations = s.federations → Happening s [] s'

/-- What comes of whatever happens one after the other, and what was put on record. -/
inductive Chronicle (s₀ : System) : List Recording → System → Prop
  | start : Chronicle s₀ [] s₀
  | next {history s more s'} : Chronicle s₀ history s → Happening s more s' →
      Chronicle s₀ (history ++ more) s'

/-- An edit puts on record what a change of the store does. -/
private theorem logged_edit (store : StoreId) (e : StoreEdit) (s : System) :
    Logged s (Account.changeStore s.eventDepth store e.change s) (e.run store s) := by
  obtain ⟨α, answer, hrun⟩ := e.run_eq store s
  have hchange : (fun t => ((e.change t).map fun changed => (answer changed.2, changed)).map Prod.snd) =
      e.change := funext fun t => by cases e.change t <;> rfl
  have hlogged := tells_changeStore s.eventDepth store
    (fun t => (e.change t).map fun changed => (answer changed.2, changed)) s
  rw [hchange] at hlogged
  rwa [hrun]

/-- Whatever happens puts on record what its account says. -/
theorem Happening.logged {s s' : System} {history : List Recording} (h : Happening s history s') :
    Logged s history s' := by
  cases h with
  | turn deadline => exact tells_turn deadline s
  | await millis stop => exact tells_waitFor millis stop s
  | publish bus event => exact tells_publish bus event s
  | change depth id change => exact tells_changeStore depth id change s
  | edit store e => exact logged_edit store e s
  | reload id root workspace => exact tells_reloadSources id root workspace s
  | apply id descriptors => exact tells_applyDescriptors id descriptors s
  | registerSource id descriptor => exact tells_registerSource id descriptor s
  | registerConnector id name plan => exact tells_registerConnector id name plan s
  | removeSource id name => exact tells_removeSource id name s
  | borrow id name => exact tells_borrowConnection id name s
  | read graph root depth => exact tells_subgraph graph root depth s
  | submit id work => exact tells_submitWork id work s
  | act bus act hproblem => exact .of_unrecorded (.act s bus hproblem)
  | build b => exact tells_buildEngine b s
  | startEngine id => exact .of_unrecorded ((upholding_unrecorded s id _).startEngine (.refl s))
  | shutdownEngine id =>
      refine .of_unrecorded ((upholding_unrecorded s id _).shutdownEngine (fun t ht => ?_) (.refl s))
      exact ht.trans (.of_eq rfl rfl rfl)
  | startFederation id => exact .of_unrecorded (.startFederation id s)
  | startDispatcher id => exact .of_unrecorded (.startDispatcher id s)
  | startService id => exact .of_unrecorded (.startService id s)
  | shutdownFederation id => exact .of_unrecorded (.shutdownFederation id s)
  | shutdownDispatcher id => exact .of_unrecorded (.shutdownDispatcher id s)
  | shutdownService id => exact .of_unrecorded (.shutdownService id s)
  | addBus bus => exact .of_unrecorded (.intro (.push bus) (.of_eq rfl) (.of_eq rfl))
  | addDispatcher d => exact .of_unrecorded (.intro (.of_eq rfl) (.push d) (.of_eq rfl))
  | addFederation f => exact .of_unrecorded (.intro (.of_eq rfl) (.of_eq rfl) (.push f))
  | sources id pools lifecycle => exact .of_unrecorded (.intro (.of_eq rfl) (.of_eq rfl) (.set rfl))
  | answered bus event observer outcome => exact logged_conclude s bus event observer outcome
  | reloaded id read applying => exact logged_recordProblems s id _
  | aside hbuses hdispatchers hfederations =>
      exact .of_unrecorded (.of_eq hbuses hdispatchers hfederations)

/-- So does a run. -/
theorem Chronicle.logged {s₀ s : System} {history : List Recording} (h : Chronicle s₀ history s) :
    Logged s₀ history s := by
  induction h with
  | start => exact .of_unrecorded (.refl s₀)
  | next _ hnext ih => exact ih.trans hnext.logged

/-! ## What is kept -/

/-- The problems that a component keeps are the newest of those that it put on record: one for each
observer of a bus that failed; job by job, what the processor reported, or that it failed; and reload by
reload what was found. -/
structure KeepsNewest (capacity : Nat) (c : Component) (history : List Recording) (s : System) : Prop where
  newest : (s.problemLog c).problems = Problems.newest (max capacity 1) (recordedBy c history)
  length : (s.problemLog c).problems.length = min (recordedBy c history).length (max capacity 1)

/-- **Logs keep the newest problems.** -/
theorem newest_problems_kept {capacity : Nat} {c : Component} {s₀ s : System} {history : List Recording}
    (hmade : c.Made capacity s₀) (hrun : Chronicle s₀ history s) : KeepsNewest capacity c history s := by
  have hnewest : (s.problemLog c).problems = Problems.newest (max capacity 1) (recordedBy c history) := by
    obtain ⟨-, hlog⟩ := hrun.logged c hmade.blank.made
    rw [hlog, hmade.blank.log]
    exact Problems.pushAllBounded_eq [] (recordedBy c history) (Nat.zero_le _)
  refine ⟨hnewest, ?_⟩
  rw [hnewest, Problems.newest, List.length_drop]
  omega

/-- With a capacity of zero configured, a bus keeps the second failure of two observers, and a federation the
second problem of two reloads. -/
theorem newest_problems_kept_twice :
    let made := ((addBus (.new "engine" 0)).run .empty).2
    let first := made.setBus 0 ((made.bus 0).after (.register (.scripted "first" (.refuse ["no"]))))
    let second := first.setBus 0 ((first.bus 0).after (.register (.scripted "second" (.refuse ["no"]))))
    let told := ((publish 0 .added).run second).2
    let failures := Account.publish 0 .added second
    let founded := ((addFederation (.new "engine" "config" 0 (.empty "" fun _ => "") 0 0)).run .empty).2
    let once := ((reloadSources 0 .root none).run founded).2
    let twice := ((reloadSources 0 .root none).run once).2
    let reloads := Account.reloadSources 0 .root none founded ++ Account.reloadSources 0 .root none once
    (KeepsNewest 0 (.bus 0) failures told ∧
      (recordedBy (.bus 0) failures).map Problem.resource = [some "first", some "second"] ∧
      (told.problemLog (.bus 0)).problems.map Problem.resource = [some "second"]) ∧
    KeepsNewest 0 (.federation 0) reloads twice ∧
      (recordedBy (.federation 0) reloads).length = 2 ∧
      (twice.problemLog (.federation 0)).problems.length = 1 :=
  ⟨⟨newest_problems_kept (.bus "engine" .empty)
      (((Chronicle.start.next (.act 0 (.register (.scripted "first" (.refuse ["no"]))) rfl)).next
        (.act 0 (.register (.scripted "second" (.refuse ["no"]))) rfl)).next (.publish 0 .added)),
      by decide +kernel, by decide +kernel⟩,
    newest_problems_kept (.federation "engine" "config" 0 _ 0 .empty)
      ((Chronicle.start.next (.reload 0 .root none)).next (.reload 0 .root none)),
    by decide +kernel, by decide +kernel⟩

end ContentEngine
