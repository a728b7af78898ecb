import ContentEngine.Proofs.Run.EventJobs
import ContentEngine.Proofs.Store.Surgery

/-!
# Jobs and the content they ask for

A job that an edit of a store calls for reads its input from the store.  After every edit but a move there
is a node at the input, in the workspace that the edit is about: a removal calls for no jobs, and any
other edit lists the path of a node that is there.  A move lists the path that it leaves as well, and a
rule that matches that path calls for a job without content.

## Strategy

The paths of a change are known from the edit, and so is whether the store holds a node there afterwards.
The input of a job is one of them, and telling a service of the event adds no other jobs than those its
rules call for.
-/

namespace ContentEngine

/-! ## Where an edit leaves content -/

/-- A move takes a node away from its old path, and there is one at the new path. -/
theorem Store.Sound.ends_of_move {s s' : Store} {a b : String} {c : Change} (h : s.Sound)
    (hmove : s.move a b = .ok (s', c)) :
    ∃ source target, NodePath.parse a = .ok source ∧
      c = ⟨s.defaultWorkspace, .moved, [source, target]⟩ ∧
      s'.lookup? s.defaultWorkspace source = none ∧
      (s'.lookup? s.defaultWorkspace target).isSome = true := by
  obtain ⟨source, target, nodes, ha, hb, hnodes, -, hthere, -, -, hchange⟩ := Store.move_ok.mp hmove
  have hmoved := h.move ha hb hmove
  refine ⟨source, target, ha, hchange, hmoved.gone source source.isAtOrBelow_self, ?_⟩
  have hcarried := hmoved.carried [] (List.forall_mem_nil _)
  rw [source.append_nil, target.append_nil, Store.lookup?_of_workspace? hnodes source] at hcarried
  rw [hcarried]
  exact hthere

namespace StoreEdit

/-- The path that an edit leaves: the old one of a move. -/
def vacated? : StoreEdit → Option NodePath
  | move source _ => (NodePath.parse source).toOption
  | _ => none

/-- Of the paths of a change that is no removal, those have a node afterwards that the edit does not
leave. -/
theorem lookup?_of_change {s contents : Store} {e : StoreEdit} {c : Change} (hsound : s.Sound)
    (h : e.change s = .ok (contents, some c)) (hkind : c.kind ≠ .removed) {p : NodePath}
    (hp : p ∈ c.paths) : (contents.lookup? c.workspace p).isSome ↔ e.vacated? ≠ some p := by
  cases e with
  | put workspace path properties =>
      obtain ⟨_, hc, hput⟩ := ok_of_map h
      obtain rfl := Option.some.inj hc
      obtain ⟨path, nodes, -, -, rfl, hworkspace, hpaths⟩ := Store.putIn_ok hput
      obtain rfl : p = path := by simpa [hpaths] using hp
      rw [hworkspace, Store.lookup?_setWorkspace, Workspace.get?_put, if_pos rfl]
      simp [vacated?]
  | setProperty path name value =>
      obtain ⟨_, hc, hset⟩ := ok_of_map h
      obtain rfl := Option.some.inj hc
      obtain ⟨path, nodes, properties, -, -, -, rfl, rfl⟩ := Store.setProperty_ok hset
      obtain rfl := List.mem_singleton.mp hp
      rw [Store.lookup?_setWorkspace, Table.get?_insert_self]
      simp [vacated?]
  | remove path =>
      -- it has no change, or one of the kind that is excluded
      obtain ⟨_, _, -, -, -, ⟨-, -, hc⟩ | ⟨-, -, hc⟩⟩ := Store.remove_ok.mp h
      · cases hc
      · obtain rfl := Option.some.inj hc
        exact absurd rfl hkind
  | move a b =>
      obtain ⟨_, hc, hmove⟩ := ok_of_map h
      obtain rfl := Option.some.inj hc
      obtain ⟨source, target, hsource, rfl, hgone, hthere⟩ := hsound.ends_of_move hmove
      have hleft : (move a b).vacated? = some source := by
        rw [vacated?, hsource]
        rfl
      dsimp only
      rw [hleft, ne_eq, Option.some_inj]
      rcases List.mem_pair.mp hp with rfl | rfl
      · simp [hgone]
      · refine iff_of_true hthere ?_
        rintro rfl
        rw [hgone] at hthere
        cases hthere

end StoreEdit

/-! ## What jobs ask for -/

/-- The input of a work item is a path of the event, under its source. -/
theorem RuleMatcher.input_of_work {π : Type} {matcher : RuleMatcher π} {event : ChangeEvent}
    {work : WorkItem π} (h : work ∈ matcher.workFor event) :
    ∃ path ∈ event.paths, work.assignment.input = ⟨event.source, path⟩ := by
  obtain ⟨found, hfound, hwork⟩ := List.mem_filterMap.mp h
  obtain ⟨path, hpath, hmatches⟩ := List.mem_flatMap.mp hfound
  obtain ⟨bound, -, hmatch⟩ := List.mem_filterMap.mp hmatches
  obtain ⟨⟨e, groups⟩, -, rfl⟩ := Option.map_eq_some_iff.mp hmatch
  refine ⟨path, hpath, ?_⟩
  dsimp only at hwork
  split at hwork
  · obtain rfl := Option.some.inj hwork
    rfl
  · cases hwork

/-- Between two systems dispatchers have accepted jobs for such work items, and none for others. -/
def System.Gained (allowed : WorkItem Processor → Prop) (s s' : System) : Prop :=
  ∀ d, ∃ gained : List (Job Processor),
    (s'.dispatcher d).accepted = (s.dispatcher d).accepted ++ gained ∧ ∀ job ∈ gained, allowed job.work

section gained

variable {allowed : WorkItem Processor → Prop} {s s' s'' : System}

namespace System.Gained

theorem of_accepted (h : ∀ d, (s'.dispatcher d).accepted = (s.dispatcher d).accepted) :
    s.Gained allowed s' :=
  fun d => ⟨[], by rw [h, List.append_nil], nofun⟩

theorem refl (s : System) : s.Gained allowed s :=
  .of_accepted fun _ => rfl

theorem trans (h : s.Gained allowed s') (h' : s'.Gained allowed s'') : s.Gained allowed s'' := by
  intro d
  obtain ⟨gained, hjobs, hgained⟩ := h d
  obtain ⟨more, hmore, hallowed⟩ := h' d
  refine ⟨gained ++ more, by rw [hmore, hjobs, List.append_assoc], fun job hjob => ?_⟩
  exact (List.mem_append.mp hjob).elim (hgained job) (hallowed job)

theorem imp {wider : WorkItem Processor → Prop} (h : s.Gained allowed s')
    (himp : ∀ work, allowed work → wider work) : s.Gained wider s' := by
  intro d
  obtain ⟨gained, hjobs, hgained⟩ := h d
  exact ⟨gained, hjobs, fun job hjob => himp _ (hgained job hjob)⟩

end System.Gained

theorem gained_submitWork (id : DispatcherId) {work : WorkItem Processor} (hwork : allowed work)
    (s : System) : s.Gained allowed ((submitWork id work).run s).2 := by
  by_cases haccepts : ((s.dispatcher id).accepting && (s.dispatcher id).lifecycle.isRunning) = true
  · rw [submitWork_accepted work haccepts]
    intro d
    have hafter : (s.accept id work).dispatcher d = _ :=
      System.dispatcher_setDispatcher { s with nextJob := s.nextJob + 1 } id d _
    rw [hafter]
    split
    · rename_i hd
      obtain ⟨rfl, -⟩ := hd
      refine ⟨[⟨s.nextJob, work⟩], ?_, fun job hjob => ?_⟩
      · change ((s.dispatcher d).jobs.push _).toList.map DispatchedJob.job = _
        rw [Array.toList_push, List.map_append]
        rfl
      · obtain rfl := List.mem_singleton.mp hjob
        exact hwork
    · exact ⟨[], (List.append_nil _).symm, nofun⟩
  · rw [submitWork_rejected work haccepts]
    refine .of_accepted fun d => ?_
    rw [System.dispatcher_setDispatcher]
    split
    · rename_i hd
      rw [hd.1]
      rfl
    · rfl

theorem SameJobs.accepted {d : DispatcherId} (h : SameJobs d s s') :
    (s'.dispatcher d).accepted = (s.dispatcher d).accepted := by
  unfold Dispatcher.accepted
  rw [h.work.jobs]

/-- No job comes up in the background. -/
theorem accepted_turn (deadline : Nat) (s : System) (d : DispatcherId) :
    (((turn deadline).run s).2.dispatcher d).accepted = (s.dispatcher d).accepted := by
  rcases turn_cases deadline s with ⟨-, heq⟩ | ⟨-, moment, -, heq⟩ | ⟨errand, rest, -, heq⟩
  all_goals rw [heq]
  · exact (sameJobs_wake d moment s).accepted
  have hpop : ({ s with ready := rest }.dispatcher d).accepted = (s.dispatcher d).accepted := rfl
  rw [← hpop]
  cases errand with
  | job dispatcher index => exact ((runJob_turn dispatcher index _).office.2 d).accepted
  | drain dispatcher => exact (sameJobs_drainTurn (runDrain_turn dispatcher _)).accepted
  | close engine => exact (sameJobs_closeTurn (runClose_turn engine _)).accepted

/-! ## What observers add -/

/-- Services are what they were, and dispatchers have accepted no jobs but for such work items. -/
structure Supplied (allowed : WorkItem Processor → Prop) (s s' : System) : Prop where
  services : s'.services = s.services
  gained : s.Gained allowed s'

theorem Supplied.of_jobs (h : Supplied allowed s s') (hservices : s''.services = s'.services)
    (haccepted : ∀ d, (s''.dispatcher d).accepted = (s'.dispatcher d).accepted) :
    Supplied allowed s s'' :=
  ⟨hservices.trans h.services, h.gained.trans (.of_accepted haccepted)⟩

/-- A change that leaves services and dispatchers as they are. -/
theorem Supplied.of_dispatchers (h : Supplied allowed s s') (hservices : s''.services = s'.services)
    (hdispatchers : s''.dispatchers = s'.dispatchers) : Supplied allowed s s'' :=
  h.of_jobs hservices fun d => by rw [System.dispatcher, hdispatchers, System.dispatcher]

/-- Operations on sources submit no jobs. -/
theorem sturdy_supplied : Sturdy fun _ s' => Supplied allowed s s' := by
  refine .of_quiet (fun hquiet hservices _ hs => hs.of_dispatchers hservices hquiet.dispatchers) ?_ ?_ ?_
  · exact fun _ _ _ hs => hs.of_dispatchers rfl rfl
  · intro deadline t hs
    have hbackground := (Background.enduring t).turn deadline t (.refl t)
    exact hs.of_jobs hbackground.services (accepted_turn deadline t)
  · exact fun _ _ hs => hs.of_dispatchers rfl rfl

/-- Telling a service of an event makes dispatchers accept no jobs but those that the event calls for. -/
theorem gained_processEvent (service : ServiceId) (event : ChangeEvent) (s : System) :
    s.Gained (· ∈ (s.service service).rules.workOn event) ((processEvent service event).run s).2 := by
  by_cases hremoved : event.kind = .removed
  · unfold processEvent
    rw [if_pos hremoved]
    exact .refl s
  have hwork : (s.service service).rules.workOn event = (s.service service).rules.workFor event :=
    if_neg hremoved
  have hsupplied : Ensures (Supplied (· ∈ (s.service service).rules.workFor event) s)
      (processEvent service event) fun _ => Supplied (· ∈ (s.service service).rules.workFor event) s := by
    refine ensures_processEvent (· = s.service service) (sturdy_supplied.writeLog []) (fun t ht => ?_)
      fun v hv work hmem t ht => ?_
    · rw [System.service, ht.services, System.service]
    · subst hv
      refine ⟨(buses_submitWork _ work t).2.1.trans ht.services, ht.gained.trans ?_⟩
      exact gained_submitWork _ hmem t
  rw [hwork]
  exact (hsupplied s ⟨rfl, .refl s⟩).gained

/-- The work that an event calls for from the services among observers. -/
def System.CallsFor (s : System) (event : ChangeEvent) (observers : List Observer)
    (work : WorkItem Processor) : Prop :=
  ∃ service, .processing service ∈ observers ∧ work ∈ (s.service service).rules.workOn event

/-- A publication adds the jobs of its event and no others, if its observers change no stores. -/
theorem supplied_publishWith (depth : Nat) (bus : BusId) (event : ChangeEvent)
    (hquiet : ∀ observer ∈ (s.bus bus).observers.map Prod.snd, observer.echoes = false) :
    s.Gained (s.CallsFor event ((s.bus bus).observers.map Prod.snd))
      ((publishWith (notifyNested depth) bus event).run s).2 := by
  have hnotify : ∀ observer ∈ (s.bus bus).observers.map Prod.snd,
      Ensures (Supplied (s.CallsFor event ((s.bus bus).observers.map Prod.snd)) s)
        (notifyNested depth bus observer event)
        fun _ => Supplied (s.CallsFor event ((s.bus bus).observers.map Prod.snd)) s := by
    intro observer hobserver
    refine sturdy_supplied.notifyQuietly [] (hquiet observer hobserver) bus fun service hservice => ?_
    subst hservice
    intro t ht
    have hgained := gained_processEvent service event t
    have hsame : t.service service = s.service service := by
      rw [System.service, ht.services, System.service]
    rw [hsame] at hgained
    refine ⟨(buses_processEvent service event t).2.trans ht.services, ht.gained.trans ?_⟩
    exact hgained.imp fun work hwork => ⟨service, hobserver, hwork⟩
  exact (sturdy_supplied.deliver [] bus event hnotify s ⟨rfl, .refl s⟩).gained

end gained

/-! ## Jobs of edits -/

/-- A work item asks for content of a source, and a workspace has content there afterwards unless that is
the path that the edit leaves. -/
structure StoreEdit.Backs (e : StoreEdit) (source : String) (contents : Store) (workspace : String)
    (work : WorkItem Processor) : Prop where
  source : work.assignment.input.source = source
  content : (contents.lookup? workspace work.assignment.input.path).isSome ↔
    e.vacated? ≠ some work.assignment.input.path

/-- The jobs that rules find for the event about an edit. -/
theorem StoreEdit.backs_of_work {s contents : Store} {e : StoreEdit} {c : Change} {b : Binding}
    {time : Timestamp} {rules : RuleMatcher Processor} {work : WorkItem Processor} (hsound : s.Sound)
    (hchange : e.change s = .ok (contents, some c))
    (hwork : work ∈ rules.workOn (c.event contents b time)) :
    e.Backs b.source contents c.workspace work := by
  unfold RuleMatcher.workOn at hwork
  split at hwork
  · cases hwork
  · rename_i hkind
    obtain ⟨path, hpath, hinput⟩ := RuleMatcher.input_of_work hwork
    refine ⟨by rw [hinput]; rfl, ?_⟩
    rw [hinput]
    exact StoreEdit.lookup?_of_change hsound hchange hkind hpath

/-- What jobs an edit brings about in a store that serves a source: those of one event about the workspace
of the edit, for inputs that have content but for the path that the edit leaves. -/
structure JobsOfEdit (id : StoreId) (b : Binding) (s : System) (e : StoreEdit) : Prop where
  /-- An edit that changes nothing does nothing at all. -/
  unchanged : e.changes id s = false → e.run id s = s
  /-- An edit that changes something is published as one event that is tagged with its workspace, ... -/
  published : ∀ contents c, e.change (s.depot.store id) = .ok (contents, some c) →
    e.run id s = ((publishWith (notifyNested (s.eventDepth - 1)) b.bus (c.event contents b s.now)).run
      (s.edited id contents)).2 ∧ (c.event contents b s.now).workspace = some c.workspace
  /-- ... a service that is told of it adds jobs only for its work, ... -/
  told : ∀ contents c, e.change (s.depot.store id) = .ok (contents, some c) →
    ∀ service (t : System), t.Gained (e.Backs b.source contents c.workspace)
      ((processEvent service (c.event contents b s.now)).run t).2
  /-- ... so the edit adds no others, unless observers of the event edit stores themselves. -/
  gained : ∀ contents c, e.change (s.depot.store id) = .ok (contents, some c) →
    (∀ observer ∈ (s.bus b.bus).observers.map Prod.snd, observer.echoes = false) →
    s.Gained (e.Backs b.source contents c.workspace) (e.run id s)
  /-- The same is true of the jobs that are rejected. -/
  called : ∀ contents c, e.change (s.depot.store id) = .ok (contents, some c) →
    ∀ rules : RuleMatcher Processor, ∀ work ∈ rules.workOn (c.event contents b s.now),
      e.Backs b.source contents c.workspace work

/-- **Jobs ask for content that exists**, but for the path that a move leaves. -/
theorem jobs_of_edits {s : System} {id : StoreId} {b : Binding}
    (hreached : (s.depot.store id).Reached) (hbound : (s.depot.store id).binding = some b)
    (e : StoreEdit) : JobsOfEdit id b s e := by
  have hid : id < s.depot.stores.size := made_of_bound (hbound ▸ rfl)
  have hcalled : ∀ contents c, e.change (s.depot.store id) = .ok (contents, some c) →
      ∀ rules : RuleMatcher Processor, ∀ work ∈ rules.workOn (c.event contents b s.now),
        e.Backs b.source contents c.workspace work :=
    fun _ _ hchange _ _ hwork => StoreEdit.backs_of_work hreached.sound hchange hwork
  refine ⟨StoreEdit.eq_of_changes_not, fun contents c hchange => ?_, fun contents c hchange => ?_,
    fun contents c hchange hquiet => ?_, hcalled⟩
  · exact ⟨StoreEdit.run_published hid hbound hchange, rfl⟩
  · intro service t
    exact (gained_processEvent service _ t).imp (hcalled contents c hchange _)
  · rw [StoreEdit.run_published hid hbound hchange]
    have hgained := supplied_publishWith (s := s.edited id contents) (s.eventDepth - 1) b.bus
      (c.event contents b s.now) hquiet
    refine hgained.imp ?_
    rintro work ⟨service, -, hwork⟩
    exact hcalled contents c hchange _ work hwork

/-! ### An inbox that is filled and emptied -/

/-- A store that serves a source, with a service and a dispatcher that are both running. -/
def System.pipeline : System :=
  ((startDispatcher 0).run
    ((registerConnector 0 "docs" ⟨.own .new, .plain⟩).run
      { System.filing with federations := #[.new "engine" "docs" 0 .connectors 2 1] }).2).2

/-- A page is put into the inbox. -/
def StoreEdit.fill : StoreEdit := .put none "/in/page" []

/-- The page is moved out of the inbox. -/
def StoreEdit.clear : StoreEdit := .move "/in/page" "/done/page"

/-- What is put into the inbox is there when its job is submitted. -/
theorem jobs_of_edits_filled :
    (∀ d, ∃ gained : List (Job Processor),
      ((StoreEdit.fill.run 0 .pipeline).dispatcher d).accepted =
        (System.pipeline.dispatcher d).accepted ++ gained ∧
      ∀ job ∈ gained, ((StoreEdit.fill.after (System.pipeline.depot.store 0)).lookup? "default"
        job.assignment.input.path).isSome) ∧
    ((StoreEdit.fill.run 0 .pipeline).dispatcher 0).accepted.map (·.assignment.input.text) =
      ["docs:/in/page"] := by
  have hreached : (System.pipeline.depot.store 0).Reached := ⟨.new, .new, [.bind ⟨"engine", "docs", 0⟩], rfl⟩
  have hchange : StoreEdit.fill.change (System.pipeline.depot.store 0) = .ok (_, _) := rfl
  have hquiet : ((System.pipeline.bus 0).observers.map Prod.snd).all (!·.echoes) = true := by
    decide +kernel
  have hjobs := (jobs_of_edits hreached rfl StoreEdit.fill).gained _ _ hchange fun observer hobserver => by
    simpa using List.all_eq_true.mp hquiet observer hobserver
  refine ⟨fun d => ?_, by decide +kernel⟩
  obtain ⟨gained, hgained, hbacked⟩ := hjobs d
  exact ⟨gained, hgained, fun job hjob => (hbacked job hjob).content.mpr nofun⟩

/-- A job is submitted for the page that was moved away, where there is nothing. -/
theorem jobs_of_edits_cleared :
    let s := StoreEdit.fill.run 0 .pipeline
    (s.depot.store 0).Reached ∧ (s.depot.store 0).binding = some ⟨"engine", "docs", 0⟩ ∧
    ∃ contents c job, StoreEdit.clear.change (s.depot.store 0) = .ok (contents, some c) ∧
      ((StoreEdit.clear.run 0 s).dispatcher 0).accepted = (s.dispatcher 0).accepted ++ [job] ∧
      job.assignment.input.text = "docs:/in/page" ∧
      contents.lookup? c.workspace job.assignment.input.path = none := by
  intro s
  refine ⟨⟨.new, .new, [.bind ⟨"engine", "docs", 0⟩, .edit .fill ⟨0, 0⟩], rfl⟩, rfl, _, _, _, rfl, rfl, ?_⟩
  exact ⟨by decide +kernel, by decide +kernel⟩

end ContentEngine
