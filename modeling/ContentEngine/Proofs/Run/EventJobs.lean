import ContentEngine.Proofs.Rule.Verdict
import ContentEngine.Proofs.Run.Delivery

/-!
# No job of an event is lost or made twice

Events reach a service when they are published on a bus that it observes, and when a store is edited that
serves a source.  Each registration of the service is told of each such event once, whatever the other
observers do, and the dispatcher is offered each job that the rules find in it once.

## Strategy

A publication and an edit extend a `DeliveryRun`.  For all that other observers do, but for their changes
of stores, the run is told of nothing more (`sturdy_underway`); a change of a store may reach the service
again, and then the run is told of that event as well (`robust_underway`).  What a single delivery does
is known from `Processed`, and what all of them offered from `DeliveryRun.accounted`.
-/

namespace ContentEngine

/-! ## While events are delivered -/

/-- Whether an observer is a service. -/
def Observer.isService (service : ServiceId) : Observer → Bool
  | processing id => id == service
  | _ => false

/-- Services are what they were in the first system, those that observe buses work for another dispatcher,
but for one, and that one has been told of some events. -/
structure Underway (service : ServiceId) (d : DispatcherId) (s₀ s₁ : System) (told : List ChangeEvent)
    (s : System) : Prop where
  services : s.services = s₁.services
  alone : s.Hears fun v => v = service ∨ (s₁.service v).dispatcher ≠ d
  run : DeliveryRun service d s₀ told [] s

section underway

variable {service : ServiceId} {d : DispatcherId} {s₀ s₁ s s' : System} {told : List ChangeEvent}

theorem Underway.quiet (h : Underway service d s₀ s₁ told s) (hquiet : Quiet s s')
    (hservices : s'.services = s.services) (hbuses : s'.buses = s.buses) :
    Underway service d s₀ s₁ told s' :=
  ⟨hservices.trans h.services, h.alone.of_buses hbuses, h.run.quiet hquiet hservices⟩

/-- Operations on sources tell no service of anything. -/
theorem sturdy_underway : Sturdy fun _ s => Underway service d s₀ s₁ told s := by
  refine .of_quiet (fun hquiet hservices hbuses hs => hs.quiet hquiet hservices hbuses) ?_ ?_ ?_
  · intro s id act hact hs
    exact ⟨hs.services, hs.alone.act id hact, hs.run.quiet (.of_aside (.setBus _ id _)) rfl⟩
  · intro deadline s hs
    have hbackground := (Background.enduring s).turn deadline s (.refl s)
    refine ⟨hbackground.services.trans hs.services, hs.alone.of_buses hbackground.buses, ?_⟩
    exact hs.run.turn deadline
  · intro moment s hs
    refine ⟨hs.services, hs.alone.of_buses rfl, ?_⟩
    exact hs.run.other (.pass moment _) (fun _ he => absurd he List.not_mem_nil) (.of_services rfl)

/-- A service that works for another dispatcher submits no jobs to this one. -/
theorem Underway.processOther {id : ServiceId} (hother : (s₁.service id).dispatcher ≠ d)
    (event : ChangeEvent) :
    Ensures (Underway service d s₀ s₁ told) (processEvent id event)
      fun _ => Underway service d s₀ s₁ told := by
  refine ensures_processEvent (·.dispatcher ≠ d) (sturdy_underway.writeLog []) (fun s hs => ?_)
    fun v hv work _ s hs => ?_
  · rwa [System.service, hs.services]
  · obtain ⟨hbuses, hservices, -⟩ := buses_submitWork v.dispatcher work s
    exact ⟨hservices.trans hs.services, hs.alone.of_buses hbuses, hs.run.submit hv work⟩

theorem buses_processEvent (id : ServiceId) (event : ChangeEvent) (s : System) :
    ((processEvent id event).run s).2.buses = s.buses ∧
      ((processEvent id event).run s).2.services = s.services := by
  have hkeeps : Ensures (fun t => t.buses = s.buses ∧ t.services = s.services) (processEvent id event)
      fun _ t => t.buses = s.buses ∧ t.services = s.services := by
    refine ensures_processEvent (fun _ => True) (fun lines => .update fun t ht => ht)
      (fun _ _ => trivial) fun v _ work _ t ht => ?_
    obtain ⟨hbuses, hservices, -⟩ := buses_submitWork v.dispatcher work t
    exact ⟨hbuses.trans ht.1, hservices.trans ht.2⟩
  exact hkeeps s ⟨rfl, rfl⟩

/-- The service itself is told of one event more. -/
theorem Underway.process (hs : Underway service d s₀ s₁ told s) (event : ChangeEvent) :
    Underway service d s₀ s₁ (told ++ [event]) ((processEvent service event).run s).2 := by
  obtain ⟨hbuses, hservices⟩ := buses_processEvent service event s
  exact ⟨hservices.trans hs.services, hs.alone.of_buses hbuses, hs.run.process event⟩

/-- Whatever is done with sources, stores and buses, the service may be told of more events. -/
theorem robust_underway : Robust (fun v => v = service ∨ (s₁.service v).dispatcher ≠ d)
    fun _ s => ∃ more, Underway service d s₀ s₁ (told ++ more) s where
  toSturdy := .exists fun _ => sturdy_underway
  process id event _ hheard s := by
    rintro ⟨more, hs⟩
    rcases hheard with rfl | hother
    · refine ⟨more ++ [event], ?_⟩
      rw [← List.append_assoc]
      exact hs.process event
    · exact ⟨more, Underway.processOther hother event s hs⟩
  listed := fun ⟨_, hs⟩ => hs.alone

/-! ## Publications and edits -/

/-- What a service is told when an event is delivered to observers: the event, once for each time that it
is among them. -/
def tellings (service : ServiceId) (event : ChangeEvent) (observers : List Observer) :
    List ChangeEvent :=
  List.replicate (observers.countP (·.isService service)) event

theorem tellings_singleton (service : ServiceId) (event : ChangeEvent) (observer : Observer) :
    tellings service event [observer] = if observer.isService service then [event] else [] := by
  unfold tellings
  rw [List.countP_singleton]
  split <;> rfl

/-- The service is told of an event when it is delivered, and of more events if observers change stores
meanwhile. -/
structure Brings (service : ServiceId) (event : ChangeEvent) (observers : List Observer)
    (more : List ChangeEvent) : Prop where
  sublist : (tellings service event observers).Sublist more
  exact : (∀ observer ∈ observers, observer.echoes = false) → more = tellings service event observers

/-- One observer is told of an event. -/
theorem Underway.notify (hs : Underway service d s₀ s₁ told s) {observer : Observer}
    (hheard : observer.IsHeard fun v => v = service ∨ (s₁.service v).dispatcher ≠ d) (depth : Nat)
    (bus : BusId) (event : ChangeEvent) :
    ∃ more, Underway service d s₀ s₁ (told ++ more) ((notifyNested depth bus observer event).run s).2 ∧
      Brings service event [observer] more := by
  cases hservice : observer.isService service with
  | true =>
      have hone : tellings service event [observer] = [event] := by
        rw [tellings_singleton, if_pos hservice]
      cases observer with
      | processing id =>
          obtain rfl : id = service := eq_of_beq hservice
          exact ⟨[event], hs.process event, hone ▸ .refl _, fun _ => hone.symm⟩
      | _ => cases hservice
  | false =>
      have hnone : tellings service event [observer] = [] := by
        rw [tellings_singleton, hservice, if_neg Bool.false_ne_true]
      cases hechoes : observer.echoes with
      | true =>
          -- it may edit stores, and so have the service told of other events
          have hrobust : Robust (fun v => v = service ∨ (s₁.service v).dispatcher ≠ d)
              fun _ s => ∃ more, Underway service d s₀ s₁ (told ++ more) s := robust_underway
          obtain ⟨more, hmore⟩ := hrobust.notifyWith [] (fun id _ _ => hrobust.changeStore [] depth id _)
            bus observer event hheard s ⟨[], by rwa [List.append_nil]⟩
          refine ⟨more, hmore, hnone ▸ List.nil_sublist more, fun hall => ?_⟩
          have hquiet := hall observer (List.mem_singleton.mpr rfl)
          rw [hechoes] at hquiet
          cases hquiet
      | false =>
          refine ⟨[], ?_, hnone ▸ .refl _, fun _ => hnone.symm⟩
          rw [List.append_nil]
          refine sturdy_underway.notifyQuietly [] hechoes bus (fun id hid => ?_) s hs
          subst hid
          refine Underway.processOther (hheard.resolve_left fun heq => ?_) event
          exact absurd hservice (by simp [Observer.isService, heq])

/-- What comes of an observer is concluded; nobody is told of anything. -/
theorem Underway.conclude (hs : Underway service d s₀ s₁ told s) (bus : BusId) (event : ChangeEvent)
    (observer : Observer) (outcome : Notified) :
    Underway service d s₀ s₁ told (s.conclude bus event observer outcome) := by
  have hsturdy : Sturdy fun _ t => Underway service d s₀ s₁ told t := sturdy_underway
  unfold System.conclude
  split
  · exact hs
  · rename_i cause _
    have hfailed := @Hardy.act _ hsturdy.toHardy [] s bus (.fail observer.name event cause) rfl hs
    exact @Sturdy.beside _ hsturdy [] _ _ ⟨.addLog _ _, rfl, rfl⟩ hfailed

theorem Underway.deliver (depth : Nat) (bus : BusId) (event : ChangeEvent) {observers : List Observer}
    (hs : Underway service d s₀ s₁ told s) (hheard : ∀ observer ∈ observers,
      observer.IsHeard fun v => v = service ∨ (s₁.service v).dispatcher ≠ d) :
    ∃ more, Underway service d s₀ s₁ (told ++ more)
        ((ContentEngine.deliver (notifyNested depth) bus event observers).run s).2 ∧
      Brings service event observers more := by
  induction observers generalizing s told with
  | nil => exact ⟨[], by rwa [List.append_nil], .refl _, fun _ => rfl⟩
  | cons observer rest ih =>
      obtain ⟨hhere, hrest⟩ := List.forall_mem_cons.mp hheard
      obtain ⟨now, hnow, hfirst⟩ := hs.notify hhere depth bus event
      obtain ⟨later, hlater, hothers⟩ := ih (hnow.conclude bus event observer _) hrest
      have htellings : tellings service event (observer :: rest) =
          tellings service event [observer] ++ tellings service event rest := by
        unfold tellings
        rw [← List.singleton_append, List.countP_append, List.replicate_add]
      refine ⟨now ++ later, ?_, ?_, fun hall => ?_⟩
      · rw [deliver_cons_run, ← List.append_assoc]
        exact hlater
      · rw [htellings]
        exact hfirst.sublist.append hothers.sublist
      · obtain ⟨hhere, hthere⟩ := List.forall_mem_cons.mp hall
        rw [htellings, hothers.exact hthere,
          hfirst.exact fun o ho => List.mem_singleton.mp ho ▸ hhere]

/-- A publication tells the service of its event as often as it is registered. -/
theorem Underway.publishWith (hs : Underway service d s₀ s₁ told s) (depth : Nat) (bus : BusId)
    (event : ChangeEvent) :
    ∃ more, Underway service d s₀ s₁ (told ++ more)
        ((ContentEngine.publishWith (notifyNested depth) bus event).run s).2 ∧
      Brings service event ((s.bus bus).observers.map Prod.snd) more := by
  refine hs.deliver depth bus event fun observer hobserver => ?_
  obtain ⟨entry, hentry, rfl⟩ := List.mem_map.mp hobserver
  exact hs.alone bus entry hentry

/-- An edit of a store tells the service of the event about it, if there is one. -/
theorem Underway.edit (hs : Underway service d s₀ s₁ told s) (id : StoreId) (e : StoreEdit) :
    ∃ more, Underway service d s₀ s₁ (told ++ more) ((e.perform id).run s).2 ∧
      ∀ contents c b, (s.depot.store id).binding = some b →
        e.change (s.depot.store id) = .ok (contents, some c) →
        Brings service (c.event contents b s.now) ((s.bus b.bus).observers.map Prod.snd) more := by
  cases hbinding : (s.depot.store id).binding with
  | none =>
      have hrobust : Robust (fun v => v = service ∨ (s₁.service v).dispatcher ≠ d)
          fun _ t => ∃ more, Underway service d s₀ s₁ (told ++ more) t := robust_underway
      obtain ⟨more, hmore⟩ := e.ensures_perform hrobust [] id s ⟨[], by rwa [List.append_nil]⟩
      exact ⟨more, hmore, fun _ _ _ hb => nomatch hb⟩
  | some b =>
      rw [e.perform_run]
      cases hchanges : e.changes id s with
      | false =>
          rw [StoreEdit.eq_of_changes_not hchanges]
          refine ⟨[], by rwa [List.append_nil], fun contents c _ _ hchange => ?_⟩
          exact absurd (StoreEdit.changes_iff.mpr ⟨contents, c, hchange⟩) (by rw [hchanges]; exact nofun)
      | true =>
          obtain ⟨contents, c, hchange⟩ := StoreEdit.changes_iff.mp hchanges
          have hid : id < s.depot.stores.size := made_of_bound (hbinding ▸ rfl)
          have hedited : Underway service d s₀ s₁ told (s.edited id contents) :=
            @Sturdy.beside _ sturdy_underway [] _ _ ⟨.setDepot rfl rfl, rfl, rfl⟩ hs
          obtain ⟨more, hmore, hbrings⟩ :=
            hedited.publishWith (s.eventDepth - 1) b.bus (c.event contents b s.now)
          rw [StoreEdit.run_published hid hbinding hchange]
          refine ⟨more, hmore, ?_⟩
          rintro _ _ _ ⟨rfl⟩ hsame
          rw [hchange] at hsame
          cases hsame
          exact hbrings

end underway

/-! ## The account of a service -/

/-- No other service that observes a bus works for the dispatcher. -/
def System.Dedicated (s : System) (d : DispatcherId) (service : ServiceId) : Prop :=
  s.Hears fun v => v = service ∨ (s.service v).dispatcher ≠ d

section account

variable {service : ServiceId} {d : DispatcherId} {rules : RuleMatcher Processor}
  {s₀ s s' : System} {told : List ChangeEvent}

theorem DeliveryRun.underway (h : DeliveryRun service d s₀ told [] s) (halone : s.Dedicated d service) :
    Underway service d s₀ s told s :=
  ⟨rfl, halone, h⟩

theorem System.Dedicated.of_services (h : s'.Hears fun v => v = service ∨ (s.service v).dispatcher ≠ d)
    (hservices : s'.services = s.services) : s'.Dedicated d service := by
  have hservice : ∀ v, s'.service v = s.service v := by
    intro v
    rw [System.service, hservices, System.service]
  unfold System.Dedicated
  simp only [hservice]
  exact h

theorem Underway.dedicated (h : Underway service d s₀ s told s') : s'.Dedicated d service :=
  .of_services h.alone h.services

/-- What a service and its dispatcher owe for events, given those that the service was told of since the
first system. -/
structure JobsAccounted (service : ServiceId) (d : DispatcherId) (rules : RuleMatcher Processor)
    (s₀ : System) (told : List ChangeEvent) (s : System) : Prop where
  /-- An event about removed nodes does nothing. -/
  removed : ∀ event, event.kind = .removed → (processEvent service event).run s = (.done, s)
  /-- Any other event has each job submitted once and in order, whatever was answered to the ones before
  and whatever others do in between; the service fails if and only if some are rejected, and then the
  bus records one problem that names how many. -/
  submitted : ∀ event others outcome s', event.kind ≠ .removed →
    (processPieces service event).Leads others s outcome s' →
    ∃ answers, Processed others service event answers s outcome s' ∧
      (outcome.isDone = false ↔ ∃ fault, .error fault ∈ answers) ∧
      ∀ bus < s'.buses.size,
        ((s'.conclude bus event (.processing service) outcome).bus bus).problems =
          Problems.pushAllBounded (s'.bus bus).problems (rejectionProblems event (rejections answers))
            (s'.bus bus).problemCapacity
  /-- That is what the service does when it is told of an event. -/
  undisturbed : ∀ event others, (∀ t, others t t) → (processPieces service event).Leads others s
    ((processEvent service event).run s).1 ((processEvent service event).run s).2
  /-- A delivery that comes to the service records that one problem, or none if nothing is rejected, and
  only then goes on with the other observers. -/
  recorded : ∀ depth bus event rest, bus < s.buses.size → event.kind ≠ .removed → ∃ answers s',
    Processed Eq service event answers s ((processEvent service event).run s).1
      ((processEvent service event).run s).2 ∧
    (s'.bus bus).problems = Problems.pushAllBounded (s.bus bus).problems
      (rejectionProblems event (rejections answers)) (s.bus bus).problemCapacity ∧
    ((deliver (notifyNested depth) bus event (.processing service :: rest)).run s).2 =
      ((deliver (notifyNested depth) bus event rest).run s').2
  /-- As many jobs were offered to the dispatcher as the events call for that the service was told of. -/
  counted : (s.dispatcher d).submitted + (s.dispatcher d).rejected =
    (s₀.dispatcher d).submitted + (s₀.dispatcher d).rejected +
      ((told.filter fun event => event.kind ≠ .removed).map fun event => (rules.workFor event).length).sum
  /-- A publication tells the service of its event once for each of its registrations. -/
  published : ∀ bus event, s.Dedicated d service → ∃ more,
    DeliveryRun service d s₀ (told ++ more) [] ((publish bus event).run s).2 ∧
      ((publish bus event).run s).2.Dedicated d service ∧
      Brings service event ((s.bus bus).observers.map Prod.snd) more
  /-- So does an edit, with the event about it. -/
  edited : ∀ id (e : StoreEdit), s.Dedicated d service → ∃ more,
    DeliveryRun service d s₀ (told ++ more) [] ((e.perform id).run s).2 ∧
      ((e.perform id).run s).2.Dedicated d service ∧
      ∀ contents c b, (s.depot.store id).binding = some b →
        e.change (s.depot.store id) = .ok (contents, some c) →
        Brings service (c.event contents b s.now) ((s.bus b.bus).observers.map Prod.snd) more

/-- A service that is told of an event answers what its submissions come to, and the bus records the jobs that
were rejected. -/
private theorem recorded_deliver (service : ServiceId) (depth : Nat) {bus : BusId} {event : ChangeEvent}
    (rest : List Observer) (hbus : bus < s.buses.size) (hkind : event.kind ≠ .removed) :
    ∃ answers s',
      Processed Eq service event answers s ((processEvent service event).run s).1
        ((processEvent service event).run s).2 ∧
      (s'.bus bus).problems = Problems.pushAllBounded (s.bus bus).problems
        (rejectionProblems event (rejections answers)) (s.bus bus).problemCapacity ∧
      ((deliver (notifyNested depth) bus event (.processing service :: rest)).run s).2 =
        ((deliver (notifyNested depth) bus event rest).run s').2 := by
  have hleads : (processPieces service event).Leads Eq s _ _ :=
    (processPieces service event).leads_whole (fun _ => rfl) s
  rw [whole_processPieces] at hleads
  obtain ⟨answers, hprocessed⟩ := processed_of_leads hkind hleads
  have hbuses := (buses_processEvent service event s).1
  refine ⟨answers, _, hprocessed, ?_, by rw [deliver_cons_run]⟩
  have hsame : ∀ s' : System, s'.buses = s.buses → s'.bus bus = s.bus bus := fun s' h => by
    rw [System.bus, h, System.bus]
  have hproblems := problems_conclude (hbuses.symm ▸ hbus) event service (rejections answers)
  rw [← hprocessed.outcome, hsame _ hbuses] at hproblems
  exact hproblems

/-- The jobs that events call for are those of the events that remove nothing. -/
theorem sum_workOn (rules : RuleMatcher Processor) (events : List ChangeEvent) :
    (events.map fun event => (rules.workOn event).length).sum =
      ((events.filter fun event => event.kind ≠ .removed).map fun event =>
        (rules.workFor event).length).sum := by
  induction events with
  | nil => rfl
  | cons event rest ih =>
      rw [List.map_cons, List.sum_cons, ih, List.filter_cons]
      unfold RuleMatcher.workOn
      by_cases hremoved : event.kind = .removed <;> simp [hremoved]

/-- **No job of an event is lost or made twice.**  Along every run in which nobody else submits to the
dispatcher of a service, however it is started and shut down meanwhile, the service submits each job of
each event once, and the dispatcher has accepted and rejected as many as the rules find. -/
theorem event_jobs_accounted (hfeeds : Feeds service d rules s₀)
    (hrun : DeliveryRun service d s₀ told [] s) : JobsAccounted service d rules s₀ told s where
  removed event hremoved := by
    unfold processEvent
    rw [if_pos hremoved]
    rfl
  submitted event others outcome s' hkind hleads := by
    obtain ⟨answers, hprocessed⟩ := processed_of_leads hkind hleads
    refine ⟨answers, hprocessed, ?_, fun bus hbus => ?_⟩
    · rw [hprocessed.outcome]
      exact isDone_ofRejections
    · rw [hprocessed.outcome]
      exact problems_conclude hbus event service (rejections answers)
  undisturbed event others hothers := by
    rw [← whole_processPieces service event]
    exact (processPieces service event).leads_whole hothers s
  recorded depth bus event rest hbus hkind := recorded_deliver service depth rest hbus hkind
  counted := by
    obtain ⟨-, owed, howed, hcount⟩ := hrun.accounted hfeeds
    obtain rfl : owed = 0 := howed
    rw [Nat.add_zero, sum_workOn] at hcount
    exact hcount
  published bus event halone := by
    obtain ⟨more, hmore, hbrings⟩ := (hrun.underway halone).publishWith s.eventDepth bus event
    rw [publish_run]
    exact ⟨more, hmore.run, hmore.dedicated, hbrings⟩
  edited id e halone := by
    obtain ⟨more, hmore, hbrings⟩ := (hrun.underway halone).edit id e
    exact ⟨more, hmore.run, hmore.dedicated, hbrings⟩

end account

/-! ### A service that files what lies in an inbox -/

/-- One rule, for what lies in an inbox. -/
def filingRules : RuleMatcher Processor :=
  [⟨⟨"file", none, [RuleMatcher.inboxed none], some "/out/\x7b1\x7d", "copy", [], []⟩,
    fun _ => ⟨[], .reported []⟩⟩]

/-- A service that observes a bus, and a dispatcher that is not started yet. -/
def System.filing : System :=
  ((startService 0).run
    { System.empty with
      buses := #[.new "engine" 4]
      dispatchers := (Dispatcher.new? "engine" 0 1 4).toList.toArray
      services := #[.new "engine" 0 0 filingRules] }).2

/-- If the service is all that observes a bus, a publication tells it of the event and nobody of more. -/
theorem DeliveryRun.publish_alone {service : ServiceId} {d : DispatcherId} {s₀ s : System}
    {told : List ChangeEvent} (hrun : DeliveryRun service d s₀ told [] s)
    (halone : s.Dedicated d service) {bus : BusId}
    (hobservers : (s.bus bus).observers.map (·.2.isService service) = [true]) (event : ChangeEvent) :
    DeliveryRun service d s₀ (told ++ [event]) [] ((publish bus event).run s).2 ∧
      ((publish bus event).run s).2.Dedicated d service := by
  obtain ⟨more, hmore, hbrings⟩ := (hrun.underway halone).publishWith s.eventDepth bus event
  obtain ⟨⟨number, observer⟩, hentry, hservice⟩ := List.map_eq_singleton_iff.mp hobservers
  have hquiet : observer.echoes = false := by
    cases observer with
    | processing id => rfl
    | _ => cases hservice
  have hone : more = [event] := by
    rw [hentry] at hbrings
    refine (hbrings.exact fun o ho => List.mem_singleton.mp ho ▸ hquiet).trans ?_
    unfold tellings
    rw [List.map_singleton, List.countP_singleton, if_pos hservice]
    rfl
  rw [publish_run, ← hone]
  exact ⟨hmore.run, hmore.dedicated⟩

/-- What is changed in the inbox is rejected before the dispatcher is started, and accepted then; what is
removed submits nothing. -/
theorem event_jobs_accounted_filing :
    let changed := RuleMatcher.inboxChange
    let removed : ChangeEvent := { changed with kind := .removed, sequence := 8 }
    let again : ChangeEvent := { changed with sequence := 9 }
    ∃ s, DeliveryRun 0 0 .filing [changed, removed, again] [] s ∧
      JobsAccounted 0 0 filingRules .filing [changed, removed, again] s ∧
      (s.dispatcher 0).submitted = 1 ∧ (s.dispatcher 0).rejected = 1 := by
  intro changed removed again
  have hfeeds : Feeds 0 0 filingRules .filing := ⟨rfl, rfl, by decide⟩
  let s₁ := ((publish 0 changed).run System.filing).2
  let s₂ := ((publish 0 removed).run s₁).2
  let s₃ := ((startDispatcher 0).run s₂).2
  let s₄ := ((publish 0 again).run s₃).2
  have hobserved : ((System.filing.bus 0).observers.map (·.2.isService 0) = [true] ∧
      (s₁.bus 0).observers.map (·.2.isService 0) = [true]) ∧
      (s₃.bus 0).observers.map (·.2.isService 0) = [true] := by
    decide +kernel
  have hdedicated : System.filing.Dedicated 0 0 := by
    intro bus entry hentry
    match bus with
    | 0 =>
        obtain rfl := List.mem_singleton.mp hentry
        exact .inl rfl
    | _ + 1 => cases hentry
  have hfirst : DeliveryRun 0 0 .filing [changed] [] s₁ ∧ s₁.Dedicated 0 0 :=
    DeliveryRun.start.publish_alone hdedicated hobserved.1.1 changed
  have hsecond : DeliveryRun 0 0 .filing [changed, removed] [] s₂ ∧ s₂.Dedicated 0 0 :=
    hfirst.1.publish_alone hfirst.2 hobserved.1.2 removed
  have hstarted : DeliveryRun 0 0 .filing [changed, removed] [] s₃ ∧ s₃.Dedicated 0 0 := by
    obtain ⟨hbuses, hservices⟩ := buses_startDispatcher 0 s₂
    exact ⟨hsecond.1.startDispatcher 0, .of_services (hsecond.2.of_buses hbuses) hservices⟩
  have hthird : DeliveryRun 0 0 .filing [changed, removed, again] [] s₄ ∧ s₄.Dedicated 0 0 :=
    hstarted.1.publish_alone hstarted.2 hobserved.2 again
  exact ⟨s₄, hthird.1, event_jobs_accounted hfeeds hthird.1, by decide +kernel, by decide +kernel⟩

end ContentEngine
