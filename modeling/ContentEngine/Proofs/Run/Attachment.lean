import ContentEngine.Proofs.Run.Attending

/-!
# The observer of a processing service

A service starts and shuts down in steps.  A start first gets hold of the registration, then it waits
until its observer is on the bus; a shutdown begins before it waits for the registration, and goes on
when it has it.  Any number of calls may be under way, each of them waiting at one of these points, and
others use the bus meanwhile.  However the calls overlap, the service has one observer on the bus at
most, it has one while it runs, and none before it starts and after it has terminated.

## Strategy

`ServiceRun` are the runs of calls on a service, with what others have done to its bus.  The registration
belongs to one call at a time, so what the calls have in common is known from the owner of the registration
and from the number of shutdowns that wait for it.  `Attachment` lists the combinations that occur, each with
the numbers under which the service is on the bus; every step leads from one of them to another.  That
no number is given out twice (`Numbered`) keeps a shutdown from removing the observers of others.
-/

namespace ContentEngine

/-! ## Stages of a service -/

/-- The call that the registration of a service belongs to. -/
inductive RegistrationOwner where
  /-- A start whose observer has a number. -/
  | registering (number : ObserverId)
  /-- A shutdown that has taken the number out of the registration. -/
  | unregistering (number : ObserverId)

/-- The numbers that the owner of a registration keeps for observers to come. -/
def RegistrationOwner.reserved : Option RegistrationOwner → List ObserverId
  | some (.registering number) => [number]
  | some (.unregistering _) => []
  | none => []

/-- The combinations that occur of the state of a service, its registration, the owner of that, the number
of shutdowns that have begun and wait for it, and the numbers of the service on the bus. -/
inductive Attachment : LifecycleState → Option ObserverId → Option RegistrationOwner → Nat →
    List ObserverId → Prop
  | unstarted : Attachment .notStarted none none 0 []
  | registering (number) : Attachment .starting none (some (.registering number)) 0 []
  /-- The start was given up. -/
  | forsaken : Attachment .starting none none 0 []
  | running (number) : Attachment .running (some number) none 0 [number]
  /-- A shutdown has begun, and the start goes on. -/
  | overtaken (number) {waiting} : waiting ≤ 1 →
      Attachment .stopping none (some (.registering number)) waiting []
  | registered (number) {waiting} : waiting ≤ 1 → Attachment .stopping (some number) none waiting [number]
  | unregistered {waiting} : waiting ≤ 1 → Attachment .stopping none none waiting []
  | unregistering (number) : Attachment .stopping none (some (.unregistering number)) 0 [number]
  /-- The shutdown was given up, and no other one waits. -/
  | left (number) : Attachment .stopping none none 0 [number]
  | terminated {waiting} : waiting ≤ 1 → Attachment .terminated none none waiting []

namespace Attachment

variable {state : LifecycleState} {registration : Option ObserverId}
  {owner : Option RegistrationOwner} {waiting : Nat} {own : List ObserverId}

theorem length_le_one (h : Attachment state registration owner waiting own) : own.length ≤ 1 := by
  cases h <;> simp

/-- A service that runs is on the bus. -/
theorem own_of_running (h : Attachment state registration owner waiting own) (hstate : state = .running) :
    own ≠ [] := by
  cases h with
  | running number => exact List.cons_ne_nil _ _
  | _ => exact nomatch hstate

/-- A service that has not started or has terminated is not. -/
theorem own_of_ended (h : Attachment state registration owner waiting own)
    (hstate : state = .notStarted ∨ state = .terminated) : own = [] := by
  cases h with
  | unstarted | terminated => rfl
  | registering | forsaken | overtaken | unregistered => rfl
  | running | registered | unregistering | left => rcases hstate with h | h <;> exact nomatch h

/-! ### What a step does -/

variable {number : ObserverId}

/-- A start that ends makes the service run, unless a shutdown has begun. -/
theorem endStart (h : Attachment state registration (some (.registering number)) waiting own) :
    own = [] ∧ Attachment (if state = .starting then .running else state) (some number) none waiting
      [number] := by
  cases h with
  | registering => exact ⟨rfl, .running number⟩
  | overtaken _ hwaiting => exact ⟨rfl, .registered number hwaiting⟩

theorem beginShutdown (h : Attachment state registration owner waiting own)
    (hopen : state.isClosed = false) :
    Attachment (if state = .notStarted then .terminated else .stopping) registration owner (waiting + 1)
      own := by
  cases h with
  | unstarted => exact .terminated (Nat.le_refl 1)
  | registering number => exact .overtaken number (Nat.le_refl 1)
  | forsaken => exact .unregistered (Nat.le_refl 1)
  | running number => exact .registered number (Nat.le_refl 1)
  | _ => exact nomatch hopen

/-- A shutdown that takes a number out of the registration is the only one. -/
theorem take_some (h : Attachment state (some number) none (waiting + 1) own) :
    Attachment state none (some (.unregistering number)) waiting own := by
  cases h with
  | registered _ hwaiting =>
      obtain rfl : waiting = 0 := by omega
      exact .unregistering number

theorem take_none (h : Attachment state none none (waiting + 1) own) :
    Attachment .terminated none none waiting own := by
  cases h with
  | unregistered hwaiting => exact .terminated (by omega)
  | terminated hwaiting => exact .terminated (by omega)

theorem endShutdown (h : Attachment state registration (some (.unregistering number)) waiting own) :
    own = [number] ∧ Attachment .terminated registration none waiting [] := by
  cases h with
  | unregistering => exact ⟨rfl, .terminated (Nat.zero_le 1)⟩

theorem giveUpShutdown (h : Attachment state registration owner (waiting + 1) own) :
    Attachment state registration owner waiting own := by
  cases h with
  | overtaken number hwaiting => exact .overtaken number (by omega)
  | registered number hwaiting => exact .registered number (by omega)
  | unregistered hwaiting => exact .unregistered (by omega)
  | terminated hwaiting => exact .terminated (by omega)

theorem giveUpOwner (h : Attachment state registration owner waiting own) :
    Attachment state registration none waiting own := by
  cases h with
  | registering number => exact .forsaken
  | overtaken number hwaiting => exact .unregistered hwaiting
  | unregistering number => exact .left number
  | unstarted => exact .unstarted
  | forsaken => exact .forsaken
  | running number => exact .running number
  | registered number hwaiting => exact .registered number hwaiting
  | unregistered hwaiting => exact .unregistered hwaiting
  | left number => exact .left number
  | terminated hwaiting => exact .terminated hwaiting

end Attachment

/-! ## Runs -/

/-- The calls on a service that have not ended: how many starts wait for the registration, how many
shutdowns have begun and wait for it, and which call it belongs to. -/
structure ServiceCalls where
  starts : Nat
  shutdowns : Nat
  owner : Option RegistrationOwner

/-- Who owns the registration after the first step of a start. -/
def ownerAfter : Except Fault (Option ObserverId) → Option RegistrationOwner
  | .ok (some number) => some (.registering number)
  | .ok none => none
  | .error _ => none

/-- How many shutdowns a call adds. -/
def ShutdownStep.begun : ShutdownStep → Nat
  | .drain => 1
  | .terminated => 1
  | .alreadyShuttingDown => 0

/-- A shutdown of what is not shut down begins. -/
theorem Lifecycle.begun_beginShutdown {l : Lifecycle} (h : l.state.isClosed = false) :
    (l.beginShutdown.1.state = if l.state = .notStarted then .terminated else .stopping) ∧
      l.beginShutdown.2.begun = 1 := by
  revert h
  unfold beginShutdown
  cases hstate : l.state <;> simp [LifecycleState.transition, LifecycleState.isClosed, ShutdownStep.begun]

/-- Others leave a service as it is. -/
structure Undisturbed (id : ServiceId) (s s' : System) : Prop where
  lifecycle : (s'.service id).lifecycle = (s.service id).lifecycle
  registration : (s'.service id).registration = (s.service id).registration
  bus : (s'.service id).bus = (s.service id).bus
  services : s.services.size ≤ s'.services.size
  buses : s.buses.size ≤ s'.buses.size

theorem Undisturbed.of_services {id : ServiceId} {s s' : System} (hservices : s'.services = s.services)
    (hbuses : s.buses.size ≤ s'.buses.size) : Undisturbed id s s' := by
  refine ⟨?_, ?_, ?_, Nat.le_of_eq (by rw [hservices]), hbuses⟩
  all_goals rw [System.service, hservices, System.service]

/-- The runs of calls on a service from a first system on, with the calls that have not ended and with
what others have done to its bus.  Each step is one of a call, or others do something meanwhile.  A call
may also be given up. -/
inductive ServiceRun (id : ServiceId) (s₀ : System) : ServiceCalls → Others → System → Prop
  | start : ServiceRun id s₀ ⟨0, 0, none⟩ ⟨(s₀.bus (s₀.service id).bus).observers, []⟩ s₀
  /-- A start is called. -/
  | callStart {starts shutdowns owner t s} : ServiceRun id s₀ ⟨starts, shutdowns, owner⟩ t s →
      ServiceRun id s₀ ⟨starts + 1, shutdowns, owner⟩ t s
  /-- A start gets hold of the registration. -/
  | beginStart {starts shutdowns t s} : ServiceRun id s₀ ⟨starts + 1, shutdowns, none⟩ t s →
      ServiceRun id s₀
        ⟨starts, shutdowns, ownerAfter ((withService id Service.claim).run s).1⟩ t
        ((withService id Service.claim).run s).2
  | endStart {starts shutdowns number t s} :
      ServiceRun id s₀ ⟨starts, shutdowns, some (.registering number)⟩ t s →
      ServiceRun id s₀ ⟨starts, shutdowns, none⟩ t ((withService id (Service.place id number)).run s).2
  /-- A shutdown is called and begins. -/
  | callShutdown {starts shutdowns owner t s} :
      ServiceRun id s₀ ⟨starts, shutdowns, owner⟩ t s →
      ServiceRun id s₀
        ⟨starts, shutdowns + ((withService id Service.close).run s).1.begun, owner⟩ t
        ((withService id Service.close).run s).2
  /-- A shutdown gets hold of the registration. -/
  | takeRegistration {starts shutdowns t s} : ServiceRun id s₀ ⟨starts, shutdowns + 1, none⟩ t s →
      ServiceRun id s₀
        ⟨starts, shutdowns, ((withService id Service.takeOut).run s).1.map .unregistering⟩ t
        ((withService id Service.takeOut).run s).2
  | endShutdown {starts shutdowns number t s} :
      ServiceRun id s₀ ⟨starts, shutdowns, some (.unregistering number)⟩ t s →
      ServiceRun id s₀ ⟨starts, shutdowns, none⟩ t ((withService id (Service.leave number)).run s).2
  | giveUpStart {starts shutdowns owner t s} : ServiceRun id s₀ ⟨starts + 1, shutdowns, owner⟩ t s →
      ServiceRun id s₀ ⟨starts, shutdowns, owner⟩ t s
  | giveUpShutdown {starts shutdowns owner t s} :
      ServiceRun id s₀ ⟨starts, shutdowns + 1, owner⟩ t s →
      ServiceRun id s₀ ⟨starts, shutdowns, owner⟩ t s
  | giveUpOwner {starts shutdowns owner t s} : ServiceRun id s₀ ⟨starts, shutdowns, owner⟩ t s →
      ServiceRun id s₀ ⟨starts, shutdowns, none⟩ t s
  | other {calls t t' s s'} : ServiceRun id s₀ calls t s → Undisturbed id s s' →
      t.Use id (s.bus (s.service id).bus) t' (s'.bus (s.service id).bus) →
      ServiceRun id s₀ calls t' s'

/-- A service that was made and has not started: its bus was made, gives each observer a number of its
own below the next one, and does not have one of the service. -/
structure UnstartedService (id : ServiceId) (s : System) : Prop where
  made : id < s.services.size
  busMade : (s.service id).bus < s.buses.size
  state : (s.service id).lifecycle.state = .notStarted
  registration : (s.service id).registration = none
  distinct : ((s.bus (s.service id).bus).observers.map Prod.fst).Nodup
  below : ∀ entry ∈ (s.bus (s.service id).bus).observers, entry.1 < (s.bus (s.service id).bus).nextId
  unheard : ∀ entry ∈ (s.bus (s.service id).bus).observers, entry.2.isOf id = false

/-! ## What a step leaves -/

/-- The calls on a service, its registration and its bus stand to each other as they should. -/
def InAccord (id : ServiceId) (calls : ServiceCalls) (t : Others) (v : Service) (b : Bus) : Prop :=
  ∃ own, Attachment v.lifecycle.state v.registration calls.owner calls.shutdowns own ∧
    Numbered id t own (RegistrationOwner.reserved calls.owner) b

namespace InAccord

variable {id : ServiceId} {calls : ServiceCalls} {t t' : Others} {v : Service} {b b' : Bus}
  {starts shutdowns : Nat} {number : ObserverId} {owner : Option RegistrationOwner}

theorem claim (h : InAccord id ⟨starts + 1, shutdowns, none⟩ t v b) :
    InAccord id ⟨starts, shutdowns, ownerAfter (v.claim b).1⟩ t (v.claim b).2.1 (v.claim b).2.2.1 := by
  obtain ⟨own, hattachment, hnumbered⟩ := h
  by_cases hstate : v.lifecycle.state = .notStarted
  · rw [Service.claim_of_notStarted hstate]
    rw [hstate] at hattachment
    refine ⟨own, ?_, hnumbered.claim⟩
    change Attachment .starting v.registration _ _ _
    generalize v.registration = registration at hattachment ⊢
    cases hattachment with
    | unstarted => exact .registering b.nextId
  · obtain ⟨answer, hnot, -, hclaim⟩ := Service.claim_of_ne hstate b
    rw [hclaim]
    match answer with
    | .error fault => exact ⟨own, hattachment, hnumbered⟩
    | .ok _ => exact ⟨own, hattachment, hnumbered⟩

theorem place (h : InAccord id ⟨starts, shutdowns, some (.registering number)⟩ t v b) :
    InAccord id ⟨starts, shutdowns, none⟩ t (v.place id number b).2.1 (v.place id number b).2.2.1 := by
  obtain ⟨own, hattachment, hnumbered⟩ := h
  obtain ⟨rfl, hrunning⟩ := hattachment.endStart
  have hstate : v.lifecycle.markRunning.state =
      if v.lifecycle.state = .starting then .running else v.lifecycle.state := by
    unfold Lifecycle.markRunning
    split <;> rfl
  rw [← hstate] at hrunning
  exact ⟨[number], hrunning, hnumbered.place⟩

theorem close (h : InAccord id ⟨starts, shutdowns, owner⟩ t v b) :
    InAccord id ⟨starts, shutdowns + (v.close b).1.begun, owner⟩ t (v.close b).2.1
      (v.close b).2.2.1 := by
  obtain ⟨own, hattachment, hnumbered⟩ := h
  change InAccord id ⟨starts, shutdowns + v.lifecycle.beginShutdown.2.begun, owner⟩ t
    { v with lifecycle := v.lifecycle.beginShutdown.1 } b
  cases hclosed : v.lifecycle.state.isClosed with
  | true =>
      rw [Lifecycle.beginShutdown_of_closed hclosed]
      exact ⟨own, hattachment, hnumbered⟩
  | false =>
      have hnext := hattachment.beginShutdown hclosed
      obtain ⟨hstate, hbegun⟩ := Lifecycle.begun_beginShutdown hclosed
      rw [← hstate] at hnext
      rw [hbegun]
      exact ⟨own, hnext, hnumbered⟩

theorem takeOut (h : InAccord id ⟨starts, shutdowns + 1, none⟩ t v b) :
    InAccord id ⟨starts, shutdowns, (v.takeOut b).1.map .unregistering⟩ t (v.takeOut b).2.1
      (v.takeOut b).2.2.1 := by
  obtain ⟨own, hattachment, hnumbered⟩ := h
  unfold Service.takeOut
  cases hregistration : v.registration with
  | some number =>
      rw [hregistration] at hattachment
      exact ⟨own, hattachment.take_some, hnumbered⟩
  | none =>
      rw [hregistration] at hattachment
      exact ⟨own, hattachment.take_none, hnumbered⟩

theorem leave (h : InAccord id ⟨starts, shutdowns, some (.unregistering number)⟩ t v b) :
    InAccord id ⟨starts, shutdowns, none⟩ t (v.leave number b).2.1 (v.leave number b).2.2.1 := by
  obtain ⟨own, hattachment, hnumbered⟩ := h
  obtain ⟨rfl, hterminated⟩ := hattachment.endShutdown
  exact ⟨[], hterminated, hnumbered.unregister⟩

theorem giveUpShutdown (h : InAccord id ⟨starts, shutdowns + 1, owner⟩ t v b) :
    InAccord id ⟨starts, shutdowns, owner⟩ t v b := by
  obtain ⟨own, hattachment, hnumbered⟩ := h
  exact ⟨own, hattachment.giveUpShutdown, hnumbered⟩

theorem giveUpOwner (h : InAccord id ⟨starts, shutdowns, owner⟩ t v b) :
    InAccord id ⟨starts, shutdowns, none⟩ t v b := by
  obtain ⟨own, hattachment, hnumbered⟩ := h
  refine ⟨own, hattachment.giveUpOwner, ?_⟩
  match owner with
  | none => exact hnumbered
  | some (.registering number) => exact hnumbered.forsake
  | some (.unregistering number) => exact hnumbered

end InAccord

/-- The calls on a service that was made are in accord with it. -/
structure Attached (id : ServiceId) (calls : ServiceCalls) (t : Others) (s : System) : Prop where
  made : id < s.services.size
  busMade : (s.service id).bus < s.buses.size
  inAccord : InAccord id calls t (s.service id) (s.bus (s.service id).bus)

section runs

variable {id : ServiceId} {s s₀ s' : System} {calls calls' : ServiceCalls} {t t' : Others}
  {starts shutdowns : Nat}

theorem UnstartedService.attached (h : UnstartedService id s) :
    Attached id ⟨0, 0, none⟩ ⟨(s.bus (s.service id).bus).observers, []⟩ s := by
  refine ⟨h.made, h.busMade, [], ?_, ?_, ?_, ?_⟩
  · rw [h.state, h.registration]
    exact .unstarted
  · refine List.filter_eq_self.mpr fun entry hentry => ?_
    rw [h.unheard entry hentry]
    rfl
  · refine List.filter_eq_nil_iff.mpr fun entry hentry => ?_
    rw [h.unheard entry hentry]
    exact Bool.false_ne_true
  · refine ⟨?_, fun number hnumber => ?_⟩
    · simpa [RegistrationOwner.reserved] using h.distinct
    · have hmem : number ∈ (s.bus (s.service id).bus).observers.map Prod.fst := by
        simpa [RegistrationOwner.reserved] using hnumber
      obtain ⟨entry, hentry, rfl⟩ := List.mem_map.mp hmem
      exact h.below entry hentry

namespace Attached

/-- A step that leaves the calls in accord with the service, on the same bus. -/
theorem step {α : Type} {f : Service → Bus → α × Service × Bus × List LogLine}
    (h : Attached id calls t s)
    (hbus : (f (s.service id) (s.bus (s.service id).bus)).2.1.bus = (s.service id).bus)
    (haccord : InAccord id calls' t (f (s.service id) (s.bus (s.service id).bus)).2.1
      (f (s.service id) (s.bus (s.service id).bus)).2.2.1) :
    Attached id calls' t ((ContentEngine.withService id f).run s).2 := by
  rw [withService_run]
  refine ⟨?_, ?_, ?_⟩
  · exact Nat.lt_of_lt_of_eq h.made Array.size_setIfInBounds.symm
  · rw [System.service_amend h.made, hbus]
    exact Nat.lt_of_lt_of_eq h.busMade (s.buses_size_setBus _ _).symm
  · rwa [System.service_amend h.made, hbus, System.bus_amend h.busMade]

theorem other (h : Attached id calls t s) (hsame : Undisturbed id s s')
    (huse : t.Use id (s.bus (s.service id).bus) t' (s'.bus (s.service id).bus)) :
    Attached id calls t' s' := by
  obtain ⟨own, hattachment, hnumbered⟩ := h.inAccord
  refine ⟨Nat.lt_of_lt_of_le h.made hsame.services, ?_, own, ?_, ?_⟩
  · rw [hsame.bus]
    exact Nat.lt_of_lt_of_le h.busMade hsame.buses
  · rwa [hsame.lifecycle, hsame.registration]
  · rw [hsame.bus]
    exact hnumbered.use huse

end Attached

/-- In every run the calls are in accord with the service. -/
theorem ServiceRun.attached (hrun : ServiceRun id s₀ calls t s) (hunstarted : UnstartedService id s₀) :
    Attached id calls t s := by
  induction hrun with
  | start => exact hunstarted.attached
  | callStart _ ih => exact ⟨ih.made, ih.busMade, ih.inAccord⟩
  | beginStart _ ih => exact ih.step (Service.claim_bus _ _) ih.inAccord.claim
  | endStart _ ih => exact ih.step rfl ih.inAccord.place
  | callShutdown _ ih => exact ih.step rfl ih.inAccord.close
  | takeRegistration _ ih => exact ih.step (Service.takeOut_bus _ _) ih.inAccord.takeOut
  | endShutdown _ ih => exact ih.step rfl ih.inAccord.leave
  | giveUpStart _ ih => exact ⟨ih.made, ih.busMade, ih.inAccord⟩
  | giveUpShutdown _ ih => exact ⟨ih.made, ih.busMade, ih.inAccord.giveUpShutdown⟩
  | giveUpOwner _ ih => exact ⟨ih.made, ih.busMade, ih.inAccord.giveUpOwner⟩
  | other _ hsame huse ih => exact ih.other hsame huse

/-! ### Calls that nobody interrupts -/

namespace ServiceRun

/-- A start that nobody interrupts, while the registration belongs to nobody. -/
theorem startService (hrun : ServiceRun id s₀ ⟨starts, shutdowns, none⟩ t s)
    (hunstarted : UnstartedService id s₀) :
    ServiceRun id s₀ ⟨starts, shutdowns, none⟩ t ((ContentEngine.startService id).run s).2 := by
  have hattached := hrun.attached hunstarted
  have hbegun := hrun.callStart.beginStart
  rw [← startSteps_run hattached.made hattached.busMade, startSteps, run_bind]
  generalize (withService id Service.claim).run s = begun at hbegun ⊢
  obtain ⟨answer, s'⟩ := begun
  cases answer with
  | error fault => exact hbegun
  | ok claimed =>
      cases claimed with
      | none => exact hbegun
      | some number => exact hbegun.endStart

/-- A shutdown that nobody interrupts, while the registration belongs to nobody. -/
theorem shutdownService (hrun : ServiceRun id s₀ ⟨starts, shutdowns, none⟩ t s)
    (hunstarted : UnstartedService id s₀) :
    ServiceRun id s₀ ⟨starts, shutdowns, none⟩ t ((ContentEngine.shutdownService id).run s).2 := by
  have hattached := hrun.attached hunstarted
  have hbegun := hrun.callShutdown
  rw [← shutdownSteps_run hattached.made hattached.busMade, shutdownSteps, run_bind]
  generalize (withService id Service.close).run s = begun at hbegun ⊢
  obtain ⟨step, s'⟩ := begun
  cases step with
  | alreadyShuttingDown => exact hbegun
  | drain | terminated =>
      have htaken := hbegun.takeRegistration
      dsimp only
      rw [run_bind]
      generalize (withService id Service.takeOut).run s' = took at htaken ⊢
      obtain ⟨taken, s''⟩ := took
      cases taken with
      | none => exact htaken
      | some number => exact htaken.endShutdown

/-- Others change the bus. -/
theorem setBus (hrun : ServiceRun id s₀ calls t s) (hunstarted : UnstartedService id s₀) {b : Bus}
    (huse : t.Use id (s.bus (s.service id).bus) t' b) :
    ServiceRun id s₀ calls t' (s.setBus (s.service id).bus b) := by
  refine hrun.other (.of_services rfl (Nat.le_of_eq (s.buses_size_setBus _ b).symm)) ?_
  rwa [s.bus_setBus_self (hrun.attached hunstarted).busMade]

/-- Others register an observer. -/
theorem observe (hrun : ServiceRun id s₀ calls t s) (hunstarted : UnstartedService id s₀) {o : Observer}
    (ho : o.isOf id = false) :
    ServiceRun id s₀ calls
      ⟨t.observers ++ [((s.bus (s.service id).bus).nextId, o)], t.claimed⟩
      ((ContentEngine.observe (s.service id).bus o).run s).2 := by
  have hattached := hrun.attached hunstarted
  obtain ⟨own, -, hnumbered⟩ := hattached.inAccord
  have hnew : (s.bus (s.service id).bus).nextId ∉ t.claimed := by
    intro hclaimed
    exact Nat.lt_irrefl _ (hnumbered.given.below _ (List.mem_append_right _ hclaimed))
  -- the number is claimed, and the observer placed under it
  have hclaimed := hrun.setBus hunstarted (.claim t _)
  have hplaced := hclaimed.setBus hunstarted
    (.place _ (List.mem_append_right t.claimed List.mem_cons_self) ho)
  have hbus : (s.setBus (s.service id).bus (s.bus (s.service id).bus).claim).bus (s.service id).bus =
      (s.bus (s.service id).bus).claim := s.bus_setBus_self hattached.busMade _
  change ServiceRun id s₀ calls _ ((s.setBus (s.service id).bus _).setBus (s.service id).bus
    (Bus.place (System.bus (s.setBus (s.service id).bus _) (s.service id).bus) _ o)) at hplaced
  rw [hbus, List.erase_append_right _ hnew, List.erase_cons_head, List.append_nil,
    s.setBus_setBus] at hplaced
  change ServiceRun id s₀ calls _ (s.setBus (s.service id).bus
    ((s.bus (s.service id).bus).register o).2)
  rw [Bus.register_eq]
  exact hplaced

end ServiceRun

end runs

/-! ## The observer follows the lifecycle -/

/-- The observers on the bus of a service: its own one follows its lifecycle, the others are those that
others have left there. -/
structure Follows (id : ServiceId) (t : Others) (s : System) : Prop where
  once : (s.bus (s.service id).bus).observers.countP (·.2.isOf id) ≤ 1
  running : (s.service id).lifecycle.state = .running →
    ∃ number, (number, .processing id) ∈ (s.bus (s.service id).bus).observers
  absent : (s.service id).lifecycle.state = .notStarted ∨
      (s.service id).lifecycle.state = .terminated →
    ∀ number, (number, .processing id) ∉ (s.bus (s.service id).bus).observers
  others : (s.bus (s.service id).bus).observers.filter (fun entry => !entry.2.isOf id) =
    t.observers

/-- **The observer of a service follows its lifecycle**, however starts and shutdowns overlap. -/
theorem observer_follows {id : ServiceId} {s₀ s : System} {calls : ServiceCalls} {t : Others}
    (hunstarted : UnstartedService id s₀) (hrun : ServiceRun id s₀ calls t s) : Follows id t s := by
  obtain ⟨own, hattachment, hnumbered⟩ := (hrun.attached hunstarted).inAccord
  refine ⟨?_, fun hstate => ?_, fun hstate number hmem => ?_, hnumbered.theirs⟩
  · rw [List.countP_eq_length_filter, hnumbered.mine, List.length_map]
    exact hattachment.length_le_one
  · obtain ⟨number, hnumber⟩ := List.exists_mem_of_ne_nil own (hattachment.own_of_running hstate)
    exact ⟨number, hnumbered.mem_own.mpr hnumber⟩
  · have hnumber := hnumbered.mem_own.mp hmem
    rw [hattachment.own_of_ended hstate] at hnumber
    exact absurd hnumber List.not_mem_nil

/-! ### A start that a shutdown overtakes -/

/-- A system with a service that has not started. -/
def System.serving : System :=
  ((addService (.new "engine" 0 0 [])).run ((addBus (.new "engine" 1)).run .empty).2).2

theorem System.serving_unstarted : UnstartedService 0 .serving where
  made := by decide
  busMade := by decide
  state := rfl
  registration := rfl
  distinct := List.nodup_nil
  below _ h := absurd h List.not_mem_nil
  unheard _ h := absurd h List.not_mem_nil

/-- The service starts.  Before its observer is on the bus another one is registered, and a shutdown
begins; then the start goes on. -/
def System.overtakenStart : System :=
  let claimed := ((withService 0 Service.claim).run .serving).2
  let observed := ((observe 0 (.scripted "other" .accept)).run claimed).2
  ((withService 0 (Service.place 0 1)).run ((withService 0 Service.close).run observed).2).2

theorem System.overtakenStart_run :
    ServiceRun 0 .serving ⟨0, 1, none⟩ ⟨[(2, .scripted "other" .accept)], []⟩ .overtakenStart := by
  have hstart : ServiceRun 0 .serving ⟨0, 0, none⟩ ⟨[], []⟩ .serving := .start
  have hclaimed : ServiceRun 0 .serving ⟨0, 0, some (.registering 1)⟩ ⟨[], []⟩
      ((withService 0 Service.claim).run .serving).2 := hstart.callStart.beginStart
  have hobserved := hclaimed.observe serving_unstarted (o := .scripted "other" .accept) rfl
  exact hobserved.callShutdown.endStart

/-- The shutdown goes on when it has the registration. -/
def System.detached : System :=
  ((withService 0 (Service.leave 1)).run ((withService 0 Service.takeOut).run .overtakenStart).2).2

theorem observer_follows_overtaken :
    UnstartedService 0 .serving ∧
      ServiceRun 0 .serving ⟨0, 0, none⟩ ⟨[(2, .scripted "other" .accept)], []⟩ .detached ∧
      (System.overtakenStart.service 0).lifecycle.state = .stopping ∧
      (System.overtakenStart.bus 0).observers.map Prod.fst = [2, 1] ∧
      (System.detached.service 0).lifecycle.state = .terminated ∧
      Follows 0 ⟨[(2, .scripted "other" .accept)], []⟩ .detached := by
  have hrun : ServiceRun 0 .serving ⟨0, 0, none⟩ ⟨[(2, .scripted "other" .accept)], []⟩ .detached :=
    System.overtakenStart_run.takeRegistration.endShutdown
  exact ⟨System.serving_unstarted, hrun, by decide, by decide, by decide,
    observer_follows System.serving_unstarted hrun⟩

end ContentEngine
