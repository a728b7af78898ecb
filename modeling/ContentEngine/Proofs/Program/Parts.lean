import ContentEngine.Proofs.Table
import ContentEngine.System.State

/-!
# The parts of a system after a change

Components are kept by number.  What is found under a number after one component was changed or one
more was made.
-/

namespace ContentEngine.System

section arrays

variable {α : Type} (items : Array α) (i j : Nat) (a b : α)

theorem getD_set : (items.setIfInBounds i a).getD j b =
    if j = i ∧ i < items.size then a else items.getD j b := by
  simp only [Array.getD_eq_getD_getElem?, Array.getElem?_setIfInBounds]
  by_cases hij : i = j
  · subst hij
    by_cases hlt : i < items.size <;> simp [hlt]
  · simp [hij, Ne.symm hij]

theorem getD_push : (items.push a).getD j b = if j = items.size then a else items.getD j b := by
  simp only [Array.getD_eq_getD_getElem?, Array.getElem?_push]
  split <;> rfl

/-- Putting an item where it is changes nothing. -/
theorem set_getD : items.setIfInBounds i (items.getD i b) = items := by
  by_cases hid : i < items.size
  · simp [Array.setIfInBounds, hid, Array.getD]
  · exact Array.setIfInBounds_eq_of_size_le (Nat.le_of_not_lt hid)

theorem getD_out (h : items.size ≤ j) : items.getD j b = b := by
  rw [Array.getD_eq_getD_getElem?, Array.getElem?_eq_none h, Option.getD_none]

end arrays

variable (s : System)

/-! ## Buses -/

theorem bus_setBus (id other : BusId) (b : Bus) :
    (s.setBus id b).bus other = if other = id ∧ id < s.buses.size then b else s.bus other :=
  getD_set ..

theorem bus_setBus_self {id : BusId} (h : id < s.buses.size) (b : Bus) :
    (s.setBus id b).bus id = b := by
  rw [bus_setBus, if_pos ⟨rfl, h⟩]

@[simp] theorem setBus_self (id : BusId) : s.setBus id (s.bus id) = s := by
  unfold setBus bus
  rw [set_getD]

theorem setBus_setBus (id : BusId) (b b' : Bus) : (s.setBus id b).setBus id b' = s.setBus id b' := by
  simp [setBus]

theorem buses_size_setBus (id : BusId) (b : Bus) : (s.setBus id b).buses.size = s.buses.size :=
  Array.size_setIfInBounds

/-! ## Federations -/

theorem federation_setFederation (id other : FederationId) (f : Federation) :
    (s.setFederation id f).federation other =
      if other = id ∧ id < s.federations.size then f else s.federation other :=
  getD_set ..

@[simp] theorem setFederation_self (id : FederationId) : s.setFederation id (s.federation id) = s := by
  unfold setFederation federation
  rw [set_getD]

theorem federation_setFederation_self {id : FederationId} (h : id < s.federations.size)
    (f : Federation) : (s.setFederation id f).federation id = f := by
  rw [federation_setFederation, if_pos ⟨rfl, h⟩]

theorem federation_out {id : FederationId} (h : s.federations.size ≤ id) : s.federation id = default :=
  getD_out _ _ _ h

/-- No shutdown of a federation has begun. -/
def IsOpen (federation : FederationId) : Prop :=
  (s.federation federation).state.isClosed = false

/-! ## Dispatchers -/

theorem dispatcher_setDispatcher (id other : DispatcherId) (d : Dispatcher) :
    (s.setDispatcher id d).dispatcher other =
      if other = id ∧ id < s.dispatchers.size then d else s.dispatcher other :=
  getD_set ..

theorem dispatcher_setDispatcher_self {id : DispatcherId} (h : id < s.dispatchers.size)
    (d : Dispatcher) : (s.setDispatcher id d).dispatcher id = d := by
  rw [dispatcher_setDispatcher, if_pos ⟨rfl, h⟩]

theorem dispatchers_size_setDispatcher (id : DispatcherId) (d : Dispatcher) :
    (s.setDispatcher id d).dispatchers.size = s.dispatchers.size :=
  Array.size_setIfInBounds

theorem dispatcher_out {id : DispatcherId} (h : s.dispatchers.size ≤ id) :
    s.dispatcher id = default :=
  getD_out _ _ _ h

/-- Only dispatchers that were made have been started or shut down. -/
theorem dispatcher_lt_of_state {id : DispatcherId}
    (h : (s.dispatcher id).lifecycle.state ≠ .notStarted) : id < s.dispatchers.size := by
  refine Nat.lt_of_not_ge fun hge => h ?_
  rw [s.dispatcher_out hge]
  rfl

/-- Only dispatchers that were made have jobs. -/
theorem dispatcher_lt_of_job {id : DispatcherId} {index : JobIndex} {job : DispatchedJob}
    (h : (s.dispatcher id).jobs[index]? = some job) : id < s.dispatchers.size := by
  rcases Nat.lt_or_ge id s.dispatchers.size with hlt | hge
  · exact hlt
  · rw [s.dispatcher_out hge] at h
    cases h

/-! ## Services -/

theorem service_setService_self {id : ServiceId} (h : id < s.services.size) (v : Service) :
    (s.setService id v).service id = v :=
  (getD_set ..).trans (if_pos ⟨rfl, h⟩)

theorem setService_self (id : ServiceId) : s.setService id (s.service id) = s := by
  unfold setService service
  rw [set_getD]

/-! ## Engines -/

theorem engine_setEngine (id other : EngineId) (e : Engine) :
    (s.setEngine id e).engine other =
      if other = id ∧ id < s.engines.size then e else s.engine other :=
  getD_set ..

theorem engine_setEngine_self {id : EngineId} (h : id < s.engines.size) (e : Engine) :
    (s.setEngine id e).engine id = e := by
  rw [engine_setEngine, if_pos ⟨rfl, h⟩]

@[simp] theorem setEngine_self (id : EngineId) : s.setEngine id (s.engine id) = s := by
  unfold setEngine engine
  rw [set_getD]

theorem engine_out {id : EngineId} (h : s.engines.size ≤ id) : s.engine id = default :=
  getD_out _ _ _ h

/-- Only engines that were made have been started or shut down, ... -/
theorem engine_lt_of_state {id : EngineId} (h : (s.engine id).lifecycle.state ≠ .notStarted) :
    id < s.engines.size := by
  refine Nat.lt_of_not_ge fun hge => h ?_
  rw [s.engine_out hge]
  rfl

/-- ... and only they have been asked to close. -/
theorem engine_lt_of_closing {id : EngineId} (h : (s.engine id).closing ≠ .idle) :
    id < s.engines.size := by
  refine Nat.lt_of_not_ge fun hge => h ?_
  rw [s.engine_out hge]
  rfl

/-! ## Errands and gates -/

@[simp] theorem enqueue_nil : s.enqueue [] = s := by
  unfold enqueue
  rw [List.append_nil]

theorem gate_setGate (name other : String) (g : Gate) :
    (s.setGate name g).gate other = if other = name then g else s.gate other := by
  unfold gate setGate
  rw [Table.get?_insert]
  split <;> rfl

end ContentEngine.System
