import ContentEngine.Proofs.Run.Connections
import ContentEngine.Proofs.Source.Installing

/-!
# Where sources are housed

Names of sources stand for pools.  Whatever is done with sources, a pool is registered under one name
of one federation, and as long as the federation is open so are the pools that it has registered.

## Strategy

Every operation comes of deals, and a deal that registers a source makes a pool of its own.  So the
invariant is kept by each deal (`Housed.deal`).  That a system came of dealing with sources outlasts
every operation (`lasting_trading`), also those which `Trading` does not list.
-/

namespace ContentEngine

variable {held held' : List Stake} {s s' : System}

/-! ## Trading outlasts every operation -/

theorem Calm.of_aside (h : Aside s s') : Calm s s' where
  connections := h.connections
  pools := h.pools
  federations := Nat.le_of_eq h.federations_size.symm
  sources id := by
    obtain ⟨_, heq⟩ := h.federations id
    rw [heq]
  isOpen id := by
    obtain ⟨_, heq⟩ := h.federations id
    unfold System.IsOpen
    rw [heq]
    exact .rfl

theorem calm_submitWork (id : DispatcherId) (work : WorkItem Processor) (s : System) :
    Calm s ((submitWork id work).run s).2 := by
  by_cases haccepts : ((s.dispatcher id).accepting && (s.dispatcher id).lifecycle.isRunning) = true
  · rw [submitWork_accepted work haccepts]
    exact ⟨rfl, rfl, Nat.le_refl _, fun _ => rfl, fun _ => .rfl⟩
  · rw [submitWork_rejected work haccepts]
    exact ⟨rfl, rfl, Nat.le_refl _, fun _ => rfl, fun _ => .rfl⟩

theorem System.jobStakes_setDispatcher (id : DispatcherId) {d : Dispatcher}
    (h : d.stakes = (s.dispatcher id).stakes) : (s.setDispatcher id d).jobStakes = s.jobStakes := by
  unfold jobStakes setDispatcher
  rw [Array.toList_setIfInBounds, List.flatMap_def, List.flatMap_def, List.map_set]
  refine congrArg List.flatten (List.ext_getElem? fun i => ?_)
  rw [List.getElem?_set]
  split
  · rename_i hi
    subst hi
    split
    · rename_i hlt
      rw [List.length_map, Array.length_toList] at hlt
      rw [List.getElem?_map, Array.getElem?_toList, Array.getElem?_eq_getElem hlt, h, dispatcher,
        Array.getD_eq_getD_getElem?, Array.getElem?_eq_getElem hlt]
      rfl
    · rename_i hge
      rw [List.getElem?_eq_none (Nat.not_lt.mp hge)]
  · rfl

private theorem Trading.install (h : Trading held s) (id : FederationId) (name : String)
    (connector : Connector) (descriptor : Option SourceDescriptor) :
    Trading held ((withFederation id fun f d => f.install d name connector descriptor).run s).2 := by
  rcases Nat.lt_or_ge id s.federations.size with hlt | hge
  · exact h.part (.install name connector descriptor hlt)
      (.withFederation id (fun f d => install_state f d _ _ _) s) rfl
  have hfederation : s.federation id = default := s.federation_out hge
  have hrun : ((withFederation id fun f d => f.install d name connector descriptor).run s).2 =
      s.setDepot ((default : Federation).install s.depot name connector descriptor).2.2 := by
    change (s.setFederation id _).setDepot _ = _
    rw [System.setFederation, Array.setIfInBounds_eq_of_size_le hge, hfederation]
    rfl
  rw [hrun]
  have hstores : ∀ {d : Depot}, d.connections = s.depot.connections → d.pools = s.depot.pools →
      Trading held (s.setDepot d) := fun hconnections hpools =>
    h.part (.calm ⟨hconnections, hpools, Nat.le_refl _, fun _ => rfl, fun _ => .rfl⟩)
      (.of_eq rfl rfl rfl rfl rfl rfl rfl rfl) rfl
  rcases (default : Federation).install_cases s.depot name connector descriptor with
    ⟨fault, d', herror, hconnections, hpools⟩ | ⟨d', -, hconnections, hpools, hok⟩
  · rw [herror]
    exact hstores hconnections hpools
  · rw [hok]
    exact (hstores hconnections hpools).part (.addPool rfl) (.of_eq rfl rfl rfl rfl rfl rfl rfl rfl) rfl

/-- That a system came of dealing with sources outlasts every operation. -/
theorem lasting_trading : Lasting Trading where
  aside haside h := .other h (.quiet (.of_aside haside)) (.of_aside haside) (by
    rw [System.jobStakes, haside.dispatchers, System.jobStakes])
  turn deadline _ _ h := .turn deadline h
  pass moment {_ s} h :=
    .other h (.pass moment s) ⟨rfl, rfl, Nat.le_refl _, fun _ => rfl, fun _ => .rfl⟩ rfl
  install id name connector descriptor _ _ h := h.install id name connector descriptor
  remove id name _ _ h := .remove id name h
  request id name _ s h := .part h (.request id name) (.withFederation id (fun _ _ => rfl) s) rfl
  resume id o held s h := by
    have hpart := Trading.part h (.resume id (List.mem_cons_self (a := Stake.opening o)))
      (.withFederation id (fun _ _ => rfl) s) rfl
    rwa [List.erase_cons_head] at hpart
  abandon {o held s} h := by
    have hpart := Trading.part h (.abandon (List.mem_cons_self (a := Stake.opening o))) (.refl s) rfl
    rwa [List.erase_cons_head] at hpart
  giveBack _ _ _ h := .drop h
  submit id work held s h := by
    refine .other h (.submit id work s) (calm_submitWork id work s) ?_
    by_cases haccepts : ((s.dispatcher id).accepting && (s.dispatcher id).lifecycle.isRunning) = true
    · rw [submitWork_accepted work haccepts]
      exact s.jobStakes_setDispatcher id (Dispatcher.stakes_accept _ _)
    · rw [submitWork_rejected work haccepts]
      exact s.jobStakes_setDispatcher id (d := { s.dispatcher id with
        rejected := (s.dispatcher id).rejected + 1 }) rfl

/-! ## Housing -/

/-- Each source is served from a pool of its own. -/
structure Housed (s : System) : Prop where
  sorted : ∀ id, Table.Sorted (s.federation id).pools
  made : ∀ id, (s.federation id).Made s.depot
  /-- A pool is registered once. -/
  home : ∀ {id name id' name' p}, Table.get? (s.federation id).pools name = some p →
    Table.get? (s.federation id').pools name' = some p → id = id' ∧ name = name'
  opened : ∀ id, s.IsOpen id → ∀ name p, Table.get? (s.federation id).pools name = some p →
    (s.depot.pool p).closed = false

namespace Housed

/-- A change after which all sources are served by the same pools, which are as open as before. -/
private theorem same (h : Housed s)
    (hsources : ∀ id, (s'.federation id).pools = (s.federation id).pools)
    (hsize : s.depot.pools.size ≤ s'.depot.pools.size)
    (hclosed : ∀ p < s.depot.pools.size, (s.depot.pool p).closed = false →
      (s'.depot.pool p).closed = false)
    (hopen : ∀ id, s'.IsOpen id → s.IsOpen id) : Housed s' where
  sorted id := by
    rw [hsources]
    exact h.sorted id
  made id name p hp := Nat.lt_of_lt_of_le (h.made id name p (hsources id ▸ hp)) hsize
  home hp hp' := by
    rw [hsources] at hp hp'
    exact h.home hp hp'
  opened id hid name p hp := by
    rw [hsources] at hp
    exact hclosed p (h.made id name p hp) (h.opened id (hopen id hid) name p hp)

/-- A change of the depot that closes no pool. -/
private theorem depot (h : Housed s) (hfederation : ∀ id, s'.federation id = s.federation id)
    (hsize : s.depot.pools.size ≤ s'.depot.pools.size)
    (hclosed : ∀ p, (s.depot.pool p).closed = false → (s'.depot.pool p).closed = false) :
    Housed s' := by
  refine h.same (fun id => by rw [hfederation]) hsize (fun p _ => hclosed p) fun id hopen => ?_
  unfold System.IsOpen at hopen ⊢
  rwa [hfederation] at hopen

private theorem lent (h : Housed s) (hlent : s.depot.Lent s'.depot)
    (hfederations : s'.federations = s.federations) : Housed s' := by
  refine h.depot (fun id => ?_) (Nat.le_of_eq hlent.size.symm) fun p hp => ?_
  · rw [System.federation, hfederations, System.federation]
  · obtain ⟨_, heq⟩ := hlent.pools p
    rwa [heq]

section changes

variable (id : FederationId)
  (hothers : ∀ other, other ≠ id → s'.federation other = s.federation other)
include hothers

/-- Sources of other federations are served as before by pools that do not change. -/
private theorem others (h : Housed s) (hsorted : Table.Sorted (s'.federation id).pools)
    (hmade : ∀ id, (s'.federation id).Made s'.depot)
    (hnames : ∀ {name p}, Table.get? (s'.federation id).pools name = some p →
      Table.get? (s.federation id).pools name = some p ∨
        s.depot.pools.size ≤ p ∧ ∀ {name'}, Table.get? (s'.federation id).pools name' = some p →
          name' = name)
    (hpools : ∀ p < s.depot.pools.size, (∀ name, Table.get? (s.federation id).pools name ≠ some p) →
      s'.depot.pool p = s.depot.pool p)
    (hopened : s'.IsOpen id → ∀ name p, Table.get? (s'.federation id).pools name = some p →
      (s'.depot.pool p).closed = false) : Housed s' where
  sorted other := by
    by_cases hother : other = id
    · exact hother ▸ hsorted
    · exact hothers other hother ▸ h.sorted other
  made := hmade
  home {other name other' name' p} hp hp' := by
    have hnew : ∀ {other name}, other ≠ id → Table.get? (s'.federation other).pools name = some p →
        ¬s.depot.pools.size ≤ p := fun hother hp =>
      Nat.not_le_of_lt (h.made _ _ p (hothers _ hother ▸ hp))
    by_cases hother : other = id
    · by_cases hother' : other' = id
      · subst hother hother'
        rcases hnames hp with hold | ⟨-, hone⟩
        · rcases hnames hp' with hold' | ⟨-, hone⟩
          · exact h.home hold hold'
          · exact ⟨rfl, hone hp⟩
        · exact ⟨rfl, (hone hp').symm⟩
      · subst hother
        have hold := (hnames hp).resolve_right fun hsize => hnew hother' hp' hsize.1
        exact h.home hold (hothers _ hother' ▸ hp')
    · by_cases hother' : other' = id
      · subst hother'
        have hold := (hnames hp').resolve_right fun hsize => hnew hother hp hsize.1
        exact h.home (hothers _ hother ▸ hp) hold
      · exact h.home (hothers _ hother ▸ hp) (hothers _ hother' ▸ hp')
  opened other hopen name p hp := by
    by_cases hother : other = id
    · subst hother
      exact hopened hopen name p hp
    · have hold : Table.get? (s.federation other).pools name = some p := hothers other hother ▸ hp
      rw [hpools p (h.made other name p hold) fun name' hp' => hother (h.home hold hp').1]
      refine h.opened other ?_ name p hold
      unfold System.IsOpen at hopen ⊢
      rwa [hothers other hother] at hopen

/-- The new pool of a source that was installed has one name, and is open. -/
private theorem installed (h : Housed s) {name : String} {connector : Connector}
    {descriptor : Option SourceDescriptor} (hopen : s.IsOpen id)
    (hself : s'.federation id = { s.federation id with
      pools := Table.insert name s.depot.pools.size (s.federation id).pools })
    (hinstalled : (s.federation id).Installed s.depot name connector descriptor s'.depot) :
    Housed s' := by
  have hsize := hinstalled.size
  have hsource : ∀ {n p}, Table.get? (s'.federation id).pools n = some p →
      n = name ∧ p = s.depot.pools.size ∨
        n ≠ name ∧ Table.get? (s.federation id).pools n = some p := fun {n p} hp => by
    rw [hself, Table.get?_insert] at hp
    split at hp
    · exact .inl ⟨‹_›, (Option.some.inj hp).symm⟩
    · exact .inr ⟨‹_›, hp⟩
  refine others id hothers h ?_ (fun other n p hp => ?_) (fun {n p} hp => ?_)
    (fun p hlt hp => ?_) fun _ n p hp => ?_
  · rw [hself]
    exact (h.sorted id).insert name _
  · rw [hsize]
    refine Nat.lt_succ_of_le ?_
    by_cases hother : other = id
    · subst hother
      rcases hsource hp with ⟨-, rfl⟩ | ⟨-, hold⟩
      · exact Nat.le_refl _
      · exact Nat.le_of_lt (h.made other n p hold)
    · exact Nat.le_of_lt (h.made other n p (hothers other hother ▸ hp))
  · rcases hsource hp with ⟨rfl, rfl⟩ | ⟨-, hold⟩
    · refine .inr ⟨Nat.le_refl _, fun {n'} hp' => ?_⟩
      rcases hsource hp' with ⟨heq, -⟩ | ⟨-, hold⟩
      · exact heq
      · exact absurd (h.made id n' _ hold) (Nat.lt_irrefl _)
    · exact .inl hold
  · exact hinstalled.others p (Nat.ne_of_lt hlt) (hp name)
  · rcases hsource hp with ⟨-, rfl⟩ | ⟨hn, hold⟩
    · rw [hinstalled.fresh]
      rfl
    · rw [hinstalled.others p (Nat.ne_of_lt (h.made id n p hold)) fun hp' => hn (h.home hold hp').2]
      exact h.opened id hopen n p hold

end changes

private theorem install {id : FederationId} (h : Housed s) (hid : id < s.federations.size)
    (name : String) (connector : Connector) (descriptor : Option SourceDescriptor) :
    Housed ((withFederation id fun f d => f.install d name connector descriptor).run s).2 := by
  have hfederation : ∀ other, System.federation ((withFederation id fun f d =>
      f.install d name connector descriptor).run s).2 other = if other = id ∧ id < s.federations.size
        then ((s.federation id).install s.depot name connector descriptor).2.1
        else s.federation other := fun other => s.federation_setFederation id other _
  have hdepot : System.depot ((withFederation id fun f d =>
      f.install d name connector descriptor).run s).2 =
        ((s.federation id).install s.depot name connector descriptor).2.2 := rfl
  generalize ((withFederation id fun f d => f.install d name connector descriptor).run s).2 = s'
    at hfederation hdepot ⊢
  have hothers : ∀ other, other ≠ id → s'.federation other = s.federation other :=
    fun other hother => (hfederation other).trans (if_neg fun heq => hother heq.1)
  have hself := (hfederation id).trans (if_pos ⟨rfl, hid⟩)
  -- if nothing is installed, all pools are the same
  have hsame : s'.federation id = s.federation id → s'.depot.pools = s.depot.pools → Housed s' := by
    intro hf hpools
    refine h.depot (fun other => ?_) (Nat.le_of_eq (by rw [hpools])) fun p hp => ?_
    · by_cases hother : other = id
      · exact hother ▸ hf
      · exact hothers other hother
    · rwa [Depot.pool, hpools]
  cases hfailure : connector.manner.initializeFailure with
  | some failure =>
      rw [Federation.install_refused hfailure] at hself hdepot
      exact hsame hself (by rw [hdepot])
  | none =>
      cases hstate : (s.federation id).state.isClosed with
      | true =>
          obtain ⟨fault, heq⟩ := Federation.install_closed hfailure hstate
          rw [heq] at hself hdepot
          exact hsame hself (by rw [hdepot]; rfl)
      | false =>
          obtain ⟨d', heq, hinstalled⟩ := Federation.install_open hfailure hstate (h.made id)
          rw [heq] at hself hdepot
          obtain rfl : s'.depot = d' := hdepot
          exact installed id hothers h hstate hself hinstalled

private theorem remove (h : Housed s) (id : FederationId) (name : String) :
    Housed ((removeSource id name).run s).2 := by
  have hfederation := fun other => s.federation_removeSource id other name
  have hdepot : System.depot ((removeSource id name).run s).2 =
      ((s.federation id).remove s.depot name).2.2 := rfl
  have hremoved := Federation.removed (h.made id) name
  generalize ((removeSource id name).run s).2 = s' at hfederation hdepot ⊢
  rw [← hdepot] at hremoved
  have hothers : ∀ other, other ≠ id → s'.federation other = s.federation other :=
    fun other hother => (hfederation other).trans (if_neg hother)
  have hself := (hfederation id).trans (if_pos rfl)
  have hbefore : ∀ {n q}, Table.get? (s'.federation id).pools n = some q →
      n ≠ name ∧ Table.get? (s.federation id).pools n = some q := fun {n q} hq => by
    rw [hself, Federation.get?_remove] at hq
    split at hq
    · cases hq
    · rename_i hn
      exact ⟨hn, hq⟩
  refine others id hothers h ?_ (fun other n q hq => ?_) (fun hq => .inl (hbefore hq).2)
    (fun q _ hq => hremoved.others q (hq name)) fun hopen n q hq => ?_
  · rw [hself]
    unfold Federation.remove
    split
    · exact (h.sorted id).erase name
    · exact h.sorted id
  · rw [hremoved.size]
    by_cases hother : other = id
    · exact h.made id n q (hbefore (hother ▸ hq)).2
    · exact h.made other n q (hothers other hother ▸ hq)
  · obtain ⟨hn, hold⟩ := hbefore hq
    rw [hremoved.others q fun hq' => hn (h.home hold hq').2]
    refine h.opened id ?_ n q hold
    unfold System.IsOpen at hopen ⊢
    rwa [hself, remove_state] at hopen

private theorem shutdown (h : Housed s) (id : FederationId) :
    Housed ((shutdownFederation id).run s).2 := by
  have hfederation : ∀ other, System.federation ((shutdownFederation id).run s).2 other =
      if other = id ∧ id < s.federations.size then ((s.federation id).shutdown s.depot).1
      else s.federation other := fun other => s.federation_setFederation id other _
  have hdepot : System.depot ((shutdownFederation id).run s).2 =
      ((s.federation id).shutdown s.depot).2.1 := rfl
  generalize ((shutdownFederation id).run s).2 = s' at hfederation hdepot ⊢
  have hothers : ∀ other, other ≠ id → s'.federation other = s.federation other :=
    fun other hother => (hfederation other).trans (if_neg fun heq => hother heq.1)
  rcases (s.federation id).shutdown_cases s.depot with
    ⟨-, hsame, hdepot'⟩ | ⟨hstate, hpools, hclosed, hdepot'⟩
  · rw [hdepot'] at hdepot
    refine h.depot (fun other => ?_) (Nat.le_of_eq (by rw [hdepot])) fun p hp => ?_
    · rw [hfederation, hsame]
      split
      · rename_i hother
        rw [hother.1]
      · rfl
    · rwa [hdepot]
  · rw [hdepot'] at hdepot
    have hsources : (s'.federation id).pools = (s.federation id).pools := by
      rw [hfederation]
      split
      · exact hpools
      · rfl
    have hsize : s'.depot.pools.size = s.depot.pools.size := by
      rw [hdepot]
      exact Depot.pools_size_closePools _ _
    refine others id hothers h ?_ (fun other n p hp => ?_) (fun hp => .inl (hsources ▸ hp))
      (fun p _ hp => ?_) fun hopen n p hp => ?_
    · rw [hsources]
      exact h.sorted id
    · rw [hsize]
      by_cases hother : other = id
      · exact h.made id n p (hsources ▸ hother ▸ hp)
      · exact h.made other n p (hothers other hother ▸ hp)
    · rw [hdepot]
      refine Depot.pool_closePools_of_not_mem fun hmem => ?_
      obtain ⟨⟨name, q⟩, hentry, rfl⟩ := List.mem_map.mp hmem
      exact hp name ((h.sorted id).get?_of_mem hentry)
    · -- the federation is closed now, unless it was never made
      unfold System.IsOpen at hopen
      rw [hfederation] at hopen
      split at hopen
      · exact absurd (hopen.symm.trans hclosed) Bool.false_ne_true
      · rename_i hout
        rw [hsources, s.federation_out (Nat.not_lt.mp fun hid => hout ⟨rfl, hid⟩)] at hp
        cases hp

/-- Each deal leaves each source a pool of its own. -/
theorem deal {events : List Handling} (h : Housed s) (hdeal : Deal held s events held' s') :
    Housed s' := by
  cases hdeal with
  | calm hcalm =>
      refine h.same hcalm.sources (Nat.le_of_eq (by rw [hcalm.pools])) (fun p _ hp => ?_)
        fun id => (hcalm.isOpen id).mp
      rwa [Depot.pool, hcalm.pools]
  | order _ => exact h
  | ping c => exact h.lent (.ping s.depot c) rfl
  | @addPool p hidle =>
      refine h.same (fun _ => rfl) ?_ (fun q hlt hq => ?_) fun _ hopen => hopen
      · exact Nat.le_trans (Nat.le_succ _) (Nat.le_of_eq (Array.size_push p).symm)
      · change ((s.depot.addPool p).2.pool q).closed = false
        rwa [s.depot.pool_addPool, if_neg (Nat.ne_of_lt hlt)]
  | install name connector descriptor hid => exact h.install hid name connector descriptor
  | remove id name => exact h.remove id name
  | request id name =>
      refine h.lent (.borrow (s.federation id) s.depot name) ?_
      have hself := congrArg System.federations (s.setFederation_self id)
      exact hself
  | @resume o id ho =>
      refine h.lent (.resumeBorrow (s.federation id) s.depot o) ?_
      have hself := congrArg System.federations (s.setFederation_self id)
      exact hself
  | abandon _ => exact h
  | @giveBack loan _ => exact h.lent (.release s.depot loan) rfl
  | shutdown id => exact h.shutdown id

end Housed

theorem Dealings.housed {history : List Handling} (h : Dealings history held s) : Housed s := by
  induction h with
  | start =>
      have hnone : ∀ id, (System.empty.federation id).pools = [] := fun id => by
        rw [System.federation_out _ (Nat.zero_le id)]
        rfl
      have habsent : ∀ {id name p}, Table.get? (System.empty.federation id).pools name ≠ some p :=
        fun {id name p} hp => by
          rw [hnone] at hp
          cases hp
      refine ⟨fun id => ?_, fun _ _ _ hp => absurd hp habsent, fun hp => absurd hp habsent,
        fun _ _ _ _ hp => absurd hp habsent⟩
      rw [hnone]
      exact .nil
  | deal _ hdeal ih => exact ih.deal hdeal

theorem Trading.housed (h : Trading held s) : Housed s :=
  let ⟨_, hdealings⟩ := h.dealt.2
  hdealings.housed

end ContentEngine
