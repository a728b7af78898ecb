import ContentEngine.Proofs.Run.Borrowers

/-!
# Connections are never lost

Whatever is done with the sources of federations, by callers and by jobs, each connection that was
opened is idle in the pool that opened it, or held by one borrower, or was closed once.  Pools that
were replaced or removed are closed, and so are all pools of a federation that was shut down.

## Strategy

All that is done comes of deals (`lasting_dealt`), deals keep `Custody` of the connections, and they
know which pools are `Registered`.
-/

namespace ContentEngine

/-! ## Whoever deals with sources -/

/-- The systems that come of dealing with sources, and what callers hold in them.  Operations of
callers let jobs go on while they wait, and operations of several callers may be mixed up part by
part; a part that does not wait is one step, as if there were one thread (see `Deal`). -/
inductive Trading : List Stake → System → Prop
  | start : Trading [] .empty
  /-- Whatever has to do neither with connections and sources nor with what jobs hold. -/
  | other {held s events s'} : Trading held s → Step (fun _ => True) s events s' → Calm s s' →
      s'.jobStakes = s.jobStakes → Trading held s'
  | addFederation {held s} (engine source bus connectors maxIdle capacity) : Trading held s →
      Trading held
        ((addFederation (.new engine source bus connectors maxIdle capacity)).run s).2
  | turn {held s} (deadline) : Trading held s → Trading held ((turn deadline).run s).2
  | register {held s} (id descriptor) :
      Trading held s → Trading held ((registerSource id descriptor).run s).2
  | registerConnector {held s} (id name plan) :
      Trading held s → Trading held ((registerConnector id name plan).run s).2
  | remove {held s} (id name) : Trading held s → Trading held ((removeSource id name).run s).2
  | getConnection {held s} (id name) : Trading held s →
      Trading (stakesOf ((borrowConnection id name).run s).1 ++ held)
        ((borrowConnection id name).run s).2
  | drop {held s loan} : Trading (.loan loan :: held) s →
      Trading held ((giveBack (some loan)).run s).2
  | read {held s} (g : Graph) (root depth) :
      Trading held s → Trading held ((g.subgraph root depth).run s).2
  | reload {held s} (id root workspace) :
      Trading held s → Trading held ((reloadSources id root workspace).run s).2
  | shutdown {held s} (id) : Trading held s → Trading held ((shutdownFederation id).run s).2
  /-- Part of an operation, as far as it goes without waiting. -/
  | part {held s events held' s'} : Trading held s → Deal held s events held' s' → Quiet s s' →
      s'.dispatchers = s.dispatchers → Trading held' s'

/-- What somebody holds who does not take part does not matter. -/
theorem Deal.frame {held held' others : List Stake} {s s' : System} {events : List Handling}
    (h : Deal held s events held' s') : Deal (held ++ others) s events (held' ++ others) s' := by
  have herase : ∀ {x : Stake}, x ∈ held → held.erase x ++ others = (held ++ others).erase x :=
    fun hx => (List.erase_append_left others hx).symm
  cases h with
  | calm hcalm => exact .calm hcalm
  | order hperm => exact .order (hperm.append_right others)
  | ping c => exact .ping c
  | addPool hidle => exact .addPool hidle
  | install name connector descriptor hid => exact .install name connector descriptor hid
  | remove id name => exact .remove id name
  | request id name =>
      rw [List.append_assoc]
      exact .request id name
  | resume id ho =>
      rw [List.append_assoc, herase ho]
      exact .resume id (List.mem_append_left _ ho)
  | abandon ho =>
      rw [herase ho]
      exact .abandon (List.mem_append_left _ ho)
  | giveBack hloan =>
      rw [herase hloan]
      exact .giveBack (List.mem_append_left _ hloan)
  | shutdown id => exact .shutdown id

/-- A new federation has no sources and is open. -/
theorem calm_addFederation (engine source : String) (bus : BusId)
    (connectors : Registry SourceDescriptor ConnectorPlan) (maxIdle capacity : Nat) (s : System) :
    Calm s ((addFederation (.new engine source bus connectors maxIdle capacity)).run s).2 := by
  refine ⟨rfl, rfl, (Quiet.addFederation rfl s).federations, fun id => ?_, fun id => ?_⟩
  · change ((s.federations.push _).getD id default).pools = _
    rw [System.getD_push]
    split
    · rename_i hid
      rw [s.federation_out (Nat.le_of_eq hid.symm)]
      rfl
    · rfl
  · unfold System.IsOpen
    rw [(Quiet.addFederation rfl s).states]

/-- All that is done with sources comes of deals. -/
theorem Trading.dealt {held : List Stake} {s : System} (h : Trading held s) :
    Reachable (fun _ => True) s ∧ Dealt held s := by
  induction h with
  | start => exact ⟨⟨_, .start⟩, _, .start⟩
  | other _ hstep hcalm hsame ih =>
      exact ⟨ih.1.run (.step .start hstep), ih.2.calm hcalm fun x => by rw [hsame]⟩
  | @addFederation _ s _ _ _ _ _ _ _ ih =>
      exact ⟨ih.1.run (.step .start (.quiet (.addFederation rfl s))),
        ih.2.calm (calm_addFederation _ _ _ _ _ _ s) fun _ => rfl⟩
  | turn deadline _ ih => exact lasting_dealt.turn deadline _ _ ih
  | register id descriptor _ ih => exact lasting_dealt.registerSource _ id descriptor _ ih
  | registerConnector id name plan _ ih => exact lasting_dealt.registerConnector _ id name plan _ ih
  | remove id name _ ih => exact lasting_dealt.remove id name _ _ ih
  | getConnection id name _ ih => exact lasting_dealt.borrowConnection _ id name _ ih
  | drop _ ih => exact lasting_dealt.giveBack _ _ _ ih
  | read g root depth _ ih => exact lasting_dealt.subgraph _ g root depth _ ih
  | reload id root workspace _ ih => exact lasting_dealt.reloadSources _ id root workspace _ ih
  | @shutdown held s id _ ih =>
      obtain ⟨hreachable, _, hdealings⟩ := ih
      exact ⟨hreachable.run (.step .start (.shutdownFederation id s trivial)), _,
        hdealings.deal (.shutdown id)⟩
  | part _ hdeal hquiet hdispatchers ih =>
      exact ⟨ih.1.run (.step .start (.quiet hquiet)), ih.2.deal hdeal.frame hdispatchers⟩

/-! ## Connections are kept -/

/-- Where the connections are, and what became of the pools, after all that happened. -/
structure ConnectionsKept (history : List Handling) (held : List Stake) (s : System) : Prop where
  /-- Each connection was opened by one pool, through its connector, and it is idle in that pool, or
  held by one borrower, or was closed once. -/
  place : ∀ c < s.depot.connections.size, ∃ p < s.depot.pools.size,
    (∀ p', .opened p' c ∈ history ↔ p' = p) ∧
    (s.depot.connection c).store = (s.depot.pool p).connector.store ∧
    (s.depot.pool p).idle.count c + held.count (.loan ⟨p, c⟩) + history.count (.closed c) = 1 ∧
    (∀ p', c ∈ (s.depot.pool p').idle → p' = p) ∧
    (∀ p', .loan ⟨p', c⟩ ∈ held → p' = p) ∧
    ((s.depot.connection c).closed = true ↔ .closed c ∈ history)
  /-- Nothing else is idle or lent. -/
  idle : ∀ p, ∀ c ∈ (s.depot.pool p).idle, c < s.depot.connections.size
  loans : ∀ loan, .loan loan ∈ held → loan.connection < s.depot.connections.size
  room : ∀ p, (s.depot.pool p).idle.length ≤ (s.depot.pool p).maxIdle
  retired : ∀ p, .retired p ∈ history → (s.depot.pool p).closed = true ∧ (s.depot.pool p).idle = []
  shut : ∀ id, ¬s.IsOpen id → ∀ p, .installed id p ∈ history →
    (s.depot.pool p).closed = true ∧ (s.depot.pool p).idle = []
  /-- What was opened through a federation that was shut down is closed once nobody holds it. -/
  emptied : ∀ id, ¬s.IsOpen id → (∀ loan, .loan loan ∈ held → .installed id loan.pool ∉ history) →
    ∀ p c, .installed id p ∈ history → .opened p c ∈ history → history.count (.closed c) = 1
  /-- Then no connection to a store that only the federation opened connections to is open. -/
  none_open : ∀ id, ¬s.IsOpen id →
    (∀ loan, .loan loan ∈ held → .installed id loan.pool ∉ history) →
    ∀ store, (∀ p c, .opened p c ∈ history → (s.depot.connection c).store = store →
      .installed id p ∈ history) → s.depot.openCount store = 0

theorem Dealings.kept {history : List Handling} {held : List Stake} {s : System}
    (h : Dealings history held s) : ConnectionsKept history held s := by
  obtain ⟨hcustody, hregistered⟩ := h.custody
  have hshut : ∀ p, (s.depot.pool p).closed = true →
      (s.depot.pool p).closed = true ∧ (s.depot.pool p).idle = [] :=
    fun p hp => ⟨hp, hcustody.shut p hp⟩
  have hclosed : ∀ id, ¬s.IsOpen id → ∀ p, .installed id p ∈ history →
      (s.depot.pool p).closed = true := fun id hid p hp =>
    (hregistered.installed id p hp).elim (fun ⟨name, hname⟩ => hregistered.closed id hid name p hname)
      fun hp => hp
  have hemptied : ∀ id, ¬s.IsOpen id →
      (∀ loan, .loan loan ∈ held → .installed id loan.pool ∉ history) →
      ∀ p c, .installed id p ∈ history → .opened p c ∈ history → history.count (.closed c) = 1 :=
    fun id hid hnone p c hp hc => by
      have hplace := hcustody.place hc
      rw [hcustody.shut p (hclosed id hid p hp), List.count_nil,
        List.count_eq_zero.mpr fun hl => hnone ⟨p, c⟩ hl hp] at hplace
      omega
  exact {
    place := fun c hc => by
      obtain ⟨p, hp⟩ := (hcustody.opened_iff c).mpr hc
      obtain ⟨hlt, hstore⟩ := hcustody.origin hp
      refine ⟨p, hlt, fun p' => ⟨hcustody.home hp, fun heq => heq ▸ hp⟩, hstore, hcustody.place hp,
        fun p' hidle => hcustody.home hp (hcustody.idle p' c hidle),
        fun p' hloan => hcustody.home hp (hcustody.loans _ hloan), hcustody.flag hp⟩
    idle := fun p c hc => (hcustody.opened_iff c).mp ⟨p, hcustody.idle p c hc⟩
    loans := fun loan hl => (hcustody.opened_iff _).mp ⟨_, hcustody.loans loan hl⟩
    room := hcustody.room
    retired := fun p hp => hshut p (hregistered.retired p hp)
    shut := fun id hid p hp => hshut p (hclosed id hid p hp)
    emptied := hemptied
    none_open := fun id hid hnone store honly => by
      refine List.countP_eq_zero.mpr fun connection hmem => ?_
      obtain ⟨c, hget⟩ := List.mem_iff_getElem?.mp hmem
      rw [Array.getElem?_toList] at hget
      have hconnection : s.depot.connection c = connection := by
        rw [Depot.connection, Array.getD_eq_getD_getElem?, hget]
        rfl
      obtain ⟨p, hp⟩ := (hcustody.opened_iff c).mpr (Array.getElem?_eq_some_iff.mp hget).1
      intro hopen
      obtain ⟨hstore, hopen⟩ := (Bool.and_eq_true _ _).mp hopen
      have hthrough := honly p c hp (hconnection ▸ beq_iff_eq.mp hstore)
      have hclosed := (hcustody.flag hp).mpr (List.count_pos_iff.mp (by
        rw [hemptied id hid hnone p c hthrough hp]
        exact Nat.one_pos))
      rw [hconnection] at hclosed
      rw [hclosed] at hopen
      cases hopen }

/-- Connections are never lost, whatever is done with the sources of federations. -/
theorem connections_kept {held : List Stake} {s : System} (h : Trading held s) :
    ∃ history, Dealings history (held ++ s.jobStakes) s ∧
      ConnectionsKept history (held ++ s.jobStakes) s :=
  let ⟨_, hdealings⟩ := h.dealt.2
  ⟨_, hdealings, hdealings.kept⟩

/-- A federation with one source. -/
def System.withSource : System :=
  ((registerConnector 0 "docs" ⟨.own .new, .plain⟩).run
    ((addFederation (.new "engine" "config" 0 .connectors 2 1)).run .empty).2).2

/-- The same after somebody borrowed a connection to the source and the federation was shut down. -/
def System.lent : System :=
  ((shutdownFederation 0).run ((borrowConnection 0 "docs").run .withSource).2).2

theorem connections_kept_lent : ∃ history,
    Dealings history [.loan ⟨0, 0⟩] System.lent ∧ ConnectionsKept history [.loan ⟨0, 0⟩] System.lent :=
  have hsource : Trading [] System.withSource :=
    .registerConnector 0 "docs" ⟨.own .new, .plain⟩ (.addFederation "engine" "config" 0 .connectors 2 1 .start)
  have hloan : stakesOf ((borrowConnection 0 "docs").run System.withSource).1 = [.loan ⟨0, 0⟩] := rfl
  have hlent : Trading [.loan ⟨0, 0⟩] System.lent :=
    hloan ▸ .shutdown 0 (.getConnection 0 "docs" hsource)
  connections_kept hlent

end ContentEngine
