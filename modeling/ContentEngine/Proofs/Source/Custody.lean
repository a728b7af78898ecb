import ContentEngine.Proofs.Program.Lasting

/-!
# The custody of connections

Every connection that a pool opened is in one place: it is idle in that pool, or lent to one borrower,
or closed.  The history says by which pool a connection was opened and how often it was closed; the
list of stakes says who holds what.  `Custody` relates both to the depot, and each operation on a
depot keeps it.
-/

namespace ContentEngine

/-- What happens to a connection or a pool. -/
inductive Handling where
  /-- A federation has a new pool. -/
  | installed (federation : FederationId) (pool : PoolId)
  /-- A pool was replaced or removed. -/
  | retired (pool : PoolId)
  | opened (pool : PoolId) (connection : ConnectionId)
  | closed (connection : ConnectionId)
  deriving DecidableEq

namespace Depot

/-- The connections that are closed when a pool is. -/
def closings (d : Depot) (pool : PoolId) : List Handling :=
  (d.pool pool).idle.map .closed

/-- The connections that are closed when pools are, one after the other. -/
def closingsOf (d : Depot) : List PoolId → List Handling
  | [] => []
  | pool :: rest => d.closings pool ++ (d.closePool pool).closingsOf rest

/-- The connection that is closed when a loan is given back, if the pool does not keep it. -/
def releasing (d : Depot) (loan : Loan) : List Handling :=
  if (d.pool loan.pool).keeps (d.connection loan.connection) then [] else [.closed loan.connection]

/-- The connection that was opened for a loan, if it was not there before. -/
def lending (d d' : Depot) (loan : Loan) : List Handling :=
  if d.connections.size < d'.connections.size then [.opened loan.pool loan.connection] else []

/-! ## Parts of a depot after a change -/

section parts

variable (d : Depot)

theorem getD_modify {α : Type} (items : Array α) (i j : Nat) (f : α → α) (b : α) :
    (items.modify i f).getD j b = if j = i ∧ i < items.size then f (items.getD i b)
      else items.getD j b := by
  simp only [Array.getD_eq_getD_getElem?, Array.getElem?_modify]
  by_cases hij : i = j
  · subst hij
    by_cases hlt : i < items.size <;> simp [hlt]
  · simp [hij, Ne.symm hij]

theorem pool_modify (id other : PoolId) (f : Pool → Pool) :
    ({ d with pools := d.pools.modify id f } : Depot).pool other =
      if other = id ∧ id < d.pools.size then f (d.pool id) else d.pool other :=
  getD_modify ..

theorem pool_out {id : PoolId} (h : d.pools.size ≤ id) : d.pool id = default :=
  System.getD_out _ _ _ h

theorem connection_close (id other : ConnectionId) :
    (d.close id).connection other =
      if other = id ∧ id < d.connections.size then { d.connection id with closed := true }
      else d.connection other :=
  getD_modify ..

theorem connections_size_close (id : ConnectionId) :
    (d.close id).connections.size = d.connections.size :=
  Array.size_modify

theorem connection_foldl_close (l : List ConnectionId) (c : ConnectionId) :
    (l.foldl close d).connection c =
      if c ∈ l ∧ c < d.connections.size then { d.connection c with closed := true }
      else d.connection c := by
  induction l generalizing d with
  | nil => exact (if_neg fun h => List.not_mem_nil h.1).symm
  | cons a rest ih =>
      rw [List.foldl_cons, ih, d.connections_size_close, d.connection_close]
      by_cases hca : c = a
      · subst hca
        by_cases hlt : c < d.connections.size <;> by_cases hmem : c ∈ rest <;> simp [hlt, hmem]
      · simp [hca]

theorem pools_foldl_close (l : List ConnectionId) : (l.foldl close d).pools = d.pools := by
  induction l generalizing d with
  | nil => rfl
  | cons a rest ih => rw [List.foldl_cons, ih]; rfl

theorem connections_size_foldl_close (l : List ConnectionId) :
    (l.foldl close d).connections.size = d.connections.size := by
  induction l generalizing d with
  | nil => rfl
  | cons a rest ih => rw [List.foldl_cons, ih, d.connections_size_close]

theorem pool_closePool (id other : PoolId) :
    (d.closePool id).pool other =
      if other = id ∧ id < d.pools.size then { d.pool id with closed := true, idle := [] }
      else d.pool other := by
  unfold closePool
  rw [pool, pools_foldl_close]
  exact d.pool_modify id other _

theorem connection_closePool (id : PoolId) (c : ConnectionId) :
    (d.closePool id).connection c =
      if c ∈ (d.pool id).idle ∧ c < d.connections.size then { d.connection c with closed := true }
      else d.connection c :=
  connection_foldl_close { d with pools := _ } _ c

theorem connections_size_closePool (id : PoolId) :
    (d.closePool id).connections.size = d.connections.size :=
  connections_size_foldl_close { d with pools := _ } _

theorem pools_size_closePool (id : PoolId) : (d.closePool id).pools.size = d.pools.size := by
  unfold closePool
  rw [pools_foldl_close]
  exact Array.size_modify

/-- A connection that a connector opens is a new one, to the connector's store. -/
theorem connect_ok {d d' : Depot} {connector : Connector} {c : ConnectionId}
    (h : d.connect connector = (.ok c, d')) :
    c = d.connections.size ∧ ∃ connection : Connection, connection.store = connector.store ∧
      connection.closed = false ∧
      d' = { d with connections := d.connections.push connection } := by
  unfold connect at h
  split at h
  · cases h
  · split at h
    · cases h
    · rename_i connection hconnect
      obtain ⟨hc, hd⟩ := Prod.mk.inj h
      unfold Store.connect at hconnect
      split at hconnect
      · cases hconnect
      · obtain rfl := Except.ok.inj hconnect
        exact ⟨(Except.ok.inj hc).symm, _, rfl, rfl, hd.symm⟩

theorem connect_error {d d' : Depot} {connector : Connector} {failure : Failure}
    (h : d.connect connector = (.error failure, d')) : d' = d := by
  unfold connect at h
  split at h
  · exact (Prod.mk.inj h).2.symm
  · split at h
    · exact (Prod.mk.inj h).2.symm
    · cases h

end parts

end Depot

/-! ## Custody -/

/-- Every connection that was opened is where the history and the stakes say. -/
structure Custody (history : List Handling) (held : List Stake) (d : Depot) : Prop where
  /-- The connections are those that were opened, each by one pool, through that pool's connector. -/
  opened_iff : ∀ c, (∃ p, .opened p c ∈ history) ↔ c < d.connections.size
  home : ∀ {p p' c}, .opened p c ∈ history → .opened p' c ∈ history → p' = p
  origin : ∀ {p c}, .opened p c ∈ history →
    p < d.pools.size ∧ (d.connection c).store = (d.pool p).connector.store
  idle : ∀ p, ∀ c ∈ (d.pool p).idle, .opened p c ∈ history
  loans : ∀ loan, .loan loan ∈ held → .opened loan.pool loan.connection ∈ history
  openings : ∀ o, .opening o ∈ held → o.pool < d.pools.size
  closings : ∀ c, .closed c ∈ history → ∃ p, .opened p c ∈ history
  /-- A connection is idle, or lent, or was closed, and that once. -/
  place : ∀ {p c}, .opened p c ∈ history → (d.pool p).idle.count c +
    held.count (.loan ⟨p, c⟩) + history.count (.closed c) = 1
  /-- The connection knows whether it was closed. -/
  flag : ∀ {p c}, .opened p c ∈ history → ((d.connection c).closed = true ↔ .closed c ∈ history)
  room : ∀ p, (d.pool p).idle.length ≤ (d.pool p).maxIdle
  shut : ∀ p, (d.pool p).closed = true → (d.pool p).idle = []

namespace Custody

variable {history events : List Handling} {held held' : List Stake} {d d' : Depot}

/-- Nothing was opened yet in a depot without connections and pools. -/
theorem start {d : Depot} (hconnections : d.connections = #[]) (hpools : d.pools = #[]) :
    Custody [] [] d := by
  have hpool : ∀ p, d.pool p = default := fun p => d.pool_out (by
    rw [hpools]
    exact Nat.zero_le p)
  refine ⟨fun c => ?_, by simp, by simp, fun p c hc => ?_, by simp, by simp, by simp, by simp, by simp,
    fun p => ?_, fun p _ => ?_⟩
  · simp [hconnections]
  · rw [hpool] at hc
    cases hc
  · exact hpool p ▸ Nat.le_refl 0
  · rw [hpool]
    rfl

/-- A change that opens no connection keeps custody if it moves connections as it says. -/
private theorem next (h : Custody history held d)
    (hsize : d'.connections.size = d.connections.size)
    (hstore : ∀ c, (d'.connection c).store = (d.connection c).store)
    (hpools : d.pools.size ≤ d'.pools.size)
    (hconnector : ∀ p < d.pools.size, (d'.pool p).connector = (d.pool p).connector)
    (hopened : ∀ p c, .opened p c ∉ events)
    (hclosed : ∀ c, .closed c ∈ events → ∃ p, .opened p c ∈ history)
    (hidle : ∀ p, ∀ c ∈ (d'.pool p).idle, .opened p c ∈ history)
    (hloans : ∀ loan, .loan loan ∈ held' → .opened loan.pool loan.connection ∈ history)
    (hopenings : ∀ o, .opening o ∈ held' → o.pool < d'.pools.size)
    (hplace : ∀ p c, .opened p c ∈ history → (d'.pool p).idle.count c +
      held'.count (.loan ⟨p, c⟩) + events.count (.closed c) =
        (d.pool p).idle.count c + held.count (.loan ⟨p, c⟩))
    (hflag : ∀ p c, .opened p c ∈ history →
      ((d'.connection c).closed = true ↔ (d.connection c).closed = true ∨ .closed c ∈ events))
    (hroom : ∀ p, (d'.pool p).idle.length ≤ (d'.pool p).maxIdle)
    (hshut : ∀ p, (d'.pool p).closed = true → (d'.pool p).idle = []) :
    Custody (history ++ events) held' d' := by
  have hopened : ∀ p c, .opened p c ∈ history ++ events ↔ .opened p c ∈ history := fun p c =>
    ⟨fun hmem => (List.mem_append.mp hmem).resolve_right (hopened p c), List.mem_append_left _⟩
  refine ⟨fun c => ?_, ?_, ?_, ?_, ?_, hopenings, fun c hc => ?_, ?_, ?_, hroom, hshut⟩
  · simp only [hopened, hsize]
    exact h.opened_iff c
  · simp only [hopened]
    exact h.home
  · intro p c hc
    obtain ⟨hlt, heq⟩ := h.origin ((hopened p c).mp hc)
    exact ⟨Nat.lt_of_lt_of_le hlt hpools, (hstore c).trans (heq.trans (by rw [hconnector p hlt]))⟩
  · exact fun p c hc => (hopened p c).mpr (hidle p c hc)
  · exact fun loan hl => (hopened _ _).mpr (hloans loan hl)
  · simp only [hopened]
    rcases List.mem_append.mp hc with hc | hc
    · exact h.closings c hc
    · exact hclosed c hc
  · intro p c hc
    have hc := (hopened p c).mp hc
    rw [List.count_append]
    have hbefore := h.place hc
    have hafter := hplace p c hc
    omega
  · intro p c hc
    have hc := (hopened p c).mp hc
    rw [List.mem_append, ← h.flag hc]
    exact hflag p c hc

/-- A change that opens and closes no connection. -/
private theorem move (h : Custody history held d)
    (hsize : d'.connections.size = d.connections.size)
    (hstore : ∀ c, (d'.connection c).store = (d.connection c).store)
    (hclosed : ∀ c, (d'.connection c).closed = (d.connection c).closed)
    (hpools : d.pools.size ≤ d'.pools.size)
    (hconnector : ∀ p < d.pools.size, (d'.pool p).connector = (d.pool p).connector)
    (hidle : ∀ p, ∀ c ∈ (d'.pool p).idle, .opened p c ∈ history)
    (hloans : ∀ loan, .loan loan ∈ held' → .opened loan.pool loan.connection ∈ history)
    (hopenings : ∀ o, .opening o ∈ held' → o.pool < d'.pools.size)
    (hplace : ∀ p c, .opened p c ∈ history → (d'.pool p).idle.count c +
      held'.count (.loan ⟨p, c⟩) = (d.pool p).idle.count c + held.count (.loan ⟨p, c⟩))
    (hroom : ∀ p, (d'.pool p).idle.length ≤ (d'.pool p).maxIdle)
    (hshut : ∀ p, (d'.pool p).closed = true → (d'.pool p).idle = []) : Custody history held' d' := by
  rw [← List.append_nil history]
  exact h.next hsize hstore hpools hconnector (fun _ _ he => absurd he List.not_mem_nil)
    (fun _ he => absurd he List.not_mem_nil) hidle hloans hopenings hplace
    (fun p c _ => by simp [hclosed]) hroom hshut

/-- A change that leaves connections and pools alone, except for records of the connections. -/
private theorem still (h : Custody history held d)
    (hsize : d'.connections.size = d.connections.size)
    (hstore : ∀ c, (d'.connection c).store = (d.connection c).store)
    (hclosed : ∀ c, (d'.connection c).closed = (d.connection c).closed) (hpools : d'.pools = d.pools)
    (hloans : ∀ loan, held'.count (.loan loan) = held.count (.loan loan))
    (hopenings : ∀ o, .opening o ∈ held' → .opening o ∈ held) : Custody history held' d' := by
  have hpool : ∀ p, d'.pool p = d.pool p := fun p => by rw [Depot.pool, hpools, Depot.pool]
  have hmem : ∀ loan, .loan loan ∈ held' → Stake.loan loan ∈ held := fun loan hl => by
    rw [← List.count_pos_iff, ← hloans]
    exact List.count_pos_iff.mpr hl
  exact h.move hsize hstore hclosed (Nat.le_of_eq (by rw [hpools])) (fun p _ => by rw [hpool])
    (fun p c hc => h.idle p c (hpool p ▸ hc)) (fun loan hl => h.loans loan (hmem loan hl))
    (fun o ho => hpools ▸ h.openings o (hopenings o ho)) (fun p c _ => by rw [hpool, hloans])
    (fun p => hpool p ▸ h.room p) fun p hp => hpool p ▸ h.shut p (hpool p ▸ hp)

/-- Whatever happens to stores does not matter. -/
theorem stores (h : Custody history held d) (hconnections : d'.connections = d.connections)
    (hpools : d'.pools = d.pools) : Custody history held d' := by
  have hconnection : ∀ c, d'.connection c = d.connection c := fun c => by
    rw [Depot.connection, hconnections, Depot.connection]
  exact h.still (by rw [hconnections]) (fun c => by rw [hconnection]) (fun c => by rw [hconnection])
    hpools (fun _ => rfl) fun _ ho => ho

/-- The order in which stakes are listed does not matter. -/
theorem perm (h : Custody history held d) (hperm : held.Perm held') : Custody history held' d :=
  h.still rfl (fun _ => rfl) (fun _ => rfl) rfl (fun _ => (hperm.count_eq _).symm)
    fun _ ho => hperm.mem_iff.mpr ho

/-- Who waits for a connection may give up. -/
theorem abandon {o : Opening} (h : Custody history (.opening o :: held) d) : Custody history held d :=
  h.still rfl (fun _ => rfl) (fun _ => rfl) rfl (fun _ => (List.count_cons_of_ne (by simp)).symm)
    fun _ ho => List.mem_cons_of_mem _ ho

/-- Who asked for a connection may have to wait. -/
theorem await {o : Opening} (h : Custody history held d) (ho : o.pool < d.pools.size) :
    Custody history (.opening o :: held) d :=
  { h with
    loans := fun loan hl => h.loans loan ((List.mem_cons.mp hl).resolve_left (by simp))
    openings := fun o' ho' => (List.mem_cons.mp ho').elim
      (fun heq => Stake.opening.inj heq ▸ ho) (h.openings o')
    place := fun hc => by
      rw [List.count_cons_of_ne (by simp)]
      exact h.place hc }

/-- Connections may be used. -/
theorem ping (h : Custody history held d) (c : ConnectionId) : Custody history held (d.ping c).2 := by
  have hconnection : ∀ other, ((d.ping c).2.connection other) =
      if other = c ∧ c < d.connections.size then { d.connection c with pinged := true }
      else d.connection other := fun other => Depot.getD_modify ..
  refine h.still Array.size_modify (fun other => ?_) (fun other => ?_) rfl (fun _ => rfl) fun _ ho => ho
  all_goals
    rw [hconnection]
    split
    · rename_i hother
      rw [hother.1]
    · rfl

/-- A new pool has no connections. -/
theorem addPool (h : Custody history held d) {p : Pool} (hidle : p.idle = []) :
    Custody history held (d.addPool p).2 := by
  have hpool : ∀ q, (d.addPool p).2.pool q = if q = d.pools.size then p else d.pool q := fun q =>
    System.getD_push ..
  have hnone : ∀ q, q = d.pools.size → (d.pool q).idle = [] := fun q hq => by
    rw [d.pool_out (Nat.le_of_eq hq.symm)]
    rfl
  have hsame : ∀ q, ((d.addPool p).2.pool q).idle = (d.pool q).idle := fun q => by
    rw [hpool]
    split
    · rename_i hq
      rw [hidle, hnone q hq]
    · rfl
  have hgrown : d.pools.size ≤ (d.addPool p).2.pools.size :=
    Nat.le_trans (Nat.le_succ _) (Nat.le_of_eq (Array.size_push p).symm)
  refine h.move rfl (fun _ => rfl) (fun _ => rfl) hgrown
    (fun q hq => by rw [hpool, if_neg (Nat.ne_of_lt hq)])
    (fun q c hc => h.idle q c (hsame q ▸ hc)) h.loans
    (fun o ho => Nat.lt_of_lt_of_le (h.openings o ho) hgrown) (fun q c _ => by rw [hsame])
    (fun q => ?_) fun q hclosed => ?_
  · rw [hsame]
    rw [hpool]
    split
    · rename_i hq
      rw [hnone q hq]
      exact Nat.zero_le _
    · exact h.room q
  · rw [hsame]
    rw [hpool] at hclosed
    split at hclosed
    · rename_i hq
      exact hnone q hq
    · exact h.shut q hclosed

/-- What happens to pools may be noted. -/
theorem note (h : Custody history held d) (hopened : ∀ p c, .opened p c ∉ events)
    (hclosed : ∀ c, .closed c ∉ events) : Custody (history ++ events) held d :=
  h.next rfl (fun _ => rfl) (Nat.le_refl _) (fun _ _ => rfl) hopened
    (fun c he => absurd he (hclosed c)) h.idle h.loans h.openings
    (fun p c _ => by rw [List.count_eq_zero.mpr (hclosed c)]; rfl) (fun p c _ => by simp [hclosed])
    h.room h.shut

/-- A connection may go from a pool to a borrower or back. -/
private theorem exchange {id : PoolId} {f : Pool → Pool} {idle' : List ConnectionId}
    (h : Custody history held d) (hf : f (d.pool id) = { d.pool id with idle := idle' })
    (hidle : ∀ c ∈ idle', .opened id c ∈ history)
    (hloans : ∀ loan, .loan loan ∈ held' → .opened loan.pool loan.connection ∈ history)
    (hopenings : ∀ o, .opening o ∈ held' → .opening o ∈ held)
    (hplace : ∀ p c, idle'.count c + held'.count (.loan ⟨id, c⟩) =
      (d.pool id).idle.count c + held.count (.loan ⟨id, c⟩) ∧
        (p ≠ id → held'.count (.loan ⟨p, c⟩) = held.count (.loan ⟨p, c⟩)))
    (hlt : id < d.pools.size) (hroom : idle'.length ≤ (d.pool id).maxIdle)
    (hshut : (d.pool id).closed = true → idle' = []) :
    Custody history held' { d with pools := d.pools.modify id f } := by
  have hpool := fun p => d.pool_modify id p f
  have hother : ∀ p, p ≠ id →
      ({ d with pools := d.pools.modify id f } : Depot).pool p = d.pool p :=
    fun p hp => by rw [hpool, if_neg fun heq => hp heq.1]
  have hself : ({ d with pools := d.pools.modify id f } : Depot).pool id =
      { d.pool id with idle := idle' } := by rw [hpool, if_pos ⟨rfl, hlt⟩, hf]
  refine h.move rfl (fun _ => rfl) (fun _ => rfl) (Nat.le_of_eq Array.size_modify.symm)
    (fun p _ => ?_) (fun p c hc => ?_) hloans (fun o ho => ?_) (fun p c _ => ?_) (fun p => ?_)
    (fun p hclosed => ?_)
  · by_cases hp : p = id
    · rw [hp, hself]
    · rw [hother p hp]
  · by_cases hp : p = id
    · subst hp
      rw [hself] at hc
      exact hidle c hc
    · exact h.idle p c (hother p hp ▸ hc)
  · rw [Array.size_modify]
    exact h.openings o (hopenings o ho)
  · by_cases hp : p = id
    · subst hp
      rw [hself]
      exact (hplace p c).1
    · rw [hother p hp, (hplace p c).2 hp]
  · by_cases hp : p = id
    · subst hp
      rw [hself]
      exact hroom
    · exact hother p hp ▸ h.room p
  · by_cases hp : p = id
    · subst hp
      rw [hself] at hclosed ⊢
      exact hshut hclosed
    · rw [hother p hp] at hclosed ⊢
      exact h.shut p hclosed

/-- A pool that has an idle connection lends it. -/
theorem lend {id : PoolId} {c : ConnectionId} {rest : List ConnectionId}
    (h : Custody history held d) (hidle : (d.pool id).idle = c :: rest) :
    Custody history (.loan ⟨id, c⟩ :: held)
      { d with pools := d.pools.modify id ({ · with idle := rest }) } := by
  have hlt : id < d.pools.size := by
    refine Nat.lt_of_not_ge fun hge => ?_
    rw [d.pool_out hge] at hidle
    cases hidle
  refine h.exchange rfl (fun c' hc => ?_) (fun loan hl => ?_) (fun o ho => ?_) (fun p c' => ⟨?_, fun hp => ?_⟩)
    hlt ?_ fun hclosed => ?_
  · exact h.idle id c' (hidle ▸ List.mem_cons_of_mem _ hc)
  · rcases List.mem_cons.mp hl with heq | hl
    · obtain rfl := Stake.loan.inj heq
      exact h.idle id c (hidle ▸ List.mem_cons_self)
    · exact h.loans loan hl
  · exact (List.mem_cons.mp ho).resolve_left (by simp)
  · rw [hidle, List.count_cons, List.count_cons]
    by_cases hc : c = c'
    · subst hc
      simp only [beq_self_eq_true, if_true]
      omega
    · simp [hc]
  · exact List.count_cons_of_ne (by simp [Ne.symm hp])
  · have hroom := h.room id
    rw [hidle] at hroom
    exact Nat.le_of_succ_le hroom
  · have hnone := h.shut id hclosed
    rw [hidle] at hnone
    cases hnone

/-- A pool keeps a connection that comes back. -/
private theorem keep {loan : Loan} (h : Custody history (.loan loan :: held) d)
    (hkeeps : (d.pool loan.pool).keeps (d.connection loan.connection) = true) :
    Custody history held { d with
      pools := d.pools.modify loan.pool fun p => { p with idle := loan.connection :: p.idle } } := by
  have hhome := h.loans loan List.mem_cons_self
  simp only [Pool.keeps, Bool.and_eq_true, Bool.not_eq_true', decide_eq_true_eq] at hkeeps
  obtain ⟨⟨hopen, -⟩, hroom⟩ := hkeeps
  refine h.exchange rfl (fun c hc => ?_) (fun other hl => ?_) (fun o ho => List.mem_cons_of_mem _ ho)
    (fun p c => ⟨?_, fun hp => ?_⟩) (h.origin hhome).1 hroom fun hclosed => ?_
  · rcases List.mem_cons.mp hc with rfl | hc
    · exact hhome
    · exact h.idle loan.pool c hc
  · exact h.loans other (List.mem_cons_of_mem _ hl)
  · rw [List.count_cons, List.count_cons]
    by_cases hc : loan.connection = c
    · subst hc
      simp only [beq_self_eq_true, if_true]
      omega
    · simp [hc, show loan ≠ ⟨loan.pool, c⟩ from fun heq => hc (congrArg Loan.connection heq)]
  · exact (List.count_cons_of_ne fun heq => hp (congrArg Loan.pool (Stake.loan.inj heq)).symm).symm
  · rw [hopen] at hclosed
    cases hclosed

/-- A connection that comes back is closed if its pool does not keep it. -/
private theorem drop {loan : Loan} (h : Custody history (.loan loan :: held) d) :
    Custody (history ++ [.closed loan.connection]) held (d.close loan.connection) := by
  have hhome := h.loans loan List.mem_cons_self
  have hlt := (h.opened_iff loan.connection).mp ⟨_, hhome⟩
  have hconnection := d.connection_close loan.connection
  refine h.next (d.connections_size_close _) (fun c => ?_) (Nat.le_refl _) (fun _ _ => rfl)
    (fun p c he => nomatch List.mem_singleton.mp he)
    (fun c he => ⟨loan.pool, Handling.closed.inj (List.mem_singleton.mp he) ▸ hhome⟩) h.idle
    (fun other hl => h.loans other (List.mem_cons_of_mem _ hl))
    (fun o ho => h.openings o (List.mem_cons_of_mem _ ho)) (fun p c hc => ?_) (fun p c _ => ?_) h.room
    h.shut
  · rw [hconnection]
    split
    · rename_i hc
      rw [hc.1]
    · rfl
  · by_cases hloan : c = loan.connection
    · subst hloan
      obtain rfl := h.home hhome hc
      rw [List.count_singleton_self, List.count_cons_self]
      exact Nat.add_assoc _ _ _
    · rw [List.count_cons_of_ne fun heq => hloan (congrArg Loan.connection (Stake.loan.inj heq)).symm,
        List.count_singleton, if_neg (by simpa using Ne.symm hloan)]
      rfl
  · rw [hconnection]
    by_cases hc : c = loan.connection
    · simp [hc, hlt]
    · simp [hc]

/-- A connection that comes back is kept or closed. -/
theorem release {loan : Loan} (h : Custody history (.loan loan :: held) d) :
    Custody (history ++ d.releasing loan) held (d.release loan) := by
  unfold Depot.releasing Depot.release
  split
  · rename_i hkeeps
    rw [List.append_nil]
    exact h.keep hkeeps
  · exact h.drop

private theorem mem_closings {id : PoolId} {e : Handling} :
    e ∈ d.closings id ↔ ∃ c ∈ (d.pool id).idle, e = .closed c := by
  simp only [Depot.closings, List.mem_map, eq_comm]

private theorem count_closings (id : PoolId) (c : ConnectionId) :
    (d.closings id).count (.closed c) = (d.pool id).idle.count c := by
  unfold Depot.closings
  induction (d.pool id).idle with
  | nil => rfl
  | cons a rest ih =>
      rw [List.map_cons, List.count_cons, List.count_cons, ih]
      by_cases hac : a = c <;> simp [hac]

/-- A pool that is closed closes its idle connections. -/
theorem closePool (h : Custody history held d) (id : PoolId) :
    Custody (history ++ d.closings id) held (d.closePool id) := by
  have hpool := d.pool_closePool id
  have hsame : ∀ p, ((d.closePool id).pool p).connector = (d.pool p).connector ∧
      ((d.closePool id).pool p).maxIdle = (d.pool p).maxIdle := fun p => by
    rw [hpool]
    split
    · rename_i hp
      rw [hp.1]
      exact ⟨rfl, rfl⟩
    · exact ⟨rfl, rfl⟩
  -- the pool is left empty, also if there is none of that number
  have hempty : ((d.closePool id).pool id).idle = [] := by
    rw [hpool]
    split
    · rfl
    · rename_i hout
      rw [d.pool_out (Nat.not_lt.mp fun hlt => hout ⟨rfl, hlt⟩)]
      rfl
  have hother : ∀ p, p ≠ id → (d.closePool id).pool p = d.pool p := fun p hp => by
    rw [hpool, if_neg fun heq => hp heq.1]
  refine h.next (d.connections_size_closePool id) (fun c => ?_)
    (Nat.le_of_eq (d.pools_size_closePool id).symm) (fun p _ => (hsame p).1) (fun p c he => ?_)
    (fun c he => ?_) (fun p c hc => ?_) h.loans (fun o ho => ?_) (fun p c hc => ?_) (fun p c hc => ?_) (fun p => ?_)
    (fun p hclosed => ?_)
  · rw [d.connection_closePool]
    split <;> rfl
  · obtain ⟨_, _, heq⟩ := mem_closings.mp he
    cases heq
  · obtain ⟨_, hc, heq⟩ := mem_closings.mp he
    exact ⟨id, Handling.closed.inj heq ▸ h.idle id _ hc⟩
  · by_cases hp : p = id
    · rw [hp, hempty] at hc
      cases hc
    · exact h.idle p c (hother p hp ▸ hc)
  · rw [d.pools_size_closePool]
    exact h.openings o ho
  · rw [count_closings]
    by_cases hp : p = id
    · subst hp
      rw [hempty, List.count_nil]
      omega
    · rw [hother p hp, List.count_eq_zero.mpr fun hmem => hp (h.home (h.idle id c hmem) hc)]
      rfl
  · have hlt := (h.opened_iff c).mp ⟨p, hc⟩
    rw [d.connection_closePool]
    by_cases hmem : c ∈ (d.pool id).idle
    · simp [hmem, hlt, mem_closings]
    · simp [hmem, mem_closings]
  · by_cases hp : p = id
    · rw [hp, hempty]
      exact Nat.zero_le _
    · exact hother p hp ▸ h.room p
  · by_cases hp : p = id
    · exact hp ▸ hempty
    · rw [hother p hp] at hclosed ⊢
      exact h.shut p hclosed

/-- Pools are closed one after the other. -/
theorem closePools (h : Custody history held d) (pools : List PoolId) :
    Custody (history ++ d.closingsOf pools) held (pools.foldl Depot.closePool d) := by
  induction pools generalizing history d with
  | nil => rwa [Depot.closingsOf, List.append_nil]
  | cons id rest ih =>
      rw [Depot.closingsOf, ← List.append_assoc]
      exact ih (h.closePool id)

/-- The connector of a pool may open a connection. -/
private theorem connect {id : PoolId} {c : ConnectionId} (h : Custody history held d)
    (hlt : id < d.pools.size) (hconnect : d.connect (d.pool id).connector = (.ok c, d')) :
    Custody (history ++ [.opened id c]) (.loan ⟨id, c⟩ :: held) d' := by
  obtain ⟨rfl, connection, hstore, hclosed, rfl⟩ := Depot.connect_ok hconnect
  have hconnection : ∀ c, ({ d with connections := d.connections.push connection } : Depot).connection
      c = if c = d.connections.size then connection else d.connection c := fun c => System.getD_push ..
  have hfresh : ∀ p, .opened p d.connections.size ∉ history := fun p hp =>
    Nat.lt_irrefl _ ((h.opened_iff _).mp ⟨p, hp⟩)
  have hopen : .closed d.connections.size ∉ history := fun hc =>
    let ⟨p, hp⟩ := h.closings _ hc
    hfresh p hp
  have hmem : ∀ {p c}, .opened p c ∈ history ++ [.opened id d.connections.size] ↔
      .opened p c ∈ history ∨ p = id ∧ c = d.connections.size := by
    simp
  have hother : ∀ {p c}, .opened p c ∈ history → c ≠ d.connections.size := fun hc heq =>
    hfresh _ (heq ▸ hc)
  refine ⟨fun c => ?_, ?_, ?_, ?_, ?_, ?_, ?_, ?_, ?_, h.room, h.shut⟩
  · rw [Array.size_push, Nat.lt_succ_iff_lt_or_eq, ← h.opened_iff]
    simp only [hmem]
    constructor
    · rintro ⟨p, hp | ⟨-, hc⟩⟩
      · exact .inl ⟨p, hp⟩
      · exact .inr hc
    · rintro (⟨p, hp⟩ | hc)
      · exact ⟨p, .inl hp⟩
      · exact ⟨id, .inr ⟨rfl, hc⟩⟩
  · intro p p' c hp hp'
    rcases hmem.mp hp with hp | ⟨rfl, rfl⟩
    · rcases hmem.mp hp' with hp' | ⟨-, hc⟩
      · exact h.home hp hp'
      · exact absurd hc (hother hp)
    · exact (hmem.mp hp').elim (fun hp' => absurd rfl (hother hp')) And.left
  · intro p c hc
    rw [hconnection]
    rcases hmem.mp hc with hc | ⟨rfl, rfl⟩
    · rw [if_neg (hother hc)]
      exact h.origin hc
    · rw [if_pos rfl]
      exact ⟨hlt, hstore⟩
  · exact fun p c hc => List.mem_append_left _ (h.idle p c hc)
  · intro loan hl
    rcases List.mem_cons.mp hl with heq | hl
    · obtain rfl := Stake.loan.inj heq
      exact hmem.mpr (.inr ⟨rfl, rfl⟩)
    · exact List.mem_append_left _ (h.loans loan hl)
  · exact fun o ho => h.openings o ((List.mem_cons.mp ho).resolve_left (by simp))
  · intro c hc
    obtain ⟨p, hp⟩ := h.closings c ((List.mem_append.mp hc).resolve_right (by simp))
    exact ⟨p, List.mem_append_left _ hp⟩
  · intro p c hc
    rw [List.count_append, List.count_singleton, if_neg (by simp)]
    rcases hmem.mp hc with hc | ⟨rfl, rfl⟩
    · rw [List.count_cons_of_ne fun heq => hother hc (congrArg Loan.connection (Stake.loan.inj heq)).symm]
      exact h.place hc
    · rw [List.count_cons_self, List.count_eq_zero.mpr hopen,
        List.count_eq_zero.mpr fun hl => hfresh _ (h.loans _ hl)]
      exact congrArg (· + 1) (List.count_eq_zero.mpr fun hi => hfresh _ (h.idle p _ hi))
  · intro p c hc
    rw [hconnection]
    rcases hmem.mp hc with hc | ⟨rfl, rfl⟩
    · rw [if_neg (hother hc), h.flag hc]
      simp
    · rw [if_pos rfl, hclosed]
      simp [hopen]

/-- An opening ends with a connection, or changes nothing. -/
theorem finishOpening {id : PoolId} {result : Except Failure Loan} (h : Custody history held d)
    (hlt : id < d.pools.size) (hresult : d.finishOpening id = (result, d')) :
    match result with
    | .ok loan => Custody (history ++ d.lending d' loan) (.loan loan :: held) d'
    | .error _ => d' = d := by
  unfold Depot.finishOpening at hresult
  split at hresult
  · rename_i c d'' hconnect
    obtain ⟨rfl, rfl⟩ := Prod.mk.inj hresult
    obtain ⟨-, connection, -, -, hd⟩ := Depot.connect_ok hconnect
    have hgrown : d.connections.size < d''.connections.size := by
      rw [hd, Array.size_push]
      exact Nat.lt_succ_self _
    dsimp only
    rw [Depot.lending, if_pos hgrown]
    exact h.connect hlt hconnect
  · rename_i failure d'' hconnect
    obtain ⟨rfl, rfl⟩ := Prod.mk.inj hresult
    exact Depot.connect_error hconnect

/-- A pool lends a connection, or nothing changes. -/
theorem checkout {id : PoolId} {result : Depot.Checkout} (h : Custody history held d)
    (hlt : id < d.pools.size) (hresult : d.checkout id = (result, d')) :
    match result with
    | .borrowed loan => Custody (history ++ d.lending d' loan) (.loan loan :: held) d'
    | .refused _ => d' = d
    | .opening _ => d' = d := by
  unfold Depot.checkout at hresult
  dsimp only at hresult
  split at hresult
  · obtain ⟨rfl, rfl⟩ := Prod.mk.inj hresult
    rfl
  split at hresult
  · rename_i c rest hidle
    obtain ⟨rfl, rfl⟩ := Prod.mk.inj hresult
    dsimp only
    rw [Depot.lending, if_neg (Nat.lt_irrefl _), List.append_nil]
    exact h.lend hidle
  split at hresult
  · split at hresult
    · rename_i loan d'' hopening
      obtain ⟨rfl, rfl⟩ := Prod.mk.inj hresult
      exact h.finishOpening hlt hopening
    · rename_i failure d'' hopening
      obtain ⟨rfl, rfl⟩ := Prod.mk.inj hresult
      exact h.finishOpening hlt hopening
  · obtain ⟨rfl, rfl⟩ := Prod.mk.inj hresult
    rfl

end Custody

end ContentEngine
