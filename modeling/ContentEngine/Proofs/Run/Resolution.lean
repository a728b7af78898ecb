import ContentEngine.Proofs.Run.Reading
import ContentEngine.Proofs.Source.Answers

/-!
# How names of sources are resolved

Whoever asks a federation for a connection to a source is refused if the federation is shut down or has
no source of that name.  Otherwise the pool that is registered under the name answers, and it is open:
with the idle connection that came back last, or with a new one, or with the refusal of its connector.

## Strategy

While a federation is open its pools are (`Housed`), so the answer is a `Depot.Answer` of the pool that is
registered.  That the connection in front of the idle ones came back last is said of a `Ledger`, which
notes what is given back: a deal that gives nothing back leaves idle connections in order
(`Depot.Drawn`), and one that comes back is put in front.
-/

namespace ContentEngine

/-! ## What came back -/

/-- What comes of one deal after another, with the loans that were given back, the last one in front. -/
inductive Ledger : List Handling → List Loan → List Stake → System → Prop
  | start : Ledger [] [] [] .empty
  /-- Nothing is given back. -/
  | deal {history returns held s events held' s'} : Ledger history returns held s →
      Deal held s events held' s' →
      (∀ loan, held.count (.loan loan) ≤ held'.count (.loan loan)) →
      Ledger (history ++ events) returns held' s'
  | giveBack {history returns held s loan} : Ledger history returns held s → .loan loan ∈ held →
      Ledger (history ++ s.depot.releasing loan) (loan :: returns) (held.erase (.loan loan))
        ((giveBack (some loan)).run s).2

variable {history events : List Handling} {returns : List Loan} {held held' : List Stake}
  {s s' : System} {id : FederationId} {name : String} {p : PoolId}

/-- A deal gives one loan back, or none: then no connection came back to a pool. -/
theorem Deal.gives_back_or_draws (h : Deal held s events held' s') :
    (∃ loan, .loan loan ∈ held ∧ events = s.depot.releasing loan ∧ held' = held.erase (.loan loan) ∧
      s' = ((ContentEngine.giveBack (some loan)).run s).2) ∨
    s.depot.Drawn s'.depot ∧ ∀ loan, held.count (.loan loan) ≤ held'.count (.loan loan) := by
  have hsame : ∀ loan, held.count (.loan loan) ≤ held.count (.loan loan) := fun _ => Nat.le_refl _
  have herase : ∀ (o : Opening) (loan : Loan),
      (held.erase (.opening o)).count (.loan loan) = held.count (.loan loan) :=
    fun o loan => List.count_erase_of_ne (by simp)
  cases h with
  | calm hcalm => exact .inr ⟨.of_pools hcalm.pools, hsame⟩
  | order hperm => exact .inr ⟨.refl _, fun loan => Nat.le_of_eq (hperm.count_eq _)⟩
  | ping c => exact .inr ⟨.of_pools rfl, hsame⟩
  | addPool hidle => exact .inr ⟨.addPool hidle _, hsame⟩
  | install name connector descriptor hid => exact .inr ⟨Depot.Drawn.survives.install _ _ _ _ _, hsame⟩
  | remove id name => exact .inr ⟨Depot.Drawn.survives.remove _ _ _, hsame⟩
  | request id name =>
      refine .inr ⟨Depot.Drawn.outlasts.borrow _ _ _, fun loan => ?_⟩
      rw [List.count_append]
      exact Nat.le_add_left _ _
  | resume id ho =>
      refine .inr ⟨Depot.Drawn.outlasts.resumeBorrow _ _ _, fun loan => ?_⟩
      rw [List.count_append, herase]
      exact Nat.le_add_left _ _
  | abandon ho => exact .inr ⟨.refl _, fun loan => Nat.le_of_eq (herase _ loan).symm⟩
  | @giveBack loan hloan => exact .inl ⟨loan, hloan, rfl, rfl, rfl⟩
  | shutdown id => exact .inr ⟨Depot.Drawn.survives.shutdown _ _, hsame⟩

/-- What was given back is known of all that comes of deals. -/
theorem Dealings.ledger (h : Dealings history held s) : ∃ returns, Ledger history returns held s := by
  induction h with
  | start => exact ⟨_, .start⟩
  | deal _ hdeal ih =>
      obtain ⟨returns, hledger⟩ := ih
      rcases hdeal.gives_back_or_draws with ⟨loan, hloan, rfl, rfl, rfl⟩ | ⟨-, hcount⟩
      · exact ⟨_, hledger.giveBack hloan⟩
      · exact ⟨returns, hledger.deal hdeal hcount⟩

theorem Ledger.dealings (h : Ledger history returns held s) : Dealings history held s := by
  induction h with
  | start => exact .start
  | deal _ hdeal _ ih => exact ih.deal hdeal
  | giveBack _ hloan ih => exact ih.deal (.giveBack hloan)

/-- The idle connections of each pool came back to it, and those in front later than the others. -/
structure Stacked (returns : List Loan) (d : Depot) : Prop where
  returned : ∀ p, ∀ c ∈ (d.pool p).idle, ⟨p, c⟩ ∈ returns
  ordered : ∀ p, (d.pool p).idle.Pairwise fun c c' => returns.idxOf ⟨p, c⟩ < returns.idxOf ⟨p, c'⟩

namespace Stacked

variable {d d' : Depot}

theorem drawn (h : Stacked returns d) (hdrawn : d.Drawn d') : Stacked returns d' where
  returned p c hc := h.returned p c ((hdrawn p).subset hc)
  ordered p := (h.ordered p).sublist (hdrawn p)

/-- Connections that are idle already came back before one that comes back. -/
private theorem note {loan : Loan} (h : Stacked returns d)
    (hlent : loan.connection ∉ (d.pool loan.pool).idle) : Stacked (loan :: returns) d where
  returned p c hc := List.mem_cons_of_mem _ (h.returned p c hc)
  ordered p := by
    have hother : ∀ c ∈ (d.pool p).idle,
        (loan :: returns).idxOf ⟨p, c⟩ = returns.idxOf ⟨p, c⟩ + 1 := fun c hc => by
      refine List.idxOf_cons_ne _ fun heq => hlent ?_
      rwa [heq]
    refine (h.ordered p).imp_of_mem fun {c c'} hc hc' hlt => ?_
    rw [hother c hc, hother c' hc']
    exact Nat.succ_lt_succ hlt

theorem release {loan : Loan} (h : Stacked returns d)
    (hlent : loan.connection ∉ (d.pool loan.pool).idle) :
    Stacked (loan :: returns) (d.release loan) := by
  have hnoted := h.note hlent
  unfold Depot.release
  split
  · have hpool := fun p => d.pool_modify loan.pool p fun q => { q with idle := loan.connection :: q.idle }
    refine ⟨fun p c hc => ?_, fun p => ?_⟩
    · rw [hpool] at hc
      split at hc
      · rename_i hp
        rw [hp.1]
        rcases List.mem_cons.mp hc with rfl | hc
        · exact List.mem_cons_self
        · exact hnoted.returned _ c hc
      · exact hnoted.returned p c hc
    · rw [hpool]
      split
      · rename_i hp
        rw [hp.1]
        -- it lies in front, and it came back last
        refine List.pairwise_cons.mpr ⟨fun c hc => ?_, hnoted.ordered _⟩
        have hne : loan ≠ ⟨loan.pool, c⟩ := fun heq => hlent ((congrArg Loan.connection heq).symm ▸ hc)
        rw [List.idxOf_cons_self, List.idxOf_cons_ne _ hne]
        exact Nat.succ_pos _
      · exact hnoted.ordered p
  · exact hnoted.drawn (.of_pools rfl)

end Stacked

/-- In each pool the idle connections lie as they came back. -/
theorem Ledger.stacked (h : Ledger history returns held s) : Stacked returns s.depot := by
  induction h with
  | start => exact ⟨fun p c hc => absurd hc List.not_mem_nil, fun p => .nil⟩
  | deal _ hdeal hcount ih =>
      rcases hdeal.gives_back_or_draws with ⟨loan, hloan, rfl, rfl, rfl⟩ | ⟨hdrawn, -⟩
      · have hless := hcount loan
        rw [List.count_erase_self] at hless
        have hpos := List.count_pos_iff.mpr hloan
        omega
      · exact ih.drawn hdrawn
  | @giveBack _ _ held s loan hledger hloan ih =>
      refine ih.release fun hidle => ?_
      -- a connection is in one place
      have hcustody := hledger.dealings.custody.1
      have hplace := hcustody.place (hcustody.loans loan hloan)
      have hidles := List.count_pos_iff.mpr hidle
      have hloans : 0 < held.count (.loan ⟨loan.pool, loan.connection⟩) :=
        List.count_pos_iff.mpr hloan
      omega

/-! ## Resolving a name -/

/-- Waiting leaves the connections and a federation as they are: nobody else does anything with them. -/
def System.Still (s : System) (id : FederationId) : Prop :=
  ∀ millis, System.depot ((elapse millis).run s).2 = s.depot ∧
    System.federation ((elapse millis).run s).2 id = s.federation id

private theorem turn_idle (hready : s.ready = []) (htimers : s.timers = []) (deadline : Nat) :
    (turn deadline).run s = (false, s) := by
  unfold turn System.nextMoment?
  rw [get_bind, hready, htimers]
  rfl

private theorem takeTurns_idle (hready : s.ready = []) (htimers : s.timers = []) (deadline fuel : Nat)
    (stop : System → Bool) : ((takeTurns deadline stop fuel).run s).2 = s := by
  cases fuel with
  | zero => rfl
  | succ fuel =>
      unfold takeTurns
      rw [get_bind]
      split
      · rfl
      · rw [run_bind, turn_idle hready htimers]
        rfl

private theorem wakeDue_idle (hready : s.ready = []) (htimers : s.timers = []) :
    (wakeDue.run s).2 = s := by
  unfold wakeDue
  rw [get_bind, hready, if_pos List.isEmpty_nil, run_bind, turn_idle hready htimers]
  rfl

/-- Where no errand is ready and none waits, waiting changes nothing but the clock. -/
theorem System.still_of_idle (hready : s.ready = []) (htimers : s.timers = []) (id : FederationId) :
    s.Still id := by
  intro millis
  have hclock : ∃ clock, ((elapse millis).run s).2 = { s with clock := clock } := by
    change ∃ clock, ((waitFor millis fun _ => false).run s).2 = _
    unfold waitFor
    rw [get_bind, if_neg Bool.false_ne_true]
    by_cases hmillis : millis = 0
    · rw [if_pos hmillis]
      exact ⟨s.clock, rfl⟩
    · let s' : System := { s with clock := max s.clock (s.clock + millis) }
      have hwaited : ((wakeDue >>= fun _ => pure false).run s').2 = s' :=
        wakeDue_idle (s := s') hready htimers
      rw [if_neg hmillis, run_bind, takeTurns_idle hready htimers, get_bind, if_neg Bool.false_ne_true]
      exact ⟨_, hwaited⟩
  obtain ⟨clock, hclock⟩ := hclock
  rw [hclock]
  exact ⟨rfl, rfl⟩

/-- Borrowing that has come to its end is not waited for. -/
theorem awaitBorrowing_ended (id : FederationId) (attempts : Nat) (answer : Except Fault Loan)
    (s : System) : (awaitBorrowing id attempts (.ended answer)).run s = (answer, s) := by
  cases answer <;> cases attempts <;> rfl

theorem borrowConnection_closed (name : String) (h : ¬s.IsOpen id) :
    ∃ text, ((borrowConnection id name).run s).1 = .error (.notRunning text) := by
  have hclosed : (s.federation id).state.isClosed = true := by simpa [System.IsOpen] using h
  have hborrow : ∃ text, (s.federation id).borrow s.depot name =
      (.ended (.error (.notRunning text)), s.depot) := by
    unfold Federation.borrow Federation.borrowWith Federation.requireOpen
    rw [if_pos hclosed]
    exact ⟨_, rfl⟩
  obtain ⟨text, hborrow⟩ := hborrow
  unfold borrowConnection
  rw [run_bind, requestConnection_run, hborrow, awaitBorrowing_ended]
  exact ⟨text, rfl⟩

theorem borrowConnection_unknown (h : s.IsOpen id) (hname : s.pool? id name = none) :
    ((borrowConnection id name).run s).1 = .error (.unknownSource name) := by
  have hopen : (s.federation id).state.isClosed = false := h
  have hname : Table.get? (s.federation id).pools name = none := hname
  have hborrow : (s.federation id).borrow s.depot name =
      (.ended (.error (.unknownSource name)), s.depot) := by
    unfold Federation.borrow Federation.borrowWith Federation.requireOpen
    rw [hopen, if_neg Bool.false_ne_true]
    dsimp only
    rw [hname]
    rfl
  unfold borrowConnection
  rw [run_bind, requestConnection_run, hborrow, awaitBorrowing_ended]

/-- The pool of a source answers, also if it takes time to open a connection. -/
theorem borrowConnection_answer (hstill : s.Still id) (h : s.IsOpen id) (hp : s.pool? id name = some p)
    (hpool : (s.depot.pool p).closed = false) :
    s.depot.Answer p name ((borrowConnection id name).run s).1
      (System.depot ((borrowConnection id name).run s).2) := by
  unfold borrowConnection
  rw [run_bind, requestConnection_run, s.setFederation_self]
  rcases Federation.borrow_open h hp hpool with
    ⟨answer, d', hanswer, hborrow⟩ | ⟨hidle, millis, hborrow⟩
  · rw [hborrow, awaitBorrowing_ended]
    exact hanswer
  · rw [hborrow]
    -- the answer is given by what is there after waiting, which is what was there before
    have hwaited := hstill millis
    change s.depot.Answer p name ((awaitBorrowing id 2 (.opening ⟨name, p, false⟩ millis)).run s).1
      (System.depot ((awaitBorrowing id 2 (.opening ⟨name, p, false⟩ millis)).run s).2)
    unfold awaitBorrowing
    rw [run_bind]
    generalize ((elapse millis).run s).2 = s₁ at hwaited ⊢
    obtain ⟨hdepot, hfederation⟩ := hwaited
    have hresume : (withFederation id fun f d => ((f.resumeBorrow d ⟨name, p, false⟩).1, f,
        (f.resumeBorrow d ⟨name, p, false⟩).2)).run s₁ =
          (((s₁.federation id).resumeBorrow s₁.depot ⟨name, p, false⟩).1,
            (s₁.setFederation id (s₁.federation id)).setDepot
              ((s₁.federation id).resumeBorrow s₁.depot ⟨name, p, false⟩).2) := rfl
    obtain ⟨answer, d', hanswer, hended⟩ :=
      (s.federation id).resumeBorrow_open name hpool hidle
    rw [run_bind, hresume, hfederation, hdepot, hended, awaitBorrowing_ended]
    exact hanswer

/-- What comes of asking an open federation for a connection to a source that it has. -/
structure Resolved (held : List Stake) (s : System) (p : PoolId) (name : String)
    (answer : Except Fault Loan) (s' : System) : Prop where
  /-- No pool of the federation is closed, so none refuses for that reason. -/
  isOpen : (s.depot.pool p).closed = false
  answered : s.depot.Answer p name answer s'.depot
  /-- The idle connection in front, which is lent, is the one that was given back last. -/
  noted : ∃ history returns, Ledger history returns (held ++ s.jobStakes) s
  last : ∀ history returns, Ledger history returns (held ++ s.jobStakes) s → Stacked returns s.depot
  /-- What is lent was opened by the pool that is registered, and by no other. -/
  origin : ∀ loan, answer = .ok loan → loan.pool = p ∧
    ∃ history, Dealings history (.loan loan :: held ++ s'.jobStakes) s' ∧
      ∀ p', .opened p' loan.connection ∈ history ↔ p' = p

theorem borrowConnection_resolved (h : Trading held s) (hstill : s.Still id) (hopen : s.IsOpen id)
    (hp : s.pool? id name = some p) :
    Resolved held s p name ((borrowConnection id name).run s).1 ((borrowConnection id name).run s).2 := by
  obtain ⟨-, history, hdealings⟩ := h.dealt
  have hpool := h.housed.opened id hopen name p hp
  have hanswer := borrowConnection_answer hstill hopen hp hpool
  have hlater := Trading.getConnection id name h
  generalize (borrowConnection id name).run s = r at hanswer hlater ⊢
  obtain ⟨answer, s'⟩ := r
  dsimp only at hanswer hlater ⊢
  refine ⟨hpool, hanswer, ⟨history, hdealings.ledger⟩, fun _ _ hledger => hledger.stacked, ?_⟩
  rintro loan rfl
  have hloan := hanswer.pool_of_ok rfl
  obtain ⟨-, history', hdealings'⟩ := hlater.dealt
  refine ⟨hloan, history', hdealings', fun p' => ?_⟩
  have hcustody := hdealings'.custody.1
  have hopened := hcustody.loans loan (List.mem_append_left _ List.mem_cons_self)
  rw [hloan] at hopened
  exact ⟨hcustody.home hopened, fun heq => heq ▸ hopened⟩

/-- A name is resolved by what is registered: to no connection if the federation is shut down or has no
such source, and else as the open pool answers that is registered under the name. -/
theorem source_names_resolved (h : Trading held s) (id : FederationId) (name : String)
    (hstill : s.Still id) :
    let r := (borrowConnection id name).run s
    ((∃ text, r.1 = .error (.notRunning text)) ↔
      (s.federation id).state = .stopping ∨ (s.federation id).state = .terminated) ∧
    (s.IsOpen id → (r.1 = .error (.unknownSource name) ↔ s.pool? id name = none)) ∧
    ∀ p, s.IsOpen id → s.pool? id name = some p → Resolved held s p name r.1 r.2 := by
  have hresolved : ∀ p, s.IsOpen id → s.pool? id name = some p →
      Resolved held s p name ((borrowConnection id name).run s).1 ((borrowConnection id name).run s).2 :=
    fun _ hopen hp => borrowConnection_resolved h hstill hopen hp
  dsimp only
  refine ⟨?_, fun hopen => ?_, hresolved⟩
  · rw [← LifecycleState.isClosed_iff]
    refine ⟨fun ⟨text, herror⟩ => ?_, fun hclosed => ?_⟩
    · refine Decidable.byContradiction fun hnot => ?_
      have hopen : s.IsOpen id := Bool.eq_false_iff.mpr hnot
      cases hname : s.pool? id name with
      | none =>
          rw [borrowConnection_unknown hopen hname] at herror
          cases herror
      | some p =>
          have hanswer := (hresolved p hopen hname).answered
          rw [herror] at hanswer
          cases hanswer
    · refine borrowConnection_closed name fun hopen => ?_
      exact Bool.false_ne_true (hopen.symm.trans hclosed)
  · refine ⟨fun herror => ?_, borrowConnection_unknown hopen⟩
    cases hname : s.pool? id name with
    | none => rfl
    | some p =>
        have hanswer := (hresolved p hopen hname).answered
        rw [herror] at hanswer
        cases hanswer

/-- A federation with one source, of whose two connections the first came back last. -/
def System.returned : System :=
  let lent := ((borrowConnection 0 "docs").run ((borrowConnection 0 "docs").run .withSource).2).2
  ((giveBack (some ⟨0, 0⟩)).run ((giveBack (some ⟨0, 1⟩)).run lent).2).2

theorem source_names_resolved_returned :
    let r := (borrowConnection 0 "docs").run .returned
    (System.returned.depot.pool 0).idle = [0, 1] ∧ r.1 = .ok ⟨0, 0⟩ ∧
      Resolved [] .returned 0 "docs" r.1 r.2 ∧
      ((borrowConnection 0 "files").run .returned).1 = .error (.unknownSource "files") := by
  have hfirst : stakesOf ((borrowConnection 0 "docs").run .withSource).1 = [.loan ⟨0, 0⟩] := rfl
  have hsecond : stakesOf ((borrowConnection 0 "docs").run
      ((borrowConnection 0 "docs").run .withSource).2).1 = [.loan ⟨0, 1⟩] := rfl
  have hlent := Trading.getConnection 0 "docs" (.getConnection 0 "docs" .withSource)
  rw [hfirst, hsecond] at hlent
  have hreturned : Trading [] .returned := .drop (.drop hlent)
  have hstill : System.returned.Still 0 := System.still_of_idle rfl rfl 0
  obtain ⟨-, -, hresolved⟩ := source_names_resolved hreturned 0 "docs" hstill
  obtain ⟨-, hunknown, -⟩ := source_names_resolved hreturned 0 "files" hstill
  exact ⟨rfl, rfl, hresolved 0 rfl rfl, (hunknown rfl).mpr rfl⟩

end ContentEngine
