import ContentEngine.Proofs.Run.Turn
import ContentEngine.Proofs.Source.Installing

/-!
# What the background leaves alone

While somebody waits the background goes on: jobs borrow and return connections, dispatchers drain, and
engines that were asked to close shut their federations down.  Stores, buses, services and the sources
of federations stay as they are, and a federation of which no engine is closing stays open.

## Strategy

`Background s s'` lists what is the same.  It holds after each errand: a job only lends connections
(`OutlastsActions`), and a closing engine changes nothing but lifecycles and pools that it closes.
From turns it carries over to all waiting, since it is `Enduring`.
-/

namespace ContentEngine

/-! ## Depots -/

/-- A pool is the same but for what is idle in it and whether it is closed, and it was not reopened. -/
def Pool.Tended (p p' : Pool) : Prop :=
  ∃ idle closed, p' = { p with idle := idle, closed := closed } ∧ (p.closed = true → closed = true)

namespace Pool.Tended

variable {p p' p'' : Pool}

theorem refl (p : Pool) : Tended p p :=
  ⟨p.idle, p.closed, rfl, fun h => h⟩

theorem trans (h : Tended p p') (h' : Tended p' p'') : Tended p p'' := by
  obtain ⟨idle, closed, rfl, hclosed⟩ := h
  obtain ⟨idle', closed', rfl, hclosed'⟩ := h'
  exact ⟨idle', closed', rfl, fun hp => hclosed' (hclosed hp)⟩

theorem descriptor (h : Tended p p') : p'.descriptor = p.descriptor := by
  obtain ⟨_, _, rfl, -⟩ := h
  rfl

theorem connector (h : Tended p p') : p'.connector = p.connector := by
  obtain ⟨_, _, rfl, -⟩ := h
  rfl

theorem closed (h : Tended p p') (hp : p.closed = true) : p'.closed = true := by
  obtain ⟨_, _, rfl, hclosed⟩ := h
  exact hclosed hp

end Pool.Tended

/-- Connections are opened, lent and returned, and pools are closed: stores are the same, and so are
pools but for what is idle in them and whether they are closed. -/
structure Depot.Tended (d d' : Depot) : Prop where
  stores : d'.stores = d.stores
  names : d'.names = d.names
  size : d'.pools.size = d.pools.size
  pools : ∀ p, (d.pool p).Tended (d'.pool p)

namespace Depot.Tended

variable {d d' d'' : Depot}

theorem refl (d : Depot) : Tended d d :=
  ⟨rfl, rfl, rfl, fun _ => .refl _⟩

theorem trans (h : Tended d d') (h' : Tended d' d'') : Tended d d'' where
  stores := h'.stores.trans h.stores
  names := h'.names.trans h.names
  size := h'.size.trans h.size
  pools p := (h.pools p).trans (h'.pools p)

theorem of_lent (h : d.Lent d') : Tended d d' where
  stores := h.stores
  names := h.names
  size := h.size
  pools p := by
    obtain ⟨idle, heq⟩ := h.pools p
    exact ⟨idle, _, heq, fun hp => hp⟩

theorem closePool (d : Depot) (id : PoolId) : Tended d (d.closePool id) := by
  refine ⟨d.stores_closePool id, d.names_closePool id, d.pools_size_closePool id, fun p => ?_⟩
  rw [d.pool_closePool]
  split
  · rename_i hp
    exact ⟨[], true, by rw [hp.1], fun _ => rfl⟩
  · exact .refl _

theorem closePools (d : Depot) (pools : List PoolId) : Tended d (pools.foldl Depot.closePool d) := by
  induction pools generalizing d with
  | nil => exact refl d
  | cons id rest ih => exact (closePool d id).trans (ih _)

theorem shutdown (f : Federation) (d : Depot) : Tended d (f.shutdown d).2.1 := by
  rcases f.shutdown_cases d with ⟨-, -, hsame⟩ | ⟨-, -, -, hclosed⟩
  · rw [hsame]
    exact refl d
  · rw [hclosed]
    exact closePools d _

end Depot.Tended

/-- A federation that is shut down is the same but for its lifecycle. -/
theorem Federation.shutdown_lifecycle (f : Federation) (d : Depot) :
    ∃ lifecycle, (f.shutdown d).1 = { f with lifecycle := lifecycle } := by
  unfold Federation.shutdown
  split <;> exact ⟨_, rfl⟩

/-! ## Systems -/

/-- No engine is about to shut a federation down. -/
def System.Unthreatened (s : System) (id : FederationId) : Prop :=
  ∀ e, (s.engine e).federation = id → (s.engine e).closing = .idle

/-- Engines serve the same federations, and those that were idle did not begin to close. -/
def System.EnginesRest (s s' : System) : Prop :=
  ∀ e, (s'.engine e).federation = (s.engine e).federation ∧
    ((s.engine e).closing = .idle → (s'.engine e).closing = .idle)

namespace System.EnginesRest

variable {s s' s'' : System}

theorem of_eq (h : s'.engines = s.engines) : EnginesRest s s' := by
  intro e
  rw [engine, h]
  exact ⟨rfl, fun h => h⟩

theorem trans (h : EnginesRest s s') (h' : EnginesRest s' s'') : EnginesRest s s'' := by
  intro e
  obtain ⟨hsame, hidle⟩ := h e
  obtain ⟨hsame', hidle'⟩ := h' e
  exact ⟨hsame'.trans hsame, fun h => hidle' (hidle h)⟩

theorem unthreatened (h : EnginesRest s s') {id : FederationId} (hid : s.Unthreatened id) :
    s'.Unthreatened id := by
  intro e he
  obtain ⟨hsame, hidle⟩ := h e
  exact hidle (hid e (hsame ▸ he))

end System.EnginesRest

/-- The second system may come of the first one in the background. -/
structure Background (s s' : System) : Prop where
  buses : s'.buses = s.buses
  services : s'.services = s.services
  depot : s.depot.Tended s'.depot
  size : s'.federations.size = s.federations.size
  federations : ∀ id, ∃ lifecycle, s'.federation id = { s.federation id with lifecycle := lifecycle }
  spared : ∀ id, s.Unthreatened id → s'.federation id = s.federation id
  engines : s.EnginesRest s'

namespace Background

variable {s s' s'' : System}

/-- A change of jobs, errands and records. -/
theorem of_eq (hbuses : s'.buses = s.buses) (hservices : s'.services = s.services)
    (hdepot : s.depot.Tended s'.depot) (hfederations : s'.federations = s.federations)
    (hengines : s'.engines = s.engines) : Background s s' where
  buses := hbuses
  services := hservices
  depot := hdepot
  size := by rw [hfederations]
  federations id := ⟨_, by rw [System.federation, hfederations]; rfl⟩
  spared id _ := by rw [System.federation, hfederations, System.federation]
  engines := .of_eq hengines

theorem refl (s : System) : Background s s :=
  of_eq rfl rfl (.refl _) rfl rfl

theorem trans (h : Background s s') (h' : Background s' s'') : Background s s'' where
  buses := h'.buses.trans h.buses
  services := h'.services.trans h.services
  depot := h.depot.trans h'.depot
  size := h'.size.trans h.size
  federations id := by
    obtain ⟨_, heq⟩ := h.federations id
    obtain ⟨lifecycle, heq'⟩ := h'.federations id
    exact ⟨lifecycle, by rw [heq', heq]⟩
  spared id hid := (h'.spared id (h.engines.unthreatened hid)).trans (h.spared id hid)
  engines := h.engines.trans h'.engines

theorem outlasts (s₀ : System) : OutlastsActions (Background s₀) where
  lent hlent hs := hs.trans (of_eq rfl rfl (.of_lent hlent) rfl rfl)
  note _ hs := hs.trans (of_eq rfl rfl (.refl _) rfl rfl)
  permit _ _ hs := hs.trans (of_eq rfl rfl (.refl _) rfl rfl)

/-! ### Errands -/

section jobs

variable {s₀ : System} (id : DispatcherId) (index : JobIndex) (job : Job Processor)

private theorem settleJob (ending : Ending) (advance : Advance) :
    Ensures (Background s₀) (settleJob id index job ending advance) fun _ => Background s₀ := by
  cases advance with
  | ended outcome loan =>
      refine .andThen ((outlasts s₀).giveBack loan) fun _ s hs => ?_
      obtain ⟨_, _, -, heq⟩ := endJob_run id index job outcome s
      rw [heq]
      exact hs.trans (of_eq rfl rfl (.refl _) rfl rfl)
  | paused rest loan pause =>
      intro s hs
      cases pause with
      | opening o millis => exact hs.trans (of_eq rfl rfl (.refl _) rfl rfl)
      | sleep millis => exact hs.trans (of_eq rfl rfl (.refl _) rfl rfl)
      | gate name => exact hs.trans (of_eq rfl rfl (.refl _) rfl rfl)

private theorem invoke :
    Ensures (Background s₀) (invoke id index job) fun _ => Background s₀ := by
  refine .seq (.part (Q := fun _ => Background s₀) fun _ hs => hs) fun d => ?_
  exact .andThen ((outlasts s₀).runActions _ _ _ _) fun advance => settleJob id index job _ advance

private theorem resume (a : Activity) :
    Ensures (Background s₀) (resume id index job a) fun _ => Background s₀ := by
  refine .seq (.part (Q := fun _ => Background s₀) fun _ hs => hs) fun d => ?_
  have hgoOn : ∀ loan, Ensures (Background s₀) (do
      let advance ← runActions d.federation a.ending a.rest loan
      ContentEngine.settleJob id index job a.ending advance) fun _ => Background s₀ := fun loan =>
    .andThen ((outlasts s₀).runActions _ _ _ _) fun advance => settleJob id index job _ advance
  split
  · exact hgoOn a.loan
  · rename_i o _
    refine .andThen ((outlasts s₀).ask d.federation fun f depot => .resumeBorrow f depot o)
      fun borrowing => ?_
    cases borrowing with
    | done loan => exact hgoOn (some loan)
    | failed fault => exact settleJob id index job _ _
    | opening o millis => exact settleJob id index job _ _

private theorem runJob :
    Ensures (Background s₀) (runJob id index) fun _ => Background s₀ := by
  refine .seq (.part (Q := fun _ => Background s₀) fun _ hs => hs) fun d => ?_
  split
  · exact .answer fun _ hs => hs
  · refine .andThen (R := Background s₀)
      (.exchange fun s hs => hs.trans (of_eq rfl rfl (.refl _) rfl rfl)) fun _ => ?_
    refine .seq (.part (Q := fun _ => Background s₀) fun _ hs => hs) fun d => ?_
    split
    · exact invoke id index _
    · exact .answer fun _ hs => hs
  · exact invoke id index _
  · exact resume id index _ _
  · exact .answer fun _ hs => hs
  · exact .answer fun _ hs => hs

end jobs

private theorem drainTurn {id : DispatcherId} (h : DrainTurn id s s') : Background s s' := by
  cases h with
  | idle _ => exact refl s
  | drained _ _ => exact of_eq rfl rfl (.refl _) rfl rfl

/-- An engine that closes shuts its own federation down, and is idle then. -/
private theorem closeEngine (id : EngineId) (hclosing : (s.engine id).closing ≠ .idle) :
    Background s ((closeEngine id).run s).2 := by
  let f := s.federation (s.engine id).federation
  have hfederation : ∀ other, System.federation ((ContentEngine.closeEngine id).run s).2 other =
      if other = (s.engine id).federation ∧ (s.engine id).federation < s.federations.size
      then (f.shutdown s.depot).1 else s.federation other :=
    fun other => s.federation_setFederation _ other _
  have hengine : ∀ e, System.engine ((ContentEngine.closeEngine id).run s).2 e =
      if e = id ∧ id < s.engines.size then { s.engine id with
        lifecycle := (s.engine id).lifecycle.markTerminated, closing := .idle }
      else s.engine e := fun e => s.engine_setEngine id e _
  refine ⟨rfl, rfl, .shutdown f s.depot, Array.size_setIfInBounds, fun other => ?_, fun other hother => ?_,
    fun e => ?_⟩
  · rw [hfederation]
    split
    · rename_i hother
      rw [hother.1]
      exact f.shutdown_lifecycle s.depot
    · exact ⟨_, rfl⟩
  · rw [hfederation, if_neg fun heq => hclosing (hother id heq.1.symm)]
  · rw [hengine]
    split
    · rename_i he
      rw [he.1]
      exact ⟨rfl, fun _ => rfl⟩
    · exact ⟨rfl, fun h => h⟩

private theorem closeTurn {id : EngineId} (h : CloseTurn id s s') : Background s s' := by
  cases h with
  | idle _ => exact refl s
  | close hasked _ => exact closeEngine id hasked
  | wait hdue _ =>
      -- the engine waits, and nothing else changes
      refine ⟨rfl, rfl, .refl _, rfl, fun _ => ⟨_, rfl⟩, fun _ _ => rfl, fun e => ?_⟩
      change ((s.setEngine id _).engine e).federation = _ ∧ (_ → ((s.setEngine id _).engine e).closing = _)
      rw [s.engine_setEngine]
      split
      · rename_i he
        rw [he.1]
        exact ⟨rfl, fun hidle => nomatch hdue.symm.trans hidle⟩
      · exact ⟨rfl, fun h => h⟩
  | overdue hasked _ =>
      have hlog : Background s (s.addLog
          [overdueWarning (s.engine id) (s.dispatcher (s.engine id).dispatcher).stats]) :=
        of_eq rfl rfl (.refl _) rfl rfl
      exact hlog.trans (closeEngine id hasked)

/-- Turns and time that passes belong to the background. -/
theorem enduring (s₀ : System) : Enduring (Background s₀) where
  turn deadline s hs := by
    refine hs.trans ?_
    rcases turn_cases deadline s with ⟨-, heq⟩ | ⟨-, moment, -, heq⟩ | ⟨errand, rest, -, heq⟩
    · rw [heq]
      exact refl s
    · rw [heq]
      exact of_eq rfl rfl (.refl _) rfl rfl
    rw [heq]
    have hpopped : Background s { s with ready := rest } := of_eq rfl rfl (.refl _) rfl rfl
    cases errand with
    | job id index => exact runJob id index _ hpopped
    | drain id => exact hpopped.trans (drainTurn (runDrain_turn id _))
    | close id => exact hpopped.trans (closeTurn (runClose_turn id _))
  pass _ _ hs := hs.trans (of_eq rfl rfl (.refl _) rfl rfl)

end Background

end ContentEngine
