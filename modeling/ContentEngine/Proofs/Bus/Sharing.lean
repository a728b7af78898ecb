import ContentEngine.Proofs.Bus.Acts

/-!
# Buses that are shared

To be registered an observer is given a number first, and waits then until it may be placed on the bus.
Meanwhile others claim numbers, place their observers and remove them.  As no number is given out twice,
whoever knows its own numbers finds its own observers under them, and leaves those of others alone
(`Numbered`).
-/

namespace ContentEngine

namespace Bus

/-- The bus that has given out a number. -/
def claim (b : Bus) : Bus :=
  { b with nextId := b.nextId + 1 }

/-- The bus with one more observer, which has its number already. -/
def place (b : Bus) (number : ObserverId) (o : Observer) : Bus :=
  { b with observers := b.observers ++ [(number, o)] }

/-- To register is to claim a number and to be placed under it. -/
theorem register_eq (b : Bus) (o : Observer) :
    b.register o = (b.nextId, b.claim.place b.nextId o) :=
  rfl

end Bus

/-- Whether an observer is the one of a service. -/
def Observer.isOf (id : ServiceId) : Observer → Bool
  | .processing other => other == id
  | .scripted _ _ => false
  | .configuration _ _ _ => false

/-! ## Numbers on the bus -/

/-- What others have done to a bus: their observers there, and the numbers that they claimed for observers
to come. -/
structure Others where
  observers : List (ObserverId × Observer)
  claimed : List ObserverId

/-- Others use the bus of a service.  They claim numbers and place observers under them, they unregister
observers, but not the one of the service, and they do what concerns no observers. -/
inductive Others.Use (id : ServiceId) : Others → Bus → Others → Bus → Prop
  | claim (t b) : Use id t b { t with claimed := t.claimed ++ [b.nextId] } b.claim
  | place {t : Others} {number : ObserverId} {o : Observer} (b : Bus) : number ∈ t.claimed →
      o.isOf id = false →
      Use id t b ⟨t.observers ++ [(number, o)], t.claimed.erase number⟩ (b.place number o)
  | unregister (t : Others) {b : Bus} {number : ObserverId} :
      (number, .processing id) ∉ b.observers →
      Use id t b { t with observers := t.observers.filter (·.1 != number) } (b.unregister number).2
  | aside (t : Others) {b b' : Bus} : b'.observers = b.observers → b'.nextId = b.nextId →
      Use id t b t b'

/-- Some numbers are given out, each of them once, and none from the next one on. -/
structure Given (next : ObserverId) (numbers : List ObserverId) : Prop where
  once : numbers.Nodup
  below : ∀ number ∈ numbers, number < next

namespace Given

variable {next : ObserverId} {numbers others : List ObserverId}

theorem of_perm (h : Given next numbers) (hperm : others.Perm numbers) : Given next others where
  once := hperm.nodup_iff.mpr h.once
  below number hnumber := h.below number (hperm.subset hnumber)

theorem of_sublist (h : Given next numbers) (hsub : others.Sublist numbers) : Given next others where
  once := h.once.sublist hsub
  below number hnumber := h.below number (hsub.subset hnumber)

theorem claim (h : Given next numbers) : Given (next + 1) (next :: numbers) where
  once := by
    refine List.nodup_cons.mpr ⟨fun hmem => ?_, h.once⟩
    exact Nat.lt_irrefl _ (h.below _ hmem)
  below number hnumber := by
    rcases List.mem_cons.mp hnumber with rfl | hnumber
    · exact Nat.lt_succ_self _
    · exact Nat.lt_succ_of_lt (h.below number hnumber)

end Given

/-- On the bus are the observers of others, and a service under its own numbers.  Neither these nor the
numbers that were claimed are given out twice. -/
structure Numbered (id : ServiceId) (t : Others) (own reserved : List ObserverId) (b : Bus) : Prop where
  theirs : b.observers.filter (fun entry => !entry.2.isOf id) = t.observers
  mine : b.observers.filter (·.2.isOf id) = own.map (·, .processing id)
  given : Given b.nextId (own ++ reserved ++ t.observers.map Prod.fst ++ t.claimed)

namespace Numbered

variable {id : ServiceId} {t t' : Others} {own reserved : List ObserverId} {b b' : Bus}
  {number : ObserverId}

theorem mem_own (h : Numbered id t own reserved b) :
    (number, .processing id) ∈ b.observers ↔ number ∈ own := by
  have hfilter : (number, .processing id) ∈ b.observers.filter (·.2.isOf id) ↔
      (number, .processing id) ∈ b.observers := by
    simp [Observer.isOf]
  rw [← hfilter, h.mine]
  simp

/-- A number is given to the service. -/
theorem claim (h : Numbered id t own [] b) : Numbered id t own [b.nextId] b.claim where
  theirs := h.theirs
  mine := h.mine
  given := by
    refine h.given.claim.of_perm ?_
    simp only [List.append_assoc, List.nil_append, List.singleton_append]
    exact List.perm_middle

/-- Its observer is placed under it. -/
theorem place (h : Numbered id t [] [number] b) :
    Numbered id t [number] [] (b.place number (.processing id)) where
  theirs := by
    rw [Bus.place, List.filter_append, h.theirs]
    simp [Observer.isOf]
  mine := by
    rw [Bus.place, List.filter_append, h.mine]
    simp [Observer.isOf]
  given := ⟨h.given.once, h.given.below⟩

/-- The service leaves the bus. -/
theorem unregister (h : Numbered id t [number] [] b) :
    Numbered id t [] [] (b.unregister number).2 where
  theirs := by
    have hother : ∀ entry ∈ t.observers, (entry.1 != number) = true := by
      intro entry hentry
      refine bne_iff_ne.mpr ?_
      rintro rfl
      exact (List.nodup_cons.mp h.given.once).1
        (List.mem_append_left _ (List.mem_map_of_mem hentry))
    calc (b.unregister number).2.observers.filter (fun entry => !entry.2.isOf id)
        = (b.observers.filter (fun entry => !entry.2.isOf id)).filter (·.1 != number) :=
          List.filter_comm ..
      _ = t.observers := by rw [h.theirs, List.filter_eq_self.mpr hother]
  mine := by
    calc (b.unregister number).2.observers.filter (·.2.isOf id)
        = (b.observers.filter (·.2.isOf id)).filter (·.1 != number) := List.filter_comm ..
      _ = [] := by rw [h.mine]; simp
  given := h.given.of_sublist (List.sublist_cons_self _ _)

/-- The service does without its number. -/
theorem forsake (h : Numbered id t own [number] b) : Numbered id t own [] b where
  theirs := h.theirs
  mine := h.mine
  given := by
    refine h.given.of_sublist ?_
    simp only [List.append_assoc, List.nil_append, List.singleton_append]
    exact (List.sublist_cons_self _ _).append_left _

/-- Others do not disturb the service on the bus. -/
theorem use (h : Numbered id t own reserved b) (huse : t.Use id b t' b') :
    Numbered id t' own reserved b' := by
  cases huse with
  | claim =>
      refine ⟨h.theirs, h.mine, h.given.claim.of_perm ?_⟩
      rw [← List.append_assoc]
      exact List.perm_append_singleton _ _
  | @place number o _ hclaimed hother =>
      refine ⟨?_, ?_, ?_⟩
      · rw [Bus.place, List.filter_append, h.theirs]
        simp [hother]
      · rw [Bus.place, List.filter_append, h.mine]
        simp [hother]
      · have hperm : ([number] ++ t.claimed.erase number).Perm t.claimed :=
          (List.perm_cons_erase hclaimed).symm
        have hgiven := h.given.of_perm (hperm.append_left _)
        change Given b.nextId _
        simpa only [List.map_append, List.map_singleton, List.append_assoc] using hgiven
  | @unregister _ number hspared =>
      have hown : ∀ entry ∈ own.map fun n => (n, Observer.processing id),
          (entry.1 != number) = true := by
        intro entry hentry
        obtain ⟨n, hn, rfl⟩ := List.mem_map.mp hentry
        refine bne_iff_ne.mpr ?_
        rintro rfl
        exact hspared (h.mem_own.mpr hn)
      refine ⟨?_, ?_, h.given.of_sublist ?_⟩
      · rw [← h.theirs]
        exact List.filter_comm ..
      · rw [← List.filter_eq_self.mpr hown, ← h.mine]
        exact List.filter_comm ..
      · exact ((List.filter_sublist.map _).append_left _).append_right _
  | aside hobservers hnext =>
      refine ⟨hobservers ▸ h.theirs, hobservers ▸ h.mine, h.given.once, ?_⟩
      rw [hnext]
      exact h.given.below

end Numbered

end ContentEngine
