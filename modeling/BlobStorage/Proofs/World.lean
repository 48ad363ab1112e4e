import BlobStorage.Proofs.Action
import BlobStorage.World

/-!
What an action does to the remote side. A quiet action leaves it alone. An atomic action changes it
only if it succeeds, and then in a known way: whatever is checked, read or looked up first is quiet, and
the change is the last thing that can fail.
-/
namespace BlobStorage
variable {ρ ε α β : Type}

/-- The remote side is the same in both worlds. -/
def SameRemote (w w' : World ρ) : Prop := w'.remote = w.remote

instance : Std.Refl (SameRemote (ρ := ρ)) := ⟨fun _ => rfl⟩

instance : IsTrans (World ρ) SameRemote := ⟨fun _ _ _ h k => k.trans h⟩

/-- The action leaves the remote side alone. -/
def Quiet (a : Op ρ α) : Prop := a.Keeps SameRemote

theorem World.runFrom_unguarded (p : Primitive) (key : Option String) (f : Unit → Op ρ α)
    (w : World ρ) : (World.unguarded p key >>= f).runFrom w = (f ()).runFrom w :=
  Action.runFrom_bind_ok rfl f

theorem quiet_unguarded (p : Primitive) (key : Option String) :
    Quiet (World.unguarded p key : Op ρ Unit) :=
  Action.Keeps.pure ()

theorem quiet_guard (store : Nat) (p : Primitive) (key : Option String) :
    Quiet (World.guard store p key : Op ρ Unit) := by
  intro w
  unfold World.guard
  rw [Action.runFrom_bind_ok (Action.runFrom_get w)]
  rcases Interception.encounter store p key w.interceptions with ⟨strikes, seen⟩
  dsimp only
  rw [Action.runFrom_bind_ok (Action.runFrom_set w _)]
  cases strikes <;> rfl

section Plans

/-- No failure is planned for a primitive of a store. -/
def World.Spares (w : World ρ) (store : Nat) (p : Primitive) : Prop :=
  ∀ i ∈ w.interceptions, i.concerns store p = false

/-- The same failures are planned in both worlds, though they may have seen more calls. -/
def SamePlans (w w' : World ρ) : Prop :=
  w'.interceptions.map (fun i => (i.store, i.primitive)) =
    w.interceptions.map fun i => (i.store, i.primitive)

instance : Std.Refl (SamePlans (ρ := ρ)) := ⟨fun _ => rfl⟩

instance : IsTrans (World ρ) SamePlans := ⟨fun _ _ _ h k => k.trans h⟩

variable {store : Nat} {p : Primitive} {key : Option String}

theorem encounter_of_spared {is : List Interception}
    (spared : ∀ i ∈ is, i.concerns store p = false) :
    Interception.encounter store p key is = (none, is) := by
  induction is with
  | nil => rfl
  | cons i rest ih =>
      obtain ⟨first, others⟩ := List.forall_mem_cons.mp spared
      simp [Interception.encounter, first, ih others]

theorem runFrom_guard_of_spared {w : World ρ} (spared : w.Spares store p) :
    (World.guard store p key).runFrom w = (.ok (), w) := by
  unfold World.guard
  rw [Action.runFrom_bind_ok (Action.runFrom_get w), encounter_of_spared spared]
  rfl

theorem plans_encounter (store : Nat) (p : Primitive) (key : Option String)
    (is : List Interception) :
    (Interception.encounter store p key is).2.map (fun i => (i.store, i.primitive)) =
      is.map fun i => (i.store, i.primitive) := by
  induction is with
  | nil => rfl
  | cons i rest ih =>
      unfold Interception.encounter
      split
      · dsimp only
        split
        · rfl
        · exact congrArg (_ :: ·) ih
      · exact congrArg (_ :: ·) ih

theorem samePlans_guard (store : Nat) (p : Primitive) (key : Option String) :
    (World.guard store p key : Op ρ Unit).Keeps SamePlans := by
  intro w
  have same := plans_encounter store p key w.interceptions
  unfold World.guard
  rw [Action.runFrom_bind_ok (Action.runFrom_get w)]
  rcases shown : Interception.encounter store p key w.interceptions with ⟨strikes, seen⟩
  rw [shown] at same
  dsimp only
  rw [Action.runFrom_bind_ok (Action.runFrom_set w _)]
  cases strikes <;> exact same

theorem samePlans_attempt (fail : ε → Failure) (change : ρ → Except ε (α × ρ)) :
    (World.attempt fail change).Keeps SamePlans := by
  intro w
  unfold World.attempt Action.runFrom
  simp only [ExceptT.run]
  rcases change w.remote with e | ⟨x, t⟩ <;> rfl

theorem SamePlans.spares {w w' : World ρ} (same : SamePlans w w') (spared : w.Spares store p) :
    w'.Spares store p := by
  intro i hi
  have seen : (i.store, i.primitive) ∈ w'.interceptions.map fun i => (i.store, i.primitive) :=
    List.mem_map_of_mem hi
  rw [same] at seen
  obtain ⟨j, hj, is⟩ := List.mem_map.mp seen
  obtain ⟨sameStore, samePrimitive⟩ := Prod.mk.inj is
  have free := spared j hj
  unfold Interception.concerns at free ⊢
  rw [← sameStore, ← samePrimitive]
  exact free

end Plans

theorem quiet_observe (fail : ε → Failure) (look : ρ → Except ε α) :
    Quiet (World.observe fail look) := by
  intro w
  unfold World.observe Action.runFrom
  simp only [ExceptT.run]
  cases look w.remote <;> rfl

/-- The action does what is said if it succeeds, and nothing to the remote side if it fails. -/
def Atomic (P : ρ → α → ρ → Prop) (a : Op ρ α) : Prop :=
  ∀ w, match a.runFrom w with
    | (.ok x, w') => P w.remote x w'.remote
    | (.error _, w') => w'.remote = w.remote

namespace Atomic
variable {P : ρ → α → ρ → Prop} {Q : ρ → β → ρ → Prop}

theorem of_ok {a : Op ρ α} (h : Atomic P a) {w w' : World ρ} {x : α}
    (run : a.runFrom w = (.ok x, w')) : P w.remote x w'.remote := by
  have := h w
  rwa [run] at this

theorem of_error {a : Op ρ α} (h : Atomic P a) {w w' : World ρ} {e : Failure}
    (run : a.runFrom w = (.error e, w')) : w'.remote = w.remote := by
  have := h w
  rwa [run] at this

theorem mono {P' : ρ → α → ρ → Prop} {a : Op ρ α} (h : Atomic P a)
    (sub : ∀ s x t, P s x t → P' s x t) : Atomic P' a := by
  intro w
  rcases run : a.runFrom w with ⟨e | x, w'⟩
  · exact h.of_error run
  · exact sub _ _ _ (h.of_ok run)

theorem throw (f : Failure) : Atomic P (throw f : Op ρ α) := fun _ => rfl

theorem attempt (fail : ε → Failure) (change : ρ → Except ε (α × ρ)) :
    Atomic (fun s x t => change s = .ok (x, t)) (World.attempt fail change) := by
  intro w
  unfold World.attempt Action.runFrom
  simp only [ExceptT.run]
  rcases change w.remote with e | ⟨x, t⟩ <;> rfl

theorem observe (fail : ε → Failure) (look : ρ → Except ε α) :
    Atomic (fun s x t => t = s ∧ look s = .ok x) (World.observe fail look) := by
  intro w
  unfold World.observe Action.runFrom
  simp only [ExceptT.run]
  cases look w.remote with
  | error e => rfl
  | ok x => exact ⟨rfl, rfl⟩

/-- What comes before the change may fail, but is quiet. -/
theorem after {a : Op ρ β} {f : β → Op ρ α} (ha : Quiet a) (hf : ∀ x, Atomic P (f x)) :
    Atomic P (a >>= f) := by
  intro w
  have quiet : (a.runFrom w).2.remote = w.remote := ha w
  rw [Action.runFrom_bind]
  rcases run : a.runFrom w with ⟨e | x, w'⟩
  · simpa [run] using quiet
  · rw [run] at quiet
    dsimp only at quiet ⊢
    rw [← quiet]
    exact hf x w'

/-- What comes after a look at the remote side may rely on what was seen. -/
theorem looked {a : Op ρ β} {f : β → Op ρ α} {Q : ρ → β → Prop}
    (ha : Atomic (fun s y t => t = s ∧ Q s y) a)
    (hf : ∀ y, Atomic (fun s x t => Q s y → P s x t) (f y)) : Atomic P (a >>= f) := by
  intro w
  rw [Action.runFrom_bind]
  rcases run : a.runFrom w with ⟨e | y, w₁⟩
  · exact ha.of_error run
  · obtain ⟨same, seen⟩ := ha.of_ok run
    dsimp only
    rcases later : (f y).runFrom w₁ with ⟨e | x, w₂⟩
    · exact ((hf y).of_error later).trans same
    · have done := (hf y).of_ok later
      rw [same] at done
      exact done seen

theorem ofExcept {r : Except Failure α} (h : ∀ x, r = .ok x → ∀ s, P s x s) :
    Atomic P (Action.ofExcept r) := by
  intro w
  cases is : r with
  | error e => rfl
  | ok x => exact h x is w.remote

/-- What comes after a look at the surroundings may rely on what was found. -/
theorem ambient {r : Except Ambient β} {f : β → Op ρ α} (hf : ∀ x, r = .ok x → Atomic P (f x)) :
    Atomic P (Action.ofAmbient r >>= f) := by
  intro w
  cases h : r with
  | error e => rfl
  | ok x => exact hf x h w

/-- What comes after the change always succeeds, and is quiet. -/
theorem before {a : Op ρ α} (h : Atomic P a) {f : α → Op ρ β} {g : α → β}
    (hf : ∀ x w, ∃ w', (f x).runFrom w = (.ok (g x), w') ∧ w'.remote = w.remote)
    (sub : ∀ s x t, P s x t → Q s (g x) t) : Atomic Q (a >>= f) := by
  intro w
  rw [Action.runFrom_bind]
  rcases run : a.runFrom w with ⟨e | x, w₁⟩
  · exact h.of_error run
  · obtain ⟨w', later, same⟩ := hf x w₁
    dsimp only
    rw [later]
    dsimp only
    rw [same]
    exact sub _ _ _ (h.of_ok run)

/-- After the change nothing is left but to give an answer. -/
theorem answer {a : Op ρ α} (h : Atomic P a) {g : α → β} (sub : ∀ s x t, P s x t → Q s (g x) t) :
    Atomic Q (a >>= fun x => pure (g x)) :=
  h.before (fun _ w => ⟨w, rfl, rfl⟩) sub

theorem map {a : Op ρ α} (h : Atomic P a) {g : α → β} (sub : ∀ s x t, P s x t → Q s (g x) t) :
    Atomic Q (g <$> a) := by
  rw [← bind_pure_comp]
  exact h.answer sub

theorem onFailure {a : Op ρ α} (h : Atomic P a) {cleanup : Op ρ Unit} (hc : Quiet cleanup) :
    Atomic P (a.onFailure cleanup) := by
  intro w
  unfold Action.onFailure
  rw [Action.runFrom_bind, Action.runFrom_outcome]
  rcases run : a.runFrom w with ⟨e | x, w₁⟩
  · have quiet : Quiet (cleanup >>= fun _ => MonadExcept.throw e : Op ρ α) :=
      Action.Keeps.bind hc fun _ => Action.Keeps.throw _
    have same := (quiet w₁).trans (h.of_error run)
    dsimp only
    rw [Action.runFrom_bind] at same ⊢
    rcases cleaned : cleanup.runFrom w₁ with ⟨f | u, w₂⟩
    · rw [cleaned] at same
      exact same
    · rw [cleaned] at same
      exact same
  · exact h.of_ok run

theorem keeps {a : Op ρ α} (h : Atomic P a) {R : ρ → ρ → Prop} (same : ∀ s, R s s)
    (sub : ∀ s x t, P s x t → R s t) : a.Keeps fun w w' => R w.remote w'.remote := by
  intro w
  rcases run : a.runFrom w with ⟨e | x, w'⟩
  · rw [h.of_error run]
    exact same _
  · exact sub _ _ _ (h.of_ok run)

end Atomic
end BlobStorage
