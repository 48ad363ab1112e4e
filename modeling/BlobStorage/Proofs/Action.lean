import BlobStorage.Action
import Mathlib.Order.Basic

/-!
Running actions, and what a run does to the state. An action keeps a relation when each of its runs,
failed or not, relates the state before to the state after. A relation that is reflexive and
transitive is kept by an action as soon as its parts keep it, so what one step of a program does to
the state carries over to the program.
-/
namespace BlobStorage

theorem bind_eq_ok_iff {ε α β : Type} {x : Except ε α} {f : α → Except ε β} {y : β} :
    (x >>= f) = .ok y ↔ ∃ a, x = .ok a ∧ f a = .ok y := by
  cases x with
  | ok a =>
      constructor
      · exact fun h => ⟨a, rfl, h⟩
      · rintro ⟨_, ⟨⟩, h⟩
        exact h
  | error e =>
      constructor
      · exact fun h => nomatch h
      · rintro ⟨_, ⟨⟩, _⟩

theorem bind_eq_error_iff {ε α β : Type} {x : Except ε α} {f : α → Except ε β} {e : ε} :
    (x >>= f) = .error e ↔ x = .error e ∨ ∃ a, x = .ok a ∧ f a = .error e := by
  cases x with
  | ok a =>
      constructor
      · exact fun h => .inr ⟨a, rfl, h⟩
      · rintro (⟨⟨⟩⟩ | ⟨_, ⟨⟩, h⟩)
        exact h
  | error e' =>
      constructor
      · rintro ⟨⟩
        exact .inl rfl
      · rintro (⟨⟨⟩⟩ | ⟨_, ⟨⟩, _⟩)
        rfl

theorem map_eq_ok_iff {ε α β : Type} {x : Except ε α} {f : α → β} {y : β} :
    x.map f = .ok y ↔ ∃ a, x = .ok a ∧ f a = y := by
  cases x <;> simp [Except.map]

theorem mapError_eq_ok_iff {ε δ α : Type} {x : Except ε α} {f : ε → δ} {y : α} :
    x.mapError f = .ok y ↔ x = .ok y := by
  cases x <;> simp [Except.mapError]

namespace Action
variable {σ α β : Type}

theorem ext {a b : Action σ α} (h : ∀ s, a.runFrom s = b.runFrom s) : a = b := funext h

@[simp] theorem runFrom_pure (x : α) (s : σ) :
    runFrom (pure x : Action σ α) s = (.ok x, s) := rfl

@[simp] theorem runFrom_throw (f : Failure) (s : σ) :
    runFrom (throw f : Action σ α) s = (.error f, s) := rfl

@[simp] theorem runFrom_get (s : σ) :
    runFrom (get : Action σ σ) s = (.ok s, s) := rfl

@[simp] theorem runFrom_set (s t : σ) :
    runFrom (set t : Action σ PUnit) s = (.ok ⟨⟩, t) := rfl

@[simp] theorem runFrom_modify (f : σ → σ) (s : σ) :
    runFrom (modify f : Action σ PUnit) s = (.ok ⟨⟩, f s) := rfl

@[simp] theorem runFrom_ofExcept (r : Except Failure α) (s : σ) :
    runFrom (ofExcept r) s = (r, s) := rfl

theorem runFrom_ambient_bind_ok {r : Except Ambient α} {x : α} (h : r = .ok x)
    (f : α → Action σ β) (s : σ) : runFrom (ofAmbient r >>= f) s = runFrom (f x) s := by
  subst h
  rfl

theorem runFrom_ambient_bind_error {r : Except Ambient α} {e : Ambient} (h : r = .error e)
    (f : α → Action σ β) (s : σ) :
    runFrom (ofAmbient r >>= f) s = (.error (.ambient e), s) := by
  subst h
  rfl

theorem runFrom_ambient_ok_iff {r : Except Ambient α} {x : α} {s t : σ} :
    runFrom (ofAmbient r) s = (.ok x, t) ↔ r = .ok x ∧ t = s := by
  cases r <;> simp [ofAmbient, Except.mapError, eq_comm]

@[simp] theorem runFrom_outcome (a : Action σ α) (s : σ) :
    runFrom a.outcome s = (.ok (runFrom a s).1, (runFrom a s).2) := rfl

theorem runFrom_bind (a : Action σ α) (f : α → Action σ β) (s : σ) :
    runFrom (a >>= f) s =
      match runFrom a s with
      | (.ok x, t) => runFrom (f x) t
      | (.error e, t) => (.error e, t) := by
  change (StateT.bind a (ExceptT.bindCont f) s : Except Failure β × σ) = _
  simp only [StateT.bind, runFrom, ExceptT.run]
  rcases a s with ⟨x | x, t⟩ <;> rfl

theorem runFrom_bind_ok {a : Action σ α} {s t : σ} {x : α} (h : runFrom a s = (.ok x, t))
    (f : α → Action σ β) : runFrom (a >>= f) s = runFrom (f x) t := by
  rw [runFrom_bind, h]

theorem runFrom_bind_error {a : Action σ α} {s t : σ} {e : Failure}
    (h : runFrom a s = (.error e, t)) (f : α → Action σ β) :
    runFrom (a >>= f) s = (.error e, t) := by
  rw [runFrom_bind, h]

theorem runFrom_onFailure_ok {a : Action σ α} {cleanup : Action σ Unit} {s t : σ} {x : α}
    (h : runFrom a s = (.ok x, t)) : runFrom (a.onFailure cleanup) s = (.ok x, t) := by
  refine (runFrom_bind_ok (x := .ok x) (t := t) ?_ _).trans rfl
  rw [runFrom_outcome, h]

theorem runFrom_onFailure_error {a : Action σ α} {cleanup : Action σ Unit} {s t u : σ} {e : Failure}
    (h : runFrom a s = (.error e, t)) (cleaned : runFrom cleanup t = (.ok (), u)) :
    runFrom (a.onFailure cleanup) s = (.error e, u) := by
  refine (runFrom_bind_ok (x := .error e) (t := t) ?_ _).trans ?_
  · rw [runFrom_outcome, h]
  · exact (runFrom_bind_ok cleaned _).trans rfl

@[simp] theorem runFrom_map (f : α → β) (a : Action σ α) (s : σ) :
    runFrom (f <$> a) s = ((runFrom a s).1.map f, (runFrom a s).2) := by
  rw [← bind_pure_comp, runFrom_bind]
  rcases runFrom a s with ⟨e | x, t⟩ <;> rfl

theorem ok_of_bind_ok {a : Action σ α} {f : α → Action σ β} {s u : σ} {y : β}
    (h : runFrom (a >>= f) s = (.ok y, u)) :
    ∃ x t, runFrom a s = (.ok x, t) ∧ runFrom (f x) t = (.ok y, u) := by
  rw [runFrom_bind] at h
  rcases ha : runFrom a s with ⟨e | x, t⟩
  · simp [ha] at h
  · exact ⟨x, t, rfl, by simpa [ha] using h⟩

theorem ok_of_ambient_bind {r : Except Ambient α} {f : α → Action σ β} {s t : σ} {y : β}
    (ran : runFrom (ofAmbient r >>= f) s = (.ok y, t)) :
    ∃ x, r = .ok x ∧ runFrom (f x) s = (.ok y, t) := by
  cases r with
  | error e => cases ran
  | ok x => exact ⟨x, rfl, ran⟩

theorem ok_of_map_ok {a : Action σ α} {f : α → β} {s t : σ} {y : β}
    (h : runFrom (f <$> a) s = (.ok y, t)) : ∃ x, runFrom a s = (.ok x, t) ∧ y = f x := by
  rw [runFrom_map] at h
  rcases ha : runFrom a s with ⟨e | x, u⟩
  · simp [ha, Except.map] at h
  · simp only [ha, Except.map, Prod.mk.injEq, Except.ok.injEq] at h
    exact ⟨x, by rw [h.2], h.1.symm⟩

theorem runFrom_map_ok_iff {a : Action σ α} {f : α → β} {s t : σ} {y : β} :
    runFrom (f <$> a) s = (.ok y, t) ↔ ∃ x, y = f x ∧ runFrom a s = (.ok x, t) := by
  constructor
  · intro ran
    obtain ⟨x, own, is⟩ := ok_of_map_ok ran
    exact ⟨x, is, own⟩
  · rintro ⟨x, rfl, own⟩
    rw [runFrom_map, own]
    rfl

theorem error_of_map_error {a : Action σ α} {f : α → β} {s t : σ} {e : Failure}
    (h : runFrom (f <$> a) s = (.error e, t)) : runFrom a s = (.error e, t) := by
  rw [runFrom_map] at h
  rcases ha : runFrom a s with ⟨e' | x, u⟩
  · simpa [ha, Except.map] using h
  · simp [ha, Except.map] at h

/-- Every run of the action, failed or not, relates the state before it to the state after. -/
def Keeps (R : σ → σ → Prop) (a : Action σ α) : Prop := ∀ s, R s (runFrom a s).2

namespace Keeps
variable {R : σ → σ → Prop}

theorem mono {S : σ → σ → Prop} {a : Action σ α} (h : a.Keeps R) (sub : ∀ s t, R s t → S s t) :
    a.Keeps S := fun s => sub s _ (h s)

theorem outcome {a : Action σ α} (h : a.Keeps R) : a.outcome.Keeps R := h

theorem map {a : Action σ α} (h : a.Keeps R) (f : α → β) : Keeps R (f <$> a) := by
  intro s
  rw [runFrom_map]
  exact h s

theorem modify {f : σ → σ} (h : ∀ s, R s (f s)) : Keeps R (modify f : Action σ PUnit) := h

section Refl
variable [Std.Refl R]

theorem pure (x : α) : Keeps R (pure x : Action σ α) := fun s => Std.Refl.refl s

theorem throw (f : Failure) : Keeps R (throw f : Action σ α) := fun s => Std.Refl.refl s

theorem get : Keeps R (get : Action σ σ) := fun s => Std.Refl.refl s

theorem ofExcept (r : Except Failure α) : Keeps R (ofExcept r : Action σ α) :=
  fun s => Std.Refl.refl s

theorem ofAmbient (r : Except Ambient α) : Keeps R (ofAmbient r : Action σ α) := ofExcept _

end Refl

section Trans
variable [IsTrans σ R]

theorem bind {a : Action σ α} {f : α → Action σ β} (ha : a.Keeps R) (hf : ∀ x, (f x).Keeps R) :
    Keeps R (a >>= f) := by
  intro s
  have first := ha s
  rw [runFrom_bind]
  rcases h : runFrom a s with ⟨e | x, t⟩
  · simpa [h] using first
  · rw [h] at first
    exact IsTrans.trans _ _ _ first (hf x t)

theorem onFailure [Std.Refl R] {a : Action σ α} {cleanup : Action σ Unit} (ha : a.Keeps R)
    (hc : cleanup.Keeps R) : (a.onFailure cleanup).Keeps R := by
  refine bind ha.outcome fun r => ?_
  cases r with
  | ok x => exact pure x
  | error f => exact bind hc fun _ => throw f

theorem forM [Std.Refl R] {xs : List α} {f : α → Action σ PUnit} (h : ∀ x ∈ xs, (f x).Keeps R) :
    Keeps R (xs.forM f) := by
  induction xs with
  | nil => exact pure _
  | cons x xs ih =>
      exact bind (h x (List.mem_cons_self ..)) fun _ =>
        ih fun y hy => h y (List.mem_cons_of_mem _ hy)

theorem mapM [Std.Refl R] {xs : List α} {f : α → Action σ β} (h : ∀ x ∈ xs, (f x).Keeps R) :
    Keeps R (xs.mapM f) := by
  induction xs with
  | nil => exact pure _
  | cons x xs ih =>
      rw [List.mapM_cons]
      exact bind (h x (List.mem_cons_self ..)) fun _ =>
        bind (ih fun y hy => h y (List.mem_cons_of_mem _ hy)) fun _ => pure _

end Trans
end Keeps

/-- Every run of the action keeps the relation, and what it gives is of a kind. -/
def Gives (R : σ → σ → Prop) (kind : α → Prop) (a : Action σ α) : Prop :=
  ∀ s, R s (runFrom a s).2 ∧ ∀ x, (runFrom a s).1 = .ok x → kind x

namespace Gives
variable {R : σ → σ → Prop} {kind : α → Prop} {kind' : β → Prop}

theorem keeps {a : Action σ α} (h : a.Gives R kind) : a.Keeps R := fun s => (h s).1

theorem of_keeps {a : Action σ α} (h : a.Keeps R) (all : ∀ x, kind x) : a.Gives R kind :=
  fun s => ⟨h s, fun x _ => all x⟩

theorem pure [Std.Refl R] {x : α} (h : kind x) : Gives R kind (pure x : Action σ α) := by
  refine fun s => ⟨Std.Refl.refl s, ?_⟩
  rintro _ ⟨⟩
  exact h

theorem outcome {a : Action σ α} (h : a.Gives R kind) :
    a.outcome.Gives R fun r => ∀ x, r = .ok x → kind x := by
  refine fun s => ⟨(h s).1, ?_⟩
  rintro _ ⟨⟩
  exact (h s).2

/-- What comes next may rely on the kind of what was given. -/
theorem bind [IsTrans σ R] {a : Action σ α} {f : α → Action σ β} (ha : a.Gives R kind)
    (hf : ∀ x, kind x → (f x).Gives R kind') : Gives R kind' (a >>= f) := by
  intro s
  obtain ⟨first, told⟩ := ha s
  rw [runFrom_bind]
  rcases h : runFrom a s with ⟨e | x, t⟩
  · rw [h] at first
    exact ⟨first, fun y is => nomatch is⟩
  · rw [h] at first told
    obtain ⟨second, given⟩ := hf x (told x rfl) t
    exact ⟨IsTrans.trans _ _ _ first second, given⟩

theorem keeps_bind [IsTrans σ R] {a : Action σ α} {f : α → Action σ β} (ha : a.Gives R kind)
    (hf : ∀ x, kind x → (f x).Keeps R) : Keeps R (a >>= f) := by
  refine Gives.keeps (?_ : Gives R (fun _ => True) _)
  exact ha.bind fun x hx => of_keeps (hf x hx) fun _ => trivial

end Gives
end Action

namespace CallStyle
variable {σ α β : Type} (style : CallStyle)

theorem hand_within (f : Failure) (source : ItemSource) :
    (style.hand f).within source = style.hand (f.within source) := by
  cases style with
  | blocking => rfl
  | awaited =>
      cases f with
      | ambient a =>
          cases a with
          | described d =>
              by_cases late : d.label = "TimeoutError"
              · simp [hand, Failure.handed, Failure.within, Described.endsItems, late]
              · cases ends : d.endsItems <;> simp [hand, Failure.handed, Failure.within, late, ends]
          | _ => rfl
      | _ => rfl

/-- The style shows only in the failures. -/
theorem runFrom_reach (a : Action σ α) (s : σ) :
    (style.reach a).runFrom s = ((a.runFrom s).1.mapError style.hand, (a.runFrom s).2) := by
  cases style with
  | blocking =>
      change a.runFrom s = _
      rcases a.runFrom s with ⟨e | x, t⟩ <;> rfl
  | awaited => rfl

theorem reach_bind (a : Action σ α) (f : α → Action σ β) :
    style.reach (a >>= f) = style.reach a >>= fun x => style.reach (f x) := by
  refine Action.ext fun s => ?_
  rw [runFrom_reach, Action.runFrom_bind, Action.runFrom_bind, runFrom_reach]
  rcases a.runFrom s with ⟨e | x, t⟩
  · rfl
  · exact (style.runFrom_reach (f x) t).symm

variable {a : Action σ α} {s t : σ}

theorem runFrom_reach_ok_iff {x : α} :
    (style.reach a).runFrom s = (.ok x, t) ↔ a.runFrom s = (.ok x, t) := by
  rw [runFrom_reach]
  rcases a.runFrom s with ⟨e | y, u⟩ <;> simp [Except.mapError]

theorem runFrom_reach_error {f : Failure} (ran : a.runFrom s = (.error f, t)) :
    (style.reach a).runFrom s = (.error (style.hand f), t) := by
  rw [runFrom_reach, ran]
  rfl

theorem error_of_reach {e : Failure} (ran : (style.reach a).runFrom s = (.error e, t)) :
    ∃ f, a.runFrom s = (.error f, t) ∧ e = style.hand f := by
  rw [runFrom_reach] at ran
  rcases own : a.runFrom s with ⟨f | x, u⟩
  · rw [own] at ran
    cases ran
    exact ⟨f, rfl, rfl⟩
  · rw [own] at ran
    cases ran

theorem keeps_reach {R : σ → σ → Prop} (h : a.Keeps R) : (style.reach a).Keeps R := by
  intro s
  rw [runFrom_reach]
  exact h s

end CallStyle
end BlobStorage
