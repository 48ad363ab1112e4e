import BlobStorage.Proofs.Client

/-!
What an action can tell of the remote side. A blind action comes to the same with another remote side in
the place of the one there is; what fails alike fails with the same failure.
-/
namespace BlobStorage
variable {ρ α β : Type}

/-- Where the remote side is `s` the action leaves it alone, and with `t` in its place it comes to the
same. -/
def Blind (s t : ρ) (a : Op ρ α) : Prop :=
  ∀ w, w.remote = s → (a.runFrom w).2.remote = s ∧
    a.runFrom { w with remote := t } = ((a.runFrom w).1, { (a.runFrom w).2 with remote := t })

/-- Where the remote side is `s` the action fails and leaves it alone, and with `t` in its place it
fails alike. -/
def FailsAlike (s t : ρ) (a : Op ρ α) : Prop :=
  ∀ w, w.remote = s → ∃ e w', a.runFrom w = (.error e, w') ∧ w'.remote = s ∧
    a.runFrom { w with remote := t } = (.error e, { w' with remote := t })

section Blind
variable {s t : ρ}

theorem Blind.pure (x : α) : Blind s t (pure x : Op ρ α) := fun _ here => ⟨here, rfl⟩

theorem Blind.throw (f : Failure) : Blind s t (throw f : Op ρ α) := fun _ here => ⟨here, rfl⟩

theorem Blind.ofExcept (r : Except Failure α) : Blind s t (Action.ofExcept r : Op ρ α) :=
  fun _ here => ⟨here, rfl⟩

theorem Blind.outcome {a : Op ρ α} (h : Blind s t a) : Blind s t a.outcome := by
  intro w here
  obtain ⟨still, alike⟩ := h w here
  refine ⟨still, ?_⟩
  rw [Action.runFrom_outcome, alike]
  rfl

theorem Blind.bind {a : Op ρ α} {f : α → Op ρ β} (ha : Blind s t a) (hf : ∀ x, Blind s t (f x)) :
    Blind s t (a >>= f) := by
  intro w here
  obtain ⟨still, alike⟩ := ha w here
  rw [Action.runFrom_bind, Action.runFrom_bind, alike]
  rcases run : a.runFrom w with ⟨e | x, w'⟩
  · rw [run] at still
    exact ⟨still, rfl⟩
  · rw [run] at still
    exact hf x w' still

theorem blind_guard (store : Nat) (p : Primitive) (key : Option String) :
    Blind s t (World.guard store p key : Op ρ Unit) := by
  intro w here
  unfold World.guard
  rw [Action.runFrom_bind_ok (Action.runFrom_get _), Action.runFrom_bind_ok (Action.runFrom_get _)]
  dsimp only
  rcases Interception.encounter store p key w.interceptions with ⟨strikes, seen⟩
  dsimp only
  rw [Action.runFrom_bind_ok (Action.runFrom_set _ _), Action.runFrom_bind_ok (Action.runFrom_set _ _)]
  cases strikes <;> exact ⟨here, rfl⟩

theorem FailsAlike.after {a : Op ρ α} {f : α → Op ρ β} (ha : Blind s t a)
    (hf : ∀ x, FailsAlike s t (f x)) : FailsAlike s t (a >>= f) := by
  intro w here
  obtain ⟨still, alike⟩ := ha w here
  rw [Action.runFrom_bind, Action.runFrom_bind, alike]
  rcases run : a.runFrom w with ⟨e | x, w'⟩
  · rw [run] at still
    exact ⟨e, w', rfl, still, rfl⟩
  · rw [run] at still
    exact hf x w' still

theorem FailsAlike.bind {a : Op ρ α} (ha : FailsAlike s t a) (f : α → Op ρ β) :
    FailsAlike s t (a >>= f) := by
  intro w here
  obtain ⟨e, w', failed, still, alike⟩ := ha w here
  exact ⟨e, w', Action.runFrom_bind_error failed f, still, Action.runFrom_bind_error alike f⟩

theorem FailsAlike.map {a : Op ρ α} (ha : FailsAlike s t a) (f : α → β) :
    FailsAlike s t (f <$> a) := by
  rw [← bind_pure_comp]
  exact ha.bind _

theorem FailsAlike.attempt {ε : Type} {fail : ε → Failure} {change : ρ → Except ε (α × ρ)} {e : ε}
    (first : change s = .error e) (second : change t = .error e) :
    FailsAlike s t (World.attempt fail change) := by
  rintro w rfl
  refine ⟨fail e, w, ?_, rfl, ?_⟩
  · simp only [Action.runFrom, ExceptT.run, World.attempt, first]
  · simp only [Action.runFrom, ExceptT.run, World.attempt, second]

theorem FailsAlike.observe {ε : Type} {fail : ε → Failure} {look : ρ → Except ε α} {e : ε}
    (first : look s = .error e) (second : look t = .error e) :
    FailsAlike s t (World.observe fail look) := by
  rintro w rfl
  refine ⟨fail e, w, ?_, rfl, ?_⟩
  · simp only [Action.runFrom, ExceptT.run, World.observe, first]
  · simp only [Action.runFrom, ExceptT.run, World.observe, second]

theorem FailsAlike.reach {a : Op ρ α} (ha : FailsAlike s t a) (style : CallStyle) :
    FailsAlike s t (style.reach a) := by
  intro w here
  obtain ⟨e, w', failed, still, alike⟩ := ha w here
  exact ⟨style.hand e, w', style.runFrom_reach_error failed, still,
    style.runFrom_reach_error alike⟩

theorem FailsAlike.call {c : BucketClient ρ} (hc : ∀ f, Blind s t (c.adapter.classify f))
    (key : Option String) {a : Op ρ α} (ha : FailsAlike s t a) : FailsAlike s t (c.call key a) := by
  unfold BucketClient.call
  split
  · intro w here
    obtain ⟨e, w', failed, still, alike⟩ := ha.reach c.style w here
    have caught : FailsAlike s t (do
        throw (← categorizeWith c.adapter.classify e key true) : Op ρ α) := by
      refine .after ((hc e).outcome.bind fun r => ?_) fun f w here => ⟨f, w, rfl, here, rfl⟩
      cases r with
      | ok _ => exact .pure _
      | error _ => exact .pure _
    unfold categorizing
    rw [Action.runFrom_bind, Action.runFrom_bind, Action.runFrom_outcome, Action.runFrom_outcome,
      failed, alike]
    exact caught w' still
  · exact ha.reach c.style

end Blind

end BlobStorage
