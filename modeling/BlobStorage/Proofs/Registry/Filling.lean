import BlobStorage.Proofs.Registry.Entries

/-!
Filling the tables with the providers at hand and those that are installed. It goes through exactly if no
name of theirs has another factory.
-/
namespace BlobStorage.Registry

def offered (installed : List Registration) : List Registration :=
  builtin ++ ClientKind.all.flatMap fun kind => installed.filter (·.kind = kind)

/-- The installed providers have names and conflict neither with each other nor with those at hand. -/
structure Sound (installed : List Registration) : Prop where
  named : ∀ e ∈ installed, e.provider ≠ ""
  harmonious : ∀ e ∈ offered installed, ∀ e' ∈ offered installed,
    e.kind = e'.kind → e.provider = e'.provider → e.factory = e'.factory

variable {installed : List Registration} {r r' : Registry} {kind : ClientKind} {provider : String}
  {f : Factory}

theorem mem_offered {e : Registration} : e ∈ offered installed ↔ e ∈ builtin ∨ e ∈ installed := by
  have all (kind : ClientKind) : kind ∈ ClientKind.all := by cases kind <;> decide
  simp [offered, all]

theorem filter_kind (es : List Registration) (kind own : ClientKind) :
    (es.filter (·.kind = own)).filter (·.kind = kind) =
      if own = kind then es.filter (·.kind = kind) else [] := by
  rw [List.filter_filter]
  split
  · rename_i same
    simp [same]
  · rename_i other
    refine List.filter_eq_nil_iff.mpr fun e _ both => other ?_
    simp only [Bool.and_eq_true, decide_eq_true_eq] at both
    exact both.2.symm.trans both.1

theorem filter_offered (installed : List Registration) (kind : ClientKind) :
    (offered installed).filter (·.kind = kind) =
      builtin.filter (·.kind = kind) ++ installed.filter (·.kind = kind) := by
  simp only [offered, ClientKind.all, List.filter_append, List.flatMap_cons, List.flatMap_nil,
    List.filter_nil, filter_kind]
  cases kind <;> simp

/-- What is offered of a kind depends on what is installed of that kind only. -/
theorem offered_of_kind (installed : List Registration) (kind : ClientKind) :
    (offered (installed.filter (·.kind = kind))).filter (·.kind = kind) =
      (offered installed).filter (·.kind = kind) := by
  rw [filter_offered, filter_offered, filter_kind, if_pos rfl]

theorem named_of_offered (sound : Sound installed) {e : Registration}
    (h : e ∈ offered installed) : e.provider ≠ "" := by
  rcases mem_offered.mp h with ready | there
  · have all : ∀ e ∈ builtin, e.provider ≠ "" := by decide
    exact all e ready
  · exact sound.named e there

/-- None of the offered names has another factory. -/
def Agrees (installed : List Registration) (r : Registry) : Prop :=
  ∀ o ∈ offered installed, ∀ f, r.lookup? o.kind o.provider = some f → f = o.factory

def full (installed : List Registration) (r : Registry) : Registry :=
  if r.filled then r else { r.putAll (offered installed) with filled := true }

theorem lookup?_full (was : r.filled = false) (kind : ClientKind) (provider : String) :
    (r.full installed).lookup? kind provider =
      (r.putAll (offered installed)).lookup? kind provider := by
  have unfilled : ¬ r.filled = true := ne_true_of_eq_false was
  rw [full, if_neg unfilled, lookup?, lookup?]

theorem filled_full (installed : List Registration) (r : Registry) :
    (r.full installed).filled = true := by
  unfold full
  split
  · assumption
  · rfl

theorem runFrom_fill_of_filled (h : r.filled = true) : (fill installed).runFrom r = (.ok (), r) := by
  unfold fill
  rw [Action.runFrom_bind_ok (Action.runFrom_get r), h]
  rfl

theorem runFrom_fill_of_not_filled (h : r.filled = false) : (fill installed).runFrom r =
    ((offered installed).forM add >>= fun _ =>
      (modify fun r => { r with filled := true } : Action Registry PUnit)).runFrom r := by
  unfold fill
  rw [Action.runFrom_bind_ok (Action.runFrom_get r), h]
  simp [offered, ClientKind.all, List.forM_append]

/-- The tables are filled if none of the offered names has another factory. -/
theorem runFrom_fill_of_agrees (sound : Sound installed) (agrees : Agrees installed r) :
    (fill installed).runFrom r = (.ok (), r.full installed) := by
  unfold full
  cases was : r.filled with
  | true => exact runFrom_fill_of_filled was
  | false =>
      rw [runFrom_fill_of_not_filled was]
      rcases runFrom_forM_add r (offered installed) with ⟨ran, _⟩ | ⟨done, o, rest, x, is, fails, _⟩
      · rw [Action.runFrom_bind_ok ran]
        rfl
      · have there : o ∈ offered installed := is ▸ List.mem_append_right _ (List.mem_cons_self ..)
        rcases register_error fails with ⟨_, nameless⟩ | ⟨f, held, other, _⟩
        · exact absurd nameless (named_of_offered sound there)
        · refine absurd ?_ other
          rcases lookup?_of_putAll held with held | earlier
          · exact agrees o there f held
          · have sub : ∀ e ∈ done, e ∈ offered installed := fun e h => is ▸ List.mem_append_left _ h
            exact sound.harmonious _ (sub _ earlier) o there rfl rfl

/-- Otherwise filling them fails at a name that has another factory, and what was added stays. -/
theorem runFrom_fill_of_clash (sound : Sound installed) (clash : ¬ Agrees installed r)
    (h : r.filled = false) : ∃ o ∈ offered installed, ∃ f,
      r.lookup? o.kind o.provider = some f ∧ f ≠ o.factory ∧ ∃ done, (∀ e ∈ done, e ∈ offered installed) ∧
        (fill installed).runFrom r =
          (.error (.refused (.providerTaken o.provider o.kind.name f.literal)), r.putAll done) := by
  rw [runFrom_fill_of_not_filled h]
  rcases runFrom_forM_add r (offered installed) with ⟨_, all⟩ | ⟨done, o, rest, x, is, fails, ran⟩
  · refine absurd (fun o there f held => ?_) clash
    have own := all o there
    rw [lookup?_putAll_of_some _ held] at own
    exact Option.some.inj own
  · have there : o ∈ offered installed := is ▸ List.mem_append_right _ (List.mem_cons_self ..)
    have sub : ∀ e ∈ done, e ∈ offered installed := fun e h => is ▸ List.mem_append_left _ h
    rcases register_error fails with ⟨_, nameless⟩ | ⟨f, held, other, rfl⟩
    · exact absurd nameless (named_of_offered sound there)
    · rcases lookup?_of_putAll held with held | earlier
      · exact ⟨o, there, f, held, other, done, sub, Action.runFrom_bind_error ran _⟩
      · exact absurd (sound.harmonious _ (sub _ earlier) o there rfl rfl) other

theorem lookup?_full_of_offered (sound : Sound installed) (agrees : Agrees installed r)
    (was : r.filled = false) {o : Registration} (there : o ∈ offered installed) :
    (r.full installed).lookup? o.kind o.provider = some o.factory := by
  obtain ⟨f, held⟩ := held_of_putAll (r := r) there
  rw [lookup?_full was, held]
  refine congrArg some ?_
  rcases lookup?_of_putAll held with before | among
  · exact agrees o there f before
  · exact sound.harmonious _ among o there rfl rfl

end BlobStorage.Registry
