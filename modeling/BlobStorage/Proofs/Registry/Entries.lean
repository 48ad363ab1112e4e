import BlobStorage.Proofs.Action
import BlobStorage.Registry

/-!
The entries of a registry, and adding entries to it one by one. What is there stays, and an entry whose
name is taken is rejected if it has another factory.
-/
namespace BlobStorage.Registry

variable {r r' : Registry} {e : Registration} {es : List Registration} {kind : ClientKind}
  {provider : String} {f : Factory} {x : Failure}

def put (r : Registry) (e : Registration) : Registry :=
  if r.lookup? e.kind e.provider = none then { r with entries := r.entries ++ [e] } else r

def putAll (r : Registry) (es : List Registration) : Registry := es.foldl put r

def only (kind : ClientKind) (r : Registry) : Registry :=
  { r with entries := r.entries.filter (·.kind = kind) }

@[simp] theorem filled_put (r : Registry) (e : Registration) : (r.put e).filled = r.filled := by
  unfold put
  split <;> rfl

@[simp] theorem filled_only (kind : ClientKind) (r : Registry) :
    (r.only kind).filled = r.filled := rfl

theorem lookup?_only (kind : ClientKind) (r : Registry) (provider : String) :
    (r.only kind).lookup? kind provider = r.lookup? kind provider := by
  unfold lookup? only
  rw [List.find?_filter]
  congr 2
  funext e
  by_cases h : e.kind = kind <;> simp [h]

theorem lookup?_of_only {own : ClientKind} (same : r.only kind = r'.only kind) (h : own = kind)
    (provider : String) : r.lookup? own provider = r'.lookup? own provider := by
  rw [h, ← lookup?_only, same, lookup?_only]

theorem names_only (kind : ClientKind) (r : Registry) :
    (r.only kind).names kind = r.names kind := by
  simp [names, only]

theorem lookup?_put (r : Registry) (e : Registration) (kind : ClientKind) (provider : String) :
    (r.put e).lookup? kind provider = (r.lookup? kind provider).or
      (if e.kind = kind ∧ e.provider = provider then some e.factory else none) := by
  unfold put
  split
  · rename_i free
    by_cases h : e.kind = kind ∧ e.provider = provider
    · simp [lookup?, List.find?_append, h]
    · simp [lookup?, List.find?_append, h]
  · rename_i taken
    by_cases h : e.kind = kind ∧ e.provider = provider
    · obtain ⟨g, held⟩ := Option.ne_none_iff_exists'.mp taken
      rw [← h.1, ← h.2, held]
      rfl
    · rw [if_neg h, Option.or_none]

theorem lookup?_put_of_some (e : Registration) (held : r.lookup? kind provider = some f) :
    (r.put e).lookup? kind provider = some f := by
  rw [lookup?_put, held]
  rfl

theorem lookup?_of_put (held : (r.put e).lookup? kind provider = some f) :
    r.lookup? kind provider = some f ∨ e = ⟨kind, provider, f⟩ := by
  rw [lookup?_put, Option.or_eq_some_iff] at held
  rcases held with held | ⟨_, new⟩
  · exact .inl held
  · split at new
    · rename_i own
      obtain ⟨rfl, rfl⟩ := own
      cases new
      exact .inr rfl
    · cases new

theorem only_put (kind : ClientKind) (r : Registry) (e : Registration) :
    (r.put e).only kind = if e.kind = kind then (r.only kind).put e else r.only kind := by
  by_cases own : e.kind = kind
  · subst own
    rw [if_pos rfl]
    unfold put
    rw [lookup?_only]
    split
    · simp [only]
    · rfl
  · rw [if_neg own]
    unfold put
    split
    · simp [only, own]
    · rfl

@[simp] theorem filled_putAll (r : Registry) (es : List Registration) :
    (r.putAll es).filled = r.filled := by
  induction es generalizing r with
  | nil => rfl
  | cons e es ih => exact (ih (r.put e)).trans (filled_put r e)

theorem lookup?_putAll_of_some (es : List Registration) (held : r.lookup? kind provider = some f) :
    (r.putAll es).lookup? kind provider = some f := by
  induction es generalizing r with
  | nil => exact held
  | cons e es ih => exact ih (lookup?_put_of_some e held)

theorem lookup?_of_putAll (held : (r.putAll es).lookup? kind provider = some f) :
    r.lookup? kind provider = some f ∨ ⟨kind, provider, f⟩ ∈ es := by
  induction es generalizing r with
  | nil => exact .inl held
  | cons e es ih =>
      rcases ih held with held | there
      · rcases lookup?_of_put held with held | rfl
        · exact .inl held
        · exact .inr (List.mem_cons_self ..)
      · exact .inr (List.mem_cons_of_mem _ there)

theorem held_of_putAll (there : e ∈ es) :
    ∃ f, (r.putAll es).lookup? e.kind e.provider = some f := by
  induction es generalizing r with
  | nil => cases there
  | cons o es ih =>
      rcases List.mem_cons.mp there with rfl | there
      · obtain ⟨f, held⟩ : ∃ f, (r.put e).lookup? e.kind e.provider = some f := by
          rw [lookup?_put, if_pos ⟨rfl, rfl⟩]
          cases r.lookup? e.kind e.provider with
          | none => exact ⟨_, rfl⟩
          | some f => exact ⟨f, rfl⟩
        exact ⟨f, lookup?_putAll_of_some es held⟩
      · exact ih there

theorem only_putAll (kind : ClientKind) (r : Registry) (es : List Registration) :
    (r.putAll es).only kind = (r.only kind).putAll (es.filter (·.kind = kind)) := by
  induction es generalizing r with
  | nil => rfl
  | cons e es ih =>
      refine (ih (r.put e)).trans ?_
      rw [only_put]
      by_cases own : e.kind = kind
      · rw [if_pos own, List.filter_cons_of_pos (by simpa using own)]
        rfl
      · rw [if_neg own, List.filter_cons_of_neg (by simpa using own)]

/-! ### Registering -/

theorem register_ok (h : r.register e = .ok r') :
    r' = r.put e ∧ r'.lookup? e.kind e.provider = some e.factory := by
  unfold register at h
  split at h
  · cases h
  · split at h
    · rename_i free
      cases h
      have new : r.put e = { r with entries := r.entries ++ [e] } := if_pos free
      rw [← new, lookup?_put, free, if_pos ⟨rfl, rfl⟩]
      exact ⟨rfl, rfl⟩
    · rename_i present held
      split at h
      · rename_i same
        cases h
        rw [put, held, same]
        exact ⟨rfl, rfl⟩
      · cases h

theorem register_error (h : r.register e = .error x) :
    x = .refused .emptyProviderId ∧ e.provider = "" ∨
      ∃ f, r.lookup? e.kind e.provider = some f ∧ f ≠ e.factory ∧
        x = .refused (.providerTaken e.provider e.kind.name f.literal) := by
  unfold register at h
  split at h
  · rename_i nameless
    cases h
    exact .inl ⟨rfl, String.isEmpty_iff.mp nameless⟩
  · split at h
    · cases h
    · rename_i present held
      split at h
      · cases h
      · rename_i other
        cases h
        exact .inr ⟨present, held, other, rfl⟩

/-- Registering looks at the name only. -/
theorem register_congr (same : r.lookup? e.kind e.provider = r'.lookup? e.kind e.provider) :
    r.register e = .ok (r.put e) ∧ r'.register e = .ok (r'.put e) ∨
      ∃ x, r.register e = .error x ∧ r'.register e = .error x := by
  simp only [register, put, same]
  split
  · exact .inr ⟨_, rfl, rfl⟩
  · cases r'.lookup? e.kind e.provider with
    | none => exact .inl ⟨rfl, rfl⟩
    | some present =>
        by_cases own : present = e.factory
        · exact .inl ⟨if_pos own, if_pos own⟩
        · exact .inr ⟨_, if_neg own, if_neg own⟩

theorem runFrom_add_ok (h : r.register e = .ok r') : (add e).runFrom r = (.ok (), r') := by
  simp only [Action.runFrom, ExceptT.run, add, h]

theorem runFrom_add_error (h : r.register e = .error x) : (add e).runFrom r = (.error x, r) := by
  simp only [Action.runFrom, ExceptT.run, add, h]

/-- Entries are added one by one, up to the first that is rejected. -/
theorem runFrom_forM_add (r : Registry) (es : List Registration) :
    (es.forM add).runFrom r = (.ok (), r.putAll es) ∧
        (∀ e ∈ es, (r.putAll es).lookup? e.kind e.provider = some e.factory) ∨
      ∃ done o rest x, es = done ++ o :: rest ∧ (r.putAll done).register o = .error x ∧
        (es.forM add).runFrom r = (.error x, r.putAll done) := by
  induction es generalizing r with
  | nil => exact .inl ⟨rfl, fun _ h => nomatch h⟩
  | cons e es ih =>
      have parts : (e :: es).forM add = (add e >>= fun _ => es.forM add) := rfl
      rw [parts]
      rcases h : r.register e with x | r'
      · exact .inr ⟨[], e, es, x, rfl, h, Action.runFrom_bind_error (runFrom_add_error h) _⟩
      · obtain ⟨rfl, held⟩ := register_ok h
        rw [Action.runFrom_bind_ok (runFrom_add_ok h)]
        rcases ih (r.put e) with ⟨ran, all⟩ | ⟨done, o, rest, x, rfl, fails, ran⟩
        · refine .inl ⟨ran, fun o there => ?_⟩
          rcases List.mem_cons.mp there with rfl | there
          · exact lookup?_putAll_of_some es held
          · exact all o there
        · exact .inr ⟨e :: done, o, rest, x, rfl, fails, ran⟩

end BlobStorage.Registry
