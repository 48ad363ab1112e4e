import BlobStorage.Proofs.Registry.Run

/-!
What can be looked up in a registry. A name that was taken in keeps its factory until the registry is
reset, and no table has to do with another one, unless a name that comes with the providers at hand or
installed was given another factory before the tables were filled.
-/
namespace BlobStorage.Registry

/-- What holds of the registry after a run of calls. -/
structure RegistryLaws (installed : List Registration) (calls : List Call) : Prop where
  /-- Unless the registry is spoilt, a lookup of a registered name makes a builder with exactly the
  factory it was registered with; so does one of a provider at hand or installed. -/
  resolved : ¬ Spoilt installed calls → ∀ e, Accepted installed calls e ∨ e ∈ offered installed →
    answer installed calls (.find e.kind e.provider) = .ok (.builder e.factory)
  /-- In a spoilt registry no table can be read any more: the failure names one of the factories that
  spoil it. -/
  spoilt : Spoilt installed calls → ∀ c : Call, c.Reads → ∃ o ∈ offered installed, ∃ f,
    Accepted installed calls ⟨o.kind, o.provider, f⟩ ∧ f ≠ o.factory ∧
      answer installed calls c =
        .error (.refused (.providerTaken o.provider o.kind.name f.literal))
  /-- Once the tables could be read, the registry cannot be spoilt until it is reset. -/
  settled : ∀ before c later x, calls = before ++ c :: later → c.Reads → Call.reset ∉ later →
    answer installed before c = .ok x → ¬ Spoilt installed calls
  /-- A registration that is rejected changes nothing, and it is rejected only for the want of a name or
  for another factory under its name. -/
  rejected : ∀ e f, answer installed calls (.register e) = .error f →
    after installed (calls ++ [.register e]) = after installed calls ∧
      f.category? = some .invalidArgument ∧
      (e.provider = "" ∨ ∃ other, other ≠ e.factory ∧
        (Accepted installed calls ⟨e.kind, e.provider, other⟩ ∨
          ⟨e.kind, e.provider, other⟩ ∈ offered installed))
  /-- A lookup of any other name fails. -/
  unknown : ∀ kind provider, (∀ f, ¬ Accepted installed calls ⟨kind, provider, f⟩) →
    (∀ f, ⟨kind, provider, f⟩ ∉ offered installed) →
    ∃ e, answer installed calls (.find kind provider) = .error e ∧
      e.category? = some .invalidArgument
  /-- Unless the registry is spoilt, what a call to one table answers is what it would answer if the
  other tables were not there. -/
  separate : ¬ Spoilt installed calls → ∀ kind (c : Call), c.Concerns kind →
    answer installed calls c =
      answer (installed.filter (·.kind = kind)) (calls.filterMap (Call.seenFrom kind)) c

section Tables
variable {installed : List Registration} {calls : List Call} {c : Call} {r : Registry}

theorem Sound.ofKind (sound : Sound installed) (kind : ClientKind) :
    Sound (installed.filter (·.kind = kind)) := by
  have sub {e : Registration} (h : e ∈ offered (installed.filter (·.kind = kind))) :
      e ∈ offered installed :=
    mem_offered.mpr ((mem_offered.mp h).imp_right fun h => (List.mem_filter.mp h).1)
  exact ⟨fun e h => sound.named e (List.mem_filter.mp h).1,
    fun e h e' h' => sound.harmonious e (sub h) e' (sub h')⟩

theorem Spoilt.concat (h : Spoilt installed calls) (kept : c ≠ .reset) :
    Spoilt installed (calls ++ [c]) := by
  obtain ⟨o, there, f, took, other⟩ := h
  exact ⟨o, there, f, took.concat kept, other⟩

theorem kind_of_accepted {e : Registration} {kind : ClientKind}
    (h : Accepted installed (calls.filterMap (Call.seenFrom kind)) e) : e.kind = kind := by
  obtain ⟨before, later, is, _⟩ := h
  have there : Call.register e ∈ calls.filterMap (Call.seenFrom kind) := by simp [is]
  obtain ⟨c, _, seen⟩ := List.mem_filterMap.mp there
  cases c with
  | register e' =>
      simp only [Call.seenFrom] at seen
      split at seen
      · cases seen
        assumption
      · cases seen
  | find | providers =>
      simp only [Call.seenFrom] at seen
      split at seen <;> cases seen
  | fill | reset => cases seen

/-- Two registries with the same table of a kind, of which the second has only what is offered in the
other tables. -/
theorem agrees_of_only {kind : ClientKind} {r' : Registry} (sound : Sound installed)
    (same : r.only kind = r'.only kind) (agrees : Agrees installed r)
    (holds : Holds (installed.filter (·.kind = kind)) (calls.filterMap (Call.seenFrom kind)) r') :
    Agrees (installed.filter (·.kind = kind)) r' := by
  intro o there f held
  by_cases own : o.kind = kind
  · rw [← lookup?_of_only same own] at held
    refine agrees o (mem_offered.mpr ?_) f held
    exact (mem_offered.mp there).imp_right fun h => (List.mem_filter.mp h).1
  · rcases holds.sourced _ _ _ held with took | among
    · exact absurd (kind_of_accepted took) own
    · exact (sound.ofKind kind).harmonious _ among o there rfl rfl

theorem only_full {kind : ClientKind} {r' : Registry} (same : r.only kind = r'.only kind) :
    (r.full installed).only kind = (r'.full (installed.filter (·.kind = kind))).only kind := by
  have filled : r.filled = r'.filled := congrArg (·.filled) same
  unfold full
  rw [← filled]
  split
  · exact same
  · have added := only_putAll kind r (offered installed)
    rw [same, ← offered_of_kind, ← only_putAll] at added
    exact congrArg (fun r : Registry => { r with filled := true }) added

theorem filterMap_concat (kind : ClientKind) (calls : List Call) (c : Call) :
    (calls ++ [c]).filterMap (Call.seenFrom kind) =
      calls.filterMap (Call.seenFrom kind) ++ (c.seenFrom kind).toList := by
  rw [List.filterMap_append]
  cases seen : c.seenFrom kind <;> simp [seen]

theorem seenFrom_of_reads (kind : ClientKind) (reads : c.Reads) :
    ∃ c' : Call, c.seenFrom kind = some c' ∧ c'.Reads := by
  cases c with
  | register | reset => exact reads.elim
  | fill => exact ⟨.fill, rfl, trivial⟩
  | find own provider =>
      by_cases h : own = kind
      · exact ⟨.find own provider, if_pos h, trivial⟩
      · exact ⟨.fill, if_neg h, trivial⟩
  | providers own =>
      by_cases h : own = kind
      · exact ⟨.providers own, if_pos h, trivial⟩
      · exact ⟨.fill, if_neg h, trivial⟩

/-- Without the calls to the other tables and without what is installed for them, a table is the same,
as long as the registry is not spoilt. -/
theorem only_after (sound : Sound installed) (kind : ClientKind) (clean : ¬ Spoilt installed calls) :
    (after installed calls).only kind =
      (after (installed.filter (·.kind = kind)) (calls.filterMap (Call.seenFrom kind))).only kind := by
  induction calls using List.reverseRecOn with
  | nil => rfl
  | append_singleton calls c ih =>
      rw [filterMap_concat]
      rcases c.reset_or_register_or_reads with rfl | ⟨e, rfl⟩ | reads
      · have seen : Call.reset.seenFrom kind = some .reset := rfl
        rw [seen, Option.toList_some, after_concat, after_concat, runFrom_reset, runFrom_reset]
      · have same := ih fun h => clean (h.concat nofun)
        rw [after_concat]
        by_cases own : e.kind = kind
        · have seen : (Call.register e).seenFrom kind = some (.register e) := if_pos own
          rw [seen, Option.toList_some, after_concat]
          rcases register_congr (lookup?_of_only same own e.provider) with ⟨ok, ok'⟩ | ⟨x, fails, fails'⟩
          · rw [runFrom_register_ok _ ok, runFrom_register_ok _ ok', only_put, only_put, same]
          · rwa [runFrom_register_error _ fails, runFrom_register_error _ fails']
        · have seen : (Call.register e).seenFrom kind = none := if_neg own
          rw [seen, Option.toList_none, List.append_nil, ← same]
          rcases h : (after installed calls).register e with x | r'
          · rw [runFrom_register_error _ h]
          · rw [runFrom_register_ok _ h, (register_ok h).1, only_put, if_neg own]
      · have clean' : ¬ Spoilt installed calls := fun h => clean (h.concat (by rintro rfl; exact reads))
        have same := ih clean'
        have agrees := ((holds_after sound calls).agrees_iff sound).mpr clean'
        have agrees' := agrees_of_only sound same agrees (holds_after (sound.ofKind kind) _)
        obtain ⟨c', seen, reads'⟩ := seenFrom_of_reads kind reads
        rw [seen, Option.toList_some, after_concat, after_concat,
          runFrom_read_ok reads (runFrom_fill_of_agrees sound agrees),
          runFrom_read_ok reads' (runFrom_fill_of_agrees (sound.ofKind kind) agrees')]
        exact only_full same

theorem told_of_only {kind : ClientKind} {r' : Registry} (same : r.only kind = r'.only kind)
    (concerns : c.Concerns kind) : r.told c = r'.told c := by
  have names : r.names kind = r'.names kind := by rw [← names_only, same, names_only]
  cases c with
  | register | fill | reset => rfl
  | find own provider =>
      cases concerns
      have looked := lookup?_of_only same rfl provider
      simp only [told, looked, names]
  | providers own =>
      cases concerns
      simp only [told, names]

/-- What a call to one table answers does not depend on the calls to the others. -/
theorem answer_seenFrom (sound : Sound installed) (clean : ¬ Spoilt installed calls)
    {kind : ClientKind} (concerns : c.Concerns kind) : answer installed calls c =
      answer (installed.filter (·.kind = kind)) (calls.filterMap (Call.seenFrom kind)) c := by
  have same := only_after sound kind clean
  rcases c.reset_or_register_or_reads with rfl | ⟨e, rfl⟩ | reads
  · exact concerns.elim
  · unfold answer
    rcases register_congr (lookup?_of_only same concerns e.provider) with ⟨ok, ok'⟩ | ⟨x, no, no'⟩
    · rw [runFrom_register_ok _ ok, runFrom_register_ok _ ok']
    · rw [runFrom_register_error _ no, runFrom_register_error _ no']
  · have agrees := ((holds_after sound calls).agrees_iff sound).mpr clean
    have agrees' := agrees_of_only sound same agrees (holds_after (sound.ofKind kind) _)
    rw [answer_of_agrees sound agrees reads, answer_of_agrees (sound.ofKind kind) agrees' reads]
    exact told_of_only (only_full same) concerns

end Tables

section Names
variable {installed : List Registration} {calls : List Call} (sound : Sound installed)
include sound

theorem answer_find_of_clean (clean : ¬ Spoilt installed calls) {e : Registration}
    (there : Accepted installed calls e ∨ e ∈ offered installed) :
    answer installed calls (.find e.kind e.provider) = .ok (.builder e.factory) := by
  have holds := holds_after sound calls
  have agrees := (holds.agrees_iff sound).mpr clean
  have full := holds.full sound agrees
  have held : ((after installed calls).full installed).lookup? e.kind e.provider = some e.factory := by
    rcases there with took | among
    · exact full.kept e took
    · exact full.filled (filled_full _ _) e among
  rw [answer_of_agrees sound agrees (c := .find _ _) trivial]
  simp only [told, held]

theorem clean_of_filled (filled : (after installed calls).filled = true) :
    ¬ Spoilt installed calls := by
  have holds := holds_after sound calls
  rcases holds.agrees_or_open with agrees | ⟨_, was⟩
  · exact (holds.agrees_iff sound).mp agrees
  · cases was.symm.trans filled

theorem rejected_of_error {e : Registration} {x : Failure}
    (fails : answer installed calls (.register e) = .error x) :
    after installed (calls ++ [.register e]) = after installed calls ∧
      x.category? = some .invalidArgument ∧
      (e.provider = "" ∨ ∃ other, other ≠ e.factory ∧
        (Accepted installed calls ⟨e.kind, e.provider, other⟩ ∨
          ⟨e.kind, e.provider, other⟩ ∈ offered installed)) := by
  rcases h : (after installed calls).register e with x' | r'
  · have ran := runFrom_register_error installed h
    rw [answer, ran] at fails
    cases fails
    refine ⟨by rw [after_concat, ran], ?_⟩
    rcases register_error h with ⟨rfl, nameless⟩ | ⟨f, held, other, rfl⟩
    · exact ⟨rfl, .inl nameless⟩
    · exact ⟨rfl, .inr ⟨f, other, (holds_after sound calls).sourced _ _ _ held⟩⟩
  · rw [answer, runFrom_register_ok _ h] at fails
    cases fails

theorem answer_find_of_unknown {kind : ClientKind} {provider : String}
    (unregistered : ∀ f, ¬ Accepted installed calls ⟨kind, provider, f⟩)
    (unoffered : ∀ f, ⟨kind, provider, f⟩ ∉ offered installed) :
    ∃ e, answer installed calls (.find kind provider) = .error e ∧
      e.category? = some .invalidArgument := by
  have holds := holds_after sound calls
  rcases holds.agrees_or_open with agrees | ⟨clash, _⟩
  · rw [answer_of_agrees sound agrees (c := .find _ _) trivial]
    cases held : ((after installed calls).full installed).lookup? kind provider with
    | none =>
        simp only [told, held]
        exact ⟨_, rfl, rfl⟩
    | some f =>
        rcases (holds.full sound agrees).sourced _ _ _ held with took | among
        · exact absurd took (unregistered f)
        · exact absurd among (unoffered f)
  · obtain ⟨_, _, _, _, _, fails⟩ := answer_of_clash sound clash (c := .find kind provider) trivial
    exact ⟨_, fails, rfl⟩

end Names

theorem registry_of_run (installed : List Registration) (sound : Sound installed) (calls : List Call) :
    RegistryLaws installed calls where
  resolved clean e there := answer_find_of_clean sound clean there
  spoilt spoils c reads :=
    answer_of_clash sound (fun h => ((holds_after sound calls).agrees_iff sound).mp h spoils) reads
  settled before c later x is reads since ok := by
    have filled := filled_of_run (filled_of_read sound reads ok) since
    rw [List.append_assoc, List.singleton_append, ← is] at filled
    exact clean_of_filled sound filled
  rejected e x fails := rejected_of_error sound fails
  unknown kind provider unregistered unoffered :=
    answer_find_of_unknown sound unregistered unoffered
  separate clean kind c concerns := answer_seenFrom sound clean concerns

/-- With a provider installed and another one registered. -/
theorem registry_of_two :
    Sound [⟨.store, "installed", .custom "A"⟩] ∧
      RegistryLaws [⟨.store, "installed", .custom "A"⟩]
        [.register ⟨.store, "own", .custom "B"⟩, .find .store "installed"] := by
  have sound : Sound [⟨.store, "installed", .custom "A"⟩] := ⟨by decide, by decide⟩
  exact ⟨sound, registry_of_run _ sound _⟩

/-- A provider at hand can be given another factory before the tables are filled. Then neither that
name nor any other can be looked up, in any table. -/
theorem unreadable_after_override :
    Sound [] ∧ answer [] [] (.register ⟨.store, "memory", .custom "A"⟩) = .ok .done ∧
      answer [] [.register ⟨.store, "memory", .custom "A"⟩] (.find .store "memory") =
        .error (.refused (.providerTaken "memory" "store" "<factory A>")) ∧
      answer [] [.register ⟨.store, "memory", .custom "A"⟩] (.find .service "aws") =
        .error (.refused (.providerTaken "memory" "store" "<factory A>")) ∧
      answer [] [] (.find .service "aws") = .ok (.builder (.s3 .service)) :=
  ⟨⟨by decide, by decide⟩, rfl, rfl, rfl, rfl⟩

end BlobStorage.Registry
