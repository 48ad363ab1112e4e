import BlobStorage.Proofs.Registry.Filling
import Mathlib.Data.List.Induction

/-!
The registry over a whole run of calls. It holds what they put into it until it is reset, and the tables
are filled by the first call that needs them to be.
-/
namespace BlobStorage.Registry

/-- A call on the registry. -/
inductive Call where
  | register (e : Registration)
  | find (kind : ClientKind) (provider : String)
  | providers (kind : ClientKind)
  | fill
  | reset
  deriving DecidableEq

inductive Answer where
  | done
  /-- A builder from this factory. -/
  | builder (factory : Factory)
  | providers (names : List String)
  deriving DecidableEq

namespace Call

def perform (installed : List Registration) : Call → Action Registry Answer
  | register e => do
      add e
      return .done
  | find kind provider => return .builder (← Registry.find installed kind provider)
  | providers kind => return .providers (← Registry.providers installed kind)
  | fill => do
      Registry.fill installed
      return .done
  | reset => do
      set ({} : Registry)
      return .done

/-- The call needs the tables to be filled. -/
def Reads : Call → Prop
  | find _ _ | providers _ | fill => True
  | register _ | reset => False

/-- The call is to the table of a kind. -/
def Concerns (kind : ClientKind) : Call → Prop
  | register e => e.kind = kind
  | find own _ | providers own => own = kind
  | fill | reset => False

theorem reset_or_register_or_reads (c : Call) :
    c = reset ∨ (∃ e, c = register e) ∨ c.Reads := by
  cases c with
  | reset => exact .inl rfl
  | register e => exact .inr (.inl ⟨e, rfl⟩)
  | find | providers | fill => exact .inr (.inr trivial)

def seenFrom (kind : ClientKind) : Call → Option Call
  | register e => if e.kind = kind then some (register e) else none
  | find own provider => if own = kind then some (find own provider) else some fill
  | providers own => if own = kind then some (providers own) else some fill
  | c => some c

end Call

/-- The registry after calls on an empty one. -/
def after (installed : List Registration) (calls : List Call) : Registry :=
  calls.foldl (fun r c => ((c.perform installed).runFrom r).2) {}

def answer (installed : List Registration) (calls : List Call) (c : Call) : Except Failure Answer :=
  ((c.perform installed).runFrom (after installed calls)).1

/-- One of the calls registered the entry and succeeded, and the registry was not reset since. -/
def Accepted (installed : List Registration) (calls : List Call) (e : Registration) : Prop :=
  ∃ before later, calls = before ++ .register e :: later ∧ Call.reset ∉ later ∧
    answer installed before (.register e) = .ok .done

/-- A name that comes with the providers at hand or installed was given another factory. -/
def Spoilt (installed : List Registration) (calls : List Call) : Prop :=
  ∃ o ∈ offered installed, ∃ f, Accepted installed calls ⟨o.kind, o.provider, f⟩ ∧ f ≠ o.factory

section Calls
variable {installed : List Registration} {r r' : Registry} {kind : ClientKind} {provider : String}

theorem runFrom_register_ok (installed : List Registration) {e : Registration}
    (h : r.register e = .ok r') :
    ((Call.register e).perform installed).runFrom r = (.ok .done, r') := by
  refine (Action.runFrom_bind_ok (runFrom_add_ok h) _).trans ?_
  rfl

theorem runFrom_register_error (installed : List Registration) {e : Registration} {x : Failure}
    (h : r.register e = .error x) :
    ((Call.register e).perform installed).runFrom r = (.error x, r) :=
  Action.runFrom_bind_error (runFrom_add_error h) _

theorem runFrom_reset (installed : List Registration) (r : Registry) :
    (Call.reset.perform installed).runFrom r = (.ok .done, {}) := rfl

variable {c : Call}

theorem runFrom_read_error {x : Failure} (reads : c.Reads)
    (h : (fill installed).runFrom r = (.error x, r')) :
    (c.perform installed).runFrom r = (.error x, r') := by
  cases c with
  | register | reset => exact reads.elim
  | fill => exact Action.runFrom_bind_error h _
  | find kind provider =>
      have fails : (find installed kind provider).runFrom r = (.error x, r') :=
        Action.runFrom_bind_error h _
      exact Action.runFrom_bind_error fails _
  | providers kind =>
      have fails : (providers installed kind).runFrom r = (.error x, r') :=
        Action.runFrom_bind_error h _
      exact Action.runFrom_bind_error fails _

/-- What a call that reads finds in the filled tables. -/
def told (r : Registry) : Call → Except Failure Answer
  | .find kind provider =>
      match r.lookup? kind provider with
      | some f => .ok (.builder f)
      | none =>
          .error (.refused (.providerUnknown (.text provider) kind.name (r.names kind)))
  | .providers kind => .ok (.providers (r.names kind))
  | _ => .ok .done

theorem runFrom_read_ok (reads : c.Reads) (h : (fill installed).runFrom r = (.ok (), r')) :
    (c.perform installed).runFrom r = (r'.told c, r') := by
  cases c with
  | register | reset => exact reads.elim
  | fill => exact (Action.runFrom_bind_ok h _).trans rfl
  | find kind provider =>
      have looks : (find installed kind provider).runFrom r =
          (do
            let r ← get
            match r.lookup? kind provider with
            | some factory => return factory
            | none => throw (.refused (.providerUnknown (.text provider) kind.name (r.names kind))) :
            Action Registry Factory).runFrom r' := Action.runFrom_bind_ok h _
      rw [Action.runFrom_bind_ok (Action.runFrom_get r')] at looks
      cases held : r'.lookup? kind provider with
      | some f =>
          rw [held] at looks
          refine (Action.runFrom_bind_ok looks _).trans ?_
          simp [told, held]
      | none =>
          rw [held] at looks
          refine (Action.runFrom_bind_error looks _).trans ?_
          simp [told, held]
  | providers kind =>
      have found : (providers installed kind).runFrom r = (.ok (r'.names kind), r') :=
        (Action.runFrom_bind_ok h _).trans rfl
      exact (Action.runFrom_bind_ok found _).trans rfl

end Calls

section Runs
variable {installed : List Registration} {calls : List Call} {c : Call} {r : Registry}

theorem after_concat (installed : List Registration) (calls : List Call) (c : Call) :
    after installed (calls ++ [c]) = ((c.perform installed).runFrom (after installed calls)).2 := by
  simp [after]

theorem accepted_concat {e : Registration} : Accepted installed (calls ++ [c]) e ↔
    c ≠ .reset ∧
      (Accepted installed calls e ∨ c = .register e ∧ answer installed calls c = .ok .done) := by
  constructor
  · rintro ⟨before, later, is, since, took⟩
    rcases List.eq_nil_or_concat later with rfl | ⟨later, last, rfl⟩
    · obtain ⟨rfl, own⟩ := List.append_inj' is rfl
      cases own
      exact ⟨nofun, .inr ⟨rfl, took⟩⟩
    · rw [List.concat_eq_append] at is since
      rw [← List.cons_append, ← List.append_assoc] at is
      obtain ⟨rfl, own⟩ := List.append_inj' is rfl
      cases own
      refine ⟨?_, .inl ⟨before, later, rfl, fun h => since (List.mem_append_left _ h), took⟩⟩
      rintro rfl
      exact since (List.mem_append_right _ (List.mem_cons_self ..))
  · rintro ⟨kept, ⟨before, later, rfl, since, took⟩ | ⟨rfl, took⟩⟩
    · refine ⟨before, later ++ [c], by simp, fun h => ?_, took⟩
      rcases List.mem_append.mp h with h | h
      · exact since h
      · exact kept (List.mem_singleton.mp h).symm
    · exact ⟨calls, [], rfl, List.not_mem_nil, took⟩

theorem Accepted.concat {e : Registration} (h : Accepted installed calls e) (kept : c ≠ .reset) :
    Accepted installed (calls ++ [c]) e := accepted_concat.mpr ⟨kept, .inl h⟩

/-- The registry holds what calls put into it: what was registered is there and nothing else is but
what is offered, all of which is there once the tables are filled. -/
structure Holds (installed : List Registration) (calls : List Call) (r : Registry) : Prop where
  kept : ∀ e, Accepted installed calls e → r.lookup? e.kind e.provider = some e.factory
  sourced : ∀ kind provider f, r.lookup? kind provider = some f →
    Accepted installed calls ⟨kind, provider, f⟩ ∨ ⟨kind, provider, f⟩ ∈ offered installed
  filled : r.filled = true → ∀ o ∈ offered installed, r.lookup? o.kind o.provider = some o.factory

theorem Holds.agrees_or_open (h : Holds installed calls r) :
    Agrees installed r ∨ ¬ Agrees installed r ∧ r.filled = false := by
  by_cases agrees : Agrees installed r
  · exact .inl agrees
  · refine .inr ⟨agrees, ?_⟩
    cases was : r.filled with
    | false => rfl
    | true =>
        refine absurd (fun o there f held => ?_) agrees
        rw [h.filled was o there] at held
        exact (Option.some.inj held).symm

theorem Holds.agrees_iff (sound : Sound installed) (h : Holds installed calls r) :
    Agrees installed r ↔ ¬ Spoilt installed calls := by
  constructor
  · rintro agrees ⟨o, there, f, took, other⟩
    exact other (agrees o there f (h.kept _ took))
  · intro clean o there f held
    rcases h.sourced _ _ _ held with took | among
    · exact Decidable.byContradiction fun other => clean ⟨o, there, f, took, other⟩
    · exact sound.harmonious _ among o there rfl rfl

/-- Adding some of what is offered. -/
theorem Holds.putAll (h : Holds installed calls r) {es : List Registration}
    (sub : ∀ e ∈ es, e ∈ offered installed) : Holds installed calls (r.putAll es) where
  kept e took := lookup?_putAll_of_some es (h.kept e took)
  sourced kind provider f held := by
    rcases lookup?_of_putAll held with held | among
    · exact h.sourced _ _ _ held
    · exact .inr (sub _ among)
  filled is o there :=
    lookup?_putAll_of_some es (h.filled ((filled_putAll r es).symm.trans is) o there)

theorem Holds.full (sound : Sound installed) (h : Holds installed calls r)
    (agrees : Agrees installed r) : Holds installed calls (r.full installed) := by
  cases was : r.filled with
  | true =>
      have same : r.full installed = r := if_pos was
      rwa [same]
  | false =>
      have all : Holds installed calls (r.putAll (offered installed)) := h.putAll fun _ => id
      refine ⟨fun e took => ?_, fun kind provider f held => ?_, fun _ o there => ?_⟩
      · rw [lookup?_full was]
        exact all.kept e took
      · rw [lookup?_full was] at held
        exact all.sourced kind provider f held
      · exact lookup?_full_of_offered sound agrees was there

theorem Holds.of_accepted {calls' : List Call} (h : Holds installed calls r)
    (same : ∀ e, Accepted installed calls' e ↔ Accepted installed calls e) :
    Holds installed calls' r where
  kept e took := h.kept e ((same e).mp took)
  sourced kind provider f held := (h.sourced kind provider f held).imp_left (same _).mpr
  filled := h.filled

theorem accepted_concat_of_reads (reads : c.Reads) (e : Registration) :
    Accepted installed (calls ++ [c]) e ↔ Accepted installed calls e := by
  rw [accepted_concat]
  cases c with
  | register | reset => exact reads.elim
  | find | providers | fill => simp

theorem Holds.register (h : Holds installed calls (after installed calls)) (e : Registration) :
    Holds installed (calls ++ [.register e]) (after installed (calls ++ [.register e])) := by
  rw [after_concat]
  rcases took : (after installed calls).register e with x | r'
  · have ran := runFrom_register_error installed took
    rw [ran]
    refine h.of_accepted fun e' => ?_
    rw [accepted_concat, answer, ran]
    simp
  · have ran := runFrom_register_ok installed took
    obtain ⟨rfl, own⟩ := register_ok took
    rw [ran]
    have goes (e' : Registration) : Accepted installed (calls ++ [.register e]) e' ↔
        Accepted installed calls e' ∨ e = e' := by
      rw [accepted_concat, answer, ran]
      simp
    refine ⟨fun e' there => ?_, fun kind provider f held => ?_, fun is o there => ?_⟩
    · rcases (goes e').mp there with there | rfl
      · exact lookup?_put_of_some e (h.kept e' there)
      · exact own
    · rcases lookup?_of_put held with held | rfl
      · exact (h.sourced kind provider f held).imp_left fun there => (goes _).mpr (.inl there)
      · exact .inl ((goes _).mpr (.inr rfl))
    · exact lookup?_put_of_some e (h.filled ((filled_put ..).symm.trans is) o there)

theorem Holds.read (sound : Sound installed) (h : Holds installed calls (after installed calls))
    (reads : c.Reads) : Holds installed (calls ++ [c]) (after installed (calls ++ [c])) := by
  rw [after_concat]
  refine Holds.of_accepted ?_ (accepted_concat_of_reads reads)
  rcases h.agrees_or_open with agrees | ⟨clash, was⟩
  · rw [runFrom_read_ok reads (runFrom_fill_of_agrees sound agrees)]
    exact h.full sound agrees
  · obtain ⟨o, _, f, _, _, done, sub, ran⟩ := runFrom_fill_of_clash sound clash was
    rw [runFrom_read_error reads ran]
    exact h.putAll sub

/-- After any calls the registry holds what they put into it, by induction on the calls. -/
theorem holds_after (sound : Sound installed) (calls : List Call) :
    Holds installed calls (after installed calls) := by
  have empty (calls : List Call) (h : after installed calls = {})
      (none : ∀ e, ¬ Accepted installed calls e) : Holds installed calls (after installed calls) := by
    rw [h]
    exact ⟨fun e took => (none e took).elim, nofun, nofun⟩
  induction calls using List.reverseRecOn with
  | nil =>
      refine empty [] rfl ?_
      rintro e ⟨before, later, is, _⟩
      simp at is
  | append_singleton calls c ih =>
      cases c with
      | register e => exact ih.register e
      | reset =>
          refine empty _ (by rw [after_concat, runFrom_reset]) fun e took => ?_
          exact (accepted_concat.mp took).1 rfl
      | find | providers | fill => exact ih.read sound trivial

/-! ### Answers -/

theorem answer_of_agrees (sound : Sound installed) (agrees : Agrees installed (after installed calls))
    (reads : c.Reads) : answer installed calls c = ((after installed calls).full installed).told c := by
  unfold answer
  rw [runFrom_read_ok reads (runFrom_fill_of_agrees sound agrees)]

theorem answer_of_clash (sound : Sound installed) (clash : ¬ Agrees installed (after installed calls))
    (reads : c.Reads) : ∃ o ∈ offered installed, ∃ f,
      Accepted installed calls ⟨o.kind, o.provider, f⟩ ∧ f ≠ o.factory ∧
        answer installed calls c =
          .error (.refused (.providerTaken o.provider o.kind.name f.literal)) := by
  have holds := holds_after sound calls
  have was := (holds.agrees_or_open.resolve_left clash).2
  obtain ⟨o, there, f, held, other, _, _, ran⟩ := runFrom_fill_of_clash sound clash was
  refine ⟨o, there, f, ?_, other, congrArg Prod.fst (runFrom_read_error reads ran)⟩
  rcases holds.sourced _ _ _ held with took | among
  · exact took
  · exact absurd (sound.harmonious _ among o there rfl rfl) other

theorem filled_step (was : r.filled = true) (kept : c ≠ .reset) :
    ((c.perform installed).runFrom r).2.filled = true := by
  rcases c.reset_or_register_or_reads with rfl | ⟨e, rfl⟩ | reads
  · exact absurd rfl kept
  · rcases h : r.register e with x | r'
    · rwa [runFrom_register_error _ h]
    · rwa [runFrom_register_ok _ h, (register_ok h).1, filled_put]
  · rwa [runFrom_read_ok reads (runFrom_fill_of_filled was)]

theorem filled_of_run (was : (after installed calls).filled = true) {later : List Call}
    (kept : Call.reset ∉ later) : (after installed (calls ++ later)).filled = true := by
  induction later using List.reverseRecOn with
  | nil => rwa [List.append_nil]
  | append_singleton later c ih =>
      rw [List.mem_append, not_or, List.mem_singleton] at kept
      rw [← List.append_assoc, after_concat]
      exact filled_step (ih kept.1) (Ne.symm kept.2)

theorem filled_of_read {x : Answer} (sound : Sound installed) (reads : c.Reads)
    (ok : answer installed calls c = .ok x) : (after installed (calls ++ [c])).filled = true := by
  have agrees : Agrees installed (after installed calls) := by
    refine Classical.byContradiction fun clash => ?_
    obtain ⟨_, _, _, _, _, fails⟩ := answer_of_clash sound clash reads
    cases ok.symm.trans fails
  rw [after_concat, runFrom_read_ok reads (runFrom_fill_of_agrees sound agrees)]
  exact filled_full _ _

end Runs
end BlobStorage.Registry
