import BlobStorage.Proofs.Settings.Coercion
import Mathlib.Data.List.Forall2

/-!
Records that are given as tables. Each field is coerced in turn or has its default, and the record keeps
the rules of its kind: credentials have what their type needs, and a retry policy has delays that fit.
-/
namespace BlobStorage
open Settings

/-- A field of a table, coerced, or else its default, if it has one. -/
inductive Field {α : Type} (entries : List (Value × Value)) (name : String) (fallback? : Option α)
    (takes : Value → α → Prop) : α → Prop
  | given {v : Value} {a : α} (has : (Value.table entries).at? name = some v) (is : takes v a) :
      Field entries name fallback? takes a
  | missing {a : α} (absent : (Value.table entries).at? name = none) (is : fallback? = some a) :
      Field entries name fallback? takes a

inductive ToType : Value → CredentialsType → Prop
  | session : ToType (.text "SESSION") .session
  | assumeRole : ToType (.text "ASSUME_ROLE") .assumeRole
  | ambient : ToType (.text "DEFAULT") .ambient

inductive ToMode : Value → RetryMode → Prop
  | fixed : ToMode (.text "FIXED") .fixed
  | exponential : ToMode (.text "EXPONENTIAL") .exponential

structure SessionFields (entries : List (Value × Value)) (s : SessionCredentials) : Prop where
  accessKey : Field entries "access_key_id" none ToText s.accessKey
  secretKey : Field entries "secret_access_key" none ToText s.secretKey
  sessionToken : Field entries "session_token" (some none) (Perhaps ToText) s.sessionToken

inductive ToSession : Value → SessionCredentials → Prop
  | table {entries : List (Value × Value)} {s : SessionCredentials} (fields : SessionFields entries s) :
      ToSession (.table entries) s

/-- Credentials have what their type needs, and sessions last for a quarter of an hour. -/
structure Credentials.Sound (c : Credentials) : Prop where
  session : c.type = .session → c.session ≠ none
  role : c.type = .assumeRole → c.role.getD "" ≠ ""
  duration : ∀ n ∈ c.durationSeconds, 900 ≤ n

structure CredentialsFields (entries : List (Value × Value)) (c : Credentials) : Prop where
  type : Field entries "type" (some .ambient) ToType c.type
  session : Field entries "session_credentials" (some none) (Perhaps ToSession) c.session
  role : Field entries "role" (some none) (Perhaps ToText) c.role
  sessionName : Field entries "session_name" (some none) (Perhaps ToText) c.sessionName
  duration : Field entries "duration_seconds" (some none) (Perhaps ToWhole) c.durationSeconds
  sound : c.Sound

/-- A policy makes an attempt, its delays are not negative and do not shrink, and a fixed delay is one. -/
structure RetryPolicy.Sound (p : RetryPolicy) : Prop where
  attempts : 1 ≤ p.maxAttempts
  multiplier : ¬ p.multiplier.Relates (· < ·) 1
  durations : ∀ delay ∈ [p.fixedDelay, p.initialDelay, p.maxDelay, p.attemptTimeout, p.totalTimeout],
    ∀ d ∈ delay, 0 ≤ d.micros
  fixed : p.mode = .fixed → p.fixedDelay ≠ none
  ordered : ∀ initial ∈ p.initialDelay, ∀ limit ∈ p.maxDelay, initial.micros ≤ limit.micros

structure RetryFields (entries : List (Value × Value)) (p : RetryPolicy) : Prop where
  mode : Field entries "mode" (some .exponential) ToMode p.mode
  maxAttempts : Field entries "max_attempts" (some 3) ToWhole p.maxAttempts
  fixedDelay : Field entries "fixed_delay" (some none) (Perhaps ToDuration) p.fixedDelay
  initialDelay : Field entries "initial_delay" (some none) (Perhaps ToDuration) p.initialDelay
  maxDelay : Field entries "max_delay" (some none) (Perhaps ToDuration) p.maxDelay
  multiplier : Field entries "multiplier" (some (.ofInt 2)) ToReal p.multiplier
  attemptTimeout : Field entries "attempt_timeout" (some none) (Perhaps ToDuration) p.attemptTimeout
  totalTimeout : Field entries "total_timeout" (some none) (Perhaps ToDuration) p.totalTimeout
  sound : p.Sound

section Fields
variable {α : Type} {read : Value → Read α} {takes : Value → α → Prop}
  {entries : List (Value × Value)} {name : String} {fallback? : Option α} {a : α}

theorem field_eq_ok_iff (reads : ∀ v a, read v = .ok a ↔ takes v a) {otherwise : Read α}
    (default : otherwise = .ok a ↔ fallback? = some a) :
    (under name <|
      match given? (Value.texted entries) name with
      | some v => read v
      | none => otherwise) = .ok a ↔ Field entries name fallback? takes a := by
  have same : given? (Value.texted entries) name = (Value.table entries).at? name := rfl
  rw [under_eq_ok_iff, same]
  cases found : (Value.table entries).at? name with
  | some v =>
      constructor
      · exact fun read => .given found ((reads v a).mp read)
      · rintro (⟨has, is⟩ | ⟨absent, -⟩)
        · cases found.symm.trans has
          exact (reads v a).mpr is
        · cases found.symm.trans absent
  | none =>
      constructor
      · exact fun read => .missing found (default.mp read)
      · rintro (⟨has, -⟩ | ⟨-, is⟩)
        · cases found.symm.trans has
        · exact default.mpr is

theorem defaulted_eq_ok_iff (reads : ∀ v a, read v = .ok a ↔ takes v a) {fallback : α} :
    defaulted (Value.texted entries) name fallback read = .ok a ↔
      Field entries name (some fallback) takes a :=
  field_eq_ok_iff reads (by simp)

theorem required_eq_ok_iff (reads : ∀ v a, read v = .ok a ↔ takes v a) :
    required (Value.texted entries) name read = .ok a ↔ Field entries name none takes a :=
  field_eq_ok_iff reads (by simp [misfit])

end Fields

theorem CredentialsType.read_eq_ok_iff {v : Value} {t : CredentialsType} :
    CredentialsType.read v = .ok t ↔ ToType v t := by
  constructor
  · intro read
    unfold CredentialsType.read at read
    split at read <;> cases read
    · exact .session
    · exact .assumeRole
    · exact .ambient
  · rintro (_ | _ | _) <;> rfl

theorem RetryMode.read_eq_ok_iff {v : Value} {m : RetryMode} :
    RetryMode.read v = .ok m ↔ ToMode v m := by
  constructor
  · intro read
    unfold RetryMode.read at read
    split at read <;> cases read
    · exact .fixed
    · exact .exponential
  · rintro (_ | _) <;> rfl

theorem SessionCredentials.read_eq_ok_iff {v : Value} {s : SessionCredentials} :
    SessionCredentials.read v = .ok s ↔ ToSession v s := by
  have texts : ∀ v a, text v = .ok a ↔ ToText v a := fun _ _ => text_eq_ok_iff
  have optionals : ∀ v a, Settings.optional text v = .ok a ↔ Perhaps ToText v a :=
    fun _ _ => optional_eq_ok_iff texts
  constructor
  · intro read
    unfold SessionCredentials.read at read
    split at read
    · obtain ⟨⟨accessKey, secretKey, sessionToken⟩, fields, done⟩ := bind_eq_ok_iff.mp read
      cases done
      obtain ⟨first, others⟩ := both_eq_ok_iff.mp fields
      obtain ⟨second, third⟩ := both_eq_ok_iff.mp others
      exact .table ⟨(required_eq_ok_iff texts).mp first, (required_eq_ok_iff texts).mp second,
        (defaulted_eq_ok_iff optionals).mp third⟩
    · cases read
  · rintro ⟨accessKey, secretKey, sessionToken⟩
    refine bind_eq_ok_iff.mpr ⟨(s.accessKey, s.secretKey, s.sessionToken), ?_, rfl⟩
    exact both_eq_ok_iff.mpr ⟨(required_eq_ok_iff texts).mpr accessKey, both_eq_ok_iff.mpr
      ⟨(required_eq_ok_iff texts).mpr secretKey, (defaulted_eq_ok_iff optionals).mpr sessionToken⟩⟩

theorem Credentials.broken?_eq_none_iff {c : Credentials} : c.broken? = none ↔ c.Sound := by
  unfold Credentials.broken?
  constructor
  · intro fine
    split at fine
    · cases fine
    · split at fine
      · cases fine
      · rename_i has_session has_role
        refine ⟨?_, ?_, ?_⟩
        · intro type missing
          exact has_session ⟨type, by rw [missing]; rfl⟩
        · intro type missing
          exact has_role ⟨type, by rw [missing]; rfl⟩
        · intro n told
          rw [told] at fine
          by_contra short
          simp [not_le.mp short] at fine
  · intro sound
    rw [if_neg, if_neg]
    · cases told : c.durationSeconds with
      | none => rfl
      | some n => exact if_neg (not_lt.mpr (sound.duration n told))
    · rintro ⟨type, missing⟩
      exact sound.role type (String.isEmpty_iff.mp missing)
    · rintro ⟨type, missing⟩
      exact sound.session type (Option.isNone_iff_eq_none.mp missing)

theorem RetryPolicy.negativeField?_eq_none_iff {p : RetryPolicy} : p.negativeField? = none ↔
    ∀ delay ∈ [p.fixedDelay, p.initialDelay, p.maxDelay, p.attemptTimeout, p.totalTimeout],
      ∀ d ∈ delay, 0 ≤ d.micros := by
  have fine (delay : Option Duration) : (delay.map Duration.isNegative).getD false = false ↔
      ∀ d ∈ delay, 0 ≤ d.micros := by
    cases delay <;> simp [Duration.isNegative]
  simp only [negativeField?, Option.map_eq_none_iff, List.find?_eq_none, List.forall_mem_cons,
    Bool.not_eq_true, fine, List.not_mem_nil, IsEmpty.forall_iff, implies_true]

theorem RetryPolicy.broken?_eq_none_iff {p : RetryPolicy} : p.broken? = none ↔ p.Sound := by
  have slow : p.multiplier.ltInt 1 = true ↔ p.multiplier.Relates (· < ·) 1 := by
    rw [Binary64.ltInt_eq_true_iff, Int.cast_one]
  unfold RetryPolicy.broken?
  constructor
  · intro fine
    split at fine
    · cases fine
    · rename_i attempts
      split at fine
      · cases fine
      · rename_i multiplier
        split at fine
        · cases fine
        · rename_i durations
          split at fine
          · cases fine
          · rename_i fixed
            refine ⟨by omega, mt slow.mpr multiplier, negativeField?_eq_none_iff.mp durations,
              fun mode missing => fixed ⟨mode, by rw [missing]; rfl⟩, ?_⟩
            intro initial told limit told'
            rw [told, told'] at fine
            by_contra reversed
            simp [not_le.mp reversed] at fine
  · intro sound
    rw [if_neg (not_lt.mpr sound.attempts), if_neg (mt slow.mp sound.multiplier),
      negativeField?_eq_none_iff.mpr sound.durations]
    dsimp only
    rw [if_neg]
    · split
      · rename_i initial limit told told'
        exact if_neg (not_lt.mpr (sound.ordered initial told limit told'))
      · rfl
    · rintro ⟨mode, missing⟩
      exact sound.fixed mode (Option.isNone_iff_eq_none.mp missing)

section Records
variable {entries : List (Value × Value)}

theorem Credentials.read_eq_ok_iff {c : Credentials} :
    Credentials.read (Value.texted entries) = .ok c ↔ CredentialsFields entries c := by
  have texts : ∀ v a, Settings.optional text v = .ok a ↔ Perhaps ToText v a :=
    fun _ _ => optional_eq_ok_iff fun _ _ => text_eq_ok_iff
  have wholes : ∀ v a, Settings.optional whole v = .ok a ↔ Perhaps ToWhole v a :=
    fun _ _ => optional_eq_ok_iff fun _ _ => whole_eq_ok_iff
  have sessions : ∀ v a, Settings.optional SessionCredentials.read v = .ok a ↔
      Perhaps ToSession v a :=
    fun _ _ => optional_eq_ok_iff fun _ _ => SessionCredentials.read_eq_ok_iff
  have types : ∀ v a, CredentialsType.read v = .ok a ↔ ToType v a :=
    fun _ _ => CredentialsType.read_eq_ok_iff
  unfold Credentials.read
  dsimp only
  rw [bind_eq_ok_iff]
  simp only [both_eq_ok_iff, defaulted_eq_ok_iff texts, defaulted_eq_ok_iff wholes,
    defaulted_eq_ok_iff sessions, defaulted_eq_ok_iff types]
  constructor
  · rintro ⟨⟨type, session, role, sessionName, duration⟩, ⟨h1, h2, h3, h4, h5⟩, done⟩
    dsimp only at done
    split at done
    · cases done
    · rename_i sound
      cases done
      exact ⟨h1, h2, h3, h4, h5, Credentials.broken?_eq_none_iff.mp sound⟩
  · intro fields
    refine ⟨(c.type, c.session, c.role, c.sessionName, c.durationSeconds),
      ⟨fields.type, fields.session, fields.role, fields.sessionName, fields.duration⟩, ?_⟩
    dsimp only
    rw [Credentials.broken?_eq_none_iff.mpr fields.sound]

theorem RetryPolicy.read_eq_ok_iff {p : RetryPolicy} :
    RetryPolicy.read (Value.texted entries) = .ok p ↔ RetryFields entries p := by
  have durations : ∀ v a, Settings.optional duration v = .ok a ↔ Perhaps ToDuration v a :=
    fun _ _ => optional_eq_ok_iff fun _ _ => duration_eq_ok_iff
  have wholes : ∀ v a, whole v = .ok a ↔ ToWhole v a := fun _ _ => whole_eq_ok_iff
  have reals : ∀ v a, real v = .ok a ↔ ToReal v a := fun _ _ => real_eq_ok_iff
  have modes : ∀ v a, RetryMode.read v = .ok a ↔ ToMode v a := fun _ _ => RetryMode.read_eq_ok_iff
  unfold RetryPolicy.read
  dsimp only
  rw [bind_eq_ok_iff]
  simp only [both_eq_ok_iff, defaulted_eq_ok_iff durations, defaulted_eq_ok_iff wholes,
    defaulted_eq_ok_iff reals, defaulted_eq_ok_iff modes]
  constructor
  · rintro ⟨⟨⟨mode, attempts⟩, ⟨fixed, initial⟩, ⟨limit, multiplier⟩, attempt, total⟩,
      ⟨⟨h1, h2⟩, ⟨h3, h4⟩, ⟨h5, h6⟩, h7, h8⟩, done⟩
    dsimp only at done
    split at done
    · cases done
    · rename_i sound
      cases done
      exact ⟨h1, h2, h3, h4, h5, h6, h7, h8, RetryPolicy.broken?_eq_none_iff.mp sound⟩
  · intro fields
    refine ⟨((p.mode, p.maxAttempts), (p.fixedDelay, p.initialDelay), (p.maxDelay, p.multiplier),
      p.attemptTimeout, p.totalTimeout), ⟨⟨fields.mode, fields.maxAttempts⟩,
      ⟨fields.fixedDelay, fields.initialDelay⟩, ⟨fields.maxDelay, fields.multiplier⟩,
      fields.attemptTimeout, fields.totalTimeout⟩, ?_⟩
    dsimp only
    rw [RetryPolicy.broken?_eq_none_iff.mpr fields.sound]

end Records
end BlobStorage
