import BlobStorage.Proofs.Settings.Properties
import BlobStorage.Proofs.Settings.Records

/-!
What settings are taken for. A setting of the right type is held as it is and null leaves it unset; all
else is coerced, records from tables and properties from pairs.
-/
namespace BlobStorage
open Settings

inductive ToCredentials : Setting → Option Credentials → Prop
  | unset : ToCredentials (.plain .null) none
  | held (c : Credentials) : ToCredentials (.credentials c) (some c)
  | table {entries : List (Value × Value)} {c : Credentials} (fields : CredentialsFields entries c) :
      ToCredentials (.plain (.table entries)) (some c)

inductive ToRetry : Setting → Option RetryPolicy → Prop
  | unset : ToRetry (.plain .null) none
  | held (p : RetryPolicy) : ToRetry (.retry p) (some p)
  | table {entries : List (Value × Value)} {p : RetryPolicy} (fields : RetryFields entries p) :
      ToRetry (.plain (.table entries)) (some p)

/-- An executor is there or not. -/
inductive ToExecutor : Setting → Bool → Prop
  | unset : ToExecutor (.plain .null) false
  | held : ToExecutor .executor true

namespace Setting
variable {s : Setting}

theorem readCredentials_eq_ok_iff {c? : Option Credentials} :
    s.readCredentials = .ok c? ↔ ToCredentials s c? := by
  constructor
  · intro read
    unfold readCredentials at read
    split at read
    · cases read
      exact .unset
    · obtain ⟨c, own, rfl⟩ := map_eq_ok_iff.mp read
      exact .table (Credentials.read_eq_ok_iff.mp own)
    · cases read
      exact .held _
    · cases read
  · rintro (_ | _ | fields)
    · rfl
    · rfl
    · exact map_eq_ok_iff.mpr ⟨_, Credentials.read_eq_ok_iff.mpr fields, rfl⟩

theorem readRetry_eq_ok_iff {p? : Option RetryPolicy} : s.readRetry = .ok p? ↔ ToRetry s p? := by
  constructor
  · intro read
    unfold readRetry at read
    split at read
    · cases read
      exact .unset
    · obtain ⟨p, own, rfl⟩ := map_eq_ok_iff.mp read
      exact .table (RetryPolicy.read_eq_ok_iff.mp own)
    · cases read
      exact .held _
    · cases read
  · rintro (_ | _ | fields)
    · rfl
    · rfl
    · exact map_eq_ok_iff.mpr ⟨_, RetryPolicy.read_eq_ok_iff.mpr fields, rfl⟩

theorem readExecutor_eq_ok_iff {there : Bool} :
    s.readExecutor = .ok there ↔ ToExecutor s there := by
  constructor
  · intro read
    unfold readExecutor at read
    split at read <;> cases read
    · exact .unset
    · exact .held
  · rintro (_ | _) <;> rfl

end Setting

namespace SettingKind

def Takes : (kind : SettingKind) → Setting → kind.Held → Prop
  | name, s, a => ToText s.value a
  | text, s, a => Perhaps ToText s.value a
  | flag, s, a => Perhaps ToFlag s.value a
  | whole, s, a => Perhaps ToWhole s.value a
  | real, s, a => Perhaps ToReal s.value a
  | duration, s, a => Perhaps ToDuration s.value a
  | credentials, s, a => ToCredentials s a
  | executor, s, a => ToExecutor s a
  | retry, s, a => ToRetry s a
  | texts, s, a => ToTexts s.value a

/-- What is held where nothing is set. -/
def unset : (kind : SettingKind) → kind.Held
  | name => ""
  | text => (none : Option String)
  | flag => (none : Option Bool)
  | whole => (none : Option Int)
  | real => (none : Option Binary64)
  | duration => (none : Option Duration)
  | credentials => (none : Option Credentials)
  | executor => false
  | retry => (none : Option RetryPolicy)
  | texts => ([] : Table String String)

variable {kind : SettingKind} {s : Setting}

theorem read_eq_ok_iff (other : kind ≠ .texts) {a : kind.Held} :
    kind.read s = .ok a ↔ kind.Takes s a := by
  cases kind with
  | name => exact text_eq_ok_iff
  | text => exact optional_eq_ok_iff fun _ _ => text_eq_ok_iff
  | flag => exact optional_eq_ok_iff fun _ _ => flag_eq_ok_iff
  | whole => exact optional_eq_ok_iff fun _ _ => whole_eq_ok_iff
  | real => exact optional_eq_ok_iff fun _ _ => real_eq_ok_iff
  | duration => exact optional_eq_ok_iff fun _ _ => duration_eq_ok_iff
  | credentials => exact Setting.readCredentials_eq_ok_iff
  | executor => exact Setting.readExecutor_eq_ok_iff
  | retry => exact Setting.readRetry_eq_ok_iff
  | texts => exact absurd rfl other

/-- A setting is taken for one thing only. -/
theorem Takes.unique {a b : kind.Held} (first : kind.Takes s a) (second : kind.Takes s b) : a = b := by
  by_cases is : kind = .texts
  · subst is
    obtain ⟨entries, own, read⟩ := texts_eq_ok_iff.mpr first
    obtain ⟨entries', own', read'⟩ := texts_eq_ok_iff.mpr second
    cases own.symm.trans own'
    exact Except.ok.inj (read.symm.trans read')
  · exact Except.ok.inj (((read_eq_ok_iff is).mpr first).symm.trans ((read_eq_ok_iff is).mpr second))

end SettingKind
end BlobStorage
