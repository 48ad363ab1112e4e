import BlobStorage.Proofs.Settings.Kinds
import BlobStorage.Proofs.Settings.Rules
import BlobStorage.Proofs.Settings.Slots

/-!
What a configuration made from calls of setters holds. Setters look at values before they are coerced,
so what a rule admits has to be compared with what it is taken for: a number that is more than zero and
stands for a whole number is at least one.
-/
namespace BlobStorage
open Settings

/-- What a slot holds: what the setting given for it is taken for, if one was given. -/
structure Slot.Holds (s : Slot) (given? : Option Setting) (config : Config) : Prop where
  given : ∀ v, given? = some v → s.rule.Admits v.value ∧ s.kind.Takes v (s.look config)
  missing : given? = none → s.look config = s.kind.unset

namespace SettingName
variable {n : SettingName} {v kept : Setting}

end SettingName

namespace Factory
variable {f : Factory} {calls : List SetterCall} {config : Config} {n : SettingName}

end Factory

section Set
variable {α : Type} {takes : Value → α → Prop} {admits : Value → Prop} {given? : Option Setting}
  {held? : Option α} {a : α}

/-- Where something that may be unset is held, a value was admitted that is taken for it. -/
theorem taken_of_set
    (given : ∀ v, given? = some v → admits v.value ∧ Perhaps takes v.value held?)
    (missing : given? = none → held? = none) (set : held? = some a) : ∃ v, admits v ∧ takes v a := by
  cases given? with
  | none => cases set.symm.trans (missing rfl)
  | some v =>
      obtain ⟨admitted, perhaps⟩ := given v rfl
      rw [set] at perhaps
      generalize v.value = value at admitted perhaps
      cases perhaps with
      | set _ is => exact ⟨value, admitted, is⟩

namespace Slot.Holds
variable {name : String} {rule : SetterRule} {config : Config}

theorem forward {look : Config → Option Duration} {put : Config → Option Duration → Config} {d : Duration}
    (holds : (⟨name, .duration, .duration, look, put⟩ : Slot).Holds given? config)
    (set : look config = some d) : 0 ≤ d.micros := by
  obtain ⟨v, admitted, is⟩ := taken_of_set holds.given holds.missing set
  cases admitted with
  | null => cases is
  | duration forward =>
      cases is
      exact forward

theorem web {look : Config → Option String} {put : Config → Option String → Config} {proxy : Bool}
    {text : String} (holds : (⟨name, .endpoint proxy, .text, look, put⟩ : Slot).Holds given? config)
    (set : look config = some text) : Uri.Legible text.toList ∧ Uri.Web proxy text.toList := by
  obtain ⟨v, admitted, is⟩ := taken_of_set holds.given holds.missing set
  cases admitted with
  | null => cases is
  | text legible web =>
      cases is
      exact ⟨legible, web⟩

end Slot.Holds

end Set

namespace Config

def timeouts (c : Config) : List (Option Duration) := [c.socketTimeout, c.idleConnectionTimeout]

end Config

/-- A truth value is accepted for a number and coerced to one; what is rejected later leaves it. -/
example :
    ((Factory.memory .store).after (Factory.memory .store).builder
      [⟨.builder, "with_max_connections", [.plain (.flag true)]⟩,
        ⟨.clientBuilder, "with_max_connections", [.plain (.whole 0)]⟩]).config.map
      (·.maxConnections) = .ok (some 1) := by
  rfl

end BlobStorage
