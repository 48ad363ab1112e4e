import BlobStorage.Proofs.Endpoints
import BlobStorage.Proofs.Settings.Properties

/-!
Which values setters admit. A rule looks at a value before it is coerced: numbers are compared as what they
stand for, and a text is no number yet.
-/
namespace BlobStorage
open Settings

/-- A number that is not below or at a bound, as the relation has it. Null is let be. -/
inductive Clears (r : ℚ → ℚ → Prop) (bound : ℚ) : Value → Prop
  | null : Clears r bound .null
  | flag {b : Bool} (clear : ¬ r (if b then 1 else 0) bound) : Clears r bound (.flag b)
  | whole {n : Int} (clear : ¬ r n bound) : Clears r bound (.whole n)
  | real {x : Binary64} (clear : ¬ x.Relates r bound) : Clears r bound (.real x)

/-- The address of a host on the web, where one is set at all. -/
inductive Addresses (proxy : Bool) : Value → Prop
  | null : Addresses proxy .null
  | text {s : String} (legible : Uri.Legible s.toList) (web : Uri.Web proxy s.toList) :
      Addresses proxy (.text s)

/-- A span of time that is not negative, where one is set at all. -/
inductive Lasts : Value → Prop
  | null : Lasts .null
  | duration {d : Duration} (forward : 0 ≤ d.micros) : Lasts (.duration d)

/-- The values that a setter admits under a rule. -/
def SetterRule.Admits : SetterRule → Value → Prop
  | anything, _ => True
  | endpoint proxy, v => Addresses proxy v
  | connections, v => Clears (· < ·) 1 v
  | duration, v => Lasts v
  | positive, v => Clears (· ≤ ·) 0 v
  | texts, v => ∃ entries, ToTable v entries

namespace Check
variable {name : String} {v : Value} {proxy : Bool}

theorem duration_eq_ok_iff : duration name v = .ok () ↔ Lasts v := by
  constructor
  · intro accepted
    unfold duration at accepted
    split at accepted
    · exact .null
    · split at accepted
      · cases accepted
      · rename_i forward
        exact .duration (Int.not_lt.mp fun negative => forward (decide_eq_true negative))
    · cases accepted
  · rintro (_ | forward)
    · rfl
    · exact if_neg fun negative => not_lt.mpr forward (of_decide_eq_true negative)

end Check

namespace SetterRule
variable {rule : SetterRule} {name : String} {s kept : Setting}

end SetterRule
end BlobStorage
