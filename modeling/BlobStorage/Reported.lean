import BlobStorage.Value

/-!
What a remote service says of something. A part of a reply should be of a certain type, and mostly
is; a part of any other type is handed on as it came. A provider that keeps its own state says known
things only.
-/
namespace BlobStorage

class Sayable (α : Type) where
  value : α → Value
  /-- The member that a value is. -/
  ofValue? : Value → Option α

instance : Sayable String where
  value := .text
  ofValue? := fun | .text s => some s | _ => none

instance : Sayable Int where
  value := .whole
  ofValue? := fun | .whole n => some n | _ => none

instance : Sayable Moment where
  value := .moment
  ofValue? := fun | .moment m => some m | _ => none

inductive Reported (α : Type) where
  | known (a : α)
  | other (v : Value)
  deriving Repr

namespace Reported

variable {α : Type}

instance : Coe α (Reported α) := ⟨known⟩

def known? : Reported α → Option α
  | known a => some a
  | other _ => none

variable [Sayable α]

def ofValue (v : Value) : Reported α :=
  match Sayable.ofValue? v with
  | some a => known a
  | none => other v

def value : Reported α → Value
  | known a => Sayable.value a
  | other v => v

/-- Nothing is said where the value is null. -/
def ofValue? : Value → Option (Reported α)
  | .null => none
  | v => some (ofValue v)

def value? : Option (Reported α) → Value
  | some r => r.value
  | none => .null

def isGiven (r : Reported α) : Bool := r.value.isGiven

end Reported
end BlobStorage
