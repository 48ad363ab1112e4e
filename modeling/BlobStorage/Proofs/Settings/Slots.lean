import BlobStorage.Proofs.Settings.Coercion
import BlobStorage.Proofs.Table
import BlobStorage.Settings.Builder

/-!
The slots of a configuration. Each setting is read into a slot apart from all the others, so the reading of
settings one after the other comes to this: a slot holds what its setting is read as, or what it held before
where the setting is missing.
-/
namespace BlobStorage
open Settings

namespace Slot

/-- Neither slot is touched by what is put into the other, and they are for different settings. -/
structure Apart (s t : Slot) : Prop where
  left : ∀ c v, s.look (t.put c v) = s.look c
  right : ∀ c v, t.look (s.put c v) = t.look c
  names : s.name ≠ t.name

end Slot

section Reading
variable {settings : Table String Setting} {s : Slot} {ss : List Slot} {c c' : Config}

theorem Slot.Apart.symm {s t : Slot} (apart : s.Apart t) : t.Apart s :=
  ⟨apart.right, apart.left, apart.names.symm⟩

/-- One slot after its reading: as it was, or with what its setting is read as. -/
inductive Slot.Leads (settings : Table String Setting) (s : Slot) (c : Config) : Config → Prop
  | missing : settings.get? s.name = none → Leads settings s c c
  | given {v : Setting} {a : s.kind.Held} :
      settings.get? s.name = some v → s.kind.read v = .ok a → Leads settings s c (s.put c a)

end Reading

section Making
variable {b : Builder} {config : Config}

end Making
end BlobStorage
