import BlobStorage.Object

/-!
Collecting identifiers into batches of a fixed size, as they come in.
-/
namespace BlobStorage.Directory

/-- Cuts full batches off the front; what is left is shorter than a batch. -/
def cutFull {α : Type} (size : Nat) (items : List α) : List (List α) × List α :=
  if size = 0 ∨ items.length < size then ([], items)
  else
    let (batches, rest) := cutFull size (items.drop size)
    (items.take size :: batches, rest)
termination_by items.length
decreasing_by
  simp only [List.length_drop]
  omega

def lastBatch {α : Type} (pending : List α) : List (List α) :=
  if pending.isEmpty then [] else [pending]

end BlobStorage.Directory
