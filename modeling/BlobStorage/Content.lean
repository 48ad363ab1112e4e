/-!
The bytes of an object. A content longer than a few bytes is reported by its length and digest
elsewhere; here it is a plain list, so that slicing, joining and cutting are the list operations.
-/
namespace BlobStorage

abbrev Content := List UInt8

namespace Content

def ofText (text : String) : Content :=
  text.toList.flatMap String.utf8EncodeChar

/-- Consecutive pieces of `size` bytes; only the last one may be shorter. A size of zero cuts
nothing. -/
def pieces {α : Type} (size : Nat) (items : List α) : List (List α) :=
  if size = 0 ∨ items = [] then []
  else items.take size :: pieces size (items.drop size)
termination_by items.length
decreasing_by
  rename_i h
  have : items.length ≠ 0 := by simpa using fun e => h (Or.inr e)
  simp only [List.length_drop]
  omega

/-- The last `count` bytes, or all of them when there are fewer. -/
def suffix (count : Nat) (bytes : Content) : Content :=
  bytes.drop (bytes.length - count)

end Content
end BlobStorage
