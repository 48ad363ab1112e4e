/-!
Classes of characters given by their boundaries: an ascending list of code points at which
membership changes, starting outside the class.
-/
namespace BlobStorage.Text.Boundary

/-- Whether the code point lies in the class, that is, whether an odd number of changes is at or
below it. -/
def contains : List Nat → Nat → Bool
  | [], _ => false
  | [start], n => start ≤ n
  | start :: stop :: rest, n =>
      if n < start then false else if n < stop then true else contains rest n

end BlobStorage.Text.Boundary
