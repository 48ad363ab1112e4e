/-!
Orders of work. Units that wait may be taken in any order: turns name, one after the other, the
position of the next unit among those that still wait. So every order of finitely many units is
that of some turns.
-/
namespace BlobStorage

abbrev Turns := List Nat

namespace Turns

variable {α : Type}

/-- The item at a position and the others in order; a position past the end is the last one. -/
def pick : Nat → α → List α → α × List α
  | 0, x, rest => (x, rest)
  | _ + 1, x, [] => (x, [])
  | n + 1, x, y :: rest =>
      let (chosen, others) := pick n y rest
      (chosen, x :: others)

/-- So many turns, each for the unit that waits longest. -/
def inOrder (count : Nat) : Turns := List.replicate count 0

end Turns

/-- Work that is done in rounds: the turns of a round, told the number of the round and how many
units wait. -/
abbrev Pace := Nat → Nat → Turns

namespace Pace

/-- All that waits has its turn in every round, in order. -/
def eager : Pace := fun _ waiting => Turns.inOrder waiting

/-- Nothing has its turn before the last round. -/
def deferred : Pace := fun _ _ => []

end Pace
end BlobStorage
