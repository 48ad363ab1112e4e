import BlobStorage.Action
import BlobStorage.Turns

/-!
Work that is submitted first and carried out later. Units are numbered in the order in which they
are submitted. They may be carried out in any order, and their results are told in the order of
their numbers, so that the order of the work shows only in what it does.
-/
namespace BlobStorage

structure Queue (α β : Type) where
  submitted : Nat := 0
  /-- The units that wait, with their numbers. -/
  waiting : List (α × Nat) := []
  /-- The results of the units that were carried out, with their numbers, the latest first. -/
  done : List (β × Nat) := []

namespace Queue

variable {σ α β : Type}

def submit (q : Queue α β) (units : List α) : Queue α β :=
  { q with
    submitted := q.submitted + units.length
    waiting := q.waiting ++ units.zipIdx q.submitted }

/-- Carries out one unit for every turn. -/
def advance (run : α → Action σ β) : Turns → Queue α β → Action σ (Queue α β)
  | [], q => return q
  | n :: turns, q =>
      match q.waiting with
      | [] => return q
      | first :: rest => do
          let ((unit, number), waiting) := Turns.pick n first rest
          let result ← run unit
          advance run turns { q with waiting, done := (result, number) :: q.done }

/-- Carries out all that waits, in order once the turns have run out. -/
def finish (run : α → Action σ β) (turns : Turns) (q : Queue α β) : Action σ (Queue α β) := do
  let q ← advance run turns q
  advance run (Turns.inOrder q.waiting.length) q

/-- The results in the order in which their units were submitted. -/
def results (q : Queue α β) : List β :=
  (q.done.mergeSort fun a b => decide (a.2 ≤ b.2)).map (·.1)

end Queue
end BlobStorage
