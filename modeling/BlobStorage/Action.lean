import BlobStorage.Failure

/-!
Actions on a state that may fail. What an action did to the state before it failed stays done, so
atomicity is a property to be shown of an action and not a gift.
-/
namespace BlobStorage

abbrev Action (σ : Type) := ExceptT Failure (StateM σ)

namespace Action

variable {σ α : Type}

/-- Runs the action from a state: its outcome, and the state it leaves. -/
def runFrom (a : Action σ α) (s : σ) : Except Failure α × σ := a.run s

def ofExcept (r : Except Failure α) : Action σ α := fun s => (r, s)

def ofAmbient (r : Except Ambient α) : Action σ α := ofExcept (r.mapError .ambient)

def outcome (a : Action σ α) : Action σ (Except Failure α) := fun s =>
  let (r, s) := a s
  (.ok r, s)

/-- Does the second action if the first fails; the first failure is what comes out. -/
def onFailure (a : Action σ α) (cleanup : Action σ Unit) : Action σ α := do
  match ← a.outcome with
  | .ok x => return x
  | .error f => do
      cleanup
      throw f

def awaited (a : Action σ α) : Action σ α := fun s =>
  let (r, s) := a s
  (r.mapError Failure.handed, s)

end Action

/-- Whether a caller waits for each operation, or goes on and is told. -/
inductive CallStyle where
  | blocking
  | awaited
  deriving DecidableEq, Repr

namespace CallStyle

def hand (style : CallStyle) (f : Failure) : Failure :=
  match style with
  | blocking => f
  | awaited => f.handed

def reach {σ α : Type} (style : CallStyle) (a : Action σ α) : Action σ α :=
  match style with
  | blocking => a
  | awaited => a.awaited

end CallStyle
end BlobStorage
