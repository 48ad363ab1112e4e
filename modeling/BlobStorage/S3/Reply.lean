import BlobStorage.Failure
import BlobStorage.Reply
import BlobStorage.Value.Access

/-!
What the S3 service replies, and reading it. A reply is a value whose parts may be missing: some
are required, and others have a default or are simply not known.
-/
namespace BlobStorage.S3

structure Reply where
  value : Value := .map []
  /-- What reading on fails with when the body is used up. -/
  bodyFailure : Option Failure := none
  /-- The bytes that a managed download writes. -/
  written : Content := []
  deriving Repr

namespace Document

def said? {α : Type} [Sayable α] (v : Value) (name : String) :
    Except Ambient (Option (Reported α)) := do
  return Reported.ofValue? (← v.partOr name .null)

def said {α : Type} [Sayable α] (v : Value) (name : String) : Except Ambient (Reported α) := do
  return Reported.ofValue (← v.part name)

/-- A size, zero unless the reply has one. -/
def size (v : Value) (name : String) : Except Ambient (Reported Int) := do
  return Reported.ofValue (← v.partOr name (.whole 0))

def isGiven (v : Value) (name : String) : Except Ambient Bool := do
  return (← v.partOr name .null).isGiven

/-- Reads the items under a name one by one; a reply without them has none. -/
def each {α : Type} (v : Value) (name : String) (read : Value → Except Ambient α) :
    Except Ambient (List α) := do
  (← (← v.partOr name (.list [])).items).mapM read

end Document
end BlobStorage.S3
