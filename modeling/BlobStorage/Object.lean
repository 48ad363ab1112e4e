import BlobStorage.Reported
import BlobStorage.Table

/-!
What is known about stored objects: how they are named, their attributes, their metadata and
their locks.
-/
namespace BlobStorage

/-- Names with values, in order; a value may be missing. -/
abbrev Attributes := Table String (Option String)

/-- One object, or one version of it. -/
structure Identifier where
  key : String
  version : Option String := none
  deriving DecidableEq, Repr

/-- An object to be deleted together with others. Its key is what a listing reported. -/
structure Target where
  key : Reported String
  version : Option String := none
  deriving Repr

def Identifier.target (i : Identifier) : Target := ⟨i.key, i.version⟩

inductive RetentionMode where
  | governance
  | compliance
  deriving DecidableEq, Repr

namespace RetentionMode

def name : RetentionMode → String
  | governance => "GOVERNANCE"
  | compliance => "COMPLIANCE"

def ofName? (text : String) : Option RetentionMode :=
  [governance, compliance].find? (·.name = text)

end RetentionMode

structure LockSettings where
  mode : Option RetentionMode
  retainUntil : Option Moment
  legalHold : Bool := false
  deriving DecidableEq, Repr

structure Retention where
  mode : Option RetentionMode
  retainUntil : Option Moment
  deriving DecidableEq, Repr

structure LockInfo where
  mode : Option RetentionMode := none
  retainUntil : Option (Reported Moment) := none
  legalHold : Bool := false
  deriving Repr

def Retention.lockInfo (r : Retention) : LockInfo :=
  { mode := r.mode, retainUntil := r.retainUntil.map .known }

/-- The metadata of a stored object; the size is that of the bytes it describes. -/
structure BlobMetadata where
  key : String
  size : Reported Int
  version : Option (Reported String) := none
  etag : Option (Reported String) := none
  metadata : Table String (Option (Reported String)) := []
  lastModified : Option (Reported Moment) := none
  md5 : Option Content := none
  checksum : Option (Reported String) := none
  contentType : Option (Reported String) := none
  deriving Repr

structure BlobInfo where
  key : Reported String
  size : Reported Int
  lastModified : Option (Reported Moment) := none
  version : Option String := none
  etag : Option (Reported String) := none
  deriving Repr

def BlobInfo.target (b : BlobInfo) : Target := ⟨b.key, b.version⟩

structure BucketInfo where
  name : Reported String
  region : Option (Reported String) := none
  created : Option (Reported Moment) := none
  deriving Repr

end BlobStorage
