import BlobStorage.Digest.Md5
import BlobStorage.Memory.Fault
import BlobStorage.Request

/-!
The state that every memory store on one backend shares: buckets of objects, each object a list of
versions with the newest last, and the uploads in progress. Versions and uploads take their
numbers from one counter. Changing operations give a fault or the new state, never both.
-/
namespace BlobStorage.Memory

/-- What an upload, a copy or a completion writes. -/
structure Draft where
  data : Content
  etag : String
  metadata : Attributes := []
  tags : Attributes := []
  contentType : Option String := none
  checksum : Option String := none
  retention : Option Retention := none
  legalHold : Bool := false
  deriving DecidableEq, Repr

/-- A draft with the number and the time it was written under. -/
structure Version extends Draft where
  number : Nat
  modified : Moment
  deriving DecidableEq, Repr

/-- An upload in progress with the latest bytes and tag of each part. -/
structure Upload where
  key : String
  metadata : Attributes
  tags : Attributes
  contentType : Option String
  parts : Table Int (Content × String) := []
  deriving DecidableEq, Repr

structure Bucket where
  name : String
  region : Option String
  created : Moment
  objects : Table String (List Version) := []
  uploads : Table String Upload := []
  deriving DecidableEq, Repr

structure Backend where
  buckets : Table String Bucket := []
  nextNumber : Nat := 1
  signingKey : Content := []
  now : Moment
  deriving DecidableEq, Repr

/-- The tag of some bytes: their digest in quotation marks. -/
def etagOf (data : Content) : String := "\"" ++ Digest.Md5.hex data ++ "\""

namespace Version

def id (v : Version) : String := toString v.number

/-- Whether the version must not be deleted: it is under a legal hold, or it is retained until a
later moment. -/
def isLocked (v : Version) (now : Moment) : Bool :=
  v.legalHold ||
    (match v.retention.bind (·.retainUntil) with
    | some m => now.universal < m.universal
    | none => false)

end Version

namespace Bucket

/-- The versions of a key, oldest first. -/
def versions (b : Bucket) (key : String) : List Version :=
  (b.objects.get? key).getD []

def version (b : Bucket) (key : String) (id : Option String) : Except Fault Version :=
  match (b.versions key).getLast? with
  | none => .error (.noKey key)
  | some newest =>
      match id with
      | none => .ok newest
      | some id =>
          match (b.versions key).find? fun v => decide (v.id = id) with
          | some v => .ok v
          | none => .error (.noVersion id key)

/-- Sets a key's versions; a key without versions is not kept. -/
def setVersions (b : Bucket) (key : String) (versions : List Version) : Bucket :=
  if versions.isEmpty then { b with objects := b.objects.erase key }
  else { b with objects := b.objects.set key versions }

def push (b : Bucket) (key : String) (v : Version) : Bucket :=
  b.setVersions key (b.versions key ++ [v])

def amend (b : Bucket) (key : String) (id : Option String) (change : Version → Version) :
    Except Fault Bucket := do
  let chosen ← b.version key id
  return b.setVersions key <|
    (b.versions key).map fun v => if v.number = chosen.number then change v else v

def upload (b : Bucket) (token : UploadToken) : Except Fault (String × Upload) :=
  match token.id with
  | .known id =>
      match b.uploads.get? id with
      | some u => if u.key = token.key then .ok (id, u) else .error (.noUpload id)
      | none => .error (.noUpload id)
  | .other v => .error (.noUpload v.shown)

end Bucket

namespace Backend

def bucket (s : Backend) (name : String) : Except Fault Bucket :=
  match s.buckets.get? name with
  | some b => .ok b
  | none => .error (.noBucket name)

def setBucket (s : Backend) (b : Bucket) : Backend :=
  { s with buckets := s.buckets.set b.name b }

def hasBucket (s : Backend) (name : String) : Bool := s.buckets.contains name

def newBucket (s : Backend) (name : String) (region : Option String) : Backend :=
  s.setBucket { name, region, created := s.now }

def createBucket (s : Backend) (name : String) (region : Option String) : Except Fault Backend :=
  if s.hasBucket name then .error (.bucketExists name) else .ok (s.newBucket name region)

def ensureBucket (s : Backend) (name : String) (region : Option String) : Backend :=
  if s.hasBucket name then s else s.newBucket name region

def deleteBucket (s : Backend) (name : String) : Backend :=
  { s with buckets := s.buckets.erase name }

def listBuckets (s : Backend) : List BucketInfo :=
  (s.buckets.map (·.2)).mergeSort (fun a b => decide (a.name ≤ b.name))
    |>.map fun b => { name := b.name, region := b.region.map .known, created := some b.created }

def takeNumber (s : Backend) : Nat × Backend :=
  (s.nextNumber, { s with nextNumber := s.nextNumber + 1 })

def store (s : Backend) (bucket key : String) (draft : Draft) :
    Except Fault (Version × Backend) := do
  let b ← s.bucket bucket
  let (number, s) := s.takeNumber
  let v : Version := { draft with number, modified := s.now }
  return (v, s.setBucket (b.push key v))

/-- The named version of a key, or its newest. -/
def version (s : Backend) (bucket key : String) (id : Option String) : Except Fault Version := do
  (← s.bucket bucket).version key id

/-- Deletes the named version of a key, or all its versions; what is missing is left alone. Nothing
is deleted when a version that would be is locked. -/
def delete (s : Backend) (bucket key : String) (id : Option String) : Except Fault Backend := do
  let b ← s.bucket bucket
  let isTarget (v : Version) : Bool := match id with | none => true | some id => v.id = id
  if ((b.versions key).filter isTarget).any (·.isLocked s.now) then
    .error (.protectedObject key)
  else return s.setBucket (b.setVersions key ((b.versions key).filter fun v => !isTarget v))

/-- Copies a version's bytes and attributes, but not its lock, as a new version. -/
def copy (s : Backend) (srcBucket srcKey : String) (srcId : Option String)
    (destBucket destKey : String) : Except Fault (Version × Backend) := do
  let source ← s.version srcBucket srcKey srcId
  s.store destBucket destKey
    { source.toDraft with retention := none, legalHold := false }

def amend (s : Backend) (bucket key : String) (id : Option String) (change : Version → Version) :
    Except Fault Backend := do
  let b ← s.bucket bucket
  return s.setBucket (← b.amend key id change)

def setTags (s : Backend) (bucket key : String) (tags : Attributes) : Except Fault Backend :=
  s.amend bucket key none fun v => { v with tags }

def setRetention (s : Backend) (bucket key : String) (id : Option String)
    (retention : Retention) : Except Fault Backend :=
  s.amend bucket key id fun v => { v with retention := some retention }

def setLegalHold (s : Backend) (bucket key : String) (id : Option String) (hold : Bool) :
    Except Fault Backend :=
  s.amend bucket key id fun v => { v with legalHold := hold }

end Backend
end BlobStorage.Memory
