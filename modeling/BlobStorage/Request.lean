import BlobStorage.Failure.Ambient
import BlobStorage.Object

/-!
Requests, as a caller puts them. Numbers are whatever was asked for; validation decides which are
accepted.
-/
namespace BlobStorage

structure UploadRequest where
  key : String
  contentLength : Option Int := none
  metadata : Attributes := []
  tags : Attributes := []
  contentType : Option String := none
  kmsKey : Option String := none
  checksum : Option String := none
  storageClass : Option String := none
  lock : Option LockSettings := none
  deriving Repr

/-- A download, restricted to a range when a bound is given. Both bounds count from zero and are
inclusive; a start alone means all from there on, an end alone the last so many bytes. -/
structure DownloadRequest where
  key : String
  version : Option String := none
  start : Option Int := none
  stop : Option Int := none
  deriving DecidableEq, Repr

namespace DownloadRequest

def hasRange (r : DownloadRequest) : Bool := r.start.isSome || r.stop.isSome

def rangeHeader (r : DownloadRequest) : Option String :=
  match r.start, r.stop with
  | some start, some stop => some ("bytes=" ++ toString start ++ "-" ++ toString stop)
  | some start, none => some ("bytes=" ++ toString start ++ "-")
  | none, some stop => some ("bytes=-" ++ toString stop)
  | none, none => none

end DownloadRequest

/-- A listing of the keys that start with `stem`. Keys that hold the delimiter after the stem are
rolled up into common prefixes. -/
structure ListRequest where
  stem : Option String := none
  delimiter : Option String := none
  maxResults : Option Int := none
  deriving DecidableEq, Repr

structure PageRequest extends ListRequest where
  token : Option (Reported String) := none
  deriving Repr

/-- A copy of an object of this bucket, to the same bucket unless another is named. -/
structure CopyRequest where
  srcKey : String
  destKey : String
  destBucket : Option String := none
  srcVersion : Option String := none
  deriving DecidableEq, Repr

structure CopyFromRequest where
  srcBucket : String
  srcKey : String
  destKey : String
  srcVersion : Option String := none
  deriving DecidableEq, Repr

structure MultipartRequest where
  key : String
  metadata : Attributes := []
  tags : Attributes := []
  contentType : Option String := none
  kmsKey : Option String := none
  deriving Repr

/-- Names an upload in progress. Any holder of a copy may go on with the upload. -/
structure UploadToken where
  bucket : String
  key : String
  id : Reported String
  metadata : Attributes := []
  tags : Attributes := []
  kmsKey : Option String := none
  deriving Repr

/-- Bytes at hand, or a stream that still holds them. -/
inductive Source where
  | bytes (content : Content)
  | stream (content : Content)
  deriving DecidableEq, Repr

/-- Reading from a stream: so many bytes at most, or all of them for a negative count. A count has
to fit a word of 64 bits. -/
def Content.read (content : Content) (count : Int) : Except Ambient Content :=
  if count < -9223372036854775808 ∨ 9223372036854775807 < count then .error .indexRange
  else .ok (if count < 0 then content else content.take count.toNat)

/-- Reading from a file: of the negative counts, only minus one means all of the bytes. -/
def Content.readFile (content : Content) (count : Int) : Except Ambient Content := do
  let found ← content.read count
  if count < -1 then .error .readLength else .ok found

structure Part where
  number : Int
  source : Source
  contentLength : Option Int := none
  deriving DecidableEq, Repr

namespace Part

/-- The declared length, or else the length of the bytes at hand. A stream has none of its own. -/
def size (p : Part) : Except Ambient Int :=
  match p.contentLength, p.source with
  | some n, _ => .ok n
  | none, .bytes content => .ok (Int.ofNat content.length)
  | none, .stream content => .error (.noLength (Value.stream content).fullTypeName)

/-- The bytes of the part; a stream gives at most its declared length. -/
def data (p : Part) : Except Ambient Content :=
  match p.source with
  | .bytes content => .ok content
  | .stream content => do content.read (← p.size)

end Part

inductive PresignedOperation where
  | upload
  | download
  deriving DecidableEq, Repr

def PresignedOperation.name : PresignedOperation → String
  | upload => "UPLOAD"
  | download => "DOWNLOAD"

structure PresignRequest where
  /-- A supported operation, or whatever was given in its place. -/
  operation : Except Value PresignedOperation
  key : String
  duration : Option Duration
  metadata : Attributes := []
  tags : Attributes := []
  kmsKey : Option String := none

end BlobStorage
