import BlobStorage.Failure
import BlobStorage.Object
import BlobStorage.Request

/-!
Replies, as an adapter gives them.
-/
namespace BlobStorage

structure UploadReceipt where
  key : String
  version : Option (Reported String) := none
  etag : Option (Reported String) := none
  checksum : Option (Reported String) := none
  deriving Repr

/-- A live stream of an object's bytes. When they are used up, reading on may fail. -/
structure Body where
  content : Content
  failure : Option Failure := none
  deriving Repr

/-- What a download that goes nowhere carries. -/
inductive LiveBody where
  | stream (body : Body)
  /-- Something that cannot be read. -/
  | other (v : Value)
  deriving Repr

structure DownloadReply where
  key : String
  metadata : BlobMetadata
  body : Option LiveBody := none
  deriving Repr

structure Batch where
  blobs : List BlobInfo
  commonPrefixes : List (Reported String)
  deriving Repr

abbrev PageToken := Reported String

structure Page extends Batch where
  isTruncated : Bool := false
  nextToken : Option PageToken := none
  deriving Repr

/-- The token of the page that follows, if one does. -/
def Page.follow? (p : Page) : Option PageToken :=
  if p.isTruncated then p.nextToken.filter (·.isGiven) else none

structure CopyReceipt where
  key : String
  version : Option (Reported String) := none
  etag : Option (Reported String) := none
  lastModified : Option (Reported Moment) := none
  deriving Repr

structure PartReceipt where
  number : Int
  etag : Reported String
  size : Int
  deriving Repr

structure ListedPart where
  number : Reported Int
  etag : Reported String
  size : Reported Int
  deriving Repr

def PartReceipt.listed (p : PartReceipt) : ListedPart := ⟨p.number, p.etag, p.size⟩

structure MultipartReceipt where
  etag : Option (Reported String)
  version : Option (Reported String) := none
  deriving Repr

end BlobStorage
