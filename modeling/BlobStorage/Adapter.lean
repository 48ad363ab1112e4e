import BlobStorage.Reply
import BlobStorage.Settings.Config
import BlobStorage.World

/-!
Adapters: the primitives through which one bucket of one provider is reached. They take requests
that have been checked, and fail natively.
-/
namespace BlobStorage

structure Adapter (ρ : Type) where
  config : Config
  bucket : String
  /-- The most identifiers that one bulk delete takes. -/
  deleteLimit : Int := 1000
  /-- The highest part number. -/
  partLimit : Int := 10000
  /-- A bound on the number of pages of any listing from here on. -/
  pageBound : World ρ → Nat
  classify : Failure → Op ρ ErrorKind
  uploadBytes : UploadRequest → Content → Op ρ UploadReceipt
  uploadStream : UploadRequest → Content → Op ρ UploadReceipt
  uploadFile : UploadRequest → Path → Op ρ UploadReceipt
  /-- Delivers the bytes to a stream or a file. -/
  downloadToStream : DownloadRequest → Op ρ (Content × DownloadReply)
  downloadBytes : DownloadRequest → Op ρ (Content × DownloadReply)
  /-- Replies with a live body. -/
  downloadStream : DownloadRequest → Op ρ DownloadReply
  delete : Identifier → Op ρ Unit
  deleteMany : List Target → Op ρ Unit
  copy : CopyRequest → Op ρ CopyReceipt
  copyFrom : CopyFromRequest → Op ρ CopyReceipt
  getMetadata : Identifier → Op ρ BlobMetadata
  listPage : PageRequest → Op ρ Page
  initiateUpload : MultipartRequest → Op ρ UploadToken
  uploadPart : UploadToken → Part → Op ρ PartReceipt
  completeUpload : UploadToken → List PartReceipt → Op ρ MultipartReceipt
  listParts : UploadToken → Op ρ (List ListedPart)
  abortUpload : UploadToken → Op ρ Unit
  getTags : String → Op ρ (Table String Value)
  setTags : String → Attributes → Op ρ Unit
  presign : PresignedOperation → PresignRequest → Op ρ Value
  objectExists : Identifier → Op ρ Bool
  bucketExists : Op ρ Bool
  getRetention : Identifier → Op ρ (Option LockInfo)
  getLegalHold : Identifier → Op ρ Bool
  putRetention : Identifier → RetentionMode → Option Moment → Op ρ Unit
  putLegalHold : Identifier → Bool → Op ρ Unit
  /-- Closes the live body of a download. -/
  closeBody : Op ρ Unit
  close : Op ρ Unit

/-- The failure as one of the taxonomy, about a key if there is one. A classification that fails
itself leaves it unknown. -/
def categorizeWith {ρ : Type} (classify : Failure → Op ρ ErrorKind) (f : Failure)
    (key : Option String) (chained : Bool) : Op ρ Failure := do
  match ← (classify f).outcome with
  | .ok category => return f.categorize category key chained
  | .error _ => return f.categorize .unknown key chained

namespace Adapter

variable {ρ : Type}

def listingIn (a : Adapter ρ) (style : CallStyle) : Adapter ρ :=
  { a with listPage := fun request => style.reach (a.listPage request) }

/-- Uploads a file as a stream of its bytes; its size is the declared length if none was. -/
def fileUpload (guard : Guard ρ) (uploadStream : UploadRequest → Content → Op ρ UploadReceipt)
    (request : UploadRequest) (path : Path) : Op ρ UploadReceipt := do
  guard .uploadFile request.key
  let files := (← get).files
  match ← Action.ofAmbient (files.read? path) with
  | some content =>
      let length := request.contentLength.getD (Int.ofNat content.length)
      uploadStream { request with contentLength := length } content
  | none => throw (.ambient (.file .missing path.text))

end Adapter

/-- The primitives for a whole account. -/
structure ServiceAdapter (ρ : Type) where
  config : Config
  classify : Failure → Op ρ ErrorKind
  listBuckets : Op ρ (List BucketInfo)
  createBucket : String → Op ρ Unit
  close : Op ρ Unit

end BlobStorage
