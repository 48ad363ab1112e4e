import BlobStorage.Adapter
import BlobStorage.Validation

/-!
The operations on a bucket. Each checks its request and then goes through the adapter. What holds
for every provider is decided here: where the bytes of an upload come from and where those of a
download go, in which order parts are submitted, and when a retention may be changed.
-/
namespace BlobStorage

inductive UploadSource where
  | bytes (content : Content)
  | stream (content : Content)
  | file (path : Path)
  | unsupported (typeName : String)
  deriving Repr

/-- Where the bytes of a download go; with nowhere to go, the reply carries a live body. -/
inductive Destination where
  | live
  | buffer
  | stream
  | file (path : Path)
  | unsupported (typeName : String)
  deriving Repr

structure Delivery where
  reply : DownloadReply
  delivered : Option Content := none
  deriving Repr

def partition {α : Type} (items : List α) (size : Int) : Except Failure (List (List α)) :=
  if size < 1 then .error (.refused (.partitionSize size))
  else .ok (Content.pieces size.toNat items)

namespace Store

variable {ρ : Type} (a : Adapter ρ)

def check (c : Check) : Op ρ Unit := Action.ofExcept c

def upload (request : UploadRequest) (source : UploadSource) : Op ρ UploadReceipt := do
  check (Check.key request.key)
  check (Check.tags request.tags)
  match source with
  | .bytes content => a.uploadBytes request content
  | .stream content => a.uploadStream request content
  | .file path =>
      if ← Action.ofAmbient ((← get).files.isFile path) then a.uploadFile request path
      else throw (.refusal (.sourceNotFile path.text) request.key)
  | .unsupported typeName => throw (.refusal (.sourceType typeName) request.key)

/-- Downloads to a file that must not exist yet. What fails leaves no file behind. -/
def downloadToFile (request : DownloadRequest) (path : Path) : Op ρ Delivery := do
  let files := (← get).files
  if ← Action.ofAmbient (files.exists? path) then
    throw (.refusal (.destinationExists path.text) request.key)
  let (files, name) ← Action.ofAmbient (files.create path)
  modify fun w => { w with files }
  let (content, reply) ← (a.downloadToStream request).onFailure
    (modify fun w => { w with files := w.files.remove name })
  modify fun w => { w with files := w.files.write name content }
  return ⟨reply, some content⟩

def download (request : DownloadRequest) (destination : Destination) : Op ρ Delivery := do
  check (Check.key request.key)
  check (Check.range request)
  match destination with
  | .live => return ⟨← a.downloadStream request, none⟩
  | .buffer => do
      let (content, reply) ← a.downloadBytes request
      return ⟨reply, some content⟩
  | .file path => downloadToFile a request path
  | .stream => do
      let (content, reply) ← a.downloadToStream request
      return ⟨reply, some content⟩
  | .unsupported typeName => throw (.refusal (.destinationType typeName) request.key)

/-- Reads a live body to its end and closes it. One that fails on the way gives no bytes, and what
is no stream can not even be closed. -/
def readBody (body : LiveBody) : Op ρ Content := do
  match body with
  | .stream body => do
      a.closeBody
      match body.failure with
      | some f => throw f
      | none => return body.content
  | .other v => throw (.ambient (.noAttribute v.fullTypeName "close"))

/-- Deletes one object; one that is missing counts as deleted. -/
def delete (i : Identifier) : Op ρ Unit := do
  check (Check.key i.key)
  a.delete i

/-- Deletes several objects, in as many bulk deletes as the limit asks for. -/
def deleteMany (targets : List Target) : Op ρ Unit := do
  if targets.isEmpty then return ()
  check (Check.keys targets)
  let batches ← Action.ofExcept (partition targets a.deleteLimit)
  batches.forM a.deleteMany

def copy (request : CopyRequest) : Op ρ CopyReceipt := do
  check (Check.key request.srcKey)
  check (Check.key request.destKey)
  a.copy request

def copyFrom (request : CopyFromRequest) : Op ρ CopyReceipt := do
  check (Check.bucket request.srcBucket)
  check (Check.key request.srcKey)
  check (Check.key request.destKey)
  a.copyFrom request

def getMetadata (i : Identifier) : Op ρ BlobMetadata := do
  check (Check.key i.key)
  a.getMetadata i

def listPage (request : PageRequest) : Op ρ Page := do
  match request.maxResults with
  | some n => check (Check.positive "max_results" (.whole n))
  | none => pure ()
  a.listPage request

def initiateUpload (request : MultipartRequest) : Op ρ UploadToken := do
  check (Check.key request.key)
  check (Check.tags request.tags)
  a.initiateUpload request

def uploadPart (token : UploadToken) (part : Part) : Op ρ PartReceipt := do
  check (Check.uploadToken token a.bucket)
  check (Check.part part a.partLimit)
  a.uploadPart token part

def inOrder (parts : List PartReceipt) : List PartReceipt :=
  parts.mergeSort fun p q => decide (p.number ≤ q.number)

/-- Listed parts by number, where the numbers have an order. -/
def listedInOrder (parts : List ListedPart) : Except Ambient (List ListedPart) := do
  Value.checkOrdered (parts.map (·.number.value))
  return parts.mergeSort fun p q => (Value.precedes? q.number.value p.number.value) != some true

/-- Joins the listed parts, in ascending order however they are listed. -/
def completeUpload (token : UploadToken) (parts : List PartReceipt) : Op ρ MultipartReceipt := do
  check (Check.uploadToken token a.bucket)
  check (Check.parts parts)
  a.completeUpload token (inOrder parts)

def listParts (token : UploadToken) : Op ρ (List ListedPart) := do
  check (Check.uploadToken token a.bucket)
  let parts ← a.listParts token
  Action.ofAmbient (listedInOrder parts)

def abortUpload (token : UploadToken) : Op ρ Unit := do
  check (Check.uploadToken token a.bucket)
  a.abortUpload token

def getTags (key : String) : Op ρ (Table String Value) := do
  check (Check.key key)
  a.getTags key

def setTags (key : String) (tags : Attributes) : Op ρ Unit := do
  check (Check.key key)
  check (Check.tags tags)
  a.setTags key tags

def presign (request : PresignRequest) : Op ρ Value := do
  check (Check.key request.key)
  check (Check.presignDuration request.duration)
  match request.operation with
  | .ok operation => a.presign operation request
  | .error v => throw (.refusal (.presignOperation v) request.key)

def objectExists (i : Identifier) : Op ρ Bool := do
  check (Check.key i.key)
  a.objectExists i

def bucketExists : Op ρ Bool := a.bucketExists

def getLock (i : Identifier) : Op ρ LockInfo := do
  check (Check.key i.key)
  let retention ← a.getRetention i
  let legalHold ← a.getLegalHold i
  return { mode := retention.bind (·.mode)
           retainUntil := retention.bind (·.retainUntil)
           legalHold }

/-- The mode under which a retention may be moved: there is one, and it is not fixed for good. -/
def movableMode (key : String) (current : Option LockInfo) : Except Failure RetentionMode :=
  match current.bind (·.mode) with
  | none => .error (.refusal .noRetention key)
  | some .compliance => .error (.refusal .complianceRetention key)
  | some .governance => .ok .governance

/-- Moves the end of an object's retention. The present retention is read first, and an object
that has none or one that is fixed is refused before anything is changed. -/
def setRetention (i : Identifier) (retainUntil : Option Moment) : Op ρ Unit := do
  check (Check.key i.key)
  let current ← a.getRetention i
  let mode ← Action.ofExcept (movableMode i.key current)
  a.putRetention i mode retainUntil

def setLegalHold (i : Identifier) (hold : Bool) : Op ρ Unit := do
  check (Check.key i.key)
  a.putLegalHold i hold

end Store
end BlobStorage
