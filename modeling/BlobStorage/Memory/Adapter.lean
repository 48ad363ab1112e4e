import BlobStorage.Adapter
import BlobStorage.Memory.Listing
import BlobStorage.Memory.Multipart
import BlobStorage.Memory.Presign
import BlobStorage.Memory.Range

/-!
The memory provider: adapters whose remote side is a backend. Every primitive is one look at the
backend or one change of it, so that a primitive that fails has changed nothing.
-/
namespace BlobStorage.Memory

/-- A store: the bucket it is for, and how many entries a page of its listings has. -/
structure Store where
  config : Config
  bucket : String
  pageSize : Option Nat := some 1000
  deleteLimit : Int := 1000

namespace Store

variable (s : Store) (guard : Guard Backend)

def see {α : Type} (look : Backend → Except Fault α) : Op Backend α :=
  World.observe Failure.memory look

def change {α : Type} (step : Backend → Except Fault (α × Backend)) : Op Backend α :=
  World.attempt Failure.memory step

def update (step : Backend → Except Fault Backend) : Op Backend Unit :=
  change fun b => (step b).map ((), ·)

def draftOf (request : UploadRequest) (content : Content) : Draft :=
  { data := content
    etag := etagOf content
    metadata := request.metadata
    tags := request.tags
    contentType := request.contentType
    checksum := request.checksum
    retention := request.lock.map fun l => ⟨l.mode, l.retainUntil⟩
    legalHold := (request.lock.map (·.legalHold)).getD false }

def uploadBytes (request : UploadRequest) (content : Content) : Op Backend UploadReceipt := do
  guard .uploadBytes request.key
  let v ← change fun b => b.store s.bucket request.key (draftOf request content)
  return { key := request.key, version := v.id, etag := v.etag, checksum := v.checksum.map .known }

/-- The bytes that a read gives must be as many as were declared. -/
def checkDeclared (request : UploadRequest) (content : Content) : Except Fault Unit :=
  match request.contentLength with
  | none => .ok ()
  | some expected =>
      if Int.ofNat content.length = expected then .ok ()
      else .error (.incompleteBody expected request.key content.length)

def uploadRead (read : Int → Except Ambient Content) (request : UploadRequest) :
    Op Backend UploadReceipt := do
  guard .uploadStream request.key
  let content ← Action.ofAmbient (read (request.contentLength.getD (-1)))
  see fun _ => checkDeclared request content
  uploadBytes s guard request content

def uploadStream (request : UploadRequest) (stream : Content) : Op Backend UploadReceipt :=
  uploadRead s guard stream.read request

def uploadFile (request : UploadRequest) (stream : Content) : Op Backend UploadReceipt :=
  uploadRead s guard stream.readFile request

def metadataOf (key : String) (v : Version) (size : Nat) : BlobMetadata :=
  { key
    size := .known (Int.ofNat size)
    version := v.id
    etag := v.etag
    metadata := v.metadata.map fun (name, value) => (name, value.map .known)
    lastModified := v.modified
    md5 := Digest.Md5.digest v.data
    checksum := v.checksum.map .known
    contentType := v.contentType.map .known }

def read (request : DownloadRequest) : Op Backend (Content × BlobMetadata) :=
  see fun b => do
    let v ← b.version s.bucket request.key request.version
    let data ← slice v.data request
    return (data, metadataOf request.key v data.length)

def delete (i : Identifier) : Op Backend Unit := do
  guard .delete i.key
  update fun b => b.delete s.bucket i.key i.version

/-- Deletes a target. No object has a key that is no text. -/
def deleteTarget (t : Target) : Op Backend Unit :=
  match t.key with
  | .known key => delete s guard ⟨key, t.version⟩
  | .other _ => do
      guard .delete none
      see fun b => do let _ ← b.bucket s.bucket

/-- Deletes one after the other, and goes on where the backend refuses one. -/
def deleteEach : List Target → Op Backend (List Fault)
  | [] => return []
  | t :: rest => do
      match ← (deleteTarget s guard t).outcome with
      | .ok _ => deleteEach rest
      | .error (.memory fault) => return fault :: (← deleteEach rest)
      | .error f => throw f

def deleteMany (targets : List Target) : Op Backend Unit := do
  guard .deleteMany none
  match ← deleteEach s guard targets with
  | [] => return ()
  | first :: more => throw (.memory (.severalDeletes (more.length + 1) first))

def copyReceipt (key : String) (v : Version) : CopyReceipt :=
  { key, version := v.id, etag := v.etag, lastModified := v.modified }

/-- Opens an upload. Its number is taken first, and stays taken if the bucket is missing. -/
def initiateUpload (request : MultipartRequest) : Op Backend UploadToken := do
  guard .initiateUpload request.key
  let number ← change fun b => .ok b.takeNumber
  let id := "mpu-" ++ toString number
  update fun b => b.openUpload s.bucket id request
  return { bucket := s.bucket, key := request.key, id, metadata := request.metadata,
           tags := request.tags, kmsKey := request.kmsKey }

def uploadPart (token : UploadToken) (part : Part) : Op Backend PartReceipt := do
  guard .uploadPart token.key
  let data ← Action.ofAmbient part.data
  update fun b => b.putPart s.bucket token part.number data
  return { number := part.number, etag := .known (etagOf data), size := Int.ofNat data.length }

def completeUpload (token : UploadToken) (parts : List PartReceipt) :
    Op Backend MultipartReceipt := do
  guard .completeUpload token.key
  let v ← change fun b => b.completeUpload s.bucket token parts
  return ⟨v.etag, v.id⟩

/-- Whether a version is there; only what is not found counts as absent. -/
def objectExists (i : Identifier) : Op Backend Bool := do
  guard .objectExists i.key
  see fun b =>
    match b.version s.bucket i.key i.version with
    | .ok _ => .ok true
    | .error fault => if fault.status = 404 then .ok false else .error fault

/-- A listing has at most one page for every key, and one more. -/
def pageBound (w : World Backend) : Nat :=
  match w.remote.bucket s.bucket with
  | .ok b => b.objects.length + 2
  | .error _ => 1

def adapter : Adapter Backend where
  config := s.config
  bucket := s.bucket
  deleteLimit := s.deleteLimit
  pageBound := s.pageBound
  classify f := do
    guard .classify none
    return classify f
  uploadBytes := uploadBytes s guard
  uploadStream := uploadStream s guard
  uploadFile := Adapter.fileUpload guard (uploadFile s guard)
  downloadToStream request := do
    guard .downloadToStream request.key
    let (data, metadata) ← read s request
    return (data, { key := request.key, metadata })
  downloadBytes request := do
    guard .downloadBytes request.key
    let (data, metadata) ← read s request
    return (data, { key := request.key, metadata })
  downloadStream request := do
    guard .downloadStream request.key
    let (data, metadata) ← read s request
    return { key := request.key, metadata, body := some (.stream { content := data }) }
  delete := delete s guard
  deleteMany := deleteMany s guard
  copy request := do
    guard .copy none
    let v ← change fun b =>
      let target := (request.destBucket.filter (!·.isEmpty)).getD s.bucket
      b.copy s.bucket request.srcKey request.srcVersion target request.destKey
    return copyReceipt request.destKey v
  copyFrom request := do
    guard .copyFrom none
    let v ← change fun b =>
      b.copy request.srcBucket request.srcKey request.srcVersion s.bucket request.destKey
    return copyReceipt request.destKey v
  getMetadata i := do
    guard .getMetadata i.key
    see fun b => do
      let v ← b.version s.bucket i.key i.version
      return metadataOf i.key v v.data.length
  listPage request := do
    guard .listPage none
    let bucket ← see fun b => b.bucket s.bucket
    Action.ofAmbient (Listing.checkToken bucket request)
    return Listing.page bucket request s.pageSize
  initiateUpload := initiateUpload s guard
  uploadPart := uploadPart s guard
  completeUpload := completeUpload s guard
  listParts token := do
    guard .listParts token.key
    see fun b => b.listParts s.bucket token
  abortUpload token := do
    guard .abortUpload token.key
    update fun b => b.abortUpload s.bucket token
  getTags key := do
    guard .getTags key
    see fun b => do
      let v ← b.version s.bucket key none
      return v.tags.map fun (name, value) => (name, .ofText? value)
  setTags key tags := do
    guard .setTags key
    update fun b => b.setTags s.bucket key tags
  presign operation request := do
    guard .presign request.key
    let address ← Action.ofExcept <|
      Presign.create (← get).remote operation s.bucket request.key (request.duration.getD ⟨0⟩)
    return .text address
  objectExists := objectExists s guard
  bucketExists := do
    guard .bucketExists none
    see fun b => .ok (b.hasBucket s.bucket)
  getRetention i := do
    guard .getRetention i.key
    see fun b => do return (← b.version s.bucket i.key i.version).retention.map (·.lockInfo)
  getLegalHold i := do
    guard .getLegalHold i.key
    see fun b => do return (← b.version s.bucket i.key i.version).legalHold
  putRetention i mode retainUntil := do
    guard .putRetention i.key
    update fun b => b.setRetention s.bucket i.key i.version ⟨mode, retainUntil⟩
  putLegalHold i hold := do
    guard .putLegalHold i.key
    update fun b => b.setLegalHold s.bucket i.key i.version hold
  closeBody := return ()
  close := return ()

end Store

def serviceAdapter (config : Config) (guard : Guard Backend) : ServiceAdapter Backend where
  config := config
  classify f := do
    guard .classify none
    return classify f
  listBuckets := do
    guard .listBuckets none
    return (← get).remote.listBuckets
  createBucket bucket := do
    guard .createBucket none
    Store.update fun b => b.createBucket bucket config.region
  close := return ()

end BlobStorage.Memory
