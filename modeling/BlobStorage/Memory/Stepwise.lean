import BlobStorage.Memory.Adapter

/-!
The changes of a backend step by step. Each step looks at the backend as it is by then, or writes to it
in place; a step that fails ends the change, and what the steps before it wrote stays written.
-/
namespace BlobStorage.Memory

/-- Carries out steps on the remote side; what they wrote stays, also if one of them fails. -/
def inPlace {α : Type} (steps : Action Backend α) : Op Backend α := fun w =>
  let (r, remote) := steps.runFrom w.remote
  (r, { w with remote })

namespace Stepwise

/-- Looks at the backend as it is by now. -/
def look {α : Type} (f : Backend → Except Fault α) : Action Backend α := do
  Action.ofExcept ((f (← get)).mapError .memory)

def refuse {α : Type} (fault : Fault) : Action Backend α := throw (.memory fault)

def takeNumber : Action Backend Nat := do
  let (number, s) := (← get).takeNumber
  set s
  return number

def write (bucket : String) (f : Bucket → Bucket) : Action Backend Unit :=
  modify fun s =>
    match s.buckets.get? bucket with
    | some b => s.setBucket (f b)
    | none => s

/-- Appends a version; its number is taken once the bucket has been found. -/
def store (bucket key : String) (draft : Draft) : Action Backend Version := do
  let _ ← look (·.bucket bucket)
  let number ← takeNumber
  let v : Version := { draft with number, modified := (← get).now }
  write bucket fun b => b.push key v
  return v

def copy (srcBucket srcKey : String) (srcId : Option String) (bucket key : String) :
    Action Backend Version := do
  let source ← look (·.version srcBucket srcKey srcId)
  store bucket key { source.toDraft with retention := none, legalHold := false }

def delete (bucket key : String) (id : Option String) : Action Backend Unit := do
  let b ← look (·.bucket bucket)
  let isTarget (v : Version) : Bool := match id with | none => true | some id => v.id = id
  let now := (← get).now
  if ((b.versions key).filter isTarget).any (·.isLocked now) then refuse (.protectedObject key)
  else write bucket fun b => b.setVersions key ((b.versions key).filter fun v => !isTarget v)

def amend (bucket key : String) (id : Option String) (change : Version → Version) :
    Action Backend Unit := do
  let chosen ← look (·.version bucket key id)
  write bucket fun b => b.setVersions key <|
    (b.versions key).map fun v => if v.number = chosen.number then change v else v

/-- Opens an upload; its number is taken before its bucket is looked for. -/
def openUpload (bucket : String) (r : MultipartRequest) : Action Backend String := do
  let id := "mpu-" ++ toString (← takeNumber)
  let _ ← look (·.bucket bucket)
  let u : Upload :=
    { key := r.key, metadata := r.metadata, tags := r.tags, contentType := r.contentType }
  write bucket fun b => { b with uploads := b.uploads.set id u }
  return id

def putPart (bucket : String) (token : UploadToken) (number : Int) (data : Content) :
    Action Backend Unit := do
  let (_, id, u) ← look (·.upload bucket token)
  let u := { u with parts := u.parts.set number (data, etagOf data) }
  write bucket fun b => { b with uploads := b.uploads.set id u }

def removeUpload (bucket id : String) : Action Backend Unit :=
  write bucket fun b => { b with uploads := b.uploads.erase id }

/-- Checks all parts, appends the version, and then removes the upload. -/
def completeUpload (bucket : String) (token : UploadToken) (parts : List PartReceipt) :
    Action Backend Version := do
  let (_, id, u) ← look (·.upload bucket token)
  if !Backend.ascending (parts.map (·.number)) then refuse .partOrder
  else
    let chosen ← look fun _ => Backend.chosenParts u parts
    let v ← store bucket u.key
      { data := chosen.flatMap (·.1), etag := Backend.joinedEtag chosen, metadata := u.metadata,
        tags := u.tags, contentType := u.contentType }
    let _ ← look (·.bucket bucket)
    removeUpload bucket id
    return v

def abortUpload (bucket : String) (token : UploadToken) : Action Backend Unit := do
  let (_, id, _) ← look (·.upload bucket token)
  removeUpload bucket id

def createBucket (name : String) (region : Option String) : Action Backend Unit := do
  if (← get).hasBucket name then refuse (.bucketExists name)
  else modify fun s => s.newBucket name region

end Stepwise

namespace Store

variable (s : Store) (guard : Guard Backend)

def uploadBytesStepwise (request : UploadRequest) (content : Content) : Op Backend UploadReceipt := do
  guard .uploadBytes request.key
  let v ← inPlace (Stepwise.store s.bucket request.key (draftOf request content))
  return { key := request.key, version := v.id, etag := v.etag, checksum := v.checksum.map .known }

def uploadReadStepwise (read : Int → Except Ambient Content) (request : UploadRequest) :
    Op Backend UploadReceipt := do
  guard .uploadStream request.key
  let content ← Action.ofAmbient (read (request.contentLength.getD (-1)))
  see fun _ => checkDeclared request content
  uploadBytesStepwise s guard request content

def stepwise : Adapter Backend :=
  { s.adapter guard with
    uploadBytes := uploadBytesStepwise s guard
    uploadStream := fun request stream => uploadReadStepwise s guard stream.read request
    uploadFile := Adapter.fileUpload guard fun request stream =>
      uploadReadStepwise s guard stream.readFile request
    delete := fun i => do
      guard .delete i.key
      inPlace (Stepwise.delete s.bucket i.key i.version)
    copy := fun request => do
      guard .copy none
      let target := (request.destBucket.filter (!·.isEmpty)).getD s.bucket
      let v ← inPlace
        (Stepwise.copy s.bucket request.srcKey request.srcVersion target request.destKey)
      return copyReceipt request.destKey v
    copyFrom := fun request => do
      guard .copyFrom none
      let v ← inPlace (Stepwise.copy request.srcBucket request.srcKey request.srcVersion s.bucket
        request.destKey)
      return copyReceipt request.destKey v
    initiateUpload := fun request => do
      guard .initiateUpload request.key
      let id ← inPlace (Stepwise.openUpload s.bucket request)
      return { bucket := s.bucket, key := request.key, id, metadata := request.metadata,
               tags := request.tags, kmsKey := request.kmsKey }
    uploadPart := fun token part => do
      guard .uploadPart token.key
      let data ← Action.ofAmbient part.data
      inPlace (Stepwise.putPart s.bucket token part.number data)
      return { number := part.number, etag := .known (etagOf data),
               size := Int.ofNat data.length }
    completeUpload := fun token parts => do
      guard .completeUpload token.key
      let v ← inPlace (Stepwise.completeUpload s.bucket token parts)
      return ⟨v.etag, v.id⟩
    abortUpload := fun token => do
      guard .abortUpload token.key
      inPlace (Stepwise.abortUpload s.bucket token)
    setTags := fun key tags => do
      guard .setTags key
      inPlace (Stepwise.amend s.bucket key none fun v => { v with tags })
    putRetention := fun i mode retainUntil => do
      guard .putRetention i.key
      inPlace (Stepwise.amend s.bucket i.key i.version fun v =>
        { v with retention := some ⟨mode, retainUntil⟩ })
    putLegalHold := fun i hold => do
      guard .putLegalHold i.key
      inPlace (Stepwise.amend s.bucket i.key i.version fun v => { v with legalHold := hold }) }

end Store

def serviceStepwise (config : Config) (guard : Guard Backend) : ServiceAdapter Backend :=
  { serviceAdapter config guard with
    createBucket := fun bucket => do
      guard .createBucket none
      inPlace (Stepwise.createBucket bucket config.region) }

end BlobStorage.Memory
