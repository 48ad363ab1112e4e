import BlobStorage.Adapter
import BlobStorage.S3.Parameters
import BlobStorage.S3.Transfer
import BlobStorage.Text.Hex

/-!
The S3 provider: adapters that make calls to the service and read the replies. With managed
transfers, whole downloads and streamed uploads go through them; a range, a lock or a checksum asks
for a plain call.
-/
namespace BlobStorage.S3

open Document

variable {ρ : Type}

structure Store (ρ : Type) where
  client : Client ρ
  config : Config
  bucket : String
  transfer : Option Transfer := none
  deleteLimit : Int := 1000

namespace Store

variable (s : Store ρ) (guard : Guard ρ)

def managedDownloads : Option Transfer :=
  if s.config.parallelDownloads.getD false then s.transfer else none

def managedUploads : Option Transfer :=
  if s.config.parallelUploads.getD false then s.transfer else none

/-! Uploads -/

def putObject (request : UploadRequest) (body : Value) : Op ρ UploadReceipt := do
  let wishes ← Action.ofExcept (Parameters.upload request)
  let reply ← s.client.request .putObject <|
    Parameters.place s.bucket request.key ++ wishes ++ [("Body", body)]
      ++ Parameters.length request.contentLength
  Action.ofAmbient do
    return { key := request.key
             version := ← said? reply.value "VersionId"
             etag := ← said? reply.value "ETag"
             checksum := ← said? reply.value "ChecksumCRC32C" }

def extra (named : Parameters) : Value :=
  if named.isEmpty then .null else .map named

/-- A managed upload replies with nothing, so what was stored is looked up after it. -/
def managedUpload (transfer : Transfer) (request : UploadRequest) (stream : Content) :
    Op ρ UploadReceipt := do
  let wishes ← Action.ofExcept (Parameters.upload request)
  let _ ← s.client.send {
    method := .uploadStream
    positional := [.stream stream, .text s.bucket, .text request.key]
    named := [("ExtraArgs", extra wishes), ("Config", transfer.value)] }
  let head ← s.client.request .headObject (Parameters.place s.bucket request.key)
  Action.ofAmbient do
    return { key := request.key
             version := ← said? head.value "VersionId"
             etag := ← said? head.value "ETag" }

def uploadStream (request : UploadRequest) (stream : Content) : Op ρ UploadReceipt := do
  guard .uploadStream request.key
  match s.managedUploads with
  | some transfer =>
      if request.lock.isNone && (request.checksum.getD "").isEmpty then
        managedUpload s transfer request stream
      else putObject s request (.stream stream)
  | none => putObject s request (.stream stream)

/-! Metadata and downloads -/

def unquote (text : List Char) : List Char :=
  ((text.dropWhile (· = '"')).reverse.dropWhile (· = '"')).reverse

/-- The checksum that a text spells, if it is one: 32 hexadecimal digits in quotes. -/
def md5OfText (text : String) : Option Content :=
  let digits := unquote text.toList
  if digits.length = 32 && !digits.contains '-' then Text.Hex.decode? digits else none

/-- The checksum that an entity tag spells, which must be a text if there is one. -/
def md5OfTag (etag : Option (Reported String)) : Except Ambient (Option Content) :=
  match etag with
  | none => .ok none
  | some (.known text) => .ok (md5OfText text)
  | some (.other v) => if v.isGiven then .error (.noAttribute v.fullTypeName "strip") else .ok none

def attributesOf (v : Value) : Except Ambient (Table String (Option (Reported String))) := do
  let entries ← if v.isGiven then v.entries else .ok []
  return Table.ofPairs (entries.map fun (name, v) => (name.shown, Reported.ofValue? v))

def metadataOf (key : String) (v : Value) : Except Ambient BlobMetadata := do
  let etag ← said? v "ETag"
  return { key
           size := ← size v "ContentLength"
           version := ← said? v "VersionId"
           etag
           metadata := ← attributesOf (← v.partOr "Metadata" .null)
           lastModified := ← said? v "LastModified"
           md5 := ← md5OfTag etag
           checksum := ← said? v "ChecksumCRC32C"
           contentType := ← said? v "ContentType" }

def place (i : Identifier) : Parameters := Parameters.place s.bucket i.key i.version

def getMetadata (i : Identifier) : Op ρ BlobMetadata := do
  guard .getMetadata i.key
  let reply ← s.client.request .headObject (place s i)
  Action.ofAmbient (metadataOf i.key reply.value)

def getObject (request : DownloadRequest) : Op ρ Reply :=
  s.client.request .getObject <|
    Parameters.place s.bucket request.key request.version
      ++ (match request.rangeHeader with
        | some range => Parameters.text "Range" range
        | none => [])

def bodyOf (reply : Reply) : Except Ambient (Option LiveBody) := do
  match ← reply.value.part "Body" with
  | .null => return none
  | .stream content => return some (.stream { content, failure := reply.bodyFailure })
  | v => return some (.other v)

/-- The body of a reply, which is to be read and closed at once and so must be a stream. -/
def streamOf (reply : Reply) : Except Ambient Body := do
  match ← bodyOf reply with
  | some (.stream body) => return body
  | some (.other v) => throw (.noAttribute v.fullTypeName "close")
  | none => throw (.noAttribute Value.null.fullTypeName "close")

def closeBody : Op ρ Unit := s.client.order .closeBody []

/-- Gets an object and reads its body, which is closed whether reading fails or not. -/
def fetch (request : DownloadRequest) : Op ρ (Content × DownloadReply) := do
  let reply ← getObject s request
  let body ← Action.ofAmbient (streamOf reply)
  closeBody s
  match body.failure with
  | some f => throw f
  | none => do
      let metadata ← Action.ofAmbient (metadataOf request.key reply.value)
      return (body.content, { key := request.key, metadata })

def managedDownload (transfer : Transfer) (request : DownloadRequest) :
    Op ρ (Content × DownloadReply) := do
  let metadata ← getMetadata s guard ⟨request.key, request.version⟩
  let reply ← s.client.send {
    method := .downloadStream
    positional := [.text s.bucket, .text request.key]
    named := [("ExtraArgs", extra (Parameters.givenText "VersionId" request.version)),
      ("Config", transfer.value)] }
  return (reply.written, { key := request.key, metadata })

def downloadToStream (request : DownloadRequest) : Op ρ (Content × DownloadReply) := do
  guard .downloadToStream request.key
  match s.managedDownloads with
  | some transfer =>
      if request.hasRange then fetch s request else managedDownload s guard transfer request
  | none => fetch s request

/-! Deletes and copies -/

def leftBehind (first : Value) (count : Nat) (reply : Value) : Except Ambient ErrorReply := do
  let code ← first.partOr "Code" (.text "")
  let key ← first.partOr "Key" .null
  let said ← first.partOr "Message" (.text "")
  let message := toString count ++ " objects failed to delete; first was " ++ key.shown ++ ": "
    ++ said.shown
  ErrorReply.ofReply "DeleteObjects" <| .map [
    ("Error", .map [("Code", code), ("Message", .text message)]),
    ("ResponseMetadata", ← reply.partOr "ResponseMetadata" (.map []))]

def leftBehind? (reply : Value) : Except Ambient (Option ErrorReply) := do
  let errors ← reply.partOr "Errors" .null
  if errors.isGiven then some <$> leftBehind (← errors.first) errors.count reply
  else return none

def deleteMany (targets : List Target) : Op ρ Unit := do
  guard .deleteMany none
  let objects := targets.map fun t =>
    Value.map (("Key", t.key.value) :: Parameters.givenText "VersionId" t.version)
  let reply ← s.client.request .deleteObjects <|
    Parameters.text "Bucket" s.bucket
      ++ [("Delete", .map [("Objects", .list objects), ("Quiet", .flag true)])]
  match ← Action.ofAmbient (leftBehind? reply.value) with
  | some error => throw (.reply error)
  | none => return ()

def copyObject (source : String × Identifier) (bucket key : String) : Op ρ CopyReceipt := do
  let (sourceBucket, i) := source
  let reply ← s.client.request .copyObject <|
    Parameters.place bucket key
      ++ [("CopySource", .map (Parameters.place sourceBucket i.key i.version))]
  Action.ofAmbient do
    let result ← reply.value.partOr "CopyObjectResult" (.map [])
    return { key
             version := ← said? reply.value "VersionId"
             etag := ← said? result "ETag"
             lastModified := ← said? result "LastModified" }

/-! Listings -/

def blobOf (v : Value) : Except Ambient BlobInfo := do
  return { key := ← said v "Key"
           size := ← size v "Size"
           lastModified := ← said? v "LastModified"
           etag := ← said? v "ETag" }

def pageOf (v : Value) : Except Ambient Page := do
  let blobs ← each v "Contents" blobOf
  let isTruncated ← isGiven v "IsTruncated"
  let nextToken ← said? v "NextContinuationToken"
  let commonPrefixes ← each v "CommonPrefixes" fun p => said p "Prefix"
  return { blobs, commonPrefixes, isTruncated, nextToken }

def listPage (request : PageRequest) : Op ρ Page := do
  guard .listPage none
  let reply ← s.client.request .listObjects <|
    Parameters.text "Bucket" s.bucket
      ++ Parameters.givenText "Prefix" request.stem
      ++ Parameters.givenText "Delimiter" request.delimiter
      ++ Parameters.given "ContinuationToken" (Reported.value? request.token)
      ++ Parameters.givenWhole "MaxKeys" request.maxResults
  Action.ofAmbient (pageOf reply.value)

/-! Uploads in parts -/

def initiateUpload (request : MultipartRequest) : Op ρ UploadToken := do
  guard .initiateUpload request.key
  let reply ← s.client.request .createUpload <|
    Parameters.place s.bucket request.key
      ++ Parameters.metadata request.metadata ++ Parameters.tagging request.tags
      ++ Parameters.givenText "ContentType" request.contentType
      ++ Parameters.encryption request.kmsKey
  let id ← Action.ofAmbient (said reply.value "UploadId")
  return { bucket := s.bucket, key := request.key, id, metadata := request.metadata,
           tags := request.tags, kmsKey := request.kmsKey }

def sourceValue : Source → Value
  | .bytes content => .bytes content
  | .stream content => .stream content

def uploadPart (token : UploadToken) (part : Part) : Op ρ PartReceipt := do
  guard .uploadPart token.key
  let length ← Action.ofAmbient part.size
  let reply ← s.client.request .uploadPart <|
    Parameters.multipart token ++ [("PartNumber", .whole part.number),
      ("Body", sourceValue part.source), ("ContentLength", .whole length)]
  let etag ← Action.ofAmbient (said reply.value "ETag")
  return { number := part.number, etag, size := length }

def completeUpload (token : UploadToken) (parts : List PartReceipt) :
    Op ρ MultipartReceipt := do
  guard .completeUpload token.key
  let listed := parts.map fun p =>
    Value.map [("PartNumber", .whole p.number), ("ETag", p.etag.value)]
  let reply ← s.client.request .completeUpload <|
    Parameters.multipart token ++ [("MultipartUpload", .map [("Parts", .list listed)])]
  Action.ofAmbient do
    return { etag := ← said? reply.value "ETag", version := ← said? reply.value "VersionId" }

def partOf (v : Value) : Except Ambient ListedPart := do
  return { number := ← said v "PartNumber", etag := ← said v "ETag", size := ← size v "Size" }

/-- Asks for the parts until a reply is not truncated, each time after the marker of the last. -/
def collectParts (token : UploadToken) : Nat → Parameters → Op ρ (List ListedPart)
  | 0, _ => return []
  | bound + 1, marker => do
      let reply ← s.client.request .listParts (Parameters.multipart token ++ marker)
      let parts ← Action.ofAmbient (each reply.value "Parts" partOf)
      if ← Action.ofAmbient (isGiven reply.value "IsTruncated") then
        let next ← Action.ofAmbient (reply.value.part "NextPartNumberMarker")
        return parts ++ (← collectParts token bound [("PartNumberMarker", next)])
      else return parts

def listParts (token : UploadToken) : Op ρ (List ListedPart) := do
  guard .listParts token.key
  collectParts s token (s.client.bound (← get) .listParts) []

/-! Presigned addresses, existence and locks -/

def presign (operation : PresignedOperation) (request : PresignRequest) : Op ρ Value := do
  guard .presign request.key
  let (method, wishes) : Method × Parameters := match operation with
    | .upload => (.putObject, Parameters.metadata request.metadata
        ++ Parameters.tagging request.tags ++ Parameters.encryption request.kmsKey)
    | .download => (.getObject, [])
  let seconds := (request.duration.getD ⟨0⟩).wholeSeconds
  let reply ← s.client.send {
    method := .presign
    positional := [.text method.name]
    named := [("Params", .map (Parameters.place s.bucket request.key ++ wishes)),
      ("ExpiresIn", .whole seconds)] }
  return reply.value

/-- Takes the reply that something is not there as a plain no. -/
def presence (call : Op ρ Reply) : Op ρ Bool := do
  match ← call.outcome with
  | .ok _ => return true
  | .error f => if isNotFound f then return false else throw f

/-- Takes the reply that a bucket has no locks as no reply. -/
def lockReply? (call : Op ρ Reply) : Op ρ (Option Reply) := do
  match ← call.outcome with
  | .ok reply => return some reply
  | .error (.reply e) =>
      if e.codeText? = some "NoSuchObjectLockConfiguration" then return none
      else throw (.reply e)
  | .error f => throw f

def modeOf (v : Value) : Except Ambient RetentionMode :=
  let found := match v with
    | .text name => RetentionMode.ofName? name
    | _ => none
  match found with
  | some mode => .ok mode
  | none => .error (.notMember v "RetentionMode")

/-- The retention of a reply; one without a mode is none. -/
def retentionOf (v : Value) : Except Ambient (Option LockInfo) := do
  let retention ← v.partOr "Retention" .null
  if !retention.isGiven then return none
  let mode ← retention.partOr "Mode" .null
  if !mode.isGiven then return none
  return some { mode := ← modeOf mode, retainUntil := ← said? retention "RetainUntilDate" }

def holdOf (v : Value) : Except Ambient Bool := do
  let hold ← v.partOr "LegalHold" (.map [])
  match ← hold.partOr "Status" .null with
  | .text status => return status = "ON"
  | _ => return false

def getRetention (i : Identifier) : Op ρ (Option LockInfo) := do
  guard .getRetention i.key
  match ← lockReply? (s.client.request .getRetention (place s i)) with
  | none => return none
  | some reply => Action.ofAmbient (retentionOf reply.value)

def getLegalHold (i : Identifier) : Op ρ Bool := do
  guard .getLegalHold i.key
  match ← lockReply? (s.client.request .getLegalHold (place s i)) with
  | none => return false
  | some reply => Action.ofAmbient (holdOf reply.value)

/-- Tags by name, the last value of a name counting. -/
def tagsOf (v : Value) : Except Ambient (Table String Value) := do
  let tags ← (← (← v.partOr "TagSet" (.list [])).items).foldlM (fun tags tag => do
    let name ← tag.part "Key"
    let value ← tag.part "Value"
    name.checkName
    return Value.insert tags name value) []
  return tags.map fun (name, value) => (name.shown, value)

def adapter : Adapter ρ where
  config := s.config
  bucket := s.bucket
  deleteLimit := s.deleteLimit
  pageBound w := s.client.bound w .listObjects
  classify f := do
    guard .classify none
    return classify f
  uploadBytes request content := do
    guard .uploadBytes request.key
    putObject s request (.bytes content)
  uploadStream := uploadStream s guard
  uploadFile := Adapter.fileUpload guard (uploadStream s guard)
  downloadToStream := downloadToStream s guard
  downloadBytes request := do
    guard .downloadBytes request.key
    fetch s request
  downloadStream request := do
    guard .downloadStream request.key
    let reply ← getObject s request
    Action.ofAmbient do
      return { key := request.key
               metadata := ← metadataOf request.key reply.value
               body := ← bodyOf reply }
  delete i := do
    guard .delete i.key
    s.client.order .deleteObject (place s i)
  deleteMany := deleteMany s guard
  copy request := do
    guard .copy none
    let target := (request.destBucket.filter (!·.isEmpty)).getD s.bucket
    copyObject s (s.bucket, ⟨request.srcKey, request.srcVersion⟩) target request.destKey
  copyFrom request := do
    guard .copyFrom none
    copyObject s (request.srcBucket, ⟨request.srcKey, request.srcVersion⟩) s.bucket request.destKey
  getMetadata := getMetadata s guard
  listPage := listPage s guard
  initiateUpload := initiateUpload s guard
  uploadPart := uploadPart s guard
  completeUpload := completeUpload s guard
  listParts := listParts s guard
  abortUpload token := do
    guard .abortUpload token.key
    s.client.order .abortUpload (Parameters.multipart token)
  getTags key := do
    guard .getTags key
    let reply ← s.client.request .getTags (Parameters.place s.bucket key)
    Action.ofAmbient (tagsOf reply.value)
  setTags key tags := do
    guard .setTags key
    let listed := tags.map fun (name, value) =>
      Value.map [("Key", .text name), ("Value", .ofText? value)]
    s.client.order .putTags <|
      Parameters.place s.bucket key ++ [("Tagging", .map [("TagSet", .list listed)])]
  presign := presign s guard
  objectExists i := do
    guard .objectExists i.key
    presence (s.client.request .headObject (place s i))
  bucketExists := do
    guard .bucketExists none
    presence (s.client.request .headBucket (Parameters.text "Bucket" s.bucket))
  getRetention := getRetention s guard
  getLegalHold := getLegalHold s guard
  putRetention i mode retainUntil := do
    guard .putRetention i.key
    let retention := Value.map
      [("Mode", .text mode.name), ("RetainUntilDate", Parameters.momentValue retainUntil)]
    s.client.order .putRetention <|
      place s i ++ [("Retention", retention), ("BypassGovernanceRetention", .flag true)]
  putLegalHold i hold := do
    guard .putLegalHold i.key
    s.client.order .putLegalHold <|
      place s i ++ [("LegalHold", .map [("Status", Parameters.onOff hold)])]
  closeBody := closeBody s
  close := s.client.close

end Store

def bucketOf (v : Value) : Except Ambient BucketInfo := do
  return { name := ← said v "Name"
           region := ← said? v "BucketRegion"
           created := ← said? v "CreationDate" }

/-- Where a new bucket goes: the service's own region is never named. -/
def location (region : Option String) : Parameters :=
  match region with
  | some r =>
      if r.isEmpty || r = "us-east-1" then []
      else [("CreateBucketConfiguration", .map (Parameters.text "LocationConstraint" r))]
  | none => []

def serviceAdapter (client : Client ρ) (config : Config) (guard : Guard ρ) : ServiceAdapter ρ where
  config := config
  classify f := do
    guard .classify none
    return classify f
  listBuckets := do
    guard .listBuckets none
    let reply ← client.request .listBuckets []
    Action.ofAmbient (each reply.value "Buckets" bucketOf)
  createBucket bucket := do
    guard .createBucket none
    client.order .createBucket (Parameters.text "Bucket" bucket ++ location config.region)
  close := client.close

end BlobStorage.S3
