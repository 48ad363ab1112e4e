import BlobStorage.Reply
import BlobStorage.S3.Call
import BlobStorage.Text.Percent

/-!
The parameters of the calls to the S3 service. What a request leaves open is not sent.
-/
namespace BlobStorage.S3.Parameters

def text (name : String) (s : String) : Parameters := [(name, .text s)]

def givenText (name : String) (s : Option String) : Parameters :=
  match s with
  | some s => if s.isEmpty then [] else text name s
  | none => []

def given (name : String) (v : Value) : Parameters :=
  if v.isGiven then [(name, v)] else []

def givenWhole (name : String) (n : Option Int) : Parameters :=
  match n with
  | some n => if n = 0 then [] else [(name, .whole n)]
  | none => []

def formOf (tags : Attributes) : String :=
  String.ofList <| Text.Percent.encodePairs <| tags.map fun (name, value) =>
    (name, value.getD "None")

def attributes (a : Attributes) : Value :=
  .map (a.map fun (name, value) => (name, .ofText? value))

def metadata (a : Attributes) : Parameters :=
  if a.isEmpty then [] else [("Metadata", attributes a)]

def tagging (tags : Attributes) : Parameters :=
  if tags.isEmpty then [] else text "Tagging" (formOf tags)

def encryption (key : Option String) : Parameters :=
  match givenText "SSEKMSKeyId" key with
  | [] => []
  | given => text "ServerSideEncryption" "aws:kms" ++ given

def onOff (b : Bool) : Value := .text (if b then "ON" else "OFF")

def momentValue : Option Moment → Value
  | some m => .moment m
  | none => .null

/-- The lock of an upload, which needs a mode. -/
def lock : Option LockSettings → Except Failure Parameters
  | none => .ok []
  | some l =>
      match l.mode with
      | none => .error (.ambient (.noAttribute "NoneType" "value"))
      | some mode => .ok [
          ("ObjectLockMode", .text mode.name),
          ("ObjectLockRetainUntilDate", momentValue l.retainUntil),
          ("ObjectLockLegalHoldStatus", onOff l.legalHold)]

def upload (r : UploadRequest) : Except Failure Parameters := do
  let checksum := match givenText "ChecksumCRC32C" r.checksum with
    | [] => []
    | given => text "ChecksumAlgorithm" "CRC32C" ++ given
  return metadata r.metadata ++ tagging r.tags ++ givenText "ContentType" r.contentType
    ++ encryption r.kmsKey ++ givenText "StorageClass" r.storageClass ++ checksum
    ++ (← lock r.lock)

def length (n : Option Int) : Parameters :=
  match n with
  | some n => [("ContentLength", .whole n)]
  | none => []

def place (bucket key : String) (version : Option String := none) : Parameters :=
  text "Bucket" bucket ++ text "Key" key ++ givenText "VersionId" version

def multipart (token : UploadToken) : Parameters :=
  place token.bucket token.key ++ [("UploadId", token.id.value)]

end BlobStorage.S3.Parameters
