import BlobStorage.S3.Reply
import BlobStorage.World

/-!
Calls to the S3 service, and the clients that make them. An adapter is written against a client
and not against one service, so it can be run against a service that acts on objects as well as
against replies that were settled beforehand.
-/
namespace BlobStorage.S3

inductive Method where
  | putObject
  | uploadStream
  | headObject
  | downloadStream
  | getObject
  | closeBody
  | deleteObject
  | deleteObjects
  | copyObject
  | listObjects
  | createUpload
  | uploadPart
  | completeUpload
  | listParts
  | abortUpload
  | getTags
  | putTags
  | presign
  | headBucket
  | getRetention
  | getLegalHold
  | putRetention
  | putLegalHold
  | listBuckets
  | createBucket
  | close
  deriving DecidableEq, Repr

namespace Method

def all : List Method :=
  [putObject, uploadStream, headObject, downloadStream, getObject, closeBody, deleteObject,
    deleteObjects, copyObject, listObjects, createUpload, uploadPart, completeUpload, listParts,
    abortUpload, getTags, putTags, presign, headBucket, getRetention, getLegalHold, putRetention,
    putLegalHold, listBuckets, createBucket, close]

def name : Method → String
  | putObject => "put_object"
  | uploadStream => "upload_fileobj"
  | headObject => "head_object"
  | downloadStream => "download_fileobj"
  | getObject => "get_object"
  | closeBody => "body.close"
  | deleteObject => "delete_object"
  | deleteObjects => "delete_objects"
  | copyObject => "copy_object"
  | listObjects => "list_objects_v2"
  | createUpload => "create_multipart_upload"
  | uploadPart => "upload_part"
  | completeUpload => "complete_multipart_upload"
  | listParts => "list_parts"
  | abortUpload => "abort_multipart_upload"
  | getTags => "get_object_tagging"
  | putTags => "put_object_tagging"
  | presign => "generate_presigned_url"
  | headBucket => "head_bucket"
  | getRetention => "get_object_retention"
  | getLegalHold => "get_object_legal_hold"
  | putRetention => "put_object_retention"
  | putLegalHold => "put_object_legal_hold"
  | listBuckets => "list_buckets"
  | createBucket => "create_bucket"
  | close => "close"

def ofName? (text : String) : Option Method := all.find? (·.name = text)

end Method

abbrev Parameters := List (String × Value)

structure Call where
  method : Method
  positional : List Value := []
  named : Parameters := []
  deriving Repr

structure Client (ρ : Type) where
  /-- Makes a call. -/
  send : Call → Op ρ Reply
  /-- A bound on the number of requests to a method that go on from one to the next. -/
  bound : World ρ → Method → Nat
  closable : Bool := true

namespace Client

variable {ρ : Type} (c : Client ρ)

def request (method : Method) (named : Parameters) : Op ρ Reply := c.send { method, named }

/-- Makes a call whose reply says nothing. -/
def order (method : Method) (named : Parameters) : Op ρ Unit := do
  let _ ← c.request method named
  return ()

def close : Op ρ Unit := do
  if c.closable then c.order .close []

end Client
end BlobStorage.S3
