import BlobStorage.Failure.Kind

/-!
The failures of the memory backend. Each has a status and a code in the manner of a web service,
and falls into the category that its code, or else its status, names.
-/
namespace BlobStorage.Memory

inductive Fault where
  | bucketExists (bucket : String)
  | noBucket (bucket : String)
  | noKey (key : String)
  | noVersion (version key : String)
  | protectedObject (key : String)
  | incompleteBody (expected : Int) (key : String) (got : Nat)
  | rangeBeyond (start : Int) (size : Nat)
  | noUpload (id : String)
  | partOrder
  | partMissing (number : Int)
  | signature
  | expired
  | severalDeletes (count : Nat) (first : Fault)
  | stated (status : Int) (code text : String)
  deriving DecidableEq, Repr

namespace Fault

def status : Fault → Int
  | bucketExists _ => 409
  | noBucket _ | noKey _ | noVersion _ _ | noUpload _ => 404
  | protectedObject _ | signature | expired => 403
  | incompleteBody _ _ _ | partOrder | partMissing _ => 400
  | rangeBeyond _ _ => 416
  | severalDeletes _ first => first.status
  | stated status _ _ => status

def code : Fault → String
  | bucketExists _ => "BucketAlreadyExists"
  | noBucket _ => "NoSuchBucket"
  | noKey _ => "NoSuchKey"
  | noVersion _ _ => "NoSuchVersion"
  | protectedObject _ | expired => "AccessDenied"
  | incompleteBody _ _ _ => "IncompleteBody"
  | rangeBeyond _ _ => "InvalidRange"
  | noUpload _ => "NoSuchUpload"
  | partOrder => "InvalidPartOrder"
  | partMissing _ => "InvalidPart"
  | signature => "SignatureDoesNotMatch"
  | severalDeletes _ first => first.code
  | stated _ code _ => code

def detail : Fault → String
  | bucketExists bucket => "Bucket " ++ bucket ++ " already exists"
  | noBucket bucket => "Bucket " ++ bucket ++ " does not exist"
  | noKey key => "Object " ++ key ++ " does not exist"
  | noVersion version key => "Version " ++ version ++ " of " ++ key ++ " does not exist"
  | protectedObject key => "Object " ++ key ++ " is protected by object lock"
  | incompleteBody expected key got =>
      "Expected " ++ toString expected ++ " bytes for " ++ key ++ ", got " ++ toString got
  | rangeBeyond start size =>
      "Range start " ++ toString start ++ " is beyond the object size " ++ toString size
  | noUpload id => "Multipart upload " ++ id ++ " does not exist"
  | partOrder => "Parts must be listed in ascending order"
  | partMissing number => "Part " ++ toString number ++ " was not uploaded"
  | signature => "Presigned URL signature is invalid"
  | expired => "Presigned URL has expired"
  | severalDeletes count first =>
      toString count ++ " objects failed to delete; " ++ first.code ++ ": " ++ first.detail
  | stated _ _ text => text

def message (f : Fault) : String := f.code ++ ": " ++ f.detail

def statusKind? : Int → Option ErrorKind
  | 400 | 416 => some .invalidArgument
  | 401 | 403 => some .unauthorized
  | 404 => some .notFound
  | 409 => some .conflict
  | 412 => some .failedPrecondition
  | 429 => some .exhausted
  | 501 => some .unsupported
  | _ => none

def kind (f : Fault) : ErrorKind :=
  if f.code = "BucketAlreadyExists" then .alreadyExists else (statusKind? f.status).getD .unknown

end Fault
end BlobStorage.Memory
