import BlobStorage.Failure.Kind
import BlobStorage.Value

/-!
What this library itself refuses: a request that is malformed, or an object that is not in the
state an operation needs. Each refusal keeps the facts its message reports.
-/
namespace BlobStorage

inductive Refusal where
  | endpointScheme (proxy : Bool) (endpoint : Value)
  | endpointHost (proxy : Bool) (endpoint : String)
  | proxyPath (endpoint : String)
  | fewConnections (count : Value)
  | notDuration (name typeName : String)
  | negativeDuration (name : String)
  | notPositive (name : String) (value : Value)
  | bucketMissing
  | emptyKey
  | rangeStartNegative (start : Int)
  | rangeEndNegative (stop : Int)
  | rangeReversed (start stop : Int)
  | emptyTagName
  | tagWithoutValue (name : Value)
  | emptyUploadId
  | foreignUpload (uploadBucket bucket : String)
  | partNumberOutside (limit number : Int)
  | streamWithoutLength (number : Int)
  | partRepeated (number : Int)
  | partWithoutTag (number : Int)
  | noParts
  | presignDuration
  | presignOperation (value : Value)
  | sourceNotFile (path : String)
  | sourceType (typeName : String)
  | destinationType (typeName : String)
  | destinationExists (path : String)
  | partitionSize (size : Int)
  | partSize (size : Int)
  | noRetention
  | complianceRetention
  | sourceNotDirectory (path : String)
  | keyOutside (root : String)
  | emptyProviderId
  | providerUnknown (id : Value) (table : String) (known : List String)
  | providerTaken (id table factory : String)
  | fewAttempts
  | smallMultiplier
  | fixedDelayMissing
  | delaysReversed
  | sessionCredentialsMissing
  | roleMissing
  | shortSession
  | bucketNotConfigured
  | connectionsNotInteger (text : String)
  deriving Repr

namespace Refusal

def endpointLabel (proxy : Bool) : String :=
  if proxy then "proxy endpoint" else "endpoint"

def message : Refusal → String
  | endpointScheme proxy endpoint =>
      "The " ++ endpointLabel proxy ++ " scheme must be http or https: " ++ endpoint.literal
  | endpointHost proxy endpoint =>
      "The " ++ endpointLabel proxy ++ " must be an absolute URI with a host: " ++ quoted endpoint
  | proxyPath endpoint => "The proxy endpoint must not contain a path: " ++ quoted endpoint
  | fewConnections count => "max_connections must be at least 1, got " ++ count.shown
  | notDuration name typeName => name ++ " must be a timedelta, got " ++ typeName
  | negativeDuration name => name ++ " must not be negative"
  | notPositive name value => name ++ " must be positive, got " ++ value.shown
  | bucketMissing => "A bucket name is required"
  | emptyKey => "Blob key must not be empty"
  | rangeStartNegative start => "Range start must not be negative, got " ++ toString start
  | rangeEndNegative stop => "Range end must not be negative, got " ++ toString stop
  | rangeReversed start stop =>
      "Range end (" ++ toString stop ++ ") must not be before range start (" ++ toString start
        ++ ")"
  | emptyTagName => "Tag names must not be empty"
  | tagWithoutValue name => "Tag " ++ name.literal ++ " has no value"
  | emptyUploadId => "Multipart upload id must not be empty"
  | foreignUpload uploadBucket bucket =>
      "Multipart upload belongs to bucket " ++ quoted uploadBucket ++ ", not " ++ quoted bucket
  | partNumberOutside limit number =>
      "Part number must be between 1 and " ++ toString limit ++ ", got " ++ toString number
  | streamWithoutLength number =>
      "Part " ++ toString number ++ " is a stream and needs a content_length"
  | partRepeated number =>
      "Part number " ++ toString number ++ " was submitted more than once"
  | partWithoutTag number => "Part " ++ toString number ++ " has no etag"
  | noParts => "At least one part is required to complete a multipart upload"
  | presignDuration => "Presigned URL duration must be positive"
  | presignOperation value => "Unsupported presigned operation: " ++ value.literal
  | sourceNotFile path => "Upload source is not a readable file: " ++ path
  | sourceType typeName => "Unsupported upload source type: " ++ typeName
  | destinationType typeName => "Unsupported download destination type: " ++ typeName
  | destinationExists path => "Download destination already exists: " ++ path
  | partitionSize size => "Partition size must be at least 1, got " ++ toString size
  | partSize size => "part_size must be positive, got " ++ toString size
  | noRetention => "Object does not have retention configured. Cannot update retention."
  | complianceRetention =>
      "Cannot update retention for objects in COMPLIANCE mode. "
        ++ "Only GOVERNANCE mode objects can have their retention updated."
  | sourceNotDirectory path => "Upload source is not a directory: " ++ path
  | keyOutside root => "Key resolves outside of " ++ root
  | emptyProviderId => "Provider id must not be empty"
  | providerUnknown id table known =>
      "No provider registered with id " ++ id.literal ++ " (" ++ table ++ "). Known: "
        ++ (if known.isEmpty then "none" else ", ".intercalate known)
  | providerTaken id table factory =>
      "Provider " ++ quoted id ++ " is already registered for " ++ table ++ " with " ++ factory
  | fewAttempts => "max_attempts must be at least 1"
  | smallMultiplier => "multiplier must be at least 1.0"
  | fixedDelayMissing => "fixed_delay is required when mode is FIXED"
  | delaysReversed => "max_delay must be greater than or equal to initial_delay"
  | sessionCredentialsMissing => "session_credentials is required for SESSION credentials"
  | roleMissing => "role is required for ASSUME_ROLE credentials"
  | shortSession => "duration_seconds must be at least 900"
  | bucketNotConfigured => "A bucket name is required; pass bucket_name or set POLYBLOB_BUCKET"
  | connectionsNotInteger text => "POLYBLOB_MAX_CONNECTIONS must be an integer: " ++ quoted text

/-- An object in the wrong state is a failed precondition; every other refusal is about an
argument. -/
def kind : Refusal → ErrorKind
  | destinationExists _ | noRetention | complianceRetention => .failedPrecondition
  | _ => .invalidArgument

end Refusal
end BlobStorage
