import BlobStorage.Value.Access

/-!
What a client of the S3 service can report: an error reply of the service, known by its code,
status and request identifier, or a failure of the client itself.
-/
namespace BlobStorage.S3

/-- The parts of an error reply that matter here; a part the reply lacks is absent. -/
structure ErrorReply where
  operation : String
  code : Option Value
  message : Option Value
  status : Option Value
  requestId : Option Value
  /-- The number of retries, if the reply says that all attempts were used. -/
  retries : Option Value
  deriving Repr

namespace ErrorReply

def metadataOf? (reply : Value) : Except Ambient (Option Value) := do
  let name := "ResponseMetadata"
  let there ← match reply with
    | .table entries => pure ((Value.table entries).at? name).isSome
    | .list items => pure (items.any (Value.isSameName (.text name)))
    | .text s => pure ((s.splitOn name).length ≠ 1)
    | v => throw (.notContainer v.fullTypeName)
  if there then some <$> reply.part name else return none

/-- The number of retries, if the metadata says that all attempts were used. -/
def retriesOf? (metadata : Value) : Except Ambient (Option Value) := do
  if (← metadata.partOr "MaxAttemptsReached" (.flag false)).isGiven then
    metadata.part? "RetryAttempts"
  else return none

def ofReply (operation : String) (reply : Value) : Except Ambient ErrorReply := do
  let metadata := (← metadataOf? reply).getD (.map [])
  let retries ← retriesOf? metadata
  let error ← reply.partOr "Error" (.map [])
  return { operation
           code := ← error.part? "Code"
           message := ← error.part? "Message"
           status := ← metadata.part? "HTTPStatusCode"
           requestId := ← metadata.part? "RequestId"
           retries }

def text (e : ErrorReply) : String :=
  let part (v : Option Value) := (v.map Value.shown).getD "Unknown"
  let retry := match e.retries with
    | some n => " (reached max retries: " ++ n.shown ++ ")"
    | none => ""
  "An error occurred (" ++ part e.code ++ ") when calling the " ++ e.operation ++ " operation"
    ++ retry ++ ": " ++ part e.message

def codeKinds : List (String × ErrorKind) := [
  ("NoSuchKey", .notFound),
  ("NoSuchBucket", .notFound),
  ("NoSuchUpload", .notFound),
  ("NoSuchVersion", .notFound),
  ("NotFound", .notFound),
  ("404", .notFound),
  ("AccessDenied", .unauthorized),
  ("InvalidAccessKeyId", .unauthorized),
  ("SignatureDoesNotMatch", .unauthorized),
  ("ExpiredToken", .unauthorized),
  ("InvalidToken", .unauthorized),
  ("403", .unauthorized),
  ("InvalidArgument", .invalidArgument),
  ("InvalidRequest", .invalidArgument),
  ("InvalidBucketName", .invalidArgument),
  ("MalformedXML", .invalidArgument),
  ("InvalidPart", .invalidArgument),
  ("InvalidPartOrder", .invalidArgument),
  ("EntityTooSmall", .invalidArgument),
  ("EntityTooLarge", .invalidArgument),
  ("InvalidRange", .invalidArgument),
  ("BucketAlreadyExists", .alreadyExists),
  ("BucketAlreadyOwnedByYou", .alreadyExists),
  ("OperationAborted", .conflict),
  ("Conflict", .conflict),
  ("PreconditionFailed", .failedPrecondition),
  ("InvalidObjectState", .failedPrecondition),
  ("ObjectLockConfigurationNotFoundError", .failedPrecondition),
  ("NoSuchObjectLockConfiguration", .failedPrecondition),
  ("SlowDown", .exhausted),
  ("Throttling", .exhausted),
  ("ThrottlingException", .exhausted),
  ("TooManyBuckets", .exhausted),
  ("RequestTimeout", .deadlineExceeded),
  ("NotImplemented", .unsupported)]

def codeKind? (code : String) : Option ErrorKind :=
  (codeKinds.find? (·.1 = code)).map (·.2)

def statusKind? : Int → Option ErrorKind
  | 400 => some .invalidArgument
  | 401 => some .unauthorized
  | 404 => some .notFound
  | 409 => some .conflict
  | 412 => some .failedPrecondition
  | 429 | 503 => some .exhausted
  | 501 => some .unsupported
  | _ => none

def statusNumber? (e : ErrorReply) : Option Int :=
  match e.status with
  | some (.whole n) => some n
  | some (.real x) => x.toInt?
  | some (.flag b) => some (if b then 1 else 0)
  | _ => none

def codeText? (e : ErrorReply) : Option String :=
  match e.code with
  | some (.text code) => some code
  | _ => none

/-- A list or a map can be neither a code nor a status, and a reply that has one is beyond
classification. -/
def isStrange (v : Option Value) : Bool :=
  match v with
  | some (.list _) | some (.table _) => true
  | _ => false

/-- A refusal without a request identifier was made before the service handled the request and
is about credentials. Otherwise the code decides, and without a known code the status. -/
def kind (e : ErrorReply) : ErrorKind :=
  if e.statusNumber? = some 403 ∧ !(e.requestId.getD .null).isGiven then .unauthorized
  else if isStrange e.code then .unknown
  else
    match e.codeText?.bind codeKind? with
    | some k => k
    | none =>
        if isStrange e.status then .unknown else (e.statusNumber?.bind statusKind?).getD .unknown

def isNotFound (e : ErrorReply) : Bool :=
  e.statusNumber? = some 404 ||
    (match e.codeText? with
    | some code => ["404", "NoSuchKey", "NoSuchBucket", "NotFound"].contains code
    | none => false)

end ErrorReply

inductive ClientFaultKind where
  | connectTimeout
  | readTimeout
  | endpointConnection
  | connectionClosed
  | proxyConnection
  | secureConnection
  | httpClient
  | connection
  | responseStreaming
  | incompleteRead
  | noCredentials
  | partialCredentials
  | noRegion
  | parameterValidation
  | unspecified
  | profileNotFound
  | dataNotFound
  | retryConfiguration
  | unknownService
  | tokenRetrieval
  | invalidRegion
  | flexibleChecksum
  deriving DecidableEq, Repr

namespace ClientFaultKind

def all : List ClientFaultKind :=
  [connectTimeout, readTimeout, endpointConnection, connectionClosed, proxyConnection,
    secureConnection, httpClient, connection, responseStreaming, incompleteRead, noCredentials,
    partialCredentials, noRegion, parameterValidation, unspecified, profileNotFound, dataNotFound,
    retryConfiguration, unknownService, tokenRetrieval, invalidRegion, flexibleChecksum]

def label : ClientFaultKind → String
  | connectTimeout => "ConnectTimeoutError"
  | readTimeout => "ReadTimeoutError"
  | endpointConnection => "EndpointConnectionError"
  | connectionClosed => "ConnectionClosedError"
  | proxyConnection => "ProxyConnectionError"
  | secureConnection => "SSLError"
  | httpClient => "HTTPClientError"
  | connection => "ConnectionError"
  | responseStreaming => "ResponseStreamingError"
  | incompleteRead => "IncompleteReadError"
  | noCredentials => "NoCredentialsError"
  | partialCredentials => "PartialCredentialsError"
  | noRegion => "NoRegionError"
  | parameterValidation => "ParamValidationError"
  | unspecified => "BotoCoreError"
  | profileNotFound => "ProfileNotFound"
  | dataNotFound => "DataNotFoundError"
  | retryConfiguration => "InvalidRetryConfigurationError"
  | unknownService => "UnknownServiceError"
  | tokenRetrieval => "TokenRetrievalError"
  | invalidRegion => "InvalidRegionError"
  | flexibleChecksum => "FlexibleChecksumError"

/-- An unlisted name reads as the unspecified failure. -/
def ofLabel (name : String) : ClientFaultKind :=
  (all.find? (·.label = name)).getD .unspecified

/-- The category when no adapter is asked, for the failures that have one. -/
def commonKind? : ClientFaultKind → Option ErrorKind
  | connectTimeout | readTimeout | proxyConnection | secureConnection | invalidRegion =>
      some .invalidArgument
  | _ => none

def kind : ClientFaultKind → ErrorKind
  | connectTimeout | readTimeout => .deadlineExceeded
  | proxyConnection | secureConnection | endpointConnection | connectionClosed | httpClient
  | connection | responseStreaming => .transport
  | noCredentials | partialCredentials => .unauthorized
  | parameterValidation | noRegion | invalidRegion => .invalidArgument
  | _ => .unknown

end ClientFaultKind

/-- A stretch of a message: words, or a detail of the failure. -/
inductive Stretch where
  | words (text : String)
  | detail (name : String)
  deriving Repr

open Stretch in
def ClientFaultKind.message : ClientFaultKind → List Stretch
  | connectTimeout =>
      [words "Connect timeout on endpoint URL: \"", detail "endpoint_url", words "\""]
  | readTimeout => [words "Read timeout on endpoint URL: \"", detail "endpoint_url", words "\""]
  | endpointConnection =>
      [words "Could not connect to the endpoint URL: \"", detail "endpoint_url", words "\""]
  | connectionClosed =>
      [words "Connection was closed before we received a valid response from endpoint URL: \"",
        detail "endpoint_url", words "\"."]
  | proxyConnection => [words "Failed to connect to proxy URL: \"", detail "proxy_url", words "\""]
  | secureConnection =>
      [words "SSL validation failed for ", detail "endpoint_url", words " ", detail "error"]
  | httpClient => [words "An HTTP Client raised an unhandled exception: ", detail "error"]
  | connection => [words "An HTTP Client failed to establish a connection: ", detail "error"]
  | responseStreaming =>
      [words "An error occurred while reading from response stream: ", detail "error"]
  | incompleteRead =>
      [detail "actual_bytes", words " read, but total bytes expected is ", detail "expected_bytes",
        words "."]
  | noCredentials => [words "Unable to locate credentials"]
  | partialCredentials =>
      [words "Partial credentials found in ", detail "provider", words ", missing: ",
        detail "cred_var"]
  | noRegion => [words "You must specify a region."]
  | parameterValidation => [words "Parameter validation failed:\n", detail "report"]
  | unspecified => [words "An unspecified error occurred"]
  | profileNotFound =>
      [words "The config profile (", detail "profile", words ") could not be found"]
  | dataNotFound => [words "Unable to load data for: ", detail "data_path"]
  | retryConfiguration =>
      [words "Cannot provide retry configuration for \"", detail "retry_config_option",
        words "\". Valid retry configuration options are: ", detail "valid_options"]
  | unknownService =>
      [words "Unknown service: '", detail "service_name", words "'. Valid service names are: ",
        detail "known_service_names"]
  | tokenRetrieval =>
      [words "Error when retrieving token from ", detail "provider", words ": ",
        detail "error_msg"]
  | invalidRegion =>
      [words "Provided region_name '", detail "region_name",
        words "' doesn't match a supported format."]
  | flexibleChecksum => [detail "error_msg"]

structure ClientFault where
  kind : ClientFaultKind
  text : String
  deriving Repr

namespace ClientFault

/-- A failure with its details, of which its message must find all that it tells. -/
def ofDetails (kind : ClientFaultKind) (details : Value) : Except Ambient ClientFault := do
  let told ← kind.message.mapM fun
    | .words text => return text
    | .detail name => return (← details.part name).shown
  return { kind, text := String.join told }

end ClientFault
end BlobStorage.S3
