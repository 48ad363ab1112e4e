/-!
The closed set of categories that every failure of a storage service falls into.
-/
namespace BlobStorage

inductive ErrorKind where
  | unauthorized
  | invalidArgument
  | notFound
  | alreadyExists
  | conflict
  | failedPrecondition
  | exhausted
  | deadlineExceeded
  | transport
  | unsupported
  | unknown
  deriving DecidableEq, Repr

namespace ErrorKind

def all : List ErrorKind :=
  [unauthorized, invalidArgument, notFound, alreadyExists, conflict, failedPrecondition,
    exhausted, deadlineExceeded, transport, unsupported, unknown]

def name : ErrorKind → String
  | unauthorized => "unauthorized"
  | invalidArgument => "invalid_argument"
  | notFound => "resource_not_found"
  | alreadyExists => "resource_already_exists"
  | conflict => "resource_conflict"
  | failedPrecondition => "failed_precondition"
  | exhausted => "resource_exhausted"
  | deadlineExceeded => "deadline_exceeded"
  | transport => "transport"
  | unsupported => "unsupported"
  | unknown => "unknown"

def ofName? (text : String) : Option ErrorKind :=
  all.find? (·.name = text)

def label : ErrorKind → String
  | unauthorized => "UnAuthorizedError"
  | invalidArgument => "InvalidArgumentError"
  | notFound => "ResourceNotFoundError"
  | alreadyExists => "ResourceAlreadyExistsError"
  | conflict => "ResourceConflictError"
  | failedPrecondition => "FailedPreconditionError"
  | exhausted => "ResourceExhaustedError"
  | deadlineExceeded => "DeadlineExceededError"
  | transport => "TransportError"
  | unsupported => "UnSupportedError"
  | unknown => "UnknownError"

theorem ofName?_name (k : ErrorKind) : ofName? k.name = some k := by
  cases k <;> rfl

end ErrorKind
end BlobStorage
