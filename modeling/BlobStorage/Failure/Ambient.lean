import BlobStorage.Failure.Described
import BlobStorage.Failure.Kind

/-!
Failures of the surroundings: a value of the wrong type, a numeral that cannot be read, a reply
without a field, a file that is not there. Each has a label, a text, and a category when it has
the same one for every provider.
-/
namespace BlobStorage

inductive FileProblem where
  | missing
  | occupied
  | notDirectory
  | isDirectory
  | nameTooLong
  deriving DecidableEq, Repr

namespace FileProblem

def number : FileProblem → Nat
  | missing => 2
  | occupied => 17
  | notDirectory => 20
  | isDirectory => 21
  | nameTooLong => 36

def text : FileProblem → String
  | missing => "No such file or directory"
  | occupied => "File exists"
  | notDirectory => "Not a directory"
  | isDirectory => "Is a directory"
  | nameTooLong => "File name too long"

def label : FileProblem → String
  | missing => "FileNotFoundError"
  | occupied => "FileExistsError"
  | notDirectory => "NotADirectoryError"
  | isDirectory => "IsADirectoryError"
  | nameTooLong => "OSError"

end FileProblem

/-- Work that hands over items one by one, and cannot itself say that there are no more. -/
inductive ItemSource where
  | generator
  | coroutine
  deriving DecidableEq, Repr

def ItemSource.name : ItemSource → String
  | generator => "generator"
  | coroutine => "coroutine"

inductive Ambient where
  | file (problem : FileProblem) (path : String)
  | nullInPath
  | fieldMissing (name : Value)
  | badNumeral (text : String)
  | longNumeral (digits : Nat)
  | notComparable (comparison left right : String)
  | noAttribute (owner name : String)
  | argumentMissing (method argument : String)
  | argumentSurplus (method : String) (taken given : Nat)
  | notSubscriptable (owner : Value)
  | notIterable (typeName : String)
  | notContainer (typeName : String)
  | notHashable (typeName : String)
  | noLength (typeName : String)
  | pairLength (index length : Nat)
  | pairType (index : Nat)
  | notMember (value : Value) (enumeration : String)
  | notAddress (text : String)
  | unbalancedBrackets
  | bracketedAddress
  | futureAddress
  | authorityNormalized (authority : String)
  | dateRange
  | dateText (text : String)
  | dayRange (days : Int)
  | yearRange
  | indexRange
  | indexMissing
  | readLength
  | strangeSignature
  | parameterRange (name : String) (value : Int)
  | workersRange
  | semaphoreRange
  | consumer
  /-- Items ended where that could not be said. -/
  | itemsEnded (source : ItemSource)
  | described (d : Described)
  | misdescribed (fault : Described.Fault)
  deriving Repr

namespace Ambient

def label : Ambient → String
  | file problem _ => problem.label
  | fieldMissing _ => "KeyError"
  | nullInPath | badNumeral _ | longNumeral _ | pairLength _ _ | notMember _ _ | notAddress _
  | unbalancedBrackets | bracketedAddress | futureAddress | authorityNormalized _ | dateText _
  | yearRange | readLength | parameterRange _ _ | workersRange | semaphoreRange => "ValueError"
  | notComparable _ _ _ | notSubscriptable _ | notIterable _ | notContainer _ | notHashable _
  | noLength _ | pairType _ | strangeSignature | argumentMissing _ _ | argumentSurplus _ _ _ =>
      "TypeError"
  | noAttribute _ _ => "AttributeError"
  | dateRange | dayRange _ | indexRange => "OverflowError"
  | indexMissing => "IndexError"
  | consumer | itemsEnded _ => "RuntimeError"
  | described d => d.label
  | misdescribed fault => fault.label

/-- The longest stretch of a text that a message about a numeral quotes. -/
def numeralExcerpt (text : String) : String :=
  String.ofList ((quoted text).toList.take 200)

/-- Numbers of days beyond a word of 32 bits are not even named. -/
def dayRangeText (days : Int) : String :=
  if -2147483648 ≤ days ∧ days ≤ 2147483647 then
    "days=" ++ toString days ++ "; must have magnitude <= 999999999"
  else "Python int too large to convert to C int"

def subscriptText (owner : Value) : String :=
  match owner with
  | .text _ => "string indices must be integers, not 'str'"
  | .list _ => "list indices must be integers or slices, not str"
  | .bytes _ => "byte indices must be integers or slices, not str"
  | v => "'" ++ v.fullTypeName ++ "' object is not subscriptable"

def text : Ambient → String
  | file problem path =>
      "[Errno " ++ toString problem.number ++ "] " ++ problem.text ++ ": " ++ quoted path
  | nullInPath => "embedded null byte"
  | fieldMissing name => name.literal
  | badNumeral text => "invalid literal for int() with base 10: " ++ numeralExcerpt text
  | longNumeral digits =>
      "Exceeds the limit (4300 digits) for integer string conversion: value has "
        ++ toString digits ++ " digits; use sys.set_int_max_str_digits() to increase the limit"
  | notComparable comparison left right =>
      "'" ++ comparison ++ "' not supported between instances of '" ++ left ++ "' and '" ++ right
        ++ "'"
  | noAttribute owner name => "'" ++ owner ++ "' object has no attribute '" ++ name ++ "'"
  | argumentMissing method argument =>
      method ++ "() missing 1 required positional argument: " ++ quoted argument
  | argumentSurplus method taken given =>
      method ++ "() takes " ++ toString taken ++ " positional argument"
        ++ (if taken = 1 then "" else "s") ++ " but " ++ toString given ++ " were given"
  | notSubscriptable owner => subscriptText owner
  | notIterable typeName => "'" ++ typeName ++ "' object is not iterable"
  | notContainer typeName => "argument of type '" ++ typeName ++ "' is not iterable"
  | notHashable typeName => "unhashable type: '" ++ typeName ++ "'"
  | noLength typeName => "object of type '" ++ typeName ++ "' has no len()"
  | pairLength index length =>
      "dictionary update sequence element #" ++ toString index ++ " has length "
        ++ toString length ++ "; 2 is required"
  | pairType index =>
      "cannot convert dictionary update sequence element #" ++ toString index ++ " to a sequence"
  | notMember value enumeration => value.literal ++ " is not a valid " ++ enumeration
  | notAddress text => quoted text ++ " does not appear to be an IPv4 or IPv6 address"
  | unbalancedBrackets => "Invalid IPv6 URL"
  | bracketedAddress => "An IPv4 address cannot be in brackets"
  | futureAddress => "IPvFuture address is invalid"
  | authorityNormalized authority =>
      "netloc '" ++ authority ++ "' contains invalid characters under NFKC normalization"
  | dateRange => "date value out of range"
  | dateText text => "Invalid isoformat string: " ++ quoted text
  | dayRange days => dayRangeText days
  | yearRange => "year 0 is out of range"
  | indexRange => "cannot fit 'int' into an index-sized integer"
  | indexMissing => "list index out of range"
  | readLength => "read length must be non-negative or -1"
  | strangeSignature => "comparing strings with non-ASCII characters is not supported"
  | parameterRange name value =>
      "Provided parameter " ++ name ++ " of value " ++ toString value ++ " must be greater than 0."
  | workersRange => "max_workers must be greater than 0"
  | semaphoreRange => "Semaphore initial value must be >= 0"
  | consumer => "consumer failed"
  | itemsEnded source => source.name ++ " raised StopIteration"
  | described d => d.text
  | misdescribed fault => fault.text

/-- The category of a label: an existing file is a failed precondition, a timeout a missed
deadline, a broken connection a failed transport, and a bad value, a wrong type and every other
system error an invalid argument. -/
def kindOfLabel? (label : String) : Option ErrorKind :=
  if label = "FileExistsError" then some .failedPrecondition
  else if label = "TimeoutError" then some .deadlineExceeded
  else if Described.connectionLabels.contains label then some .transport
  else if Described.systemLabels.contains label then some .invalidArgument
  else if ["ValueError", "UnicodeError", "UnicodeEncodeError", "UnicodeDecodeError",
      "UnicodeTranslateError", "TypeError"].contains label then some .invalidArgument
  else none

def kind? (a : Ambient) : Option ErrorKind := kindOfLabel? a.label

end Ambient

/-- A duration whose days have at most nine digits. -/
def Duration.checked (d : Duration) : Except Ambient Duration :=
  if d.inRange then .ok d else .error (.dayRange d.days)

end BlobStorage
