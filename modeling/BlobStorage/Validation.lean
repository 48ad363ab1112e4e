import BlobStorage.Reply
import BlobStorage.Text.Blank
import BlobStorage.Uri

/-!
Checks of what does not depend on the provider. Each accepts or names the failure; the first
failure wins.
-/
namespace BlobStorage

abbrev Check := Except Failure Unit

namespace Check

def refuse (reason : Refusal) (key : Option String := none) : Check :=
  .error (.refusal reason key)

/-- An absolute web address with a host; that of a proxy has no path. -/
def address (proxy : Bool) (text : String) : Check :=
  match Uri.parse text.toList with
  | .error a => .error (.ambient a)
  | .ok uri =>
      if uri.scheme ≠ "http".toList ∧ uri.scheme ≠ "https".toList then
        refuse (.endpointScheme proxy (.text text))
      else if uri.host.isEmpty then refuse (.endpointHost proxy text)
      else if proxy ∧ uri.path ≠ [] ∧ uri.path ≠ ['/'] then refuse (.proxyPath text)
      else .ok ()

def endpoint (proxy : Bool) (v : Value) : Check :=
  match v with
  | .null => .ok ()
  | .text text => address proxy text
  | v =>
      if v.isGiven then .error (.ambient (.noAttribute v.fullTypeName "decode"))
      else refuse (.endpointScheme proxy v)

def incomparable? (comparison : String) (v : Value) : Option Failure :=
  match v with
  | .null | .flag _ | .whole _ | .real _ => none
  | v => some (.ambient (.notComparable comparison v.fullTypeName "int"))

/-- At least one connection, where a number of connections is set at all. -/
def maxConnections (v : Value) : Check :=
  match incomparable? "<" v with
  | some f => .error f
  | none =>
      let few := match v with
        | .flag b => !b
        | .whole n => n < 1
        | .real x => x.ltInt 1
        | _ => false
      if few then refuse (.fewConnections v) else .ok ()

def duration (name : String) (v : Value) : Check :=
  match v with
  | .null => .ok ()
  | .duration d => if d.isNegative then refuse (.negativeDuration name) else .ok ()
  | v => refuse (.notDuration name v.typeName)

/-- More than zero, where a number is set at all. -/
def positive (name : String) (v : Value) : Check :=
  match incomparable? "<=" v with
  | some f => .error f
  | none =>
      let small := match v with
        | .flag b => !b
        | .whole n => n ≤ 0
        | .real x => x.leInt 0
        | _ => false
      if small then refuse (.notPositive name v) else .ok ()

def bucket (name : Option String) : Check :=
  match name with
  | none => refuse .bucketMissing
  | some text => if text.toList.all Text.Blank.isBlank then refuse .bucketMissing else .ok ()

/-- What is given in the place of a bucket's name: only a text can be blank. -/
def bucketName (v : Value) : Check :=
  match v with
  | .text name => bucket name
  | v => if v.isGiven then .error (.ambient (.noAttribute v.fullTypeName "strip")) else bucket none

def key (key : String) : Check :=
  if key.isEmpty then refuse .emptyKey else .ok ()

/-- A key that was reported need only be given. -/
def reportedKey (key : Reported String) : Check :=
  if key.isGiven then .ok () else refuse .emptyKey

def keys : List Target → Check
  | [] => .ok ()
  | t :: rest => do
      reportedKey t.key
      keys rest

def bounds (start stop : Option Int) (key : Option String) : Check := do
  match start with
  | some start => if start < 0 then refuse (.rangeStartNegative start) key
  | none => pure ()
  match stop with
  | some stop => if stop < 0 then refuse (.rangeEndNegative stop) key
  | none => pure ()
  match start, stop with
  | some start, some stop => if stop < start then refuse (.rangeReversed start stop) key
  | _, _ => pure ()

def range (r : DownloadRequest) : Check := bounds r.start r.stop r.key

def tags : Attributes → Check
  | [] => .ok ()
  | (name, value) :: rest =>
      if name.isEmpty then refuse .emptyTagName
      else if value.isNone then refuse (.tagWithoutValue (.text name))
      else tags rest

/-- What is given in the place of tags: every name counts as given, and no value is null. -/
def tagEntries : List (Value × Value) → Check
  | [] => .ok ()
  | (name, v) :: rest =>
      if !name.isGiven then refuse .emptyTagName
      else
        match v with
        | .null => refuse (.tagWithoutValue name)
        | _ => tagEntries rest

def uploadToken (token : UploadToken) (bucket : Option String) : Check := do
  if !token.id.isGiven then refuse .emptyUploadId token.key
  match bucket with
  | some b => if token.bucket ≠ b then refuse (.foreignUpload token.bucket b) token.key
  | none => pure ()
  key token.key

def part (p : Part) (limit : Int) : Check :=
  if p.number < 1 ∨ limit < p.number then refuse (.partNumberOutside limit p.number)
  else
    match p.source, p.contentLength with
    | .stream _, none => refuse (.streamWithoutLength p.number)
    | _, _ => .ok ()

def distinctParts : List Int → List PartReceipt → Check
  | _, [] => .ok ()
  | seen, p :: rest =>
      if seen.contains p.number then refuse (.partRepeated p.number)
      else if !p.etag.isGiven then refuse (.partWithoutTag p.number)
      else distinctParts (p.number :: seen) rest

def parts (ps : List PartReceipt) : Check := do
  distinctParts [] ps
  if ps.isEmpty then refuse .noParts

def presignDuration (d : Option Duration) : Check :=
  if (d.map Duration.isPositive).getD false then .ok () else refuse .presignDuration

def presignDurationValue (v : Value) : Check :=
  match v with
  | .null => presignDuration none
  | .duration d => presignDuration (some d)
  | v => .error (.ambient (.notComparable "<=" v.fullTypeName "datetime.timedelta"))

end Check
end BlobStorage
