import BlobStorage.Number.Numeral
import BlobStorage.S3.Call
import BlobStorage.Table

/-!
A service that keeps every version of an object, as one of several clients meets it. A request is
answered in one instant, from what is held just then; whatever the others do comes before it or after
it. No version is ever changed, and no identifier is given twice.
-/
namespace BlobStorage.S3

structure ObjectVersion where
  id : String
  etag : String
  content : Content
  deriving DecidableEq, Repr

/-- The version that a request is about, the newest being last: the one it names, or else the newest. -/
def ObjectVersion.asked? (versions : List ObjectVersion) (id : Option String) :
    Option ObjectVersion :=
  if id.getD "" = "" then versions.getLast?
  else versions.find? fun o => some o.id = id

namespace ByteRange

def bound? (text : List Char) : Option (Option Nat) :=
  if text.isEmpty then some none
  else (Number.Numeral.plainDigits? text).map fun digits => some (Number.Numeral.spelled digits)

def pair? (text : List Char) : Option (Option Nat × Option Nat) := do
  let first ← bound? (text.takeWhile (· ≠ '-'))
  let last ← bound? ((text.dropWhile (· ≠ '-')).drop 1)
  return (first, last)

def bounds? (header : List Char) : Option (Option Nat × Option Nat) :=
  if "bytes=".toList.isPrefixOf header then pair? (header.drop "bytes=".length) else none

/-- The bytes that a header asks for, if there are any. A header without sense asks for all. -/
def cut? (header : Option String) (content : Content) : Option Content :=
  match header.bind fun text => bounds? text.toList with
  | some (some first, last) =>
      if content.length ≤ first then none
      else
        match last with
        | none => some (content.drop first)
        | some last =>
            some (if last < first then content else (content.take (last + 1)).drop first)
  | some (none, some count) => if count = 0 then none else some (content.suffix count)
  | some (none, none) | none => some content

end ByteRange

/-- A version as it was written once, and whether it has been removed since. -/
structure Written where
  bucket : String
  key : String
  etag : String
  content : Content
  gone : Bool := false
  deriving DecidableEq, Repr

inductive Change where
  | put (bucket key etag : String) (content : Content)
  /-- Removes the version that was written as the one of this number. -/
  | remove (number : Nat)
  deriving DecidableEq, Repr

structure Service where
  /-- All that was ever written, in order. -/
  log : List Written := []
  /-- What other clients do before each of the requests to come. -/
  others : List (List Change) := []
  deriving DecidableEq, Repr

namespace Service

def idOf (number : Nat) : String := "v" ++ toString number

/-- What was written as a version of a key, unless it is gone. -/
def versionOf? (bucket key : String) (e : Written × Nat) : Option ObjectVersion :=
  if e.1.bucket = bucket ∧ e.1.key = key ∧ e.1.gone = false then
    some { id := idOf e.2, etag := e.1.etag, content := e.1.content }
  else none

/-- The versions of a key, the newest last. -/
def versions (s : Service) (bucket key : String) : List ObjectVersion :=
  s.log.zipIdx.filterMap (versionOf? bucket key)

def apply (s : Service) : Change → Service
  | .put bucket key etag content => { s with log := s.log ++ [{ bucket, key, etag, content }] }
  | .remove number => { s with log := s.log.modify number fun e => { e with gone := true } }

/-- The other clients do what they do before the next request. -/
def turn (s : Service) : Service :=
  match s.others with
  | [] => s
  | changes :: rest => changes.foldl apply { s with others := rest }

/-! Answers -/

def refusal (operation code : String) (status : Int) : Failure :=
  .reply { operation, code := some (.text code), message := none, status := some (.whole status)
           requestId := none, retries := none }

def text? (named : Parameters) (name : String) : Option String :=
  match Table.get? named name with
  | some (.text s) => some s
  | _ => none

def look (s : Service) (operation bucket key : String) (version : Option String) :
    Except Failure ObjectVersion :=
  match ObjectVersion.asked? (s.versions bucket key) version with
  | some o => .ok o
  | none => .error (refusal operation "NoSuchKey" 404)

def lookNamed (s : Service) (operation : String) (named : Parameters) :
    Except Failure ObjectVersion :=
  s.look operation ((text? named "Bucket").getD "") ((text? named "Key").getD "")
    (text? named "VersionId")

def described (o : ObjectVersion) (length : Nat) : Parameters :=
  [("ETag", .text o.etag), ("VersionId", .text o.id), ("ContentLength", .whole length)]

def answer (s : Service) (call : Call) : Except Failure Reply :=
  match call.method with
  | .headObject => do
      let o ← s.lookNamed "HeadObject" call.named
      return { value := .map (described o o.content.length) }
  | .getObject => do
      let o ← s.lookNamed "GetObject" call.named
      match ByteRange.cut? (text? call.named "Range") o.content with
      | some part => return { value := .map (described o part.length ++ [("Body", .stream part)]) }
      | none => throw (refusal "GetObject" "InvalidRange" 416)
  | .downloadStream =>
      match call.positional, Table.get? call.named "ExtraArgs" with
      | [.text bucket, .text key], extra => do
          let version := match (extra.getD .null).at? "VersionId" with
            | some (.text id) => some id
            | _ => none
          let o ← s.look "GetObject" bucket key version
          return { written := o.content }
      | _, _ => .error (refusal "GetObject" "InvalidRequest" 400)
  | .closeBody => return {}
  | method => .error (refusal method.name "NotImplemented" 501)

def send (call : Call) : Op Service Reply := fun w =>
  (w.remote.turn.answer call, { w with remote := w.remote.turn })

def client : Client Service where
  send := send
  bound _ _ := 1

end Service
end BlobStorage.S3
