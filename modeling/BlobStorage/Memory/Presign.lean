import BlobStorage.Digest.Sha256
import BlobStorage.Memory.Backend
import BlobStorage.Number.Numeral
import BlobStorage.Reply
import BlobStorage.Text.Percent
import BlobStorage.Uri

/-!
Presigned addresses: they name an operation, a bucket, a key and the second in which they expire,
signed with the backend's key. Verification recomputes the signature from the address itself.
-/
namespace BlobStorage.Memory.Presign

/-- What is signed: the four facts on a line each. -/
def payload (operation bucket key expires : String) : Content :=
  Content.ofText (operation ++ "\n" ++ bucket ++ "\n" ++ key ++ "\n" ++ expires)

def sign (s : Backend) (operation bucket key expires : String) : String :=
  Digest.Sha256.signHex s.signingKey (payload operation bucket key expires)

def address (operation bucket key expires signature : String) : String :=
  "memory://" ++ bucket ++ "/" ++ String.ofList (Text.Percent.encodePath key.toList) ++ "?"
    ++ String.ofList (Text.Percent.encodePairs
      [("operation", operation), ("expires", expires), ("signature", signature)])

def secondOf (moment : Moment) : Except Failure Int :=
  match moment.timestamp? with
  | some second => .ok second
  | none => .error (.ambient .yearRange)

/-- An address that is good until the duration has passed, unless the calendar ends before. -/
def create (s : Backend) (operation : PresignedOperation) (bucket key : String)
    (duration : Duration) : Except Failure String :=
  match s.now.add? duration with
  | none => .error (.ambient .dateRange)
  | some moment => do
      let expires := toString (← secondOf moment)
      return address operation.name bucket key expires (sign s operation.name bucket key expires)

/-- The fields of a query in order; a field without a value is left out. -/
def fields (query : List Char) : List (String × String) :=
  (query.splitOn '&').filterMap fun field =>
    let (name, value) := Uri.cutAt '=' field
    if value.isEmpty then none
    else some (String.ofList (Text.Percent.decodeForm name),
      String.ofList (Text.Percent.decodeForm value))

def isAscii (text : String) : Bool := text.toList.all fun c => c.toNat < 128

def numeral (text : String) : Except Failure Int :=
  match Number.Numeral.int text.toList with
  | .ok n => .ok n
  | .error .malformed => .error (.ambient (.badNumeral text))
  | .error (.tooLong digits) => .error (.ambient (.longNumeral digits))

structure Grant where
  operation : String
  bucket : String
  key : String
  deriving DecidableEq, Repr

/-- What an address grants at a moment, if its signature is the backend's and it has not expired.
Of a field that comes twice the first counts. -/
def verify (s : Backend) (address : String) (now : Moment) : Except Failure Grant := do
  let uri ← (Uri.parse address.toList).mapError Failure.ambient
  let query := fields uri.query
  let field (name : String) : Option String := (query.find? (·.1 = name)).map (·.2)
  let bucket := String.ofList uri.authority
  let key := String.ofList (Text.Percent.decode (uri.path.dropWhile (· = '/')))
  let signature := (field "signature").getD ""
  let expected := sign s ((field "operation").getD "") bucket key ((field "expires").getD "")
  if !isAscii signature then .error (.ambient .strangeSignature)
  else if signature ≠ expected then .error (.memory .signature)
  else
    match field "expires" with
    | none => .error (.ambient (.fieldMissing (.text "expires")))
    | some expires => do
        let second ← numeral expires
        if second < (← secondOf now) then throw (.memory .expired)
        match field "operation" with
        | none => throw (.ambient (.fieldMissing (.text "operation")))
        | some operation => return ⟨operation, bucket, key⟩

end BlobStorage.Memory.Presign
