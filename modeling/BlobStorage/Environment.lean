import BlobStorage.Opening
import BlobStorage.Text.LowerCase

/-!
Clients configured by the variables of the environment. An argument goes before its variable, and
an empty value counts as not given.
-/
namespace BlobStorage

abbrev Variables := Table String String

namespace Variables

def given? (v : Variables) (name : String) : Option String :=
  (v.get? name).filter (!·.isEmpty)

/-- The provider to use, in small letters. -/
def provider (v : Variables) (argument : Option String) : String :=
  let chosen := (argument.filter (!·.isEmpty)).getD ((v.get? "POLYBLOB_PROVIDER").getD "aws")
  String.ofList (Text.LowerCase.lower chosen.toList)

def connections? (v : Variables) : Except Failure (Option Int) :=
  match v.given? "POLYBLOB_MAX_CONNECTIONS" with
  | none => .ok none
  | some text =>
      match Number.Numeral.int text.toList with
      | .ok n => .ok (some n)
      | .error _ => .error (.refused (.connectionsNotInteger text))

def credentials? (v : Variables) : Option Credentials := do
  let accessKey ← v.given? "AWS_ACCESS_KEY_ID"
  let secretKey ← v.given? "AWS_SECRET_ACCESS_KEY"
  let session := { accessKey, secretKey, sessionToken := v.get? "AWS_SESSION_TOKEN" }
  return { type := .session, session := some session }

def setText (b : Builder) (name : String) (text : Option String) : Except Failure Builder :=
  match text with
  | some s => b.set name (.plain (.text s))
  | none => .ok b

/-- Makes the settings that the variables ask for. A bucket must come from one or the other. -/
def configure (v : Variables) (bucket : Option String) (b : Builder) : Except Failure Builder := do
  match (bucket.filter (!·.isEmpty)).or (v.given? "POLYBLOB_BUCKET") with
  | none => throw (.refused .bucketNotConfigured)
  | some bucket => do
      let b ← b.set "bucket" (.plain (.text bucket))
      let b ← setText b "region" (v.given? "POLYBLOB_REGION")
      let b ← setText b "endpoint" (v.given? "POLYBLOB_ENDPOINT_URL")
      let b ← setText b "proxy_endpoint" (v.given? "POLYBLOB_PROXY_URL")
      let b ← match ← v.connections? with
        | some n => b.set "max_connections" (.plain (.whole n))
        | none => .ok b
      match v.credentials? with
      | some c => b.set "credentials_overrider" (.credentials c)
      | none => return b

def openClient (v : Variables) (kind : ClientKind) (bucket provider : Option String) :
    Action S3.Provisioning OpenClient := do
  let (found, _) := (Registry.find [] kind (v.provider provider)).runFrom {}
  let factory ← Action.ofExcept found
  let builder ← Action.ofExcept (v.configure bucket factory.builder)
  factory.openClient kind builder none

end Variables
end BlobStorage
