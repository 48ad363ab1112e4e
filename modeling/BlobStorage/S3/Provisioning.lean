import BlobStorage.S3.ClientOptions
import BlobStorage.S3.Reply

/-!
Opening a client of the service: with explicit keys, with those of a role that is assumed first,
or with whatever the surroundings offer.
-/
namespace BlobStorage.S3

inductive Step where
  | client (service : String) (options : Parameters)
  | assumeRole (parameters : Parameters)
  deriving Repr

structure Provisioning where
  steps : List Step := []
  /-- The reply to assuming a role. -/
  assumed : Except Failure Value := .ok .null
  /-- What opening the client fails with, if it does. -/
  refusal : Option Failure := none
  system : Proxies := []
  environment : Proxies := []

namespace Provisioning

def record (step : Step) : Action Provisioning Unit :=
  modify fun p => { p with steps := p.steps ++ [step] }

def defaultSessionName : String := "polyblob"

def keys (accessKey secretKey : Value) (sessionToken : Option Value) : Parameters :=
  [("aws_access_key_id", accessKey), ("aws_secret_access_key", secretKey)]
    ++ (sessionToken.map fun t => ("aws_session_token", t)).toList

def assumeRole (c : Credentials) (region : Option String) : Action Provisioning Parameters := do
  record (.client "sts" (ClientOptions.region region))
  let sessionName := (c.sessionName.filter (!·.isEmpty)).getD defaultSessionName
  let length := match c.durationSeconds with
    | some n => if n = 0 then [] else [("DurationSeconds", Value.whole n)]
    | none => []
  record <| .assumeRole <|
    [("RoleArn", Value.ofText? c.role), ("RoleSessionName", Value.text sessionName)] ++ length
  let reply ← Action.ofExcept (← get).assumed
  Action.ofAmbient do
    let given ← reply.part "Credentials"
    let accessKey ← given.part "AccessKeyId"
    let secretKey ← given.part "SecretAccessKey"
    let sessionToken ← given.part "SessionToken"
    return keys accessKey secretKey (some sessionToken)

/-- The keys a client is opened with; none leave it to the surroundings. -/
def credentials (overriding : Option Credentials) (region : Option String) :
    Action Provisioning Parameters := do
  match overriding with
  | none => return []
  | some c =>
      match c.type, c.session with
      | .ambient, _ => return []
      | .session, some s =>
          let token := (s.sessionToken.filter (!·.isEmpty)).map Value.text
          return keys (.text s.accessKey) (.text s.secretKey) token
      | .session, none => return []
      | .assumeRole, _ => assumeRole c region

def openClient (c : Config) : Action Provisioning Unit := do
  let p ← get
  let options := [("config", Value.map (ClientOptions.ofConfig c p.system p.environment))]
  let endpoint := match c.endpoint with
    | some e => if e.isEmpty then [] else [("endpoint_url", Value.text e)]
    | none => []
  let keys ← credentials c.credentials c.region
  record (.client "s3" (options ++ endpoint ++ keys))
  match p.refusal with
  | some f => throw f
  | none => return ()

end Provisioning
end BlobStorage.S3
