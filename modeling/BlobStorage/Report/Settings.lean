import BlobStorage.Opening
import BlobStorage.Report

/-!
Settings as records. A record of settings has the fields that are set, defaults included, and no
others.
-/
namespace BlobStorage

def Value.field? {α : Type} (name : String) (write : α → Value) : Option α → List (String × Value)
  | some x => [(name, write x)]
  | none => []

open Value (field?)

def RetryPolicy.report (p : RetryPolicy) : Value :=
  .map <| [("mode", .text p.mode.name), ("max_attempts", .whole p.maxAttempts),
      ("multiplier", .real p.multiplier)]
    ++ field? "fixed_delay" .duration p.fixedDelay
    ++ field? "initial_delay" .duration p.initialDelay
    ++ field? "max_delay" .duration p.maxDelay
    ++ field? "attempt_timeout" .duration p.attemptTimeout
    ++ field? "total_timeout" .duration p.totalTimeout

def SessionCredentials.report (s : SessionCredentials) : Value :=
  .map <| [("access_key_id", .text s.accessKey), ("secret_access_key", .text s.secretKey)]
    ++ field? "session_token" .text s.sessionToken

def Credentials.report (c : Credentials) : Value :=
  .map <| [("type", .text c.type.name)]
    ++ field? "session_credentials" SessionCredentials.report c.session
    ++ field? "role" .text c.role
    ++ field? "session_name" .text c.sessionName
    ++ field? "duration_seconds" .whole c.durationSeconds

def Proxies.report (t : Proxies) : Value :=
  .map (t.map fun (scheme, address) => (scheme, .text address))

def SettingKind.report : (kind : SettingKind) → kind.Held → Option Value
  | name, s => some (.text s)
  | text, held => held.map .text
  | flag, held => held.map .flag
  | whole, held => held.map .whole
  | real, held => held.map .real
  | duration, held => held.map .duration
  | credentials, held => held.map Credentials.report
  | executor, true => some Setting.executor.value
  | executor, false => none
  | retry, held => held.map RetryPolicy.report
  | texts, held => some (.map (held.map fun (key, v) => (key, .text v)))

def Config.report (c : Config) : Value :=
  .map (Slot.all.filterMap fun s => (s.kind.report (s.look c)).map fun v => (s.name, v))

def Setting.report : Setting → Value
  | .credentials c => c.report
  | .retry p => p.report
  | s => s.value

def OpenClient.report (c : OpenClient) : Value :=
  let place := if c.kind = .service then []
    else [("bucket", c.bucket), ("region", c.region)]
  .map <| [("type", .text c.className), ("store", .ofText? c.storeName?),
    ("provider_id", .text c.factory.provider)] ++ place

def S3.Step.report : S3.Step → Value
  | .client service options => .list [.text "client", .text service, .map options]
  | .assumeRole parameters => .list [.text "assume_role", .map parameters]

def S3.Call.report (c : S3.Call) : Value :=
  .list [.text c.method.name, .list c.positional, .map c.named]

end BlobStorage
