import BlobStorage.Settings

/-!
Credentials that replace the ambient ones of a client: explicit keys, or a role to assume.
-/
namespace BlobStorage

inductive CredentialsType where
  | session
  | assumeRole
  | ambient
  deriving DecidableEq, Repr

namespace CredentialsType

def name : CredentialsType → String
  | session => "SESSION"
  | assumeRole => "ASSUME_ROLE"
  | ambient => "DEFAULT"

def value (t : CredentialsType) : Value := .choice "CredentialsType" t.name

def read (v : Value) : Settings.Read CredentialsType :=
  match v with
  | .text "SESSION" => .ok session
  | .text "ASSUME_ROLE" => .ok assumeRole
  | .text "DEFAULT" => .ok ambient
  | v => Settings.misfit (.oneOf ["SESSION", "ASSUME_ROLE", "DEFAULT"]) v

end CredentialsType

structure SessionCredentials where
  accessKey : String
  secretKey : String
  sessionToken : Option String := none
  deriving DecidableEq, Repr

def SessionCredentials.value (s : SessionCredentials) : Value :=
  .record "SessionCredentials" [("access_key_id", .text s.accessKey),
    ("secret_access_key", .text s.secretKey), ("session_token", .ofText? s.sessionToken)]

open Settings in
def SessionCredentials.read (v : Value) : Read SessionCredentials :=
  match v with
  | .table entries => do
      let fields := Value.texted entries
      let (accessKey, secretKey, sessionToken) ←
        both (required fields "access_key_id" text) <|
          both (required fields "secret_access_key" text)
            (defaulted fields "session_token" none (optional text))
      return { accessKey, secretKey, sessionToken }
  | v => misfit (.record "SessionCredentials") v

structure Credentials where
  type : CredentialsType := .ambient
  session : Option SessionCredentials := none
  role : Option String := none
  sessionName : Option String := none
  durationSeconds : Option Int := none
  deriving DecidableEq, Repr

namespace Credentials

def value (c : Credentials) : Value :=
  .record "CredentialsOverrider" [("type", c.type.value),
    ("session_credentials", (c.session.map SessionCredentials.value).getD .null),
    ("role", .ofText? c.role), ("session_name", .ofText? c.sessionName),
    ("duration_seconds", (c.durationSeconds.map Value.whole).getD .null)]

def broken? (c : Credentials) : Option Refusal :=
  if c.type = .session ∧ c.session.isNone then some .sessionCredentialsMissing
  else if c.type = .assumeRole ∧ (c.role.getD "").isEmpty then some .roleMissing
  else
    match c.durationSeconds with
    | some n => if n < 900 then some .shortSession else none
    | none => none

open Settings in
def read (fields : Fields) : Read Credentials := do
  let optionalText (name : String) := defaulted fields name none (optional text)
  let (type, session, role, sessionName, durationSeconds) ←
    both (defaulted fields "type" .ambient CredentialsType.read) <|
      both (defaulted fields "session_credentials" none (optional SessionCredentials.read)) <|
        both (optionalText "role") <|
          both (optionalText "session_name")
            (defaulted fields "duration_seconds" none (optional whole))
  let c : Credentials := { type, session, role, sessionName, durationSeconds }
  match c.broken? with
  | some reason => .error (.broken (.refused reason))
  | none => .ok c

/-- Builds credentials from their fields. Explicit keys given as fields are read on their own
first, so that their misfits are reported alone. -/
def ofFields (fields : Settings.Fields) : Except Failure Credentials := do
  match Settings.given? fields "session_credentials" with
  | some (.table keys) =>
      let _ ← (SessionCredentials.read (.table keys)).mapError (Settings.fault "SessionCredentials")
  | _ => pure ()
  (read fields).mapError (Settings.fault "CredentialsOverrider")

end Credentials
end BlobStorage
