import BlobStorage.Proxy
import BlobStorage.S3.Call

/-!
The options of the service's client that a configuration spells. Only what was set is passed on.
-/
namespace BlobStorage.S3.ClientOptions

def timeouts (seconds : Value) : Parameters :=
  [("connect_timeout", seconds), ("read_timeout", seconds)]

def proxies (found : Option Proxies) : Parameters :=
  match found with
  | some table => [("proxies", .map (table.map fun (scheme, address) => (scheme, .text address)))]
  | none => []

def connections (c : Config) : Parameters :=
  match c.maxConnections with
  | some n => [("max_pool_connections", .whole n)]
  | none => []

/-- A socket timeout of zero switches the timeouts off. -/
def socketTimeout (c : Config) : Parameters :=
  match c.socketTimeout with
  | some d => timeouts (if d.micros = 0 then .null else .real d.seconds)
  | none => []

def keepAlive (c : Config) : Parameters :=
  if c.idleConnectionTimeout.isSome then [("tcp_keepalive", .flag true)] else []

/-- The number of attempts, and the timeout of one where no socket timeout is set. -/
def retries (c : Config) : Parameters :=
  match c.retry with
  | none => []
  | some policy =>
      let limit := Value.map
        [("total_max_attempts", .whole policy.maxAttempts), ("mode", .text "standard")]
      let timeout := match policy.attemptTimeout with
        | some d =>
            if d.micros ≠ 0 && c.socketTimeout.isNone then timeouts (.real d.seconds) else []
        | none => []
      ("retries", limit) :: timeout

def region (name : Option String) : Parameters :=
  match name with
  | some r => if r.isEmpty then [] else [("region_name", .text r)]
  | none => []

def ofConfig (c : Config) (system environment : Proxies) : Parameters :=
  ("signature_version", .text "s3v4")
    :: (region c.region ++ proxies (Proxies.resolve c system environment) ++ connections c
      ++ socketTimeout c ++ keepAlive c ++ retries c)

end BlobStorage.S3.ClientOptions
