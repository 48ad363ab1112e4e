import BlobStorage.Settings.Credentials
import BlobStorage.Settings.Retry

/-!
The configuration of a client: everything that was set, as typed fields. What was not set stays
unset, so that a provider's own defaults apply.
-/
namespace BlobStorage

inductive Setting where
  | plain (v : Value)
  | executor
  | validator
  | credentials (c : Credentials)
  | retry (p : RetryPolicy)
  deriving Repr

namespace Setting

def value : Setting → Value
  | plain v => v
  | executor => .object "ThreadPoolExecutor" "<executor>"
  | validator => .object "BlobStoreValidator" "<validator>"
  | credentials c => c.value
  | retry p => p.value

open Settings

def readCredentials : Setting → Read (Option Credentials)
  | plain .null => .ok none
  | plain (.table entries) => some <$> Credentials.read (Value.texted entries)
  | credentials c => .ok (some c)
  | s => misfit (.record "CredentialsOverrider") s.value

def readRetry : Setting → Read (Option RetryPolicy)
  | plain .null => .ok none
  | plain (.table entries) => some <$> RetryPolicy.read (Value.texted entries)
  | retry p => .ok (some p)
  | s => misfit (.record "RetryConfig") s.value

def readExecutor : Setting → Read Bool
  | plain .null => .ok false
  | executor => .ok true
  | s => misfit (.instanceOf "Executor") s.value

end Setting

structure Config where
  provider : String
  bucket : Option String := none
  region : Option String := none
  endpoint : Option String := none
  proxyEndpoint : Option String := none
  useSystemProxies : Option Bool := none
  useEnvironmentProxies : Option Bool := none
  maxConnections : Option Int := none
  socketTimeout : Option Duration := none
  idleConnectionTimeout : Option Duration := none
  credentials : Option Credentials := none
  hasExecutor : Bool := false
  thresholdBytes : Option Int := none
  partBufferSize : Option Int := none
  parallelUploads : Option Bool := none
  parallelDownloads : Option Bool := none
  targetThroughput : Option Binary64 := none
  maxNativeMemory : Option Int := none
  initialReadBuffer : Option Int := none
  maxConcurrency : Option Int := none
  threadPoolSize : Option Int := none
  directoryConcurrency : Option Int := none
  retry : Option RetryPolicy := none
  properties : Table String String := []
  deriving DecidableEq, Repr

namespace Config

def hasProxySettings (c : Config) : Bool :=
  c.proxyEndpoint.isSome || c.useSystemProxies.isSome || c.useEnvironmentProxies.isSome

def hasHttpSettings (c : Config) : Bool :=
  c.hasProxySettings || c.maxConnections.isSome || c.socketTimeout.isSome
    || c.idleConnectionTimeout.isSome

end Config
end BlobStorage
