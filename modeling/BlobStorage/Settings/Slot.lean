import BlobStorage.Settings.Config

/-!
The settings of a configuration. Each has a name, a rule by which its setter looks at a value, a kind that
says what it is read as, and a slot that holds what was read.
-/
namespace BlobStorage
open Settings

/-- How a setter looks at its value before keeping it. -/
inductive SetterRule where
  | anything
  | endpoint (proxy : Bool)
  | connections
  | duration
  | positive
  | texts
  deriving DecidableEq, Repr

/-- What a setting is read as. All but a name and the properties may be unset. -/
inductive SettingKind where
  | name
  | text
  | flag
  | whole
  | real
  | duration
  | credentials
  | executor
  | retry
  | texts
  deriving DecidableEq, Repr

namespace SettingKind

def Held : SettingKind → Type
  | name => String
  | text => Option String
  | flag => Option Bool
  | whole => Option Int
  | real => Option Binary64
  | duration => Option Duration
  | credentials => Option Credentials
  | executor => Bool
  | retry => Option RetryPolicy
  | texts => Table String String

def read : (kind : SettingKind) → Setting → Read kind.Held
  | name, s => Settings.text s.value
  | text, s => optional Settings.text s.value
  | flag, s => optional Settings.flag s.value
  | whole, s => optional Settings.whole s.value
  | real, s => optional Settings.real s.value
  | duration, s => optional Settings.duration s.value
  | credentials, s => s.readCredentials
  | executor, s => s.readExecutor
  | retry, s => s.readRetry
  | texts, s => Settings.texts s.value

end SettingKind

structure Slot where
  name : String
  rule : SetterRule
  kind : SettingKind
  look : Config → kind.Held
  put : Config → kind.Held → Config

inductive SettingName where
  | bucket
  | region
  | endpoint
  | proxyEndpoint
  | useSystemProxies
  | useEnvironmentProxies
  | maxConnections
  | socketTimeout
  | idleConnectionTimeout
  | credentials
  | executor
  | thresholdBytes
  | partBufferSize
  | parallelUploads
  | parallelDownloads
  | targetThroughput
  | maxNativeMemory
  | initialReadBuffer
  | maxConcurrency
  | threadPoolSize
  | directoryConcurrency
  | retry
  | properties
  deriving DecidableEq, Repr

namespace SettingName

/-- In the order in which they are read. -/
def all : List SettingName :=
  [bucket, region, endpoint, proxyEndpoint, useSystemProxies, useEnvironmentProxies, maxConnections,
    socketTimeout, idleConnectionTimeout, credentials, executor, thresholdBytes, partBufferSize,
    parallelUploads, parallelDownloads, targetThroughput, maxNativeMemory, initialReadBuffer,
    maxConcurrency, threadPoolSize, directoryConcurrency, retry, properties]

def slot : SettingName → Slot
  | bucket => ⟨"bucket", .anything, .text, (·.bucket), fun c v => { c with bucket := v }⟩
  | region => ⟨"region", .anything, .text, (·.region), fun c v => { c with region := v }⟩
  | endpoint =>
      ⟨"endpoint", .endpoint false, .text, (·.endpoint), fun c v => { c with endpoint := v }⟩
  | proxyEndpoint =>
      ⟨"proxy_endpoint", .endpoint true, .text, (·.proxyEndpoint), fun c v =>
        { c with proxyEndpoint := v }⟩
  | useSystemProxies =>
      ⟨"use_system_property_proxy_values", .anything, .flag, (·.useSystemProxies), fun c v =>
        { c with useSystemProxies := v }⟩
  | useEnvironmentProxies =>
      ⟨"use_environment_variable_proxy_values", .anything, .flag, (·.useEnvironmentProxies), fun c v =>
        { c with useEnvironmentProxies := v }⟩
  | maxConnections =>
      ⟨"max_connections", .connections, .whole, (·.maxConnections), fun c v =>
        { c with maxConnections := v }⟩
  | socketTimeout =>
      ⟨"socket_timeout", .duration, .duration, (·.socketTimeout), fun c v =>
        { c with socketTimeout := v }⟩
  | idleConnectionTimeout =>
      ⟨"idle_connection_timeout", .duration, .duration, (·.idleConnectionTimeout), fun c v =>
        { c with idleConnectionTimeout := v }⟩
  | credentials =>
      ⟨"credentials_overrider", .anything, .credentials, (·.credentials), fun c v =>
        { c with credentials := v }⟩
  | executor =>
      ⟨"executor", .anything, .executor, (·.hasExecutor), fun c v => { c with hasExecutor := v }⟩
  | thresholdBytes =>
      ⟨"threshold_bytes", .positive, .whole, (·.thresholdBytes), fun c v =>
        { c with thresholdBytes := v }⟩
  | partBufferSize =>
      ⟨"part_buffer_size", .positive, .whole, (·.partBufferSize), fun c v =>
        { c with partBufferSize := v }⟩
  | parallelUploads =>
      ⟨"parallel_uploads_enabled", .anything, .flag, (·.parallelUploads), fun c v =>
        { c with parallelUploads := v }⟩
  | parallelDownloads =>
      ⟨"parallel_downloads_enabled", .anything, .flag, (·.parallelDownloads), fun c v =>
        { c with parallelDownloads := v }⟩
  | targetThroughput =>
      ⟨"target_throughput_in_gbps", .positive, .real, (·.targetThroughput), fun c v =>
        { c with targetThroughput := v }⟩
  | maxNativeMemory =>
      ⟨"max_native_memory_limit_in_bytes", .positive, .whole, (·.maxNativeMemory), fun c v =>
        { c with maxNativeMemory := v }⟩
  | initialReadBuffer =>
      ⟨"initial_read_buffer_size_in_bytes", .positive, .whole, (·.initialReadBuffer), fun c v =>
        { c with initialReadBuffer := v }⟩
  | maxConcurrency =>
      ⟨"max_concurrency", .positive, .whole, (·.maxConcurrency), fun c v =>
        { c with maxConcurrency := v }⟩
  | threadPoolSize =>
      ⟨"transfer_manager_thread_pool_size", .positive, .whole, (·.threadPoolSize), fun c v =>
        { c with threadPoolSize := v }⟩
  | directoryConcurrency =>
      ⟨"transfer_directory_max_concurrency", .positive, .whole, (·.directoryConcurrency), fun c v =>
        { c with directoryConcurrency := v }⟩
  | retry => ⟨"retry_config", .anything, .retry, (·.retry), fun c v => { c with retry := v }⟩
  | properties =>
      ⟨"properties", .texts, .texts, (·.properties), fun c v => { c with properties := v }⟩

end SettingName

namespace Slot

/-- The slot of the provider, which has no setter. -/
def provider : Slot :=
  ⟨"provider_id", .anything, .name, (·.provider), fun c v => { c with provider := v }⟩

def all : List Slot := provider :: SettingName.all.map SettingName.slot

end Slot

namespace Config

/-- Reads the settings that are set, one after the other. Reading goes on after a misfit, so that all are
found. -/
def readSlots (settings : Table String Setting) : List Slot → Config → Read Config
  | [], c => .ok c
  | s :: rest, c =>
      match settings.get? s.name with
      | none => readSlots settings rest c
      | some v =>
          match under s.name (s.kind.read v) with
          | .ok a => readSlots settings rest (s.put c a)
          | .error (.broken failure) => .error (.broken failure)
          | .error (.misfits ms) =>
              match readSlots settings rest c with
              | .ok _ => .error (.misfits ms)
              | .error (.misfits ns) => .error (.misfits (ms ++ ns))
              | .error (.broken failure) => .error (.broken failure)

/-- The configuration that settings spell. A provider must be named. -/
def ofSettings (settings : Table String Setting) : Except Failure Config :=
  let start : Config := { provider := "" }
  let named := settings.contains "provider_id"
  let missing : List Misfit :=
    if named then [] else [⟨["provider_id"], .required, .map []⟩]
  match readSlots settings Slot.all start with
  | .ok c =>
      if named then .ok c else .error (fault "BlobStoreConfig" (.misfits missing))
  | .error (.misfits ms) => .error (fault "BlobStoreConfig" (.misfits (missing ++ ms)))
  | .error (.broken failure) => .error failure

end Config
end BlobStorage
