import BlobStorage.Registry
import BlobStorage.S3.Provisioning
import BlobStorage.S3.Transfer
import BlobStorage.Settings.Builder

/-!
Opening clients: from settings to a configuration that has passed its provider's checks, with the
service's client opened on the way. What fails comes out categorized.
-/
namespace BlobStorage

/-- A client as it was opened, and where it leads. A custom provider need not read its settings, so
it may lead anywhere. -/
structure OpenClient where
  kind : ClientKind
  factory : Factory
  bucket : Value
  region : Value
  /-- The configuration, where there is one. -/
  config : Option Config
  deriving Repr

namespace OpenClient

def className (c : OpenClient) : String :=
  match c.kind with
  | .store => "BucketClient"
  | .asyncStore => "AsyncBucketClient"
  | .service => "BlobClient"

def storeName? (c : OpenClient) : Option String :=
  match c.kind, c.factory with
  | .service, _ => none
  | _, .custom _ => some "SimpleNamespace"
  | .asyncStore, _ => some "AsyncBlobStore"
  | .store, .memory _ => some "MemoryBlobStore"
  | .store, .s3 _ => some "AwsBlobStore"

end OpenClient

namespace Factory

/-- The page size that its builders start with, for the providers that have one to set. -/
def pageSize : Factory → Option (Option Nat)
  | memory _ => some (some 1000)
  | _ => none

def builder (f : Factory) : Builder :=
  { provider := f.provider, pageSize := f.pageSize }

def settingOf? (setter : String) : Option String :=
  if "with_".toList.isPrefixOf setter.toList then some (String.ofList (setter.toList.drop 5))
  else none

/-- How something besides the settings is set, where the provider has it to set. -/
def otherSetter? (f : Factory) (b : Builder) (name : String) :
    Option (Setting → Except Failure Builder) :=
  match name, f with
  | "validator", _ => some fun s => .ok (b.setValidator s)
  | "page_size", memory _ => some fun s => b.setPageSize s.value
  | "backend", memory _ => some fun s => .ok { b with backend := some s.value }
  | "s3_client", s3 _ => some fun s => .ok { b with client := some s.value }
  | _, _ => none

def methodName (f : Factory) (method : String) : String :=
  let owner := match f, method with
    | memory _, "with_page_size" | memory _, "with_backend" => "MemoryBlobStoreBuilder"
    | s3 _, "with_s3_client" => "AwsBlobStoreBuilder"
    | _, _ => "BlobStoreBuilder"
  owner ++ "." ++ method

/-- What a setter calls its argument. Mostly that is the name of the setting. -/
def argumentName (setting : String) : String :=
  match setting with
  | "use_system_property_proxy_values" | "use_environment_variable_proxy_values"
  | "parallel_uploads_enabled" | "parallel_downloads_enabled" => "enabled"
  | "target_throughput_in_gbps" => "gbps"
  | "max_native_memory_limit_in_bytes" => "limit"
  | "initial_read_buffer_size_in_bytes" | "transfer_manager_thread_pool_size" => "size"
  | "transfer_directory_max_concurrency" => "max_concurrency"
  | name => name

/-- The only argument of a method, which counts the builder as one more. -/
def soleArgument (f : Factory) (method argument : String) (arguments : List Setting) :
    Except Failure Setting :=
  match arguments with
  | [s] => .ok s
  | [] => .error (.ambient (.argumentMissing (f.methodName method) argument))
  | more => .error (.ambient (.argumentSurplus (f.methodName method) 2 (more.length + 1)))

def callSetter (f : Factory) (b : Builder) (setter : String) (arguments : List Setting) :
    Except Failure Builder :=
  let known? := (settingOf? setter).bind fun name =>
    ((b.setter? name).or (f.otherSetter? b name)).map fun set => (name, set)
  match known? with
  | some (name, set) => do set (← f.soleArgument setter (argumentName name) arguments)
  | none => .error (.ambient (.noAttribute f.builderName setter))

inductive Called where
  | builder (b : Builder)
  | setting (s : Option Setting)
  | config (c : Config)

/-- Calls a method by its name: one that looks at a setting, one that makes the configuration, or a
setter. -/
def call (f : Factory) (b : Builder) (method : String) (arguments : List Setting) :
    Except Failure Called :=
  match method, arguments with
  | "get", arguments => do
      let name ← f.soleArgument method "name" arguments
      name.value.checkName.mapError Failure.ambient
      match name.value with
      | .text name => return .setting (b.get? name)
      | _ => return .setting none
  | "to_config", [] => .config <$> b.config
  | "to_config", more =>
      .error (.ambient (.argumentSurplus (f.methodName method) 1 (more.length + 1)))
  | setter, arguments => .builder <$> f.callSetter b setter arguments

/-- The service's client is opened unless there is one already. -/
def openService (b : Builder) (config : Config) : Action S3.Provisioning Unit :=
  if (b.client.getD .null).isGiven then return () else S3.Provisioning.openClient config

/-- A memory store makes sure of its bucket in the state that it shares. -/
def checkBackend (b : Builder) : Except Failure Unit :=
  match b.backend with
  | some v => .error (.ambient (.noAttribute v.fullTypeName "ensure_bucket"))
  | none => .ok ()

def placed (kind : ClientKind) (f : Factory) (config : Config) : OpenClient :=
  { kind, factory := f, bucket := .ofText? config.bucket, region := .ofText? config.region,
    config := some config }

/-- The provider's own steps. A custom provider takes the settings as they are, and may fail in its
own way. -/
def assemble (f : Factory) (kind : ClientKind) (b : Builder) (customFailure : Option Failure) :
    Action S3.Provisioning OpenClient := do
  match f with
  | memory .service => return placed kind f (← Action.ofExcept b.config)
  | memory _ => do
      let config ← Action.ofExcept b.bucketConfig
      Action.ofExcept (checkBackend b)
      return placed kind f config
  | s3 .service => do
      let config ← Action.ofExcept b.config
      openService b config
      return placed kind f config
  | s3 _ => do
      let config ← Action.ofExcept b.bucketConfig
      openService b config
      let _ ← Action.ofExcept (S3.Transfer.ofConfig? config)
      return placed kind f config
  | custom _ =>
      match customFailure with
      | some failure => throw failure
      | none =>
          let given (name : String) : Value := ((b.get? name).map Setting.value).getD .null
          return { kind, factory := f, bucket := given "bucket", region := given "region",
                   config := b.config.toOption }

def openClient (f : Factory) (kind : ClientKind) (b : Builder) (customFailure : Option Failure) :
    Action S3.Provisioning OpenClient := do
  match ← (f.assemble kind b customFailure).outcome with
  | .ok client => return client
  | .error failure => throw (failure.categorizeBuild true)

end Factory
end BlobStorage
