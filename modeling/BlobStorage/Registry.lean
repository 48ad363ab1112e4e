import BlobStorage.Action
import BlobStorage.Table
import BlobStorage.Value.Access

/-!
The registry of providers: for each kind of client a table from provider names to factories of
builders. The tables are filled once, on the first lookup: with the providers at hand and with
those that are installed. Names can be added but never taken over; a name taken too early makes
the filling fail, which leaves what it had added and tries again on the next lookup.
-/
namespace BlobStorage

/-- The kinds of clients; a provider may be there for some of them only. -/
inductive ClientKind where
  | store
  | asyncStore
  | service
  deriving DecidableEq, Repr

namespace ClientKind

def all : List ClientKind := [store, asyncStore, service]

def name : ClientKind → String
  | store => "store"
  | asyncStore => "async_store"
  | service => "client"

end ClientKind

inductive Factory where
  | memory (kind : ClientKind)
  | s3 (kind : ClientKind)
  | custom (name : String)
  deriving DecidableEq, Repr

namespace Factory

def provider : Factory → String
  | memory _ => "memory"
  | s3 _ => "aws"
  | custom name => name

def builderName : Factory → String
  | memory .store => "MemoryBlobStoreBuilder"
  | memory .asyncStore => "MemoryAsyncBlobStoreBuilder"
  | memory .service => "MemoryBlobClientBuilder"
  | s3 .store => "AwsBlobStoreBuilder"
  | s3 .asyncStore => "AwsAsyncBlobStoreBuilder"
  | s3 .service => "AwsBlobClientBuilder"
  | custom _ => "CustomBuilder"

def home : Factory → String
  | memory _ => "polyblob.providers.memory"
  | s3 .service => "polyblob.providers.aws.blob_client"
  | s3 _ => "polyblob.providers.aws.blob_store"
  | custom _ => ""

def literal (f : Factory) : String :=
  match f with
  | custom name => "<factory " ++ name ++ ">"
  | f => "<class '" ++ f.home ++ "." ++ f.builderName ++ "'>"

end Factory

structure Registration where
  kind : ClientKind
  provider : String
  factory : Factory
  deriving DecidableEq, Repr

structure Registry where
  entries : List Registration := []
  filled : Bool := false
  deriving DecidableEq, Repr

namespace Registry

def lookup? (r : Registry) (kind : ClientKind) (provider : String) : Option Factory :=
  (r.entries.find? fun e => e.kind = kind && e.provider = provider).map (·.factory)

def names (r : Registry) (kind : ClientKind) : List String :=
  ((r.entries.filter (·.kind = kind)).map (·.provider)).mergeSort fun a b => decide (a ≤ b)

/-- Adds a factory. The same factory may come again under its name, another may not. -/
def register (e : Registration) (r : Registry) : Except Failure Registry :=
  if e.provider.isEmpty then .error (.refused .emptyProviderId)
  else
    match r.lookup? e.kind e.provider with
    | none => .ok { r with entries := r.entries ++ [e] }
    | some present =>
        if present = e.factory then .ok r
        else .error (.refused (.providerTaken e.provider e.kind.name present.literal))

def builtin : List Registration :=
  [Factory.s3, Factory.memory].flatMap fun factory =>
    ClientKind.all.map fun kind => ⟨kind, (factory kind).provider, factory kind⟩

def add (e : Registration) : Action Registry Unit := fun r =>
  match r.register e with
  | .ok r => (.ok (), r)
  | .error f => (.error f, r)

/-- Fills the tables, unless that is done. The installed providers come kind by kind. -/
def fill (installed : List Registration) : Action Registry Unit := do
  if (← get).filled then return ()
  builtin.forM add
  ClientKind.all.forM fun kind => (installed.filter (·.kind = kind)).forM add
  modify fun r => { r with filled := true }

def find (installed : List Registration) (kind : ClientKind) (provider : String) :
    Action Registry Factory := do
  fill installed
  let r ← get
  match r.lookup? kind provider with
  | some factory => return factory
  | none => throw (.refused (.providerUnknown (.text provider) kind.name (r.names kind)))

/-- The factory of a kind under what is given in the place of a name. -/
def findNamed (installed : List Registration) (kind : ClientKind) (provider : Value) :
    Action Registry Factory := do
  match provider with
  | .text name => find installed kind name
  | v => do
      fill installed
      Action.ofAmbient v.checkName
      throw (.refused (.providerUnknown v kind.name ((← get).names kind)))

def providers (installed : List Registration) (kind : ClientKind) :
    Action Registry (List String) := do
  fill installed
  return (← get).names kind

end Registry
end BlobStorage
