import BlobStorage.Command
import BlobStorage.Multipart

/-!
Clients, which callers hold. A categorizing client turns every failure of its adapter into one of
the taxonomy and keeps the native failure as its cause; a plain one lets native failures through.
-/
namespace BlobStorage

variable {ρ : Type}

def categorizing (classify : Failure → Op ρ ErrorKind) (key : Option String) {α : Type}
    (action : Op ρ α) : Op ρ α := do
  match ← action.outcome with
  | .ok x => return x
  | .error f => throw (← categorizeWith classify f key true)

structure BucketClient (ρ : Type) where
  adapter : Adapter ρ
  style : CallStyle := .blocking
  categorizes : Bool := true

namespace BucketClient

variable (c : BucketClient ρ)

def call {α : Type} (key : Option String) (action : Op ρ α) : Op ρ α :=
  if c.categorizes then categorizing c.adapter.classify key (c.style.reach action)
  else c.style.reach action

def perform (command : Command) : Op ρ Answer :=
  c.call command.subject (command.run c.adapter c.style)

def settle {α : Type} (run : Run α) : Op ρ (Run α) := do
  match run.ending with
  | .failed f =>
      if c.categorizes then
        return { run with ending := .failed (← categorizeWith c.adapter.classify f none true) }
      else return run
  | _ => return run

def list (request : ListRequest) (visit : Listing.Visitor) : Op ρ (Run Batch) := do
  let run ← c.settle (← Listing.pages (c.adapter.listingIn c.style) request visit)
  return ⟨run.delivered.map (·.toBatch), run.ending⟩

def blobs (request : ListRequest) (wanted : Option Nat) : Op ρ (Run BlobInfo) := do
  c.settle (← Listing.blobs (c.adapter.listingIn c.style) request wanted)

def partClient : Multipart.Client (World ρ) where
  initiate request := c.call request.key (Store.initiateUpload c.adapter request)
  sendPart token part := c.call token.key (Store.uploadPart c.adapter token part)
  complete token parts := c.call token.key (Store.completeUpload c.adapter token parts)
  abort token := c.call token.key (Store.abortUpload c.adapter token)

def uploadInParts (request : MultipartRequest) (source : Source) (size : Int)
    (concurrency : Multipart.Concurrency) (schedule : Multipart.Schedule := {}) :
    Op ρ MultipartReceipt :=
  Multipart.upload c.partClient request source size concurrency schedule

end BucketClient

structure ServiceClient (ρ : Type) where
  adapter : ServiceAdapter ρ
  categorizes : Bool := true

namespace ServiceClient

variable (c : ServiceClient ρ)

def call {α : Type} (action : Op ρ α) : Op ρ α :=
  if c.categorizes then categorizing c.adapter.classify none action else action

def listBuckets : Op ρ (List BucketInfo) := c.call c.adapter.listBuckets

def createBucket (bucket : Option String) : Op ρ Unit :=
  c.call do
    Action.ofExcept (Check.bucket bucket)
    c.adapter.createBucket (bucket.getD "")

def close : Op ρ Unit := c.call c.adapter.close

end ServiceClient
end BlobStorage
