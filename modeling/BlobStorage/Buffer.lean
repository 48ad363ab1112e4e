import BlobStorage.Client

/-!
Downloads into a buffer that the caller holds. The buffer is state beside the world, and replacing its
content is the last step of the download.
-/
namespace BlobStorage

abbrev Buffered (ρ : Type) := Action (World ρ × Content)

namespace Buffered

variable {ρ : Type}

/-- An action that has nothing to do with the buffer. -/
def aside {α : Type} (a : Op ρ α) : Buffered ρ α := fun (w, buffer) =>
  let (r, w) := a.runFrom w
  (r, (w, buffer))

def fill (content : Content) : Buffered ρ Unit := modify fun (w, _) => (w, content)

end Buffered

open Buffered

variable {ρ : Type}

def Store.downloadInto (a : Adapter ρ) (request : DownloadRequest) : Buffered ρ DownloadReply := do
  aside (check (Check.key request.key))
  aside (check (Check.range request))
  let (content, reply) ← aside (a.downloadBytes request)
  fill content
  return reply

def BucketClient.downloadInto (c : BucketClient ρ) (request : DownloadRequest) :
    Buffered ρ DownloadReply := do
  match ← (c.style.reach (Store.downloadInto c.adapter request)).outcome with
  | .ok reply => return reply
  | .error f =>
      if c.categorizes then
        throw (← aside (categorizeWith c.adapter.classify f (some request.key) true))
      else throw f

end BlobStorage
