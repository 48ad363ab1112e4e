import BlobStorage.Directory.Batcher
import BlobStorage.Directory.Plan
import BlobStorage.Listing
import BlobStorage.Queue

/-!
Transfers of whole directories. Every file and every batch of deletions is a unit of its own: one
that fails stops no other, and the reply lists those that failed. The units of a transfer may be
carried out in any order, and are reported in the order of the plan.

The batches of a deletion are submitted as soon as they are full, while the listing goes on. Every
page ends with a round in which some of those that wait are carried out, and the last round, once
the listing has ended, is for all that are left. A listing that fails is what comes out, after all
that was submitted has been carried out.
-/
namespace BlobStorage

structure FailedUpload where
  source : Path
  failure : Failure
  deriving Repr

structure FailedDelete where
  targets : List Target
  failure : Failure
  deriving Repr

structure DirectoryDeletion where
  deleted : Nat := 0
  failed : List FailedDelete := []
  deriving Repr

namespace Directory

variable {ρ : Type} (a : Adapter ρ)

/-- Tries every unit in its turn, and then categorizes the failures in order. -/
def tryAll {α β : Type} (turns : Turns) (units : List α) (run : α → Op ρ Unit)
    (key : α → Option String) (record : α → Failure → β) : Op ρ (List β) := do
  let queue : Queue α (α × Except Failure Unit) := {}
  let queue ← (queue.submit units).finish (fun u => do return (u, ← (run u).outcome)) turns
  let failed := queue.results.filterMap fun
    | (_, .ok _) => none
    | (u, .error f) => some (u, f)
  failed.mapM fun (u, f) => do return record u (← categorizeWith a.classify f (key u) false)

def uploadItem (tags : Attributes) (item : UploadItem) : Op ρ Unit := do
  let content := (← Action.ofAmbient ((← get).files.read? item.path)).getD []
  let _ ← Store.upload a
    { key := item.key, contentLength := Int.ofNat content.length, tags } (.file item.path)

def upload (request : DirectoryUpload) (turns : Turns := []) : Op ρ (List FailedUpload) := do
  let plan ← Action.ofExcept (planUpload (← get).files request)
  tryAll a turns plan (uploadItem a request.tags) (fun i => some i.key) fun i f => ⟨i.path, f⟩

def downloadItem (item : DownloadItem) : Op ρ Unit := do
  let (made, files) := (← get).files.makeDirectories item.target.parent
  modify fun w => { w with files }
  Action.ofAmbient made
  let _ ← Store.download a { key := item.key } (.file item.target)

def download (request : DirectoryDownload) (turns : Turns := []) :
    Op ρ (List FailedDownload) := do
  let listed ← Listing.blobs a { stem := request.stem }
  match listed.ending with
  | .failed f => throw f
  | _ => do
      let (plan, refused) ← Action.ofAmbient <|
        planDownload request (listed.delivered.map (·.key))
      let failed ← tryAll a turns plan (downloadItem a) (fun i => some i.key) fun i f =>
        ⟨i.target, f⟩
      return refused ++ failed

abbrev BatchOutcome := List Target × Option Failure

def deleteBatch (batch : List Target) : Op ρ BatchOutcome := do
  match ← (Store.deleteMany a batch).outcome with
  | .ok _ => return (batch, none)
  | .error f => return (batch, some f)

def account (outcomes : List BatchOutcome) : Op ρ DirectoryDeletion := do
  let deleted := outcomes.foldl (fun n (batch, failure) =>
    if failure.isNone then n + batch.length else n) 0
  let bad := outcomes.filterMap fun (batch, failure) => failure.map (batch, ·)
  let failed ← bad.mapM fun (batch, f) => do
    return ⟨batch, ← categorizeWith a.classify f none false⟩
  return { deleted, failed }

def targets (p : Page) : List Target := p.blobs.map (·.target)

/-- A deletion under way: the targets that do not fill a batch yet, and the batches. -/
structure Deletion where
  pending : List Target := []
  batches : Queue (List Target) BatchOutcome := {}

namespace Deletion

def add (d : Deletion) (limit : Nat) (listed : List Target) : Deletion :=
  let (full, pending) := cutFull limit (d.pending ++ listed)
  { pending, batches := d.batches.submit full }

def close (d : Deletion) : Deletion :=
  { batches := d.batches.submit (lastBatch d.pending) }

end Deletion

/-- Lists page after page. Each page submits the batches it fills; rounds are numbered like the
pages, from one. -/
def deletePages (request : ListRequest) (pace : Pace) :
    Nat → Nat → Option PageToken → Deletion → Op ρ (Deletion × Ending)
  | 0, _, _, d => return (d, .cut)
  | bound + 1, number, token, d => do
      match ← Listing.fetch a request token with
      | .error f => return (d, .failed f)
      | .ok page => do
          let d := d.add a.deleteLimit.toNat (targets page)
          match page.follow? with
          | none => return (d.close, .complete)
          | some next => do
              let batches ← d.batches.advance (deleteBatch a) (pace number d.batches.waiting.length)
              deletePages request pace bound (number + 1) next { d with batches }

/-- Deletes all keys under a stem, batch by batch. The turns are those of the last round. -/
def delete (stem : Option String) (pace : Pace) (turns : Turns := []) :
    Op ρ DirectoryDeletion := do
  let (d, ending) ← deletePages a { stem } pace (a.pageBound (← get)) 1 none {}
  let batches ← d.batches.finish (deleteBatch a) turns
  match ending with
  | .failed f => throw f
  | _ => account a batches.results

end Directory
end BlobStorage
