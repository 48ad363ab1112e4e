import BlobStorage.Directory.Transfer

/-!
Transfers of whole directories for those who await them. Every unit of work is a task, and all tasks are
awaited together: what became of each is told in the order in which the tasks were made, and then what
failed is recorded, one after the other. Files, directories and the remote side are reached by workers.

The tasks of a deletion are made while the listing goes on, and may have their turns between two pages.
They are awaited in any case, before a failure of the listing comes out.
-/
namespace BlobStorage
open Directory

namespace Awaited

variable {ρ : Type} (a : Adapter ρ)

abbrev TaskResult := Except Failure Unit

/-- Makes a task for every unit, and awaits them all. -/
def gather {α : Type} (turns : Turns) (units : List α) (task : α → Op ρ Unit) :
    Op ρ (List TaskResult) := do
  let tasks : Queue α TaskResult := {}
  return (← (tasks.submit units).finish (fun unit => (task unit).outcome) turns).results

def collect {α β : Type} (key : α → Option String) (record : α → Failure → β) :
    List (α × TaskResult) → Op ρ (List β)
  | [] => return []
  | (_, .ok _) :: rest => collect key record rest
  | (unit, .error f) :: rest => do
      let f ← categorizeWith a.classify f (key unit) false
      return record unit f :: (← collect key record rest)

def uploadItem (tags : Attributes) (item : UploadItem) : Op ρ Unit := do
  let size ← Action.awaited do
    let content := (← Action.ofAmbient ((← get).files.read? item.path)).getD []
    return Int.ofNat content.length
  let _ ← (Store.upload a { key := item.key, contentLength := size, tags }
    (.file item.path)).awaited

def upload (request : DirectoryUpload) (turns : Turns := []) : Op ρ (List FailedUpload) := do
  let plan ← Action.awaited do Action.ofExcept (planUpload (← get).files request)
  let results ← gather turns plan (uploadItem a request.tags)
  collect a (fun i => some i.key) (fun i f => ⟨i.path, f⟩) (plan.zip results)

def downloadItem (item : DownloadItem) : Op ρ Unit := do
  Action.awaited do
    let (made, files) := (← get).files.makeDirectories item.target.parent
    modify fun w => { w with files }
    Action.ofAmbient made
  let _ ← (Store.download a { key := item.key } (.file item.target)).awaited

def download (request : DirectoryDownload) (turns : Turns := []) :
    Op ρ (List FailedDownload) := do
  let listed ← Listing.blobs (a.listingIn .awaited) { stem := request.stem }
  match listed.ending with
  | .failed f => throw f
  | _ => do
      let (plan, refused) ← Action.awaited <| Action.ofAmbient <|
        planDownload request (listed.delivered.map (·.key))
      let results ← gather turns plan (downloadItem a)
      return refused ++
        (← collect a (fun i => some i.key) (fun i f => ⟨i.target, f⟩) (plan.zip results))

/-- A deletion under way: the targets that do not fill a batch yet, the batches, and their tasks. -/
structure Deleting where
  pending : List Target := []
  batches : List (List Target) := []
  tasks : Queue (List Target) TaskResult := {}

namespace Deleting

def flush (d : Deleting) (batch : List Target) : Deleting :=
  { d with batches := d.batches ++ [batch], tasks := d.tasks.submit [batch] }

def flushFull (limit : Nat) (d : Deleting) : Deleting :=
  if limit = 0 ∨ d.pending.length < limit then d
  else
    flushFull limit { d.flush (d.pending.take limit) with pending := d.pending.drop limit }
termination_by d.pending.length
decreasing_by
  simp only [List.length_drop]
  omega

def add (d : Deleting) (limit : Nat) (listed : List Target) : Deleting :=
  { d with pending := d.pending ++ listed }.flushFull limit

def flushRest (d : Deleting) : Deleting :=
  if d.pending.isEmpty then d else d.flush d.pending

end Deleting

def deleteBatch (batch : List Target) : Op ρ Unit := (Store.deleteMany a batch).awaited

/-- Lists page after page, with turns for the tasks in between. -/
def deletePages (request : ListRequest) (pace : Pace) :
    Nat → Nat → Option PageToken → Deleting → Op ρ (Deleting × Ending)
  | 0, _, _, d => return (d, .cut)
  | bound + 1, number, token, d => do
      match ← Listing.fetch (a.listingIn .awaited) request token with
      | .error f => return (d, .failed f)
      | .ok page => do
          let d := d.add a.deleteLimit.toNat (targets page)
          match page.follow? with
          | none => return (d.flushRest, .complete)
          | some next => do
              let tasks ← d.tasks.advance (fun batch => (deleteBatch a batch).outcome)
                (pace number d.tasks.waiting.length)
              deletePages request pace bound (number + 1) next { d with tasks }

/-- Counts what was deleted, and records what was not, batch by batch. -/
def tally : DirectoryDeletion → List (List Target × TaskResult) → Op ρ DirectoryDeletion
  | d, [] => return d
  | d, (batch, .ok _) :: rest => tally { d with deleted := d.deleted + batch.length } rest
  | d, (batch, .error f) :: rest => do
      let f ← categorizeWith a.classify f none false
      tally { d with failed := d.failed ++ [⟨batch, f⟩] } rest

def delete (stem : Option String) (pace : Pace) (turns : Turns := []) :
    Op ρ DirectoryDeletion := do
  let (d, ending) ← deletePages a { stem } pace (a.pageBound (← get)) 1 none {}
  let tasks ← d.tasks.finish (fun batch => (deleteBatch a batch).outcome) turns
  match ending with
  | .failed f => throw f
  | _ => tally a {} (d.batches.zip tasks.results)

end Awaited

namespace Directory

variable {ρ : Type} (style : CallStyle) (a : Adapter ρ)

def uploadIn (request : DirectoryUpload) (turns : Turns := []) : Op ρ (List FailedUpload) :=
  match style with
  | .blocking => upload a request turns
  | .awaited => Awaited.upload a request turns

def downloadIn (request : DirectoryDownload) (turns : Turns := []) : Op ρ (List FailedDownload) :=
  match style with
  | .blocking => download a request turns
  | .awaited => Awaited.download a request turns

def deleteIn (stem : Option String) (pace : Pace) (turns : Turns := []) :
    Op ρ DirectoryDeletion :=
  match style with
  | .blocking => delete a stem pace turns
  | .awaited => Awaited.delete a stem pace turns

end Directory
end BlobStorage
