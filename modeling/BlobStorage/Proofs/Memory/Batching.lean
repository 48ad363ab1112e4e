import BlobStorage.Proofs.Memory.DirectoryDeletion

/-!
The batches and the account of a directory's deletion, in any state that a run of calls reaches, at any
pace, and whichever batches fail.
-/
namespace BlobStorage.Memory
open Directory Memory.Listing

def Caller.deleting (c : Caller) (stem : Option String) (pace : Pace) (turns : Turns) :
    Op Backend DirectoryDeletion :=
  c.client.call none (Directory.deleteIn c.style c.adapter stem pace turns)

/-- What a deletion has submitted when it has listed these pages and no more are to come. -/
def submittedFor (s : Store) (pages : List Page) : Deletion :=
  (pages.foldl (fun (d : Deletion) p => d.add s.deleteLimit.toNat (targets p)) {}).close

/-- The account of a deletion: its batches are cut from the listing as it was at the start, each is
carried out once, in one order or another, and what became of them is told in their own order. -/
structure Accounted (c : Caller) (stem : Option String) (w w' : World Backend)
    (d : DirectoryDeletion) (heads : List (String × Version)) (outcomes runs : List BatchOutcome) :
    Prop where
  there : w.remote.hasBucket c.store.bucket = true
  heads_at : Heads w.remote c.store.bucket (stem.getD "") none heads
  batches : Cut c.store.deleteLimit.toNat (heads.map aim) (outcomes.map (·.1))
  once : runs.Perm outcomes
  attempted : ∃ w₁, Attempted c w runs w₁ ∧ w'.remote = w₁.remote
  failed : d.failed.map (·.targets) = (failing outcomes).map (·.1)
  total : d.deleted + (d.failed.flatMap (·.targets)).length = heads.length

/-- What deleting a directory does, from one state. -/
structure BatchLaws (w : World Backend) : Prop where
  /-- The command is a deletion at one pace. -/
  performed : ∀ (c : Caller) stem, ∃ pace turns, ∀ x w',
    (Call.perform c (.deleteDirectory stem)).run.runFrom w = (.ok x, w') ↔
      ∃ d, x = .directoryDeleted d ∧ (c.deleting stem pace turns).runFrom w = (.ok d, w')
  /-- An account is given where the bucket is there and no failure is planned for the listing. -/
  accounts : ∀ (c : Caller) stem pace turns, c.store.Sized → c.Spared .listPage w →
    w.remote.hasBucket c.store.bucket = true →
    ∃ d w', (c.deleting stem pace turns).runFrom w = (.ok d, w')
  accounted : ∀ (c : Caller) stem pace turns d w', c.store.Sized →
    (c.deleting stem pace turns).runFrom w = (.ok d, w') →
    ∃ heads outcomes runs, Accounted c stem w w' d heads outcomes runs
  /-- A deletion that gives no account could not list on, and has carried out every batch that the
  pages before had filled. -/
  interrupted : ∀ (c : Caller) stem pace turns e w', c.store.Sized →
    (c.deleting stem pace turns).runFrom w = (.error e, w') →
    ¬ (c.Spared .listPage w ∧ w.remote.hasBucket c.store.bucket = true) ∧
    ∃ heads listed outcomes runs w₁, Heads w.remote c.store.bucket (stem.getD "") none heads ∧
      listed <+: heads ∧
      outcomes.map (·.1) = (cutFull c.store.deleteLimit.toNat (listed.map aim)).1 ∧
      runs.Perm outcomes ∧ Attempted c w runs w₁ ∧ w'.remote = w₁.remote
  /-- The same batches are submitted if, at any time between two pages, any of the versions listed so
  far are removed. -/
  steady : ∀ (s : Store) stem pages place t bucket, s.Sized → Paged s stem w.remote pages place t →
    t.buckets.get? s.bucket = some bucket →
    (page bucket { stem, token := place.map .known } s.pageSize).follow? = none →
    ∃ heads batches, Heads w.remote s.bucket (stem.getD "") none heads ∧
      Cut s.deleteLimit.toNat (heads.map aim) batches ∧
      (submittedFor s (pages ++ [page bucket { stem, token := place.map .known }
        s.pageSize])).batches.Holds batches

theorem batched_foldl {limit : Nat} (pages : List Page) {all : List Target}
    {d : Deletion} (h : Batched limit all d) :
    Batched limit (all ++ pages.flatMap targets)
      (pages.foldl (fun (d : Deletion) p => d.add limit (targets p)) d) := by
  induction pages generalizing all d with
  | nil => simpa using h
  | cons p rest ih =>
      have later := ih (h.add (targets p))
      rw [List.append_assoc] at later
      exact later

theorem runFrom_deleteDirectory (c : Caller) (stem : Option String) (w : World Backend) :
    ∃ pace turns, ∀ x w', (Call.perform c (.deleteDirectory stem)).run.runFrom w = (.ok x, w') ↔
      ∃ d, x = .directoryDeleted d ∧ (c.deleting stem pace turns).runFrom w = (.ok d, w') := by
  have styled : ∃ pace turns, Command.run c.adapter c.style (.deleteDirectory stem) =
      Answer.directoryDeleted <$> Directory.deleteIn c.style c.adapter stem pace turns := by
    cases c.style with
    | blocking => exact ⟨_, _, rfl⟩
    | awaited => exact ⟨_, _, rfl⟩
  obtain ⟨pace, turns, same⟩ := styled
  refine ⟨pace, turns, fun x w' => ?_⟩
  refine (BucketClient.runFrom_call_ok_iff ..).trans ?_
  rw [show Command.run c.client.adapter c.client.style (.deleteDirectory stem) = _ from same,
    Action.runFrom_map_ok_iff]
  exact exists_congr fun d => and_congr_right fun _ => (BucketClient.runFrom_call_ok_iff ..).symm

section State
variable {w : World Backend} (sound : w.remote.Sound) {c : Caller} {stem : Option String}
  {pace : Pace} {turns : Turns}
include sound

variable (stem pace turns) in
theorem account_of_spared (sized : c.store.Sized) (spared : c.Spared .listPage w)
    (there : w.remote.hasBucket c.store.bucket = true) :
    ∃ d w', (c.deleting stem pace turns).runFrom w = (.ok d, w') := by
  obtain ⟨heads, heads_at⟩ := exists_heads sound.tidy c.store.bucket (stem.getD "")
  obtain ⟨ending, _, _, _, _, reached, _, _, _, told⟩ := runFrom_delete sound.tidy heads_at
    sized.pages (sound.versions.keyed_heads heads_at) c.style pace turns
  cases ending with
  | cut => exact reached.elim
  | failed f => exact absurd ⟨spared, there⟩ reached.1
  | complete =>
      obtain ⟨d, w', ran, _⟩ := told
      exact ⟨d, w', (BucketClient.runFrom_call_ok_iff ..).mpr ran⟩

theorem accounted_of_deleting (sized : c.store.Sized) {d : DirectoryDeletion} {w' : World Backend}
    (run : (c.deleting stem pace turns).runFrom w = (.ok d, w')) :
    ∃ heads outcomes runs, Accounted c stem w w' d heads outcomes runs := by
  have own := (BucketClient.runFrom_call_ok_iff ..).mp run
  obtain ⟨heads, heads_at⟩ := exists_heads sound.tidy c.store.bucket (stem.getD "")
  obtain ⟨ending, units, outcomes, runs, w₁, reached, cut, once, attempted, told⟩ :=
    runFrom_delete sound.tidy heads_at sized.pages (sound.versions.keyed_heads heads_at) c.style pace
      turns
  cases ending with
  | cut => exact reached.elim
  | failed f => cases own.symm.trans told
  | complete =>
      obtain ⟨_, _, ran, same, counted, failed⟩ := told
      cases own.symm.trans ran
      obtain ⟨there, rfl⟩ := reached
      have batches := cut_allBatches sized.batches (heads.map aim)
      rw [← cut] at batches
      refine ⟨heads, outcomes, runs, there, heads_at, batches, once, ⟨w₁, attempted, same⟩, failed, ?_⟩
      have total := deletedIn_add_failing outcomes
      rw [← counted, batches.whole, List.length_map, List.flatMap_def, ← failed,
        ← List.flatMap_def] at total
      exact total

theorem interrupted_of_deleting (sized : c.store.Sized) {e : Failure} {w' : World Backend}
    (run : (c.deleting stem pace turns).runFrom w = (.error e, w')) :
    ¬ (c.Spared .listPage w ∧ w.remote.hasBucket c.store.bucket = true) ∧
    ∃ heads listed outcomes runs w₁, Heads w.remote c.store.bucket (stem.getD "") none heads ∧
      listed <+: heads ∧
      outcomes.map (·.1) = (cutFull c.store.deleteLimit.toNat (listed.map aim)).1 ∧
      runs.Perm outcomes ∧ Attempted c w runs w₁ ∧ w'.remote = w₁.remote := by
  obtain ⟨f, w₂, own, same⟩ := BucketClient.of_call_error (readsQuietly c).classify run
  obtain ⟨heads, heads_at⟩ := exists_heads sound.tidy c.store.bucket (stem.getD "")
  obtain ⟨ending, units, outcomes, runs, w₁, reached, cut, once, attempted, told⟩ :=
    runFrom_delete sound.tidy heads_at sized.pages (sound.versions.keyed_heads heads_at) c.style pace
      turns
  cases ending with
  | cut => exact reached.elim
  | complete =>
      obtain ⟨_, _, ran, _⟩ := told
      cases own.symm.trans ran
  | failed f =>
      cases own.symm.trans told
      obtain ⟨reason, listed, earlier, rfl⟩ := reached
      exact ⟨reason, heads, listed, outcomes, runs, w₂, heads_at, earlier, cut, once, attempted, same⟩

end State

theorem batches_of_run (signingKey : Content) (now : Moment) (files : FileTree)
    (interceptions : List Interception) (calls : List Call) :
    BatchLaws (after { remote := Backend.fresh signingKey now, files, interceptions } calls) := by
  have sound := sound_after (Backend.sound_fresh signingKey now) calls
    (w := { remote := Backend.fresh signingKey now, files, interceptions })
  refine ⟨?_, ?_, ?_, ?_, ?_⟩
  · intro c stem
    exact runFrom_deleteDirectory c stem _
  · intro c stem pace turns sized spared there
    exact account_of_spared sound stem pace turns sized spared there
  · intro c stem pace turns d w' sized run
    exact accounted_of_deleting sound sized run
  · intro c stem pace turns e w' sized run
    exact interrupted_of_deleting sound sized run
  · intro s stem pages place t bucket sized paged found ends
    obtain ⟨heads, heads_at⟩ := exists_heads sound.tidy s.bucket (stem.getD "")
    have whole := paged.whole sound.tidy heads_at (sound.versions.keyed_heads heads_at) sized.pages
      found ends
    refine ⟨heads, _, heads_at, cut_allBatches sized.batches _, ?_⟩
    have batched := batched_foldl (pages ++ [page bucket
      { stem, token := place.map .known } s.pageSize]) (batched_nil s.deleteLimit.toNat)
    rw [List.nil_append, List.flatMap_append, List.flatMap_singleton, whole] at batched
    exact batched.close

end BlobStorage.Memory
