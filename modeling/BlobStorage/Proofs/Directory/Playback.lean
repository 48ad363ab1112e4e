import BlobStorage.Proofs.Directory.Settled

/-!
Whatever is settled of a deletion, some store answers like that: one that plays its listing back from a
tape and deletes with the results that it was given.
-/
namespace BlobStorage.Directory

/-- What a store has left of its tape, and the batches that it was asked to delete, the latest first. -/
structure Tape where
  stage : Stage
  deleted : List (List Target) := []

namespace Tape

def left (tape : Tape) : Nat :=
  match tape.stage with
  | some ⟨_, course⟩ => course.length
  | none => 0

def silent {α : Type} : Op Tape α := throw (.foreign { label := "NotImplementedError", text := "" })

def play : Op Tape Page := do
  match (← get).remote.stage with
  | some ⟨_, course⟩ => do
      modify fun w => { w with remote := { w.remote with stage := course.rest } }
      Action.ofExcept course.answer
  | none => silent

/-- A store that plays back a tape. -/
def player (limit : Int) (result : List Target → Except Failure Unit)
    (category : Failure → ErrorKind) : Adapter Tape where
  config := { provider := "tape" }
  bucket := "b"
  deleteLimit := limit
  pageBound w := w.remote.left
  classify f := return category f
  listPage _ := play
  deleteMany batch := do
    modify fun w => { w with remote := { w.remote with deleted := batch :: w.remote.deleted } }
    Action.ofExcept (result batch)
  uploadBytes _ _ := silent
  uploadStream _ _ := silent
  uploadFile _ _ := silent
  downloadToStream _ := silent
  downloadBytes _ := silent
  downloadStream _ := silent
  delete _ := silent
  copy _ := silent
  copyFrom _ := silent
  getMetadata _ := silent
  initiateUpload _ := silent
  uploadPart _ _ := silent
  completeUpload _ _ := silent
  listParts _ := silent
  abortUpload _ := silent
  getTags _ := silent
  setTags _ _ := silent
  presign _ _ := silent
  objectExists _ := silent
  bucketExists := silent
  getRetention _ := silent
  getLegalHold _ := silent
  putRetention _ _ _ := silent
  putLegalHold _ _ := silent
  closeBody := silent
  close := silent

end Tape

section Batches
variable {limit : Nat}

/-- A batch is not empty, and not longer than the limit. -/
theorem length_of_mem_allBatches (positive : 0 < limit) {items b : List Target}
    (hb : b ∈ allBatches limit items) : b ≠ [] ∧ b.length ≤ limit := by
  cases List.mem_append.mp hb with
  | inl full =>
      have length := length_of_mem_cutFull full
      exact ⟨List.ne_nil_of_length_pos (by omega), by omega⟩
  | inr last =>
      have short := length_rest_cutFull positive items
      unfold lastBatch at last
      split at last
      · cases last
      · rename_i some_left
        rw [List.mem_singleton.mp last]
        exact ⟨by simpa using some_left, by omega⟩

theorem mem_allBatches {items b : List Target} {t : Target} (hb : b ∈ allBatches limit items)
    (ht : t ∈ b) : t ∈ items := by
  rw [← flatten_cutFull limit items]
  cases List.mem_append.mp hb with
  | inl full => exact List.mem_append_left _ (List.mem_flatten_of_mem full ht)
  | inr last =>
      unfold lastBatch at last
      split at last
      · cases last
      · rw [List.mem_singleton.mp last] at ht
        exact List.mem_append_right _ ht

theorem Course.batches_subset {token : Option PageToken} (course : Course token) {b : List Target}
    (hb : b ∈ course.batches limit []) : b ∈ allBatches limit (course.blobs.map (·.target)) := by
  unfold Course.batches at hb
  cases ending : course.ending with
  | failed f =>
      rw [ending] at hb
      exact List.mem_append_left _ hb
  | complete | cut =>
      rw [ending] at hb
      exact hb

theorem deleteMany_of_short {ρ : Type} {a : Adapter ρ} {batch : List Target} (more : batch ≠ [])
    (short : batch.length ≤ a.deleteLimit.toNat) (named : ∀ t ∈ batch, t.key.isGiven = true) :
    Store.deleteMany a batch = a.deleteMany batch := by
  have some_length := List.length_pos_of_ne_nil more
  have pieces : Content.pieces a.deleteLimit.toNat batch = [batch] := by
    rw [Content.pieces, if_neg (by simp [more]; omega), List.take_of_length_le short,
      List.drop_eq_nil_of_le short, Content.pieces, if_pos (.inr rfl)]
  refine Action.ext fun w => ?_
  rw [Store.runFrom_deleteMany (by omega) named, pieces]
  change (a.deleteMany batch >>= fun _ => pure ()).runFrom w = _
  rw [bind_pure]

end Batches

namespace Tape
variable {limit : Int} {result : List Target → Except Failure Unit} {category : Failure → ErrorKind}

/-- What becomes of deleting with a store that plays back is settled. -/
theorem settled_player (positive : 0 < limit) (stem : Option String) (course : Course none)
    (named : ∀ b ∈ course.blobs, b.key.isGiven = true) :
    Settled (player limit result category) stem (Store.deleteMany (player limit result category))
      result category (course.batches limit.toNat []) fun stage done w => w.remote = ⟨stage, done⟩ where
  bounded token course done w at_course := by
    change course.length ≤ w.remote.left
    rw [at_course]
    exact Nat.le_refl _
  lists token course done w at_course := by
    obtain ⟨tape, files, interceptions⟩ := w
    cases at_course
    refine ⟨⟨⟨course.rest, done⟩, files, interceptions⟩, ?_, rfl⟩
    refine (Action.runFrom_bind_ok (Action.runFrom_outcome _ _) _).trans ?_
    have told : course.answer.mapError (·.within .generator) = course.answer := by
      cases course with
      | failed f told => exact congrArg Except.error told
      | last | next => rfl
    exact congrArg (fun answer => (Except.ok answer, _)) told
  tries stage done batch w due at_stage := by
    have whole := course.batches_subset due
    obtain ⟨more, short⟩ := length_of_mem_allBatches (by omega) whole
    rw [deleteMany_of_short more short]
    · refine ⟨{ w with remote := ⟨stage, batch :: done⟩ }, ?_, rfl⟩
      refine (Action.runFrom_bind_ok (Action.runFrom_modify _ w) _).trans ?_
      rw [at_stage]
      rfl
    · intro t ht
      obtain ⟨b, hb, rfl⟩ := List.mem_map.mp (mem_allBatches whole ht)
      exact named b hb
  categorizes stage done f w at_stage := ⟨rfl, at_stage⟩

end Tape
end BlobStorage.Directory
