import BlobStorage.Proofs.Memory.Removal
import BlobStorage.Proofs.Validation

/-!
When a removal of many versions succeeds: the bucket is there, no failure is planned, and none of the
versions is locked. Removals leave what is removable as it is, so they succeed in any order.
-/
namespace BlobStorage.Memory

structure Removable (bucket : String) (targets : List Target) (s : Backend) : Prop where
  there : s.hasBucket bucket = true
  aimed : ∀ t ∈ targets, ∃ i, t = named i ∧ i.1 ≠ ""
  free : ∀ i, named i ∈ targets → ∀ v ∈ s.versionsAt bucket i.1, v.id = i.2 →
    ∀ now, v.isLocked now = false

namespace Removable
variable {bucket : String} {targets fewer : List Target} {s t : Backend}

theorem subset (h : Removable bucket targets s) (sub : fewer ⊆ targets) :
    Removable bucket fewer s :=
  ⟨h.there, fun t ht => h.aimed t (sub ht), fun i hi => h.free i (sub hi)⟩

theorem named_of_mem (h : Removable bucket targets s) :
    ∀ t ∈ targets, ∃ i, t = named i := by
  intro t ht
  obtain ⟨i, same, _⟩ := h.aimed t ht
  exact ⟨i, same⟩

theorem removed {gone : List (String × String)} (h : Removable bucket targets s)
    (removed : Removed bucket gone s t) : Removable bucket targets t := by
  refine ⟨removed.there.trans h.there, h.aimed, ?_⟩
  intro i hi v hv
  rw [removed.versions] at hv
  exact h.free i hi v (List.mem_of_mem_filter hv)

theorem delete {i : String × String} (h : Removable bucket [named i] s) :
    ∃ t, s.delete bucket i.1 (some i.2) = .ok t := by
  obtain ⟨b, found⟩ := Option.isSome_iff_exists.mp h.there
  refine ⟨_, (Backend.delete_eq_ok_iff ..).mpr ⟨b, found, ?_, rfl⟩⟩
  intro v hv target
  rw [← Backend.versionsAt_of_get? found] at hv
  exact h.free i (List.mem_singleton_self _) v hv (by simpa [Version.isTarget] using target) _

theorem given (h : Removable bucket targets s) : ∀ t ∈ targets, t.key.isGiven = true := by
  intro t ht
  obtain ⟨i, rfl, given⟩ := h.aimed t ht
  simp [named, Reported.isGiven, Reported.value, Sayable.value, Value.isGiven, given]

end Removable

namespace Store
variable {s : Store} {guard : Guard Backend}
  (passes : ∀ p key w, (guard p key).runFrom w = (.ok (), w))
include passes

theorem harmless_of_passes : Harmless guard := by
  intro p key w
  rw [passes]
  rfl

theorem deleteTarget_succeeds {i : String × String} {w : World Backend} (tidy : w.remote.Tidy)
    (h : Removable s.bucket [named i] w.remote) :
    ∃ w' gone, (deleteTarget s guard (named i)).runFrom w = (.ok (), w') ∧
      Removed s.bucket gone w.remote w'.remote := by
  obtain ⟨t, made⟩ := h.delete
  refine ⟨{ w with remote := t }, _, ?_, removed_of_delete tidy made⟩
  exact (Action.runFrom_bind_ok (passes _ _ w) _).trans (runFrom_update_ok made)

theorem deleteEach_succeeds {targets : List Target} {w : World Backend} (tidy : w.remote.Tidy)
    (h : Removable s.bucket targets w.remote) :
    ∃ w', (deleteEach s guard targets).runFrom w = (.ok [], w') := by
  induction targets generalizing w with
  | nil => exact ⟨w, rfl⟩
  | cons t rest ih =>
      obtain ⟨i, rfl, _⟩ := h.aimed t (List.mem_cons_self ..)
      obtain ⟨w₁, gone, first, removed⟩ := deleteTarget_succeeds passes tidy
        (h.subset (List.cons_subset_cons _ (List.nil_subset rest)))
      obtain ⟨w₂, later⟩ := ih removed.tidy
        ((h.subset (List.subset_cons_self ..)).removed removed)
      have tried : (deleteTarget s guard (named i)).outcome.runFrom w = (.ok (.ok ()), w₁) := by
        rw [Action.runFrom_outcome, first]
      exact ⟨w₂, (Action.runFrom_bind_ok tried _).trans later⟩

theorem deleteMany_succeeds {targets : List Target} {w : World Backend} (tidy : w.remote.Tidy)
    (h : Removable s.bucket targets w.remote) :
    ∃ w' gone, (deleteMany s guard targets).runFrom w = (.ok (), w') ∧
      Removed s.bucket gone w.remote w'.remote := by
  obtain ⟨w', each⟩ := deleteEach_succeeds passes tidy h
  have ran : (deleteMany s guard targets).runFrom w = (.ok (), w') :=
    (Action.runFrom_bind_ok (passes _ _ w) _).trans (Action.runFrom_bind_ok each _)
  obtain ⟨gone, removed, _⟩ :=
    removes_deleteMany (s := s) (harmless_of_passes passes) h.named_of_mem tidy
  rw [ran] at removed
  exact ⟨w', gone, ran, removed⟩

theorem forM_succeeds {batches : List (List Target)} {w : World Backend} (tidy : w.remote.Tidy)
    (h : Removable s.bucket batches.flatten w.remote) :
    ∃ w', (batches.forM (deleteMany s guard)).runFrom w = (.ok (), w') := by
  induction batches generalizing w with
  | nil => exact ⟨w, rfl⟩
  | cons batch rest ih =>
      rw [List.flatten_cons] at h
      obtain ⟨w₁, gone, first, removed⟩ := deleteMany_succeeds passes tidy
        (h.subset (List.subset_append_left ..))
      obtain ⟨w₂, later⟩ := ih removed.tidy
        ((h.subset (List.subset_append_right ..)).removed removed)
      exact ⟨w₂, (Action.runFrom_bind_ok first _).trans later⟩

theorem deleteBatch_succeeds (positive : 0 < s.deleteLimit.toNat) {batch : List Target}
    {w : World Backend} (tidy : w.remote.Tidy) (h : Removable s.bucket batch w.remote) :
    ∃ w', (Directory.deleteBatch (s.adapter guard) batch).runFrom w = (.ok (batch, none), w') := by
  have whole := BlobStorage.Store.flatten_pieces (Nat.ne_of_gt positive) batch
  obtain ⟨w', ran⟩ := forM_succeeds passes tidy (whole.symm ▸ h)
  have many := (BlobStorage.Store.runFrom_deleteMany (a := s.adapter guard)
    (by change 0 < s.deleteLimit; omega) h.given w).trans ran
  refine ⟨w', ?_⟩
  unfold Directory.deleteBatch
  rw [Action.runFrom_bind, Action.runFrom_outcome, many]
  rfl

end Store
end BlobStorage.Memory
