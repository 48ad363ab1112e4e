import BlobStorage.Proofs.Directory.Serving
import BlobStorage.Proofs.Memory.Download

/-!
A memory store serves the newest versions of its keys, whatever failures are planned for it.
-/
namespace BlobStorage.Memory

def On (remote : Backend) (w : World Backend) : Prop := w.remote = remote

def Newest (remote : Backend) (bucket key : String) (content : Content) : Prop :=
  ∃ v, (remote.versionsAt bucket key).getLast? = some v ∧ v.data = content

section Aside
variable {α : Type} {remote : Backend}

theorem aside_guardOf (plans : Option Nat) (p : Primitive) (key : Option String) :
    (guardOf plans p key).Keeps (Aside (On remote)) := by
  intro w
  cases plans with
  | none => exact Std.Refl.refl w
  | some store =>
      simp only [guardOf, World.guard]
      rw [Action.runFrom_bind_ok (Action.runFrom_get w)]
      rcases Interception.encounter store p key w.interceptions with ⟨strikes, seen⟩
      dsimp only
      rw [Action.runFrom_bind_ok (Action.runFrom_set w _)]
      cases strikes <;> exact ⟨rfl, id⟩

theorem aside_see (look : Backend → Except Fault α) :
    (Store.see look).Keeps (Aside (On remote)) := by
  intro w
  rw [Store.runFrom_see]
  exact Std.Refl.refl w

end Aside

theorem serves_adapter (c : Caller) (remote : Backend) :
    Serves c.adapter (On remote) (Newest remote c.store.bucket) where
  apart _ _ h := h
  listPage _ := Action.Keeps.bind (aside_guardOf _ _ _) fun _ =>
    Action.Keeps.bind (aside_see _) fun _ =>
      Action.Keeps.bind (Action.Keeps.ofAmbient _) fun _ => Action.Keeps.pure _
  downloadToStream _ := Action.Keeps.bind (aside_guardOf _ _ _) fun _ =>
    Action.Keeps.bind (aside_see _) fun _ => Action.Keeps.pure _
  classify _ := Action.Keeps.bind (aside_guardOf _ _ _) fun _ => Action.Keeps.pure _
  delivered key w content reply w' here ran := by
    obtain ⟨_, v, found, cut⟩ :=
      (atomic_downloadToStream (harmless_guardOf c.plans) { key }).of_ok ran
    rw [show w.remote = remote from here] at found
    cases (slice_whole v.data key none).symm.trans cut
    exact ⟨v, (Backend.version_eq_ok_iff ..).mp found, rfl⟩

end BlobStorage.Memory
