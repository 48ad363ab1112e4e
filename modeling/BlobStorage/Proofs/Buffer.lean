import BlobStorage.Buffer
import BlobStorage.Proofs.Client

/-!
A download into a buffer does to the world what the same download does that hands its bytes over, and
the buffer ends up with these bytes, or as it was if the download fails.
-/
namespace BlobStorage
variable {ρ α β : Type}

namespace Buffered

theorem runFrom_aside_bind (a : Op ρ α) (f : α → Buffered ρ β) (w : World ρ) (buffer : Content) :
    (aside a >>= f).runFrom (w, buffer) =
      match a.runFrom w with
      | (.ok x, w') => (f x).runFrom (w', buffer)
      | (.error e, w') => (.error e, (w', buffer)) := by
  have own : (aside a).runFrom (w, buffer) = ((a.runFrom w).1, ((a.runFrom w).2, buffer)) := rfl
  rw [Action.runFrom_bind, own]
  rcases a.runFrom w with ⟨e | x, w'⟩ <;> rfl

def filled (buffer : Content) :
    Except Failure Delivery × World ρ → Except Failure DownloadReply × World ρ × Content
  | (.ok d, w) => (.ok d.reply, (w, d.delivered.getD buffer))
  | (.error f, w) => (.error f, (w, buffer))

theorem filled_world (buffer : Content) (ran : Except Failure Delivery × World ρ) :
    (filled buffer ran).2.1 = ran.2 := by
  rcases ran with ⟨f | d, w⟩ <;> rfl

end Buffered

open Buffered

theorem Store.runFrom_downloadInto (a : Adapter ρ) (request : DownloadRequest) (w : World ρ)
    (buffer : Content) :
    (downloadInto a request).runFrom (w, buffer) =
      filled buffer ((download a request .buffer).runFrom w) := by
  unfold downloadInto download
  rw [runFrom_aside_bind, Action.runFrom_bind]
  rcases (check (Check.key request.key)).runFrom w with ⟨f | _, w₁⟩
  · rfl
  dsimp only
  rw [runFrom_aside_bind, Action.runFrom_bind]
  rcases (check (Check.range request)).runFrom w₁ with ⟨f | _, w₂⟩
  · rfl
  dsimp only
  rw [runFrom_aside_bind, Action.runFrom_bind]
  rcases (a.downloadBytes request).runFrom w₂ with ⟨f | ⟨content, reply⟩, w₃⟩ <;> rfl

theorem Store.delivered_of_download {a : Adapter ρ} {request : DownloadRequest} {w w' : World ρ}
    {d : Delivery} (run : (download a request .buffer).runFrom w = (.ok d, w')) :
    ∃ content, d.delivered = some content := by
  obtain ⟨_, _, _, run⟩ := Action.ok_of_bind_ok run
  obtain ⟨_, _, _, run⟩ := Action.ok_of_bind_ok run
  obtain ⟨⟨content, reply⟩, _, _, answered⟩ := Action.ok_of_bind_ok run
  cases answered
  exact ⟨content, rfl⟩

namespace BucketClient
variable {c : BucketClient ρ}

theorem runFrom_downloadInto (c : BucketClient ρ) (request : DownloadRequest) (w : World ρ)
    (buffer : Content) :
    (c.downloadInto request).runFrom (w, buffer) =
      filled buffer ((c.call (some request.key)
        (Store.download c.adapter request .buffer)).runFrom w) := by
  unfold downloadInto
  rw [Action.runFrom_bind, Action.runFrom_outcome, CallStyle.runFrom_reach,
    Store.runFrom_downloadInto]
  rcases ran : (Store.download c.adapter request .buffer).runFrom w with ⟨f | d, w'⟩
  · rw [runFrom_call_error ran]
    dsimp only [filled, Except.mapError]
    split
    · rw [runFrom_aside_bind, Action.runFrom_bind]
      rcases (categorizeWith c.adapter.classify (c.style.hand f) (some request.key) true).runFrom w'
        with ⟨f' | f', w''⟩ <;> rfl
    · rfl
  · rw [(runFrom_call_ok_iff _ _ _ _ _).mpr ran]
    rfl

end BucketClient
end BlobStorage
