import BlobStorage.Proofs.Directory.Growth
import BlobStorage.Proofs.Directory.Transfer

/-!
Adapters that serve the keys of a bucket and leave the local files alone, and what the download of one
key to one file does then: it puts the key's bytes where there was nothing, or it fails and leaves what
is in the place as it was.
-/
namespace BlobStorage
variable {ρ α : Type}

/-- The local files are left alone, and what holds of the world goes on to hold. -/
def Aside (P : World ρ → Prop) (w w' : World ρ) : Prop :=
  w'.files = w.files ∧ (P w → P w')

instance (P : World ρ → Prop) : Std.Refl (Aside P) := ⟨fun _ => ⟨rfl, id⟩⟩

instance (P : World ρ → Prop) : IsTrans (World ρ) (Aside P) :=
  ⟨fun _ _ _ h k => ⟨k.1.trans h.1, k.2 ∘ h.2⟩⟩

/-- Reading leaves the local files alone, and for as long as something holds of the world, which has
nothing to do with these files, a key is delivered with these bytes or not at all. -/
structure Serves (a : Adapter ρ) (P : World ρ → Prop) (bytes : String → Content → Prop) : Prop where
  apart : ∀ w files, P w → P { w with files }
  listPage : ∀ request, (a.listPage request).Keeps (Aside P)
  downloadToStream : ∀ request, (a.downloadToStream request).Keeps (Aside P)
  classify : ∀ f, (a.classify f).Keeps (Aside P)
  delivered : ∀ key w content reply w', P w →
    (a.downloadToStream { key }).runFrom w = (.ok (content, reply), w') → bytes key content

namespace Store
variable {a : Adapter ρ} {request : DownloadRequest} {path : Path} {w w' : World ρ} {files : FileTree}
  {name : List String}

theorem runFrom_downloadToFile_blocked {e : Ambient} (blocked : w.files.exists? path = .error e) :
    (downloadToFile a request path).runFrom w = (.error (.ambient e), w) := by
  refine (Action.runFrom_bind_ok (Action.runFrom_get w) _).trans ?_
  exact Action.runFrom_ambient_bind_error blocked _ w

theorem runFrom_downloadToFile_occupied (there : w.files.exists? path = .ok true) :
    (downloadToFile a request path).runFrom w =
      (.error (.refusal (.destinationExists path.text) request.key), w) := by
  refine (Action.runFrom_bind_ok (Action.runFrom_get w) _).trans ?_
  exact (Action.runFrom_ambient_bind_ok there _ w).trans rfl

theorem runFrom_downloadToFile_uncreated {e : Ambient} (free : w.files.exists? path = .ok false)
    (made : w.files.create path = .error e) :
    (downloadToFile a request path).runFrom w = (.error (.ambient e), w) := by
  refine (Action.runFrom_bind_ok (Action.runFrom_get w) _).trans ?_
  refine (Action.runFrom_ambient_bind_ok free _ w).trans ?_
  exact Action.runFrom_ambient_bind_error made _ w

section Created
variable (free : w.files.exists? path = .ok false) (made : w.files.create path = .ok (files, name))
include free made

/-- A file whose bytes do not come is removed again. -/
theorem runFrom_downloadToFile_lost {f : Failure}
    (lost : (a.downloadToStream request).runFrom { w with files } = (.error f, w')) :
    (downloadToFile a request path).runFrom w =
      (.error f, { w' with files := w'.files.remove name }) := by
  refine (Action.runFrom_bind_ok (Action.runFrom_get w) _).trans ?_
  refine (Action.runFrom_ambient_bind_ok free _ w).trans ?_
  refine (Action.runFrom_ambient_bind_ok made _ w).trans ?_
  refine (Action.runFrom_bind_ok (Action.runFrom_modify _ _) _).trans ?_
  exact Action.runFrom_bind_error (Action.runFrom_onFailure_error lost (Action.runFrom_modify _ _)) _

theorem runFrom_downloadToFile_delivered {content : Content} {reply : DownloadReply}
    (came : (a.downloadToStream request).runFrom { w with files } = (.ok (content, reply), w')) :
    (downloadToFile a request path).runFrom w =
      (.ok ⟨reply, some content⟩, { w' with files := w'.files.write name content }) := by
  refine (Action.runFrom_bind_ok (Action.runFrom_get w) _).trans ?_
  refine (Action.runFrom_ambient_bind_ok free _ w).trans ?_
  refine (Action.runFrom_ambient_bind_ok made _ w).trans ?_
  refine (Action.runFrom_bind_ok (Action.runFrom_modify _ _) _).trans ?_
  refine (Action.runFrom_bind_ok (Action.runFrom_onFailure_ok came) _).trans ?_
  exact (Action.runFrom_bind_ok (Action.runFrom_modify _ _) _).trans rfl

end Created

/-- What a download to a file that succeeds has done: it made the file and wrote to it what came. -/
theorem ok_of_downloadToFile {d : Delivery}
    (ran : (downloadToFile a request path).runFrom w = (.ok d, w')) :
    ∃ name content w₁, w.files.vacant path = .ok name ∧
      (a.downloadToStream request).runFrom { w with files := w.files.write name [] } =
        (.ok (content, d.reply), w₁) ∧
      d.delivered = some content ∧ w' = { w₁ with files := w₁.files.write name content } := by
  rcases there : w.files.exists? path with e | _ | _
  · rw [runFrom_downloadToFile_blocked there] at ran
    cases ran
  · rcases made : w.files.create path with e | ⟨files, name⟩
    · rw [runFrom_downloadToFile_uncreated there made] at ran
      cases ran
    obtain ⟨_, vacant, is⟩ := bind_eq_ok_iff.mp made
    cases is
    rcases came : (a.downloadToStream request).runFrom { w with files := w.files.write name [] } with
      ⟨f | ⟨content, reply⟩, w₁⟩
    · rw [runFrom_downloadToFile_lost there made came] at ran
      cases ran
    · rw [runFrom_downloadToFile_delivered there made came] at ran
      cases ran
      exact ⟨name, content, w₁, vacant, came, rfl, rfl⟩
  · rw [runFrom_downloadToFile_occupied there] at ran
    cases ran

end Store

/-- How the download of a key to a path may end, seen from the tree in which it began: the key's bytes
are put where nothing was, or nothing is new but directories above the place. -/
def Landed (P : World ρ → Prop) (bytes : String → Content → Prop) (t : FileTree) (key : String)
    (path : Path) : Except Failure α × World ρ → Prop
  | (.ok _, w) => P w ∧ ∃ content, bytes key content ∧ t.Put w.files path content
  | (.error _, w) => P w ∧ t.Widened w.files path.segments.dropLast

namespace Serves
variable {a : Adapter ρ} {P : World ρ → Prop} {bytes : String → Content → Prop}
  (serves : Serves a P bytes) {key : String} {path : Path} {w : World ρ} {t : FileTree}
include serves

theorem downloadToFile (forward : ".." ∉ path.segments) (start : P w)
    (wide : t.Widened w.files path.segments.dropLast) :
    Landed P bytes t key path ((Store.downloadToFile a { key } path).runFrom w) := by
  rcases there : w.files.exists? path with e | _ | _
  · rw [Store.runFrom_downloadToFile_blocked there]
    exact ⟨start, wide⟩
  · rcases made : w.files.create path with e | ⟨files, name⟩
    · rw [Store.runFrom_downloadToFile_uncreated there made]
      exact ⟨start, wide⟩
    obtain ⟨rfl, located, free, rfl⟩ := FileTree.create_eq_ok forward made
    have opened := serves.apart w (w.files.write path.segments []) start
    rcases came : (a.downloadToStream { key }).runFrom
      { w with files := w.files.write path.segments [] } with ⟨f | ⟨content, reply⟩, w'⟩
    all_goals
      obtain ⟨same, kept⟩ := serves.downloadToStream { key }
        { w with files := w.files.write path.segments [] }
      rw [came] at same kept
      dsimp only at same
    · rw [Store.runFrom_downloadToFile_lost there made came, same]
      exact ⟨serves.apart _ _ (kept opened), wide.trans (FileTree.widened_remove_write free)⟩
    · rw [Store.runFrom_downloadToFile_delivered there made came, same, FileTree.write_write]
      exact ⟨serves.apart _ _ (kept opened), content, serves.delivered _ _ _ _ _ opened came,
        wide.put located free content⟩
  · rw [Store.runFrom_downloadToFile_occupied there]
    exact ⟨start, wide⟩

theorem download (key : String) (forward : ".." ∉ path.segments) (start : P w)
    (wide : t.Widened w.files path.segments.dropLast) :
    Landed P bytes t key path ((Store.download a { key } (.file path)).runFrom w) := by
  unfold Store.download
  rcases Check.key key with e | ⟨⟨⟩⟩
  · rw [Store.runFrom_check_bind_error rfl]
    exact ⟨start, wide⟩
  · have whole : Check.range { key } = .ok () := rfl
    rw [Store.runFrom_check_bind_ok rfl, Store.runFrom_check_bind_ok whole]
    exact serves.downloadToFile forward start wide

/-- One transfer of a directory download. -/
theorem downloadItem {item : Directory.DownloadItem} (forward : ".." ∉ item.target.segments) (start : P w) :
    Landed P bytes w.files item.key item.target ((Directory.downloadItem a item).runFrom w) := by
  have above : ".." ∉ item.target.parent.segments := fun h => forward (List.dropLast_subset _ h)
  have wide := FileTree.widened_makeDirectories above w.files
  rcases made : w.files.makeDirectories item.target.parent with ⟨e | ⟨⟨⟩⟩, files⟩
  · rw [made] at wide
    rw [Directory.runFrom_downloadItem_failed made]
    exact ⟨serves.apart _ _ start, wide⟩
  · rw [made] at wide
    have landed := serves.download item.key forward (serves.apart w files start) wide
    rcases ran : (Store.download a { key := item.key } (.file item.target)).runFrom { w with files }
      with ⟨e | d, w'⟩
    all_goals
      rw [ran] at landed
      rw [Directory.runFrom_downloadItem_made made ran]
      exact landed

theorem blobs {request : ListRequest} {wanted : Option Nat} {listed : Run BlobInfo} {w w₁ : World ρ}
    (ran : (Listing.blobs a request wanted).runFrom w = (.ok listed, w₁)) : Aside P w w₁ := by
  have kept : (Listing.blobs a request wanted).Keeps (Aside P) :=
    Action.Keeps.bind Action.Keeps.get fun _ => Directory.keeps_pull serves.listPage _ _ _ _
  have aside := kept w
  rwa [ran] at aside

/-- Recording failures leaves the local files alone. -/
theorem recorded {α β : Type} (record : α → Failure → β) (key : α → Option String)
    (bad : List (α × Failure)) (w : World ρ) :
    ∃ failed w', (Directory.recording a .blocking record key bad).runFrom w = (.ok failed, w') ∧
      w'.files = w.files ∧
      List.Forall₂ (fun (entry : α × Failure) r => ∃ category,
        r = record entry.1 (entry.2.categorize category (key entry.1) false)) bad failed := by
  obtain ⟨failed, w', ran, each⟩ :=
    Directory.total_recorded (a := a) .blocking record key bad w
  have aside := Directory.keeps_recording serves.classify .blocking record key bad w
  rw [ran] at aside
  exact ⟨failed, w', ran, aside.1, each⟩

end Serves
end BlobStorage
