import BlobStorage.Proofs.Memory.Run

/-!
What a download gives. Whatever the destination, the bytes that it hands over are those of the version
that it names, cut to the range that it asks for; nothing but the destination can keep them back.
-/
namespace BlobStorage

def Delivery.bytes? (d : Delivery) : Option Content :=
  match d.delivered, d.reply.body with
  | some content, _ => some content
  | none, some (.stream body) => some body.content
  | none, _ => none

/-- The destination takes whatever comes; a file may be there already, or be out of reach. -/
def Destination.TakesAll : Destination → Prop
  | live | buffer | stream => True
  | file _ | unsupported _ => False

namespace Memory

/-- The bytes of a version that a request asks for. -/
def Asked (bucket : String) (request : DownloadRequest) (b : Backend) (content : Content) : Prop :=
  ∃ v, b.version bucket request.key request.version = .ok v ∧ slice v.data request = .ok content

theorem slice_whole (data : Content) (key : String) (id : Option String) :
    slice data { key, version := id } = .ok data := rfl

section Atomic
variable {s : Store} {guard : Guard Backend} (harmless : Store.Harmless guard)
include harmless

omit harmless in
theorem atomic_read (request : DownloadRequest) :
    Atomic (fun b x b' => b' = b ∧ Asked s.bucket request b x.1) (Store.read s request) := by
  refine (Store.atomic_see _).mono ?_
  intro b x b' ⟨same, look⟩
  obtain ⟨v, hv, look⟩ := bind_eq_ok_iff.mp look
  obtain ⟨data, hd, look⟩ := bind_eq_ok_iff.mp look
  cases look
  exact ⟨same, v, hv, hd⟩

theorem atomic_downloadToStream (request : DownloadRequest) :
    Atomic (fun b x b' => b' = b ∧ Asked s.bucket request b x.1)
      ((s.adapter guard).downloadToStream request) :=
  .after (harmless _ _) fun _ => (atomic_read request).answer fun _ _ _ h => h

theorem atomic_downloadToFile (request : DownloadRequest) (path : Path) :
    Atomic (fun b d b' => b' = b ∧ ∃ content, Asked s.bucket request b content ∧
        d.bytes? = some content)
      (BlobStorage.Store.downloadToFile (s.adapter guard) request path) := by
  have remove (name : List String) :
      Quiet (modify fun w => { w with files := w.files.remove name } : Op Backend Unit) :=
    Action.Keeps.modify fun _ => rfl
  unfold BlobStorage.Store.downloadToFile
  refine .after Action.Keeps.get fun w => .after (BlobStorage.Store.quiet_ambient _) fun found => ?_
  cases found
  case' true => refine .after (Action.Keeps.throw _) fun _ => ?_
  all_goals
    refine .after (BlobStorage.Store.quiet_ambient _) fun made => ?_
    refine .after (Action.Keeps.modify fun _ => rfl) fun _ => ?_
    refine ((atomic_downloadToStream harmless request).onFailure (remove made.2)).before
      (g := fun x => (⟨x.2, some x.1⟩ : Delivery)) ?_ ?_
    · intro loaded w
      exact ⟨{ w with files := w.files.write made.2 loaded.1 }, rfl, rfl⟩
    · rintro b x b' ⟨same, asked⟩
      exact ⟨same, x.1, asked, rfl⟩

/-- A download that succeeds has handed over what it was asked for. -/
theorem atomic_download (request : DownloadRequest) (destination : Destination) :
    Atomic (fun b d b' => b' = b ∧ ∃ content, Asked s.bucket request b content ∧
        d.bytes? = some content)
      (BlobStorage.Store.download (s.adapter guard) request destination) := by
  refine .after (BlobStorage.Store.quiet_check _) fun _ =>
    .after (BlobStorage.Store.quiet_check _) fun _ => ?_
  cases destination with
  | live =>
      have live : Atomic (fun b (reply : DownloadReply) b' => b' = b ∧
          ∃ content, Asked s.bucket request b content ∧
            reply.body = some (.stream { content }))
          ((s.adapter guard).downloadStream request) := by
        refine .after (harmless _ _) fun _ => (atomic_read request).answer ?_
        intro b x b' ⟨same, asked⟩
        exact ⟨same, x.1, asked, rfl⟩
      refine live.answer ?_
      intro b reply b' ⟨same, content, asked, body⟩
      refine ⟨same, content, asked, ?_⟩
      simp only [Delivery.bytes?, body]
  | buffer =>
      have buffer : Atomic (fun b x b' => b' = b ∧ Asked s.bucket request b x.1)
          ((s.adapter guard).downloadBytes request) :=
        .after (harmless _ _) fun _ => (atomic_read request).answer fun _ _ _ h => h
      exact buffer.answer fun b x b' ⟨same, asked⟩ => ⟨same, x.1, asked, rfl⟩
  | stream =>
      exact (atomic_downloadToStream harmless request).answer fun b x b' ⟨same, asked⟩ =>
        ⟨same, x.1, asked, rfl⟩
  | file path => exact atomic_downloadToFile harmless request path
  | unsupported typeName => exact .throw _

end Atomic

section Unguarded
variable {s : Store} {w : World Backend} {request : DownloadRequest} {v : Version} {content : Content}

theorem runFrom_read (found : w.remote.version s.bucket request.key request.version = .ok v)
    (cut : slice v.data request = .ok content) :
    (Store.read s request).runFrom w =
      (.ok (content, Store.metadataOf request.key v content.length), w) := by
  unfold Store.read
  rw [Store.runFrom_see, found]
  change ((do
    let data ← slice v.data request
    return (data, Store.metadataOf request.key v data.length) :
      Except Fault (Content × BlobMetadata)).mapError Failure.memory, w) = _
  rw [cut]
  rfl

theorem download_succeeds (named : request.key ≠ "") (bounded : Check.range request = .ok ())
    (found : w.remote.version s.bucket request.key request.version = .ok v)
    (cut : slice v.data request = .ok content) {destination : Destination}
    (takes : destination.TakesAll) :
    ∃ d, (BlobStorage.Store.download (s.adapter World.unguarded) request destination).runFrom w =
      (.ok d, w) := by
  have read := runFrom_read found cut
  unfold BlobStorage.Store.download
  rw [BlobStorage.Store.runFrom_check_bind_ok ((Check.key_eq_ok_iff _).mpr named),
    BlobStorage.Store.runFrom_check_bind_ok bounded]
  cases destination with
  | live =>
      have stream : ((s.adapter World.unguarded).downloadStream request).runFrom w = (.ok _, w) :=
        (World.runFrom_unguarded _ _ _ _).trans (Action.runFrom_bind_ok read _)
      exact ⟨_, Action.runFrom_bind_ok stream _⟩
  | buffer =>
      have bytes : ((s.adapter World.unguarded).downloadBytes request).runFrom w = (.ok _, w) :=
        (World.runFrom_unguarded _ _ _ _).trans (Action.runFrom_bind_ok read _)
      exact ⟨_, Action.runFrom_bind_ok bytes _⟩
  | stream =>
      have bytes : ((s.adapter World.unguarded).downloadToStream request).runFrom w = (.ok _, w) :=
        (World.runFrom_unguarded _ _ _ _).trans (Action.runFrom_bind_ok read _)
      exact ⟨_, Action.runFrom_bind_ok bytes _⟩
  | file path => exact takes.elim
  | unsupported typeName => exact takes.elim

end Unguarded

theorem Backend.Numbered.version_eq_ok {b : Backend} (h : b.Numbered) {bucket key : String}
    {v : Version} (hv : v ∈ b.versionsAt bucket key) : b.version bucket key (some v.id) = .ok v := by
  rw [Backend.version_eq_ok_iff]
  unfold Version.chosen?
  rcases found : (b.versionsAt bucket key).find? fun w => decide (w.id = v.id) with _ | w
  · have absent := List.find?_eq_none.mp found v hv
    simp at absent
  · have hw := List.mem_of_find?_eq_some found
    have same : w.number = v.number :=
      Version.id_inj.mp (by simpa using List.find?_some found)
    exact found.trans (congrArg some (h.unique hw hv same).2.2)

end Memory
end BlobStorage
