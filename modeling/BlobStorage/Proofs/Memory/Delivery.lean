import BlobStorage.Proofs.Buffer
import BlobStorage.Proofs.Memory.Upload

/-!
Downloads by a caller for whom no failure is planned. All destinations are given the same bytes with the
same metadata, and nothing is changed but the destination: a buffer holds these bytes and nothing else
afterwards, and a file is created where there was none. Where the bytes cannot be had, nothing is changed
at all.
-/
namespace BlobStorage

/-- Where bytes can be put: a file must be one that can be created. -/
inductive Destination.Ready (files : FileTree) : Destination → Prop
  | live : Ready files .live
  | buffer : Ready files .buffer
  | stream : Ready files .stream
  | file {path : Path} {name : List String} (vacant : files.vacant path = .ok name) :
      Ready files (.file path)

/-- A file that is removed right after it was created leaves nothing behind. -/
theorem FileTree.remove_write {t : FileTree} {path : Path} {name : List String}
    (vacant : t.vacant path = .ok name) (content : Content) :
    (t.write name content).remove name = t := by
  obtain ⟨-, free⟩ := vacant_eq_ok vacant
  have unnamed : t.entries.get? name = none := by rwa [← node?_of_ne_nil (ne_nil_of_free free)]
  rw [remove, write, Table.erase_set, Table.erase_of_get? unnamed]

namespace Memory

theorem range_whole (key : String) : Check.range { key } = .ok () := rfl

/-- Whoever asks for it is given these bytes with this metadata, wherever they go to. -/
structure Hands (c : Caller) (w : World Backend) (request : DownloadRequest) (metadata : BlobMetadata)
    (content : Content) : Prop where
  live : (Call.perform c (.download request .live)).run.runFrom w =
    (.ok (.downloaded
      ⟨{ key := request.key, metadata, body := some (.stream { content }) }, none⟩), w)
  stream : (Call.perform c (.download request .stream)).run.runFrom w =
    (.ok (.downloaded ⟨{ key := request.key, metadata }, some content⟩), w)
  buffer : ∀ held, (c.client.downloadInto request).runFrom (w, held) =
    (.ok { key := request.key, metadata }, (w, content))
  file : ∀ path name, w.files.vacant path = .ok name →
    (Call.perform c (.download request (.file path))).run.runFrom w =
        (.ok (.downloaded ⟨{ key := request.key, metadata }, some content⟩),
          { w with files := w.files.write name content }) ∧
      (w.files.write name content).read? path = .ok (some content) ∧
      ∀ other, other ≠ name → (w.files.write name content).node? other = w.files.node? other

/-- Whoever asks for it is told of this fault, and nothing is changed, wherever the bytes were to go. -/
structure Withholds (c : Caller) (w : World Backend) (request : DownloadRequest) (fault : Fault) :
    Prop where
  raised : ∀ destination : Destination, destination.Ready w.files →
    (Call.perform c (.download request destination)).run.runFrom w =
      (.error (c.heard (some request.key) (.memory fault)), w)
  buffer : ∀ held, (c.client.downloadInto request).runFrom (w, held) =
    (.error (c.heard (some request.key) (.memory fault)), (w, held))

/-- Whoever downloads the key is given these bytes with this metadata, wherever they go to. -/
structure Delivers (c : Caller) (w : World Backend) (key : String) (metadata : BlobMetadata)
    (content : Content) : Prop where
  live : (Call.perform c (.download { key } .live)).run.runFrom w =
    (.ok (.downloaded ⟨{ key, metadata, body := some (.stream { content }) }, none⟩), w)
  stream : (Call.perform c (.download { key } .stream)).run.runFrom w =
    (.ok (.downloaded ⟨{ key, metadata }, some content⟩), w)
  buffer : ∀ held, (c.client.downloadInto { key }).runFrom (w, held) =
    (.ok { key, metadata }, (w, content))
  file : ∀ path name, w.files.vacant path = .ok name →
    (Call.perform c (.download { key } (.file path))).run.runFrom w =
        (.ok (.downloaded ⟨{ key, metadata }, some content⟩),
          { w with files := w.files.write name content }) ∧
      (w.files.write name content).read? path = .ok (some content) ∧
      ∀ other, other ≠ name → (w.files.write name content).node? other = w.files.node? other

section Accepted
variable {c : Caller} {w : World Backend} {request : DownloadRequest} (named : request.key ≠ "")
  (checked : Check.range request = .ok ())

theorem perform_download_ok {destination : Destination} {d : Delivery} {w' : World Backend}
    (own : (BlobStorage.Store.download c.adapter request destination).runFrom w = (.ok d, w')) :
    (Call.perform c (.download request destination)).run.runFrom w = (.ok (.downloaded d), w') :=
  (BucketClient.runFrom_call_ok_iff ..).mpr (Action.runFrom_map_ok_iff.mpr ⟨d, rfl, own⟩)

theorem perform_download_error {destination : Destination} {f : Failure} {w' : World Backend}
    (free : c.Unhindered w')
    (own : (BlobStorage.Store.download c.adapter request destination).runFrom w = (.error f, w')) :
    (Call.perform c (.download request destination)).run.runFrom w =
      (.error (c.heard (some request.key) f), w') := by
  have failed : (Answer.downloaded <$> BlobStorage.Store.download c.adapter request
      destination).runFrom w = (.error f, w') := by
    rw [Action.runFrom_map, own]
    rfl
  exact call_error_of_unhindered free failed

include named checked

/-- A key that is not empty passes the checks of a download with an accepted range. -/
theorem runFrom_checked {α : Type} (load : Op Backend α) :
    Action.runFrom (do
      BlobStorage.Store.check (Check.key request.key)
      BlobStorage.Store.check (Check.range request)
      load) w = load.runFrom w := by
  rw [BlobStorage.Store.runFrom_check_bind_ok ((Check.key_eq_ok_iff _).mpr named),
    BlobStorage.Store.runFrom_check_bind_ok checked]

/-- A path at which no file can be created is refused, and everything stays as it is. -/
theorem runFrom_download_unplaced {path : Path} (taken : ∀ name, w.files.vacant path ≠ .ok name) :
    ∃ f, (BlobStorage.Store.download c.adapter request (.file path)).runFrom w = (.error f, w) ∧
      ∀ fault, f ≠ .memory fault := by
  have own : ∃ f, (BlobStorage.Store.downloadToFile c.adapter request path).runFrom w =
      (.error f, w) ∧ ∀ fault, f ≠ .memory fault := by
    cases there : w.files.exists? path with
    | error e => exact ⟨_, BlobStorage.Store.runFrom_downloadToFile_blocked there, nofun⟩
    | ok found =>
        cases found with
        | true => exact ⟨_, BlobStorage.Store.runFrom_downloadToFile_occupied there, nofun⟩
        | false =>
            obtain ⟨e, refused⟩ := FileTree.create_error taken
            exact ⟨_, BlobStorage.Store.runFrom_downloadToFile_uncreated there refused, nofun⟩
  exact own.imp fun f ran => ⟨(runFrom_checked named checked _).trans ran.1, ran.2⟩

theorem perform_download_unready (free : c.Unhindered w) {destination : Destination}
    (unready : ¬ destination.Ready w.files) :
    ∃ f, (Call.perform c (.download request destination)).run.runFrom w =
        (.error (c.heard (some request.key) f), w) ∧ ∀ fault, f ≠ .memory fault := by
  cases destination with
  | live => exact absurd .live unready
  | buffer => exact absurd .buffer unready
  | stream => exact absurd .stream unready
  | file path =>
      have taken : ∀ name, w.files.vacant path ≠ .ok name := fun name vacant => unready (.file vacant)
      obtain ⟨f, ran, other⟩ := runFrom_download_unplaced (c := c) named checked taken
      exact ⟨f, perform_download_error free ran, other⟩
  | unsupported typeName =>
      have ran : (BlobStorage.Store.download c.adapter request (.unsupported typeName)).runFrom w =
          (.error (.refusal (.destinationType typeName) request.key), w) :=
        runFrom_checked named checked _
      exact ⟨_, perform_download_error free ran, nofun⟩

variable (free : c.Unhindered w)
include free

section Found
variable {v : Version} {content : Content}
  (found : w.remote.version c.store.bucket request.key request.version = .ok v)
  (cut : slice v.data request = .ok content)
include found cut

theorem runFrom_download_file {path : Path} {name : List String}
    (vacant : w.files.vacant path = .ok name) :
    (BlobStorage.Store.download c.adapter request (.file path)).runFrom w =
      (.ok ⟨{ key := request.key, metadata := Store.metadataOf request.key v content.length },
          some content⟩,
        { w with files := w.files.write name content }) := by
  let opened : World Backend := { w with files := w.files.write name [] }
  have there : opened.remote.version c.store.bucket request.key request.version = .ok v := found
  have spared : c.Spared .downloadToStream opened := free.congr rfl _
  have loaded : (c.adapter.downloadToStream request).runFrom opened = (.ok (content, _), opened) :=
    (Action.runFrom_bind_ok (runFrom_guardOf spared _) _).trans
      (Action.runFrom_bind_ok (runFrom_read there cut) _)
  have written := BlobStorage.Store.runFrom_downloadToFile_delivered
    (FileTree.exists?_of_vacant vacant) (FileTree.create_of_vacant vacant) loaded
  rw [FileTree.write_write] at written
  exact (runFrom_checked named checked _).trans written

theorem hands_of_version :
    Hands c w request (Store.metadataOf request.key v content.length) content := by
  have read := runFrom_read found cut
  refine ⟨perform_download_ok ?_, perform_download_ok ?_, fun held => ?_,
    fun path name vacant => ⟨perform_download_ok ?_, ?_⟩⟩
  · have loaded : (c.adapter.downloadStream request).runFrom w = (.ok _, w) :=
      (Action.runFrom_bind_ok (runFrom_guardOf (free .downloadStream) _) _).trans
        (Action.runFrom_bind_ok read _)
    exact (runFrom_checked named checked _).trans (Action.runFrom_bind_ok loaded _)
  · have loaded : (c.adapter.downloadToStream request).runFrom w = (.ok _, w) :=
      (Action.runFrom_bind_ok (runFrom_guardOf (free .downloadToStream) _) _).trans
        (Action.runFrom_bind_ok read _)
    exact (runFrom_checked named checked _).trans (Action.runFrom_bind_ok loaded _)
  · have loaded : (c.adapter.downloadBytes request).runFrom w = (.ok _, w) :=
      (Action.runFrom_bind_ok (runFrom_guardOf (free .downloadBytes) _) _).trans
        (Action.runFrom_bind_ok read _)
    have own : (BlobStorage.Store.download c.adapter request .buffer).runFrom w = (.ok _, w) :=
      (runFrom_checked named checked _).trans (Action.runFrom_bind_ok loaded _)
    have called := (BucketClient.runFrom_call_ok_iff (c := c.client) (some request.key) _ w w _).mpr own
    refine (BucketClient.runFrom_downloadInto ..).trans ?_
    rw [show (c.client.call (some request.key) (BlobStorage.Store.download c.client.adapter request
      .buffer)).runFrom w = _ from called]
    rfl
  · exact runFrom_download_file named checked free found cut vacant
  · exact FileTree.write_of_vacant vacant content

end Found

/-- What cannot be read is withheld from all destinations. -/
theorem withholds_of_read {fault : Fault} (failed : ∀ w' : World Backend, w'.remote = w.remote →
    (Store.read c.store request).runFrom w' = (.error (.memory fault), w')) :
    Withholds c w request fault := by
  have bytes : (BlobStorage.Store.download c.adapter request .buffer).runFrom w =
      (.error (.memory fault), w) := by
    have lost : (c.adapter.downloadBytes request).runFrom w = (.error (.memory fault), w) :=
      (Action.runFrom_bind_ok (runFrom_guardOf (free .downloadBytes) _) _).trans
        (Action.runFrom_bind_error (failed w rfl) _)
    exact (runFrom_checked named checked _).trans (Action.runFrom_bind_error lost _)
  have lost {w' : World Backend} (free : c.Unhindered w') (same : w'.remote = w.remote) :
      (c.adapter.downloadToStream request).runFrom w' = (.error (.memory fault), w') :=
    (Action.runFrom_bind_ok (runFrom_guardOf (free .downloadToStream) _) _).trans
      (Action.runFrom_bind_error (failed w' same) _)
  refine ⟨fun destination ready => perform_download_error free ?_, fun held => ?_⟩
  · cases ready with
    | live =>
        have lost : (c.adapter.downloadStream request).runFrom w = (.error (.memory fault), w) :=
          (Action.runFrom_bind_ok (runFrom_guardOf (free .downloadStream) _) _).trans
            (Action.runFrom_bind_error (failed w rfl) _)
        exact (runFrom_checked named checked _).trans (Action.runFrom_bind_error lost _)
    | buffer => exact bytes
    | stream =>
        exact (runFrom_checked named checked _).trans (Action.runFrom_bind_error (lost free rfl) _)
    | file vacant =>
        have removed := BlobStorage.Store.runFrom_downloadToFile_lost
          (FileTree.exists?_of_vacant vacant) (FileTree.create_of_vacant vacant)
          (lost (free.congr rfl) rfl)
        rw [FileTree.remove_write vacant] at removed
        exact (runFrom_checked named checked _).trans removed
  · have called : (c.client.call (some request.key) (BlobStorage.Store.download c.client.adapter request
        .buffer)).runFrom w = _ := call_error_of_unhindered free bytes
    refine (BucketClient.runFrom_downloadInto ..).trans ?_
    rw [called]
    rfl

end Accepted

theorem delivers_of_newest {c : Caller} {w : World Backend} {key : String} (named : key ≠ "")
    (free : c.Unhindered w) {v : Version}
    (newest : (w.remote.versionsAt c.store.bucket key).getLast? = some v) :
    Delivers c w key (Store.metadataOf key v v.data.length) v.data := by
  obtain ⟨live, stream, buffer, file⟩ := hands_of_version named (range_whole key) free
    ((Backend.version_eq_ok_iff ..).mpr newest) (slice_whole v.data key none)
  exact ⟨live, stream, buffer, file⟩

end Memory
end BlobStorage
