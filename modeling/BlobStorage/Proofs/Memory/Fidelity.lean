import BlobStorage.Proofs.Memory.Delivery

/-!
What is uploaded is what is downloaded. The same bytes become the same new version whether they are at
hand, in a stream or in a file, and right after the upload they come back unchanged to every
destination that takes them. A file is no such destination where it cannot be created.
-/
namespace BlobStorage.Memory

/-- How uploads and downloads fit together at a moment of a run. A content has at most as many bytes
as a word of 64 bits can count. -/
structure FidelityLaws (w : World Backend) : Prop where
  /-- An accepted upload whose length is declared rightly or not at all writes one version, the same
  for every source that has these bytes, next to all older ones, and changes nothing else. Whoever
  downloads the key then is given these bytes, with their number and with the tag and the identifier
  that the upload answered. -/
  faithful : ∀ c request content, c.Unhindered w → w.remote.hasBucket c.store.bucket = true →
    request.key ≠ "" → Check.tags request.tags = .ok () →
    (request.contentLength = none ∨ request.contentLength = some (Int.ofNat content.length)) →
    content.length ≤ 9223372036854775807 →
    ∃ (v : Version) (t : Backend), v.toDraft = Store.draftOf request content ∧
      Backend.Appended w.remote t c.store.bucket request.key v ∧ Backend.SameUploads w.remote t ∧
      (∀ source : UploadSource, source.Holds w.files content →
        (Call.perform c (.upload request source)).run.runFrom w =
          (.ok (.uploaded (v.receipt request)), { w with remote := t })) ∧
      ∃ metadata : BlobMetadata, metadata.size = .known (Int.ofNat content.length) ∧
        metadata.version = (v.receipt request).version ∧ metadata.etag = (v.receipt request).etag ∧
        ∀ reader : Caller, reader.store.bucket = c.store.bucket → reader.Unhindered w →
          Delivers reader { w with remote := t } request.key metadata content
  /-- A download to a path at which no file can be created fails and changes nothing. -/
  unplaced : ∀ c key path, c.Unhindered w → key ≠ "" → (∀ name, w.files.vacant path ≠ .ok name) →
    ∃ f, (Call.perform c (.download { key } (.file path))).run.runFrom w = (.error f, w)

section Laws
variable {c : Caller} {w : World Backend} (free : c.Unhindered w)
include free

theorem unplaced_of_unhindered {key : String} {path : Path} (named : key ≠ "")
    (taken : ∀ name, w.files.vacant path ≠ .ok name) :
    ∃ f, (Call.perform c (.download { key } (.file path))).run.runFrom w = (.error f, w) := by
  have unready : ¬ Destination.Ready w.files (.file path) := fun (.file vacant) => taken _ vacant
  obtain ⟨f, failed, -⟩ := perform_download_unready named (range_whole key) free unready
  exact ⟨_, failed⟩

theorem faithful_of_unhindered (tidy : w.remote.Tidy) {request : UploadRequest} {content : Content}
    (there : w.remote.hasBucket c.store.bucket = true) (named : request.key ≠ "")
    (tagged : Check.tags request.tags = .ok ())
    (fits : request.contentLength = none ∨
      request.contentLength = some (Int.ofNat content.length))
    (short : content.length ≤ 9223372036854775807) :
    ∃ (v : Version) (t : Backend), v.toDraft = Store.draftOf request content ∧
      Backend.Appended w.remote t c.store.bucket request.key v ∧ Backend.SameUploads w.remote t ∧
      (∀ source : UploadSource, source.Holds w.files content →
        (Call.perform c (.upload request source)).run.runFrom w =
          (.ok (.uploaded (v.receipt request)), { w with remote := t })) ∧
      ∃ metadata : BlobMetadata, metadata.size = .known (Int.ofNat content.length) ∧
        metadata.version = (v.receipt request).version ∧ metadata.etag = (v.receipt request).etag ∧
        ∀ reader : Caller, reader.store.bucket = c.store.bucket → reader.Unhindered w →
          Delivers reader { w with remote := t } request.key metadata content := by
  obtain ⟨v, t, stored, _⟩ := Backend.exists_store there request.key (Store.draftOf request content)
  have drafted := Backend.toDraft_of_store stored
  have appended := Backend.appended_of_store tidy stored
  have written : v.data = content := congrArg Draft.data drafted
  refine ⟨v, t, drafted, appended, Backend.sameUploads_of_store tidy stored, ?_,
    Store.metadataOf request.key v content.length, rfl, rfl, rfl, ?_⟩
  · intro source holds
    refine (BucketClient.runFrom_call_ok_iff ..).mpr (Action.runFrom_map_ok_iff.mpr ⟨_, rfl, ?_⟩)
    exact runFrom_upload free stored named tagged (holds.offers fits short)
  · intro reader same unhindered
    have newest : (t.versionsAt reader.store.bucket request.key).getLast? = some v := by
      rw [same, appended.rewritten, if_pos ⟨rfl, rfl⟩, List.getLast?_concat]
    have delivers := delivers_of_newest (w := { w with remote := t }) named
      (unhindered.congr rfl) newest
    rwa [written] at delivers

end Laws

theorem fidelity_of_run (signingKey : Content) (now : Moment) (files : FileTree)
    (interceptions : List Interception) (calls : List Call) :
    FidelityLaws (after { remote := Backend.fresh signingKey now, files, interceptions } calls) := by
  have sound := sound_after (Backend.sound_fresh signingKey now) calls
    (w := { remote := Backend.fresh signingKey now, files, interceptions })
  refine ⟨?_, ?_⟩
  · intro c request content free there named tagged fits short
    exact faithful_of_unhindered free sound.tidy there named tagged fits short
  · intro c key path free named taken
    exact unplaced_of_unhindered free named taken

section Unplaced

/-- Someone who works on one bucket. -/
def loneCaller : Caller := { store := { config := { provider := "memory" }, bucket := "b" } }

/-- A place in a directory that is missing. -/
def farPath : Path := ⟨"", ["missing", "x"]⟩

def loneRun : List Call :=
  [.build "b" none, .perform loneCaller (.upload { key := "k" } (.bytes [97, 98, 99]))]

/-- Nothing exists at the path, and yet the bytes cannot be downloaded to it. -/
theorem undelivered_without_directory :
    let w := after { remote := Backend.fresh [] ⟨0, none⟩ } loneRun
    (∃ v, w.remote.versionsAt "b" "k" = [v] ∧ v.data = [97, 98, 99]) ∧
      w.files.exists? farPath = .ok false ∧
      ((Call.perform loneCaller (.download { key := "k" } (.file farPath))).run.runFrom w).1 =
        .error (.categorized .invalidArgument "k" (.ambient (.file .missing farPath.text)) true) :=
  ⟨⟨_, rfl, rfl⟩, rfl, rfl⟩

end Unplaced
end BlobStorage.Memory
