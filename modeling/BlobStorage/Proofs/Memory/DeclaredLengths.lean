import BlobStorage.Proofs.Memory.Assembly
import BlobStorage.Proofs.Memory.PartSending
import BlobStorage.Proofs.Memory.Upload
import BlobStorage.Proofs.Memory.Versions

/-!
Declared lengths, and how many bytes are stored and reported. A stream or a file that is uploaded whole
must give as many bytes as were declared. Bytes at hand are stored whole whatever was declared, and of
a stream that is sent as a part as many are stored as it has, up to the declared number. What is
reported is always what is stored.
-/
namespace BlobStorage

namespace Part

/-- The declared length is that of the bytes at hand, or no more than a stream has. -/
def Fits (p : Part) (n : Int) : Prop :=
  match p.source with
  | .bytes content => Int.ofNat content.length = n
  | .stream content => 0 ≤ n ∧ n ≤ content.length

/-- What is sent of a part has the size of the part exactly if the size fits the source. -/
theorem length_eq_iff {p : Part} {data : Content} {n : Int} (read : p.data = .ok data)
    (sized : p.size = .ok n) : Int.ofNat data.length = n ↔ p.Fits n := by
  unfold Part.data at read
  unfold Fits
  cases source : p.source with
  | bytes content =>
      rw [source] at read
      cases read
      exact Iff.rfl
  | stream content =>
      rw [source, sized] at read
      obtain ⟨_, is⟩ := (Content.read_eq_ok_iff content data n).mp read
      rw [is, Int.ofNat_eq_natCast]
      by_cases negative : n < 0
      · rw [if_pos negative]
        constructor <;> omega
      · rw [if_neg negative, List.length_take]
        omega

/-- Of a stream as many bytes are sent as are declared, if it has so many. -/
theorem sent_of_stream {p : Part} {content data : Content} {n : Int} (read : p.data = .ok data)
    (stream : p.source = .stream content) (declared : p.contentLength = some n) :
    data = if n < 0 then content else content.take n.toNat := by
  simp only [Part.data, stream, size, declared] at read
  exact ((Content.read_eq_ok_iff content data n).mp read).2

end Part

namespace Memory

/-- What becomes of declared lengths at a moment of a run. -/
structure LengthLaws (w : World Backend) : Prop where
  /-- An upload that succeeds writes what its source offers as the newest version of the key. That is
  as much as was declared, but for bytes at hand that were declared wrongly. -/
  uploaded : ∀ c request source x w',
    (Call.perform c (.upload request source)).run.runFrom w = (.ok x, w') →
    ∃ v : Version, x = .uploaded (v.receipt request) ∧
      Backend.Appended w.remote w'.remote c.store.bucket request.key v ∧
      source.Offers w.files request.contentLength v.data ∧
      ∀ n, request.contentLength = some n →
        (Int.ofNat v.data.length = n ↔
          ∀ content, source = .bytes content → Int.ofNat content.length = n)
  /-- Where no failure is planned, an upload that is accepted succeeds exactly if its bucket is there
  and its source offers anything. -/
  accepted : ∀ c request source, c.Unhindered w → request.key ≠ "" →
    Check.tags request.tags = .ok () →
    ((∃ x w', (Call.perform c (.upload request source)).run.runFrom w = (.ok x, w')) ↔
      w.remote.hasBucket c.store.bucket = true ∧
        ∃ given, source.Offers w.files request.contentLength given)
  /-- One that fails stores nothing. -/
  refused : ∀ c request source e w',
    (Call.perform c (.upload request source)).run.runFrom w = (.error e, w') → w'.remote = w.remote
  /-- The metadata of a version reports as many bytes as it has. -/
  measured : ∀ c i v, c.Spared .getMetadata w → i.key ≠ "" →
    Version.chosen? (w.remote.versionsAt c.store.bucket i.key) i.version = some v →
    ∃ m : BlobMetadata, m.size = .known (Int.ofNat v.data.length) ∧
      (Call.perform c (.getMetadata i)).run.runFrom w = (.ok (.metadata m), w)
  /-- A part that is sent puts its bytes under its number, and its receipt reports as many. There are
  as many as its size says exactly if the size fits its source; a stream that is too short gives all
  that it has. -/
  sent : ∀ c token part x w',
    (Call.perform c (.uploadPart token part)).run.runFrom w = (.ok x, w') →
    ∃ id u data, token.id = .known id ∧ w.remote.uploadAt c.store.bucket id = some u ∧
      Backend.Uploaded w.remote w'.remote c.store.bucket id (some (u.put part.number data)) ∧
      x = .part ⟨part.number, .known (etagOf data), Int.ofNat data.length⟩ ∧
      (∀ n, part.size = .ok n → (Int.ofNat data.length = n ↔ part.Fits n)) ∧
      (∀ content, part.source = .bytes content → data = content) ∧
      ∀ content n, part.source = .stream content → part.contentLength = some n →
        data = if n < 0 then content else content.take n.toNat
  /-- Where no failure is planned, a part for an upload in progress is sent exactly if its number is
  allowed and its source can be read. -/
  sendable : ∀ c token id part, c.Spared .uploadPart w → Live w.remote token id →
    c.store.bucket = token.bucket →
    ((∃ x w', (Call.perform c (.uploadPart token part)).run.runFrom w = (.ok x, w')) ↔
      1 ≤ part.number ∧ part.number ≤ 10000 ∧ ∃ data, part.data = .ok data)
  /-- One that fails stores nothing. -/
  unsent : ∀ c token part e w',
    (Call.perform c (.uploadPart token part)).run.runFrom w = (.error e, w') → w'.remote = w.remote
  /-- A listing of the parts shows each number that was sent once, with as many bytes as are kept
  for it. -/
  listed : ∀ c token id u, c.plans = none → token.id = .known id →
    w.remote.uploadAt token.bucket id = some u → u.key = token.key → c.store.bucket = token.bucket →
    ∃ kept : List (Int × Content), kept.Pairwise (fun p q => p.1 < q.1) ∧
      (∀ n data, (n, data) ∈ kept ↔ u.bytes? n = some data) ∧
      (Call.perform c (.listParts token)).run.runFrom w =
        (.ok (.parts (kept.map fun p =>
          ⟨.known p.1, .known (etagOf p.2), .known (Int.ofNat p.2.length)⟩)), w)

section Laws
variable {c : Caller} {w w' : World Backend} (sound : w.remote.Sound)

theorem uploaded_of_perform {request : UploadRequest} {source : UploadSource} {x : Answer}
    (tidy : w.remote.Tidy)
    (ran : (Call.perform c (.upload request source)).run.runFrom w = (.ok x, w')) :
    ∃ v : Version, x = .uploaded (v.receipt request) ∧
      Backend.Appended w.remote w'.remote c.store.bucket request.key v ∧
      source.Offers w.files request.contentLength v.data := by
  obtain ⟨receipt, own, rfl⟩ := Action.ok_of_map_ok ((BucketClient.runFrom_call_ok_iff ..).mp ran)
  obtain ⟨_, _, given, offers, v, stored, rfl⟩ := writes_of_upload own
  have written : v.data = given := congrArg Draft.data (Backend.toDraft_of_store stored)
  exact ⟨v, rfl, Backend.appended_of_store tidy stored, written ▸ offers⟩

theorem perform_upload_ok_iff {request : UploadRequest} {source : UploadSource}
    (free : c.Unhindered w) (named : request.key ≠ "") (tagged : Check.tags request.tags = .ok ()) :
    (∃ x w', (Call.perform c (.upload request source)).run.runFrom w = (.ok x, w')) ↔
      w.remote.hasBucket c.store.bucket = true ∧
        ∃ given, source.Offers w.files request.contentLength given := by
  constructor
  · intro ⟨x, w', ran⟩
    obtain ⟨receipt, own, _⟩ := Action.ok_of_map_ok ((BucketClient.runFrom_call_ok_iff ..).mp ran)
    obtain ⟨_, _, given, offers, v, stored, _⟩ := writes_of_upload own
    obtain ⟨b, found, _⟩ := (Backend.store_eq_ok_iff ..).mp stored
    exact ⟨Option.isSome_iff_exists.mpr ⟨b, found⟩, given, offers⟩
  · intro ⟨there, given, offers⟩
    obtain ⟨v, t, stored, _⟩ :=
      Backend.exists_store there request.key (Store.draftOf request given)
    exact ⟨_, _, (BucketClient.runFrom_call_ok_iff ..).mpr
      (Action.runFrom_map_ok_iff.mpr ⟨_, rfl, runFrom_upload free stored named tagged offers⟩)⟩

theorem runFrom_getMetadata {i : Identifier} {v : Version} (spared : c.Spared .getMetadata w)
    (named : i.key ≠ "")
    (chosen : Version.chosen? (w.remote.versionsAt c.store.bucket i.key) i.version = some v) :
    (Call.perform c (.getMetadata i)).run.runFrom w =
      (.ok (.metadata (Store.metadataOf i.key v v.data.length)), w) := by
  have found := (Backend.version_eq_ok_iff ..).mpr chosen
  refine (BucketClient.runFrom_call_ok_iff ..).mpr (Action.runFrom_map_ok_iff.mpr ⟨_, rfl, ?_⟩)
  refine (BlobStorage.Store.runFrom_check_bind_ok ((Check.key_eq_ok_iff _).mpr named) _ w).trans ?_
  refine (Action.runFrom_bind_ok (runFrom_guardOf spared _) _).trans ?_
  rw [Store.runFrom_see, found]
  rfl

theorem atomic_performPart (c : Caller) (token : UploadToken) (part : Part) :
    Atomic (fun s x t => Check.part part 10000 = .ok () ∧ ∃ data, part.data = .ok data ∧
        s.putPart c.store.bucket token part.number data = .ok t ∧ x = .part (receiptOf part data))
      (Call.perform c (.uploadPart token part)).run := by
  refine BucketClient.atomic_call (readsQuietly c).classify _
    ((atomic_uploadPart (harmless_guardOf c.plans) token part).map ?_)
  rintro s receipt t ⟨numbered, data, read, put, rfl⟩
  exact ⟨numbered, data, read, put, rfl⟩

include sound

theorem perform_uploadPart_ok_iff {token : UploadToken} {id : String} {part : Part}
    (spared : c.Spared .uploadPart w) (live : Live w.remote token id)
    (ours : c.store.bucket = token.bucket) :
    (∃ x w', (Call.perform c (.uploadPart token part)).run.runFrom w = (.ok x, w')) ↔
      1 ≤ part.number ∧ part.number ≤ 10000 ∧ ∃ data, part.data = .ok data := by
  constructor
  · intro ⟨x, w', ran⟩
    obtain ⟨numbered, data, read, _⟩ := (atomic_performPart c token part).of_ok ran
    have within := (Check.part_eq_ok_iff read _).mp numbered
    exact ⟨within.1, within.2, data, read⟩
  · intro ⟨positive, few, data, read⟩
    obtain ⟨u, there, keyed⟩ := live.there
    obtain ⟨b, found⟩ := upload_of_uploadAt live.known there keyed
    rw [← ours] at found
    have numbered := (Check.part_eq_ok_iff read 10000).mpr ⟨positive, few⟩
    exact ⟨_, _, (BucketClient.runFrom_call_ok_iff ..).mpr (Action.runFrom_map_ok_iff.mpr ⟨_, rfl,
      runFrom_uploadPart_of_spared spared (accepts_token sound live.known there keyed ours) found
        numbered read⟩)⟩

end Laws

theorem lengths_of_run (signingKey : Content) (now : Moment) (files : FileTree)
    (interceptions : List Interception) (calls : List Call) :
    LengthLaws (after { remote := Backend.fresh signingKey now, files, interceptions } calls) := by
  have sound := sound_after (Backend.sound_fresh signingKey now) calls
    (w := { remote := Backend.fresh signingKey now, files, interceptions })
  refine ⟨?_, ?_, ?_, ?_, ?_, ?_, ?_, ?_⟩
  · intro c request source x w' ran
    obtain ⟨v, answered, appended, offers⟩ := uploaded_of_perform sound.tidy ran
    refine ⟨v, answered, appended, offers, fun n declared => ?_⟩
    rw [declared] at offers
    exact offers.length_eq_iff
  · intro c request source free named tagged
    exact perform_upload_ok_iff free named tagged
  · intro c request source e w' ran
    have writes : target c.store (.upload request source) = some (c.store.bucket, request.key) := rfl
    exact (atomic_perform writes).of_error ran
  · intro c i v spared named chosen
    exact ⟨_, rfl, runFrom_getMetadata spared named chosen⟩
  · intro c token part x w' ran
    obtain ⟨_, data, read, put, rfl⟩ := (atomic_performPart c token part).of_ok ran
    obtain ⟨b, id, u, found, changed⟩ := Backend.uploaded_of_putPart sound.tidy put
    have known := ((Backend.upload_eq_ok_iff ..).mp found).2.1
    refine ⟨id, u, data, known, Backend.uploadAt_of_upload found, changed, rfl, ?_, ?_, ?_⟩
    · exact fun n sized => part.length_eq_iff read sized
    · intro content atHand
      simp only [Part.data, atHand] at read
      exact (Except.ok.inj read).symm
    · exact fun content n stream declared => part.sent_of_stream read stream declared
  · intro c token id part spared live ours
    exact perform_uploadPart_ok_iff sound spared live ours
  · intro c token part e w' ran
    exact (atomic_performPart c token part).of_error ran
  · intro c token id u plain known there keyed ours
    exact runFrom_listParts plain sound known there keyed ours

end Memory
end BlobStorage
