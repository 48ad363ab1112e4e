import BlobStorage.Proofs.Memory.Delivery
import BlobStorage.Proofs.Range

/-!
Downloads of a part of a version that is stored. All destinations are given the bytes that the range asks
for, and are told how many these are and not how many are stored. Only a range that starts behind the last
byte is refused, and then nothing is changed, wherever the bytes were to go.
-/
namespace BlobStorage.Memory

/-- How a caller for whom no failure is planned downloads with an accepted range from a version that is
stored. -/
structure RangeLaws (w : World Backend) : Prop where
  /-- The bytes at the positions that the range names are handed over with their number. -/
  handed : ∀ {c : Caller} {request : DownloadRequest} {v : Version}, c.Unhindered w →
    request.key ≠ "" → Check.range request = .ok () →
    w.remote.version c.store.bucket request.key request.version = .ok v →
    (∀ start ∈ request.start, start < v.data.length) →
    ∃ metadata : BlobMetadata, metadata.size = .known (request.chosen v.data).length ∧
      metadata.version = some (.known v.id) ∧ metadata.etag = some (.known v.etag) ∧
      Hands c w request metadata (request.chosen v.data)
  /-- A start behind the last byte is refused as such. -/
  withheld : ∀ {c : Caller} {request : DownloadRequest} {v : Version} {start : Int}, c.Unhindered w →
    request.key ≠ "" → Check.range request = .ok () →
    w.remote.version c.store.bucket request.key request.version = .ok v →
    request.start = some start → v.data.length ≤ start →
    ∃ fault : Fault, fault.code = "InvalidRange" ∧ Withholds c w request fault
  /-- Where bytes cannot be put, the store is not asked for them, and nothing is changed. -/
  unready : ∀ {c : Caller} {request : DownloadRequest} {destination : Destination}, c.Unhindered w →
    request.key ≠ "" → Check.range request = .ok () → ¬ destination.Ready w.files →
    ∃ f, (Call.perform c (.download request destination)).run.runFrom w =
        (.error (c.heard (some request.key) f), w) ∧ ∀ fault, f ≠ .memory fault
  /-- Between two positions inside there are as many bytes as positions. -/
  counted : ∀ {request : DownloadRequest} {content : Content} {start stop : Int},
    Check.range request = .ok () → request.start = some start → request.stop = some stop →
    stop < content.length → ((request.chosen content).length : Int) = stop - start + 1
  /-- Pieces of one size that are asked for one after the other make up the whole, and after the last of
  them there is nothing to ask for. -/
  pieces : ∀ {c : Caller} {key : String} {version : Option String} {v : Version} {size : Nat},
    c.Unhindered w → key ≠ "" → w.remote.version c.store.bucket key version = .ok v → 0 < size →
    ∃ parts : List Content, parts.flatten = v.data ∧
      (∀ n part, parts[n]? = some part →
        ∃ metadata, Hands c w (DownloadRequest.piece key version size n) metadata part) ∧
      ∃ fault : Fault, fault.code = "InvalidRange" ∧
        Withholds c w (DownloadRequest.piece key version size parts.length) fault

section Slice
variable {request : DownloadRequest} {data : Content}

/-- A range that starts inside is cut out. -/
theorem slice_inside (checked : Check.range request = .ok ())
    (inside : ∀ start ∈ request.start, start < data.length) :
    slice data request = .ok (request.chosen data) := by
  rw [DownloadRequest.chosen_eq_cut checked]
  obtain ⟨key, version, start, stop⟩ := request
  cases start with
  | none => cases stop <;> rfl
  | some start =>
      have before : ¬ Int.ofNat data.length ≤ start := Int.not_le.mpr (inside start rfl)
      rw [slice]
      dsimp only
      rw [if_neg before]
      cases stop with
      | none => rw [Option.map_none, Option.getD_none, List.take_length, DownloadRequest.cut]
      | some stop => rfl

theorem slice_beyond {start : Int} (starts : request.start = some start)
    (beyond : data.length ≤ start) : slice data request = .error (.rangeBeyond start data.length) := by
  rw [slice, starts]
  exact if_pos beyond

end Slice

section Laws
variable {c : Caller} {w : World Backend} {request : DownloadRequest} {v : Version}
  (free : c.Unhindered w) (named : request.key ≠ "") (checked : Check.range request = .ok ())
  (found : w.remote.version c.store.bucket request.key request.version = .ok v)
include free named checked found

theorem hands_of_inside (inside : ∀ start ∈ request.start, start < v.data.length) :
    Hands c w request (Store.metadataOf request.key v (request.chosen v.data).length)
      (request.chosen v.data) :=
  hands_of_version named checked free found (slice_inside checked inside)

theorem withholds_of_beyond {start : Int} (starts : request.start = some start)
    (beyond : v.data.length ≤ start) :
    Withholds c w request (.rangeBeyond start v.data.length) := by
  refine withholds_of_read named checked free fun w' same => ?_
  unfold Store.read
  rw [Store.runFrom_see, same, found]
  change ((do
    let data ← slice v.data request
    return (data, Store.metadataOf request.key v data.length) :
      Except Fault (Content × BlobMetadata)).mapError Failure.memory, w') = _
  rw [slice_beyond starts beyond]
  rfl

end Laws

theorem pieces_of_version {c : Caller} {w : World Backend} {key : String} {version : Option String}
    {v : Version} {size : Nat} (free : c.Unhindered w) (named : key ≠ "")
    (found : w.remote.version c.store.bucket key version = .ok v) (positive : 0 < size) :
    ∃ parts : List Content, parts.flatten = v.data ∧
      (∀ n part, parts[n]? = some part →
        ∃ metadata, Hands c w (DownloadRequest.piece key version size n) metadata part) ∧
      ∃ fault : Fault, fault.code = "InvalidRange" ∧
        Withholds c w (DownloadRequest.piece key version size parts.length) fault := by
  have checked := DownloadRequest.range_piece positive key version
  refine ⟨Content.pieces size v.data,
    BlobStorage.Store.flatten_pieces (Nat.pos_iff_ne_zero.mp positive) v.data, ?_, ?_⟩
  · intro n part is
    rw [Content.getElem?_pieces positive] at is
    split at is
    · rename_i inside
      have chosen := DownloadRequest.chosen_piece positive key version n v.data
      rw [← Option.some.inj is, ← chosen]
      refine ⟨_, hands_of_inside free named (checked n) found ?_⟩
      rintro _ ⟨⟩
      exact Int.ofNat_lt.mpr inside
    · cases is
  · have past := Content.length_le_pieces positive v.data
    exact ⟨_, rfl, withholds_of_beyond free named (checked _) found rfl (Int.ofNat_le.mpr past)⟩

theorem rangeLaws (w : World Backend) : RangeLaws w where
  handed free named checked found inside :=
    ⟨_, rfl, rfl, rfl, hands_of_inside free named checked found inside⟩
  withheld free named checked found starts beyond :=
    ⟨_, rfl, withholds_of_beyond free named checked found starts beyond⟩
  unready free named checked unready := perform_download_unready named checked free unready
  counted checked := DownloadRequest.length_chosen_between checked
  pieces := pieces_of_version

end BlobStorage.Memory
