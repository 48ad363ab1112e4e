import BlobStorage.Proofs.Memory.Adapter
import BlobStorage.Proofs.Memory.History
import BlobStorage.Proofs.Sorting
import Mathlib.Data.Int.Order.Basic

/-!
Completing and listing one upload in parts. What a completion does depends on nothing but the bytes that
the upload keeps for each part number: not on the order in which the parts were sent, and not on the
order in which they are listed.
-/
namespace BlobStorage.Memory

def Upload.bytes? (u : Upload) (number : Int) : Option Content :=
  (u.parts.get? number).map (·.1)

/-- The listed parts complete an upload that keeps these bytes. -/
structure Completes (bytes? : Int → Option Content) (parts : List PartReceipt) : Prop where
  nonempty : parts ≠ []
  distinct : (parts.map (·.number)).Nodup
  given : ∀ p ∈ parts, p.etag.isGiven = true
  stored : ∀ p ∈ parts, ∃ data, bytes? p.number = some data ∧ p.etag = .known (etagOf data)

section Order

theorem compares_number : Sorting.Compares (fun p : PartReceipt => p.number)
    (fun p q => decide (p.number ≤ q.number)) := by
  intro p q
  exact decide_eq_true_iff

theorem inOrder_perm (parts : List PartReceipt) :
    (BlobStorage.Store.inOrder parts).Perm parts :=
  List.mergeSort_perm _ _

theorem inOrder_eq_of_perm {parts parts' : List PartReceipt} (perm : parts.Perm parts')
    (distinct : (parts.map (·.number)).Nodup) :
    BlobStorage.Store.inOrder parts = BlobStorage.Store.inOrder parts' :=
  Sorting.mergeSort_eq_of_perm compares_number perm distinct

theorem ascending_iff (ns : List Int) : Backend.ascending ns = true ↔ ns.Pairwise (· ≤ ·) := by
  induction ns with
  | nil => exact iff_of_true rfl .nil
  | cons n rest ih =>
      cases rest with
      | nil => exact iff_of_true rfl (List.pairwise_singleton _ _)
      | cons m rest =>
          rw [Backend.ascending, Bool.and_eq_true, decide_eq_true_eq, ih,
            ← List.isChain_iff_pairwise, ← List.isChain_iff_pairwise, List.isChain_cons_cons]

theorem ascending_inOrder (parts : List PartReceipt) :
    Backend.ascending ((BlobStorage.Store.inOrder parts).map (·.number)) = true := by
  rw [ascending_iff, List.pairwise_map]
  exact Sorting.pairwise_le compares_number parts

end Order

section Chosen
variable {u : Upload}

theorem known?_eq_some_iff {α : Type} (r : Reported α) (a : α) :
    r.known? = some a ↔ r = .known a := by
  cases r with
  | known b => simp [Reported.known?]
  | other v => simp [Reported.known?]

theorem chosenParts_cons_eq_ok_iff (p : PartReceipt) (rest : List PartReceipt)
    (chosen : List (Content × String)) :
    Backend.chosenParts u (p :: rest) = .ok chosen ↔
      ∃ data etag more, u.parts.get? p.number = some (data, etag) ∧ p.etag = .known etag ∧
        Backend.chosenParts u rest = .ok more ∧ chosen = (data, etag) :: more := by
  rw [Backend.chosenParts]
  rcases found : u.parts.get? p.number with _ | ⟨data, etag⟩
  · simp
  · by_cases tagged : p.etag.known? = some etag
    · have known := (known?_eq_some_iff _ _).mp tagged
      dsimp only
      rw [if_pos tagged, bind_eq_ok_iff]
      constructor
      · rintro ⟨more, hm, ⟨⟩⟩
        exact ⟨data, etag, more, rfl, known, hm, rfl⟩
      · rintro ⟨_, _, more, ⟨⟩, _, hm, rfl⟩
        exact ⟨more, hm, rfl⟩
    · dsimp only
      rw [if_neg tagged]
      constructor
      · intro h
        cases h
      · rintro ⟨_, _, more, ⟨⟩, known, _⟩
        exact absurd ((known?_eq_some_iff _ _).mpr known) tagged

theorem chosenParts_ok_iff (parts : List PartReceipt) :
    (∃ chosen, Backend.chosenParts u parts = .ok chosen) ↔
      ∀ p ∈ parts, ∃ data etag, u.parts.get? p.number = some (data, etag) ∧ p.etag = .known etag := by
  induction parts with
  | nil => exact iff_of_true ⟨[], rfl⟩ (by simp)
  | cons p rest ih =>
      simp only [chosenParts_cons_eq_ok_iff, List.forall_mem_cons, ← ih]
      constructor
      · rintro ⟨_, data, etag, more, found, tagged, hm, _⟩
        exact ⟨⟨data, etag, found, tagged⟩, more, hm⟩
      · rintro ⟨⟨data, etag, found, tagged⟩, more, hm⟩
        exact ⟨_, data, etag, more, found, tagged, hm, rfl⟩

theorem joined_of_chosenParts {parts : List PartReceipt} {chosen : List (Content × String)}
    (h : Backend.chosenParts u parts = .ok chosen) :
    chosen.flatMap (·.1) = (parts.map (·.number)).flatMap fun n => (u.bytes? n).getD [] := by
  induction parts generalizing chosen with
  | nil =>
      cases h
      rfl
  | cons p rest ih =>
      obtain ⟨data, etag, more, found, _, hm, rfl⟩ := (chosenParts_cons_eq_ok_iff ..).mp h
      have here : u.bytes? p.number = some data := by simp [Upload.bytes?, found]
      simp [ih hm, here]

/-- Which parts are chosen is decided by the latest bytes of each number alone. -/
theorem chosenParts_congr {u' : Upload} (same : ∀ n, u'.parts.get? n = u.parts.get? n)
    (parts : List PartReceipt) :
    Backend.chosenParts u' parts = Backend.chosenParts u parts := by
  induction parts with
  | nil => rfl
  | cons p rest ih => simp only [Backend.chosenParts, same, ih]

end Chosen

section Complete
variable {s t : Backend} {bucket id : String} {b : Bucket} {u : Upload} {token : UploadToken}
  {parts : List PartReceipt} {v : Version}

/-- The version that a completion writes, and the backend that it leaves. -/
def finished (s : Backend) (b : Bucket) (id : String) (u : Upload)
    (chosen : List (Content × String)) : Version × Backend :=
  let v : Version := { u.joined chosen with number := s.nextNumber, modified := s.now }
  (v, { s with nextNumber := s.nextNumber + 1 }.setBucket
    { b.setVersions u.key (b.versions u.key ++ [v]) with uploads := b.uploads.erase id })

theorem setBucket_setBucket {c c' : Bucket} (same : c.name = c'.name) :
    (s.setBucket c).setBucket c' = s.setBucket c' := by
  simp only [Backend.setBucket, same, Table.set_set]

theorem completeUpload_eq (tidy : s.Tidy) (found : s.upload bucket token = .ok (b, id, u))
    (sorted : Backend.ascending (parts.map (·.number)) = true) :
    s.completeUpload bucket token parts =
      (Backend.chosenParts u parts).map (finished s b id u) := by
  have here := ((Backend.upload_eq_ok_iff ..).mp found).1
  have named := tidy.named bucket b here
  unfold Backend.completeUpload
  rw [found]
  change (if (!Backend.ascending (parts.map (·.number))) = true then _ else _) = _
  rw [sorted]
  cases Backend.chosenParts u parts with
  | error fault => rfl
  | ok chosen =>
      have stored : s.store bucket u.key (u.joined chosen) = .ok (_, _) :=
        (Backend.store_eq_ok_iff ..).mpr ⟨b, here, rfl, rfl⟩
      change (s.store bucket u.key (u.joined chosen) >>= _) = _
      rw [stored]
      change (Backend.bucket _ bucket >>= _) = _
      rw [(Backend.bucket_eq_ok_iff _ bucket _).mpr
        (by rw [Backend.get?_setBucket, Bucket.setVersions_name, if_pos named])]
      change Except.ok _ = Except.ok _
      simp only [finished, Backend.removeUpload, Bucket.setVersions_uploads]
      rw [setBucket_setBucket]
      rfl

theorem upload_of_uploadAt (known : token.id = .known id) (there : s.uploadAt bucket id = some u)
    (keyed : u.key = token.key) :
    ∃ b, s.upload bucket token = .ok (b, id, u) := by
  unfold Backend.uploadAt at there
  cases here : s.buckets.get? bucket with
  | none =>
      rw [here] at there
      cases there
  | some b =>
      rw [here] at there
      exact ⟨b, (Backend.upload_eq_ok_iff ..).mpr ⟨here, known, there, keyed⟩⟩

theorem completeUpload_ok_iff (tidy : s.Tidy) (found : s.upload bucket token = .ok (b, id, u))
    (sorted : Backend.ascending (parts.map (·.number)) = true) :
    (∃ v t, s.completeUpload bucket token parts = .ok (v, t)) ↔
      ∃ chosen, Backend.chosenParts u parts = .ok chosen := by
  rw [completeUpload_eq tidy found sorted]
  constructor
  · rintro ⟨v, t, h⟩
    obtain ⟨chosen, hc, _⟩ := map_eq_ok_iff.mp h
    exact ⟨chosen, hc⟩
  · rintro ⟨chosen, hc⟩
    exact ⟨_, _, map_eq_ok_iff.mpr ⟨chosen, hc, rfl⟩⟩

/-- The listed parts are found with their tags. -/
theorem stored_iff_chosen (opened : s.Opened) (there : s.uploadAt bucket id = some u)
    (parts : List PartReceipt) :
    (∃ chosen, Backend.chosenParts u (BlobStorage.Store.inOrder parts) = .ok chosen) ↔
      ∀ p ∈ parts, ∃ data, u.bytes? p.number = some data ∧ p.etag = .known (etagOf data) := by
  rw [chosenParts_ok_iff]
  have mem (p : PartReceipt) : p ∈ BlobStorage.Store.inOrder parts ↔ p ∈ parts :=
    (inOrder_perm parts).mem_iff
  simp only [mem]
  constructor
  · intro h p hp
    obtain ⟨data, etag, found, tagged⟩ := h p hp
    have own := opened.tagged bucket id u p.number data etag there (Table.mem_of_get? found)
    exact ⟨data, by simp [Upload.bytes?, found], own ▸ tagged⟩
  · intro h p hp
    obtain ⟨data, kept, tagged⟩ := h p hp
    obtain ⟨⟨data', etag⟩, found, same⟩ := Option.map_eq_some_iff.mp kept
    cases same
    have own := opened.tagged bucket id u p.number data' etag there (Table.mem_of_get? found)
    exact ⟨data', etag, found, own ▸ tagged⟩

/-- What a completion has done once it has succeeded. -/
structure Assembled (s t : Backend) (bucket key id : String) (u : Upload) (ns : List Int)
    (v : Version) : Prop where
  appended : Backend.Appended s t bucket key v
  data : v.data = ns.flatMap fun n => (u.bytes? n).getD []
  metadata : v.metadata = u.metadata
  tags : v.tags = u.tags
  contentType : v.contentType = u.contentType
  gone : Backend.Reassigned s t bucket id none

theorem assembled_of_completeUpload (tidy : s.Tidy)
    (found : s.upload bucket token = .ok (b, id, u))
    (h : s.completeUpload bucket token parts = .ok (v, t)) :
    Assembled s t bucket token.key id u (parts.map (·.number)) v := by
  obtain ⟨b', id', u', chosen, s', found', hc, hs, gone⟩ :=
    Backend.stored_of_completeUpload tidy h
  cases found.symm.trans found'
  have draft := Backend.toDraft_of_store hs
  refine ⟨Backend.appended_of_completeUpload tidy h, ?_, ?_, ?_, ?_, ?_⟩
  · rw [show v.data = (u.joined chosen).data from congrArg Draft.data draft]
    exact joined_of_chosenParts hc
  · exact congrArg Draft.metadata draft
  · exact congrArg Draft.tags draft
  · exact congrArg Draft.contentType draft
  · intro bucket' id'
    rw [gone.reassigned bucket' id', Backend.sameUploads_of_store tidy hs bucket' id']

end Complete

section List
variable {s : Backend} {bucket id : String} {u : Upload}

theorem checkOrdered_whole (ns : List Int) :
    Value.checkOrdered (ns.map fun n => (Reported.known n).value) = .ok () := by
  induction ns with
  | nil => rfl
  | cons n rest ih =>
      cases rest with
      | nil => rfl
      | cons m rest => exact ih

theorem precedes?_whole (m n : Int) :
    (Value.precedes? (Reported.known n).value (Reported.known m).value != some true) =
      decide (m ≤ n) := by
  change (some (decide (n * 1 < m * 1)) != some true) = _
  by_cases h : m ≤ n
  · have early : ¬ n < m := Int.not_lt.mpr h
    simp [h, early]
  · have late : n < m := Int.not_le.mp h
    simp [h, late]

def listedPart (number : Int) (data : Content) : ListedPart :=
  { number := .known number, etag := .known (etagOf data),
    size := .known (Int.ofNat data.length) }

def Upload.listing (u : Upload) : List ListedPart :=
  u.parts.map fun (number, data, etag) =>
    { number := .known number, etag := .known etag, size := .known (Int.ofNat data.length) }

theorem listedInOrder_parts (opened : s.Opened) (there : s.uploadAt bucket id = some u) :
    ∃ kept : List (Int × Content),
      kept.Pairwise (fun p q => p.1 < q.1) ∧ (∀ n data, (n, data) ∈ kept ↔ u.bytes? n = some data) ∧
      BlobStorage.Store.listedInOrder u.listing =
        .ok (kept.map fun p => listedPart p.1 p.2) := by
  have compares : Sorting.Compares (fun part : Int × Content × String => part.1)
      (fun p q => decide (p.1 ≤ q.1)) := by
    intro p q
    exact decide_eq_true_iff
  have tagged {part : Int × Content × String} (hp : part ∈ u.parts) : part.2.2 = etagOf part.2.1 :=
    opened.tagged bucket id u part.1 part.2.1 part.2.2 there hp
  refine ⟨(u.parts.mergeSort fun p q => decide (p.1 ≤ q.1)).map fun part => (part.1, part.2.1),
    ?_, ?_, ?_⟩
  · rw [List.pairwise_map]
    exact Sorting.pairwise_lt compares (opened.distinct bucket id u there)
  · intro n data
    simp only [List.mem_map, List.mem_mergeSort, Upload.bytes?, Option.map_eq_some_iff,
      Prod.mk.injEq]
    constructor
    · rintro ⟨⟨m, d, etag⟩, hp, rfl, rfl⟩
      exact ⟨(d, etag), Table.get?_of_mem (opened.distinct bucket id u there) hp, rfl⟩
    · rintro ⟨⟨d, etag⟩, found, rfl⟩
      exact ⟨(n, d, etag), Table.mem_of_get? found, rfl, rfl⟩
  · unfold BlobStorage.Store.listedInOrder Upload.listing
    have ordered := checkOrdered_whole (u.parts.map (·.1))
    rw [List.map_map] at ordered ⊢
    refine (bind_eq_ok_iff).mpr ⟨(), ordered, ?_⟩
    change Except.ok _ = Except.ok _
    rw [← List.map_mergeSort (r := fun p q => decide (p.1 ≤ q.1)), List.map_map]
    · refine congrArg Except.ok (List.map_congr_left ?_)
      rintro ⟨n, d, etag⟩ hp
      have own : etag = etagOf d := tagged (List.mem_mergeSort.mp hp)
      rw [own]
      rfl
    · rintro ⟨m, _, _⟩ _ ⟨n, _, _⟩ _
      exact (precedes?_whole m n).symm

end List

end BlobStorage.Memory
