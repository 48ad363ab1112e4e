import BlobStorage.Proofs.Memory.View

/-!
When the changes of a backend succeed, and what they do to its view. A store, a copy and a completion
add one version with the next number at the end of one key's list; a deletion thins out one list; an
amendment changes the versions of one list in place; the steps of an upload in parts touch that upload
alone.
-/
namespace BlobStorage.Memory

def Version.isTarget (id : Option String) (v : Version) : Bool :=
  match id with
  | none => true
  | some id => v.id = id

def Upload.ofRequest (r : MultipartRequest) : Upload :=
  { key := r.key, metadata := r.metadata, tags := r.tags, contentType := r.contentType }

def Upload.put (u : Upload) (number : Int) (data : Content) : Upload :=
  { u with parts := u.parts.set number (data, etagOf data) }

/-- What a completion of the upload with these parts writes. -/
def Upload.joined (u : Upload) (chosen : List (Content × String)) : Draft :=
  { data := chosen.flatMap (·.1), etag := Backend.joinedEtag chosen, metadata := u.metadata,
    tags := u.tags, contentType := u.contentType }

namespace Backend
variable {s t : Backend} {bucket key : String}

/-- The second backend has one version more, under the number that was next. -/
structure Appended (s t : Backend) (bucket key : String) (v : Version) : Prop where
  number : v.number = s.nextNumber
  modified : v.modified = s.now
  rewritten : Rewritten s t bucket key (s.versionsAt bucket key ++ [v])
  next : t.nextNumber = s.nextNumber + 1

theorem store_eq_ok_iff (s : Backend) (bucket key : String) (draft : Draft) (v : Version)
    (t : Backend) :
    s.store bucket key draft = .ok (v, t) ↔
      ∃ b, s.buckets.get? bucket = some b ∧
        v = { draft with number := s.nextNumber, modified := s.now } ∧
        t = { s with nextNumber := s.nextNumber + 1 }.setBucket
          (b.setVersions key (b.versions key ++ [v])) := by
  simp only [store, bind_eq_ok_iff, bucket_eq_ok_iff, takeNumber, pure, Except.pure,
    Except.ok.injEq, Prod.mk.injEq, Bucket.push]
  constructor
  · rintro ⟨b, hb, rfl, rfl⟩
    exact ⟨b, hb, rfl, rfl⟩
  · rintro ⟨b, hb, rfl, rfl⟩
    exact ⟨b, hb, rfl, rfl⟩

theorem Tidy.withNumber (tidy : s.Tidy) (n : Nat) : Tidy { s with nextNumber := n } :=
  ⟨tidy.buckets, tidy.named, tidy.bucket⟩

section Store
variable {draft : Draft} {v : Version}

theorem appended_of_store (tidy : s.Tidy) (h : s.store bucket key draft = .ok (v, t)) :
    Appended s t bucket key v := by
  obtain ⟨b, hb, rfl, rfl⟩ := (store_eq_ok_iff ..).mp h
  refine ⟨rfl, rfl, ?_, rfl⟩
  rw [versionsAt_of_get? hb]
  exact rewritten_setBucket (tidy.withNumber _) hb key _

theorem sameUploads_of_store (tidy : s.Tidy) (h : s.store bucket key draft = .ok (v, t)) :
    SameUploads s t := by
  obtain ⟨b, hb, rfl, rfl⟩ := (store_eq_ok_iff ..).mp h
  exact sameUploads_setVersions (tidy.withNumber _) hb key _

theorem Tidy.store (tidy : s.Tidy) (h : s.store bucket key draft = .ok (v, t)) : t.Tidy := by
  obtain ⟨b, hb, rfl, rfl⟩ := (store_eq_ok_iff ..).mp h
  exact (tidy.withNumber _).setBucket ((tidy.bucket _ b hb).setVersions key _)

theorem toDraft_of_store (h : s.store bucket key draft = .ok (v, t)) : v.toDraft = draft := by
  obtain ⟨b, _, rfl, _⟩ := (store_eq_ok_iff ..).mp h
  rfl

end Store

theorem copy_eq_ok_iff (s : Backend) (srcBucket srcKey : String) (srcId : Option String)
    (bucket key : String) (v : Version) (t : Backend) :
    s.copy srcBucket srcKey srcId bucket key = .ok (v, t) ↔
      ∃ source, Version.chosen? (s.versionsAt srcBucket srcKey) srcId = some source ∧
        s.store bucket key { source.toDraft with retention := none, legalHold := false } =
          .ok (v, t) := by
  simp only [copy, bind_eq_ok_iff, version_eq_ok_iff]

theorem delete_eq_ok_iff (s : Backend) (bucket key : String) (id : Option String) (t : Backend) :
    s.delete bucket key id = .ok t ↔
      ∃ b, s.buckets.get? bucket = some b ∧
        (∀ v ∈ b.versions key, v.isTarget id = true → v.isLocked s.now = false) ∧
        t = s.setBucket
          (b.setVersions key ((b.versions key).filter fun v => !v.isTarget id)) := by
  simp only [delete, bind_eq_ok_iff, bucket_eq_ok_iff]
  refine exists_congr fun b => and_congr_right fun _ => ?_
  change (if ((b.versions key).filter (Version.isTarget id)).any (·.isLocked s.now) then
    (.error (.protectedObject key) : Except Fault Backend)
    else .ok (s.setBucket
      (b.setVersions key ((b.versions key).filter fun v => !v.isTarget id)))) = .ok t ↔ _
  split
  · rename_i locked
    simp only [List.any_filter, List.any_eq_true, Bool.and_eq_true] at locked
    obtain ⟨v, hv, target, held⟩ := locked
    constructor
    · intro h
      cases h
    · rintro ⟨free, _⟩
      simp [free v hv target] at held
  · rename_i free
    simp only [List.any_filter, List.any_eq_true, Bool.and_eq_true, not_exists, not_and,
      Bool.not_eq_true] at free
    simp only [Except.ok.injEq]
    constructor
    · exact fun h => ⟨fun v hv target => free v hv target, h.symm⟩
    · exact fun h => h.2.symm

section Delete
variable {id : Option String}

theorem rewritten_of_delete (tidy : s.Tidy) (h : s.delete bucket key id = .ok t) :
    Rewritten s t bucket key ((s.versionsAt bucket key).filter fun v => !v.isTarget id) := by
  obtain ⟨b, hb, _, rfl⟩ := (delete_eq_ok_iff ..).mp h
  rw [versionsAt_of_get? hb]
  exact rewritten_setBucket tidy hb key _

theorem sameUploads_of_delete (tidy : s.Tidy) (h : s.delete bucket key id = .ok t) :
    SameUploads s t := by
  obtain ⟨b, hb, _, rfl⟩ := (delete_eq_ok_iff ..).mp h
  exact sameUploads_setVersions tidy hb key _

theorem Tidy.delete (tidy : s.Tidy) (h : s.delete bucket key id = .ok t) : t.Tidy := by
  obtain ⟨b, hb, _, rfl⟩ := (delete_eq_ok_iff ..).mp h
  exact tidy.setBucket ((tidy.bucket _ b hb).setVersions key _)

theorem nextNumber_of_delete (h : s.delete bucket key id = .ok t) :
    t.nextNumber = s.nextNumber := by
  obtain ⟨b, _, _, rfl⟩ := (delete_eq_ok_iff ..).mp h
  rfl

end Delete

theorem amend_eq_ok_iff (s : Backend) (bucket key : String) (id : Option String)
    (change : Version → Version) (t : Backend) :
    s.amend bucket key id change = .ok t ↔
      ∃ b v, s.buckets.get? bucket = some b ∧ Version.chosen? (b.versions key) id = some v ∧
        t = s.setBucket (b.setVersions key
          ((b.versions key).map fun w => if w.number = v.number then change w else w)) := by
  simp only [amend, Bucket.amend, bind_eq_ok_iff, bucket_eq_ok_iff, Bucket.version_eq_ok_iff,
    pure, Except.pure, Except.ok.injEq]
  constructor
  · rintro ⟨b, hb, c, ⟨v, hv, rfl⟩, rfl⟩
    exact ⟨b, v, hb, hv, rfl⟩
  · rintro ⟨b, v, hb, hv, rfl⟩
    exact ⟨b, hb, _, ⟨v, hv, rfl⟩, rfl⟩

section Amend
variable {id : Option String} {change : Version → Version}

theorem rewritten_of_amend (tidy : s.Tidy) (h : s.amend bucket key id change = .ok t) :
    ∃ v, Version.chosen? (s.versionsAt bucket key) id = some v ∧
      Rewritten s t bucket key
        ((s.versionsAt bucket key).map fun w => if w.number = v.number then change w else w) := by
  obtain ⟨b, v, hb, hv, rfl⟩ := (amend_eq_ok_iff ..).mp h
  rw [versionsAt_of_get? hb]
  exact ⟨v, hv, rewritten_setBucket tidy hb key _⟩

theorem sameUploads_of_amend (tidy : s.Tidy) (h : s.amend bucket key id change = .ok t) :
    SameUploads s t := by
  obtain ⟨b, v, hb, _, rfl⟩ := (amend_eq_ok_iff ..).mp h
  exact sameUploads_setVersions tidy hb key _

theorem Tidy.amend (tidy : s.Tidy) (h : s.amend bucket key id change = .ok t) : t.Tidy := by
  obtain ⟨b, v, hb, _, rfl⟩ := (amend_eq_ok_iff ..).mp h
  exact tidy.setBucket ((tidy.bucket _ b hb).setVersions key _)

theorem nextNumber_of_amend (h : s.amend bucket key id change = .ok t) :
    t.nextNumber = s.nextNumber := by
  obtain ⟨b, v, _, _, rfl⟩ := (amend_eq_ok_iff ..).mp h
  rfl

end Amend

theorem upload_eq_ok_iff (s : Backend) (bucket : String) (token : UploadToken) (b : Bucket)
    (id : String) (u : Upload) :
    s.upload bucket token = .ok (b, id, u) ↔
      s.buckets.get? bucket = some b ∧ token.id = .known id ∧ b.uploads.get? id = some u ∧
        u.key = token.key := by
  simp only [upload, Bucket.upload, bind_eq_ok_iff, bucket_eq_ok_iff, pure, Except.pure,
    Except.ok.injEq, Prod.mk.injEq]
  constructor
  · rintro ⟨c, hc, _, h, rfl, rfl⟩
    refine ⟨hc, ?_⟩
    split at h
    · rename_i known
      split at h
      · rename_i found
        split at h
        · simp only [Except.ok.injEq, Prod.mk.injEq] at h
          obtain ⟨rfl, rfl⟩ := h
          exact ⟨known, found, by assumption⟩
        · cases h
      · cases h
    · cases h
  · rintro ⟨hb, hi, hu, hk⟩
    exact ⟨b, hb, (id, u), by simp [hi, hu, hk], rfl, rfl⟩

theorem openUpload_eq_ok_iff (s : Backend) (bucket id : String) (r : MultipartRequest)
    (t : Backend) :
    s.openUpload bucket id r = .ok t ↔
      ∃ b, s.buckets.get? bucket = some b ∧
        t = s.setBucket { b with uploads := b.uploads.set id (.ofRequest r) } := by
  simp only [openUpload, bind_eq_ok_iff, bucket_eq_ok_iff, pure, Except.pure, Except.ok.injEq]
  exact exists_congr fun b => and_congr_right fun _ => eq_comm

theorem putPart_eq_ok_iff (s : Backend) (bucket : String) (token : UploadToken) (number : Int)
    (data : Content) (t : Backend) :
    s.putPart bucket token number data = .ok t ↔
      ∃ b id u, s.upload bucket token = .ok (b, id, u) ∧
        t = s.setBucket { b with uploads := b.uploads.set id (u.put number data) } := by
  simp only [putPart, bind_eq_ok_iff, pure, Except.pure, Except.ok.injEq, Prod.exists]
  exact exists_congr fun b => exists_congr fun id => exists_congr fun u =>
    and_congr_right fun _ => eq_comm

theorem abortUpload_eq_ok_iff (s : Backend) (bucket : String) (token : UploadToken) (t : Backend) :
    s.abortUpload bucket token = .ok t ↔
      ∃ b id u, s.upload bucket token = .ok (b, id, u) ∧
        t = s.setBucket { b with uploads := b.uploads.erase id } := by
  simp only [abortUpload, bind_eq_ok_iff, pure, Except.pure, Except.ok.injEq, Prod.exists,
    removeUpload]
  exact exists_congr fun b => exists_congr fun id => exists_congr fun u =>
    and_congr_right fun _ => eq_comm

theorem completeUpload_eq_ok_iff (s : Backend) (bucket : String) (token : UploadToken)
    (parts : List PartReceipt) (v : Version) (t : Backend) :
    s.completeUpload bucket token parts = .ok (v, t) ↔
      ∃ b id u chosen s' b', s.upload bucket token = .ok (b, id, u) ∧
        ascending (parts.map (·.number)) = true ∧ chosenParts u parts = .ok chosen ∧
        s.store bucket u.key (u.joined chosen) = .ok (v, s') ∧
        s'.buckets.get? bucket = some b' ∧
        t = s'.setBucket { b' with uploads := b'.uploads.erase id } := by
  simp only [completeUpload, bind_eq_ok_iff, Prod.exists]
  refine exists_congr fun b => exists_congr fun id => exists_congr fun u => ?_
  by_cases sorted : ascending (parts.map (·.number)) = true
  · simp only [sorted, Bool.not_true, Bool.false_eq_true, if_false, bind_eq_ok_iff, Prod.exists,
      bucket_eq_ok_iff, pure, Except.pure, Except.ok.injEq, Prod.mk.injEq, removeUpload, true_and]
    constructor
    · rintro ⟨hu, chosen, hc, v', s', hs, b', hb, rfl, rfl⟩
      exact ⟨chosen, s', b', hu, hc, hs, hb, rfl⟩
    · rintro ⟨chosen, s', b', hu, hc, hs, hb, rfl⟩
      exact ⟨hu, chosen, hc, v, s', hs, b', hb, rfl, rfl⟩
  · simp [sorted]

section Parts
variable {id : String} {u : Upload} {token : UploadToken}

theorem uploadAt_of_upload {b : Bucket} (h : s.upload bucket token = .ok (b, id, u)) :
    s.uploadAt bucket id = some u := by
  obtain ⟨hb, _, hu, _⟩ := (upload_eq_ok_iff ..).mp h
  rwa [uploadAt_of_get? hb]

/-- The second backend differs at most in one upload. -/
structure Uploaded (s t : Backend) (bucket id : String) (u : Option Upload) : Prop where
  reassigned : Reassigned s t bucket id u
  versions : SameVersions s t
  next : t.nextNumber = s.nextNumber
  tidy : t.Tidy

theorem uploaded_set (tidy : s.Tidy) {b : Bucket} (hb : s.buckets.get? bucket = some b)
    (id : String) (u : Upload) :
    Uploaded s (s.setBucket { b with uploads := b.uploads.set id u }) bucket id (some u) := by
  refine ⟨?_, sameVersions_setUploads tidy hb _, rfl, ?_⟩
  · apply reassigned_setUploads tidy hb
    intro id'
    rw [Table.get?_set]
    simp only [eq_comm]
  · have own := tidy.bucket _ b hb
    exact tidy.setBucket (own.withUploads (own.uploads.set id u))

theorem uploaded_erase (tidy : s.Tidy) {b : Bucket} (hb : s.buckets.get? bucket = some b)
    (id : String) :
    Uploaded s (s.setBucket { b with uploads := b.uploads.erase id }) bucket id none := by
  refine ⟨?_, sameVersions_setUploads tidy hb _, rfl, ?_⟩
  · apply reassigned_setUploads tidy hb
    intro id'
    rw [Table.get?_erase]
    simp only [eq_comm]
  · have own := tidy.bucket _ b hb
    exact tidy.setBucket (own.withUploads (own.uploads.erase id))

theorem uploaded_of_openUpload (tidy : s.Tidy) {r : MultipartRequest}
    (h : s.openUpload bucket id r = .ok t) : Uploaded s t bucket id (some (.ofRequest r)) := by
  obtain ⟨b, hb, rfl⟩ := (openUpload_eq_ok_iff ..).mp h
  exact uploaded_set tidy hb id _

theorem uploaded_of_putPart (tidy : s.Tidy) {number : Int} {data : Content}
    (h : s.putPart bucket token number data = .ok t) :
    ∃ b id u, s.upload bucket token = .ok (b, id, u) ∧
      Uploaded s t bucket id (some (u.put number data)) := by
  obtain ⟨b, id, u, hu, rfl⟩ := (putPart_eq_ok_iff ..).mp h
  exact ⟨b, id, u, hu, uploaded_set tidy ((upload_eq_ok_iff ..).mp hu).1 id _⟩

theorem uploaded_of_abortUpload (tidy : s.Tidy) (h : s.abortUpload bucket token = .ok t) :
    ∃ b id u, s.upload bucket token = .ok (b, id, u) ∧ Uploaded s t bucket id none := by
  obtain ⟨b, id, u, hu, rfl⟩ := (abortUpload_eq_ok_iff ..).mp h
  exact ⟨b, id, u, hu, uploaded_erase tidy ((upload_eq_ok_iff ..).mp hu).1 id⟩

/-- A completion is a store of the joined parts followed by the removal of the upload. -/
theorem stored_of_completeUpload (tidy : s.Tidy) {parts : List PartReceipt} {v : Version}
    (h : s.completeUpload bucket token parts = .ok (v, t)) :
    ∃ b id u chosen s', s.upload bucket token = .ok (b, id, u) ∧
      chosenParts u parts = .ok chosen ∧ s.store bucket u.key (u.joined chosen) = .ok (v, s') ∧
      Uploaded s' t bucket id none := by
  obtain ⟨b, id, u, chosen, s', b', hu, _, hc, hs, hb, rfl⟩ :=
    (completeUpload_eq_ok_iff ..).mp h
  exact ⟨b, id, u, chosen, s', hu, hc, hs, uploaded_erase (tidy.store hs) hb id⟩

theorem appended_of_completeUpload (tidy : s.Tidy) {parts : List PartReceipt} {v : Version}
    (h : s.completeUpload bucket token parts = .ok (v, t)) :
    Appended s t bucket token.key v := by
  obtain ⟨b, id, u, chosen, s', hu, _, hs, gone⟩ := stored_of_completeUpload tidy h
  have stored := appended_of_store tidy hs
  rw [((upload_eq_ok_iff ..).mp hu).2.2.2] at stored
  refine ⟨stored.number, stored.modified, ?_, gone.next.trans stored.next⟩
  intro bucket' key'
  rw [gone.versions, stored.rewritten]

end Parts

section Buckets

/-- The second backend has the same versions and uploads, as when a bucket is added. -/
structure Unmoved (s t : Backend) : Prop where
  versions : SameVersions s t
  uploads : SameUploads s t
  next : t.nextNumber = s.nextNumber
  tidy : t.Tidy

theorem unmoved_newBucket (tidy : s.Tidy) (name : String) (region : Option String)
    (absent : s.hasBucket name = false) : Unmoved s (s.newBucket name region) := by
  have absent : s.buckets.get? name = none := by simpa [hasBucket, Table.contains] using absent
  refine ⟨?_, ?_, rfl, tidy.setBucket ⟨List.nodup_nil, by simp, List.nodup_nil⟩⟩
  · intro bucket' key'
    simp only [newBucket, versionsAt, get?_setBucket]
    by_cases h : name = bucket'
    · subst h
      simp [absent, Bucket.versions]
    · simp [h]
  · intro bucket' id
    simp only [newBucket, uploadAt, get?_setBucket]
    by_cases h : name = bucket'
    · subst h
      simp [absent]
    · simp [h]

theorem unmoved_of_createBucket (tidy : s.Tidy) {name : String} {region : Option String}
    (h : s.createBucket name region = .ok t) : Unmoved s t := by
  unfold createBucket at h
  split at h
  · cases h
  · rename_i absent
    cases h
    exact unmoved_newBucket tidy name region (by simpa using absent)

theorem unmoved_ensureBucket (tidy : s.Tidy) (name : String) (region : Option String) :
    Unmoved s (s.ensureBucket name region) := by
  unfold ensureBucket
  split
  · exact ⟨fun _ _ => rfl, fun _ _ => rfl, rfl, tidy⟩
  · rename_i absent
    exact unmoved_newBucket tidy name region (by simpa using absent)

theorem versionsAt_deleteBucket (s : Backend) (name bucket key : String) :
    (s.deleteBucket name).versionsAt bucket key =
      if name = bucket then [] else s.versionsAt bucket key := by
  simp only [deleteBucket, versionsAt, Table.get?_erase]
  by_cases h : name = bucket <;> simp [h]

theorem uploadAt_deleteBucket (s : Backend) (name bucket id : String) :
    (s.deleteBucket name).uploadAt bucket id =
      if name = bucket then none else s.uploadAt bucket id := by
  simp only [deleteBucket, uploadAt, Table.get?_erase]
  by_cases h : name = bucket <;> simp [h]

theorem Tidy.deleteBucket (tidy : s.Tidy) (name : String) : (s.deleteBucket name).Tidy := by
  refine ⟨tidy.buckets.erase name, ?_, ?_⟩
  all_goals
    intro other b h
    rw [Backend.deleteBucket, Table.get?_erase] at h
    split at h
    · cases h
  · exact tidy.named other b h
  · exact tidy.bucket other b h

end Buckets
end Backend
end BlobStorage.Memory
