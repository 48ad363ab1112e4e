import BlobStorage.Memory.Multipart
import BlobStorage.Proofs.Action
import BlobStorage.Proofs.Number.Numeral
import BlobStorage.Proofs.Table

/-!
A backend as it is seen from outside: the versions under each key of each bucket, and the uploads in
progress. Each change of the backend is given by what it does to this view, and every change leaves
the tables behind the view in order.
-/
namespace BlobStorage.Memory

namespace Version

theorem id_inj {v w : Version} : v.id = w.id ↔ v.number = w.number :=
  Number.Numeral.toString_inj

def chosen? (versions : List Version) : Option String → Option Version
  | none => versions.getLast?
  | some id => versions.find? fun v => decide (v.id = id)

theorem chosen?_mem {versions : List Version} {id : Option String} {v : Version}
    (h : chosen? versions id = some v) : v ∈ versions := by
  cases id with
  | none => exact List.mem_of_getLast? h
  | some id => exact List.mem_of_find?_eq_some h

end Version

namespace Bucket

@[simp] theorem setVersions_name (b : Bucket) (key : String) (vs : List Version) :
    (b.setVersions key vs).name = b.name := by
  unfold setVersions; split <;> rfl

@[simp] theorem setVersions_uploads (b : Bucket) (key : String) (vs : List Version) :
    (b.setVersions key vs).uploads = b.uploads := by
  unfold setVersions; split <;> rfl

theorem versions_setVersions (b : Bucket) (key other : String) (vs : List Version) :
    (b.setVersions key vs).versions other = if key = other then vs else b.versions other := by
  unfold setVersions versions
  split
  · rename_i empty
    by_cases h : key = other <;> simp_all [Table.get?_erase]
  · by_cases h : key = other <;> simp [Table.get?_set, h]

theorem version_eq_ok_iff (b : Bucket) (key : String) (id : Option String) (v : Version) :
    b.version key id = .ok v ↔ Version.chosen? (b.versions key) id = some v := by
  unfold version Version.chosen?
  rcases h : (b.versions key).getLast? with _ | newest
  · have none : b.versions key = [] := List.getLast?_eq_none_iff.mp h
    cases id <;> simp [none]
  · cases id with
    | none => simp
    | some id =>
        rcases hf : (b.versions key).find? fun v => decide (v.id = id) with _ | w <;> simp [hf]

/-- The tables of a bucket name nothing twice, and no key stands without versions. -/
structure Tidy (b : Bucket) : Prop where
  objects : b.objects.Distinct
  inhabited : ∀ key vs, (key, vs) ∈ b.objects → vs ≠ []
  uploads : b.uploads.Distinct

theorem Tidy.setVersions {b : Bucket} (tidy : b.Tidy) (key : String) (vs : List Version) :
    (b.setVersions key vs).Tidy := by
  unfold Bucket.setVersions
  split
  · refine ⟨tidy.objects.erase key, ?_, tidy.uploads⟩
    intro k ws hm
    have found := Table.get?_of_mem (tidy.objects.erase key) hm
    rw [Table.get?_erase] at found
    split at found
    · cases found
    · exact tidy.inhabited k ws (Table.mem_of_get? found)
  · rename_i nonempty
    refine ⟨tidy.objects.set key vs, ?_, tidy.uploads⟩
    intro k ws hm
    have found := Table.get?_of_mem (tidy.objects.set key vs) hm
    rw [Table.get?_set] at found
    split at found
    · cases found
      simpa using nonempty
    · exact tidy.inhabited k ws (Table.mem_of_get? found)

theorem Tidy.withUploads {b : Bucket} (tidy : b.Tidy) {uploads : Table String Upload}
    (distinct : uploads.Distinct) : Tidy { b with uploads } :=
  ⟨tidy.objects, tidy.inhabited, distinct⟩

/-- A key is listed in a tidy bucket exactly with its versions, if it has any. -/
theorem Tidy.mem_objects_iff {b : Bucket} (tidy : b.Tidy) (key : String) (vs : List Version) :
    (key, vs) ∈ b.objects ↔ vs ≠ [] ∧ b.versions key = vs := by
  rw [Table.mem_iff_get? tidy.objects, versions]
  constructor
  · intro h
    exact ⟨tidy.inhabited key vs (Table.mem_of_get? h), by rw [h]; rfl⟩
  · rintro ⟨nonempty, h⟩
    rcases hg : b.objects.get? key with _ | ws
    · exact absurd (by simpa [hg] using h.symm) nonempty
    · simpa [hg] using h

/-- Setting the versions that a key has changes nothing. -/
theorem Tidy.setVersions_self {b : Bucket} (tidy : b.Tidy) (key : String) :
    b.setVersions key (b.versions key) = b := by
  unfold Bucket.setVersions versions
  cases found : b.objects.get? key with
  | none => simp [Table.erase_of_get? found]
  | some vs =>
      have nonempty := tidy.inhabited key vs (Table.mem_of_get? found)
      simp [nonempty, Table.set_get? found]

end Bucket

namespace Backend

def versionsAt (s : Backend) (bucket key : String) : List Version :=
  match s.buckets.get? bucket with
  | some b => b.versions key
  | none => []

def uploadAt (s : Backend) (bucket id : String) : Option Upload :=
  (s.buckets.get? bucket).bind (·.uploads.get? id)

structure Tidy (s : Backend) : Prop where
  buckets : s.buckets.Distinct
  named : ∀ name b, s.buckets.get? name = some b → b.name = name
  bucket : ∀ name b, s.buckets.get? name = some b → b.Tidy

/-- The second backend differs at most in the versions of one key, which are the given ones. -/
def Rewritten (s t : Backend) (bucket key : String) (vs : List Version) : Prop :=
  ∀ bucket' key', t.versionsAt bucket' key' =
    if bucket' = bucket ∧ key' = key then vs else s.versionsAt bucket' key'

/-- The second backend differs at most in one upload, which is the given one or gone. -/
def Reassigned (s t : Backend) (bucket id : String) (u : Option Upload) : Prop :=
  ∀ bucket' id', t.uploadAt bucket' id' =
    if bucket' = bucket ∧ id' = id then u else s.uploadAt bucket' id'

def SameVersions (s t : Backend) : Prop :=
  ∀ bucket key, t.versionsAt bucket key = s.versionsAt bucket key

def SameUploads (s t : Backend) : Prop :=
  ∀ bucket id, t.uploadAt bucket id = s.uploadAt bucket id

theorem bucket_eq_ok_iff (s : Backend) (name : String) (b : Bucket) :
    s.bucket name = .ok b ↔ s.buckets.get? name = some b := by
  unfold bucket
  split <;> simp_all

theorem versionsAt_of_get? {s : Backend} {name : String} {b : Bucket}
    (h : s.buckets.get? name = some b) (key : String) : s.versionsAt name key = b.versions key := by
  simp [versionsAt, h]

theorem found_of_mem {s : Backend} {name key : String} {v : Version}
    (h : v ∈ s.versionsAt name key) : ∃ b, s.buckets.get? name = some b := by
  cases hb : s.buckets.get? name with
  | none => simp [versionsAt, hb] at h
  | some b => exact ⟨b, rfl⟩

theorem uploadAt_of_get? {s : Backend} {name : String} {b : Bucket}
    (h : s.buckets.get? name = some b) (id : String) :
    s.uploadAt name id = b.uploads.get? id := by
  simp [uploadAt, h]

theorem version_eq_ok_iff (s : Backend) (bucket key : String) (id : Option String) (v : Version) :
    s.version bucket key id = .ok v ↔ Version.chosen? (s.versionsAt bucket key) id = some v := by
  simp only [version, bind_eq_ok_iff, bucket_eq_ok_iff, Bucket.version_eq_ok_iff]
  constructor
  · rintro ⟨b, hb, h⟩
    rwa [versionsAt_of_get? hb]
  · intro h
    obtain ⟨b, hb⟩ := found_of_mem (Version.chosen?_mem h)
    exact ⟨b, hb, by rwa [versionsAt_of_get? hb] at h⟩

theorem get?_setBucket (s : Backend) (b : Bucket) (name : String) :
    (s.setBucket b).buckets.get? name = if b.name = name then some b else s.buckets.get? name :=
  Table.get?_set _ _ _ _

theorem Tidy.setBucket {s : Backend} (tidy : s.Tidy) {b : Bucket} (hb : b.Tidy) :
    (s.setBucket b).Tidy := by
  refine ⟨tidy.buckets.set _ _, ?_, ?_⟩
  · intro name c h
    rw [get?_setBucket] at h
    split at h
    · cases h; assumption
    · exact tidy.named name c h
  · intro name c h
    rw [get?_setBucket] at h
    split at h
    · cases h; exact hb
    · exact tidy.bucket name c h

theorem Tidy.setBucket_self {s : Backend} (tidy : s.Tidy) {name : String} {b : Bucket}
    (found : s.buckets.get? name = some b) : s.setBucket b = s := by
  unfold Backend.setBucket
  rw [tidy.named name b found, Table.set_get? found]

section SetBucket
variable {s : Backend} {name : String} {b : Bucket}

theorem rewritten_setBucket (tidy : s.Tidy) (hb : s.buckets.get? name = some b) (key : String)
    (vs : List Version) : Rewritten s (s.setBucket (b.setVersions key vs)) name key vs := by
  intro bucket' key'
  have hn := tidy.named name b hb
  simp only [versionsAt, get?_setBucket, Bucket.setVersions_name, hn]
  by_cases h : name = bucket'
  · subst h
    simp only [if_true, Bucket.versions_setVersions, hb, true_and]
    by_cases hk : key = key'
    · simp [hk]
    · simp [hk, Ne.symm hk]
  · have h' : bucket' ≠ name := Ne.symm h
    simp [h, h']

theorem sameUploads_setVersions (tidy : s.Tidy) (hb : s.buckets.get? name = some b) (key : String)
    (vs : List Version) : SameUploads s (s.setBucket (b.setVersions key vs)) := by
  intro bucket' id
  have hn := tidy.named name b hb
  simp only [uploadAt, get?_setBucket, Bucket.setVersions_name, hn]
  by_cases h : name = bucket'
  · subst h
    simp [hb]
  · simp [h]

theorem sameVersions_setUploads (tidy : s.Tidy) (hb : s.buckets.get? name = some b)
    (uploads : Table String Upload) : SameVersions s (s.setBucket { b with uploads }) := by
  intro bucket' key
  have hn := tidy.named name b hb
  simp only [versionsAt, get?_setBucket, hn]
  by_cases h : name = bucket'
  · subst h
    simp only [if_true, hb]
    rfl
  · simp [h]

theorem reassigned_setUploads (tidy : s.Tidy) (hb : s.buckets.get? name = some b)
    {uploads : Table String Upload} {id : String} {u : Option Upload}
    (hu : ∀ id', uploads.get? id' = if id' = id then u else b.uploads.get? id') :
    Reassigned s (s.setBucket { b with uploads }) name id u := by
  intro bucket' id'
  have hn := tidy.named name b hb
  simp only [uploadAt, get?_setBucket, hn]
  by_cases h : name = bucket'
  · subst h
    simp [hb, hu]
  · have h' : bucket' ≠ name := Ne.symm h
    simp [h, h']

end SetBucket
end Backend
end BlobStorage.Memory
