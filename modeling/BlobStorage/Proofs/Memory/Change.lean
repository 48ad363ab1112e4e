import BlobStorage.Proofs.Memory.Outcome
import Mathlib.Logic.Relation

/-!
What can happen to a backend in one piece, under one hold of its lock. Whatever a store does is a
chain of such changes, so what one change preserves is preserved by everything, however the changes of
several stores come between one another.
-/
namespace BlobStorage.Memory

inductive Change where
  | store (bucket key : String) (draft : Draft)
  | copy (srcBucket srcKey : String) (srcId : Option String) (bucket key : String)
  | delete (bucket key : String) (id : Option String)
  | setTags (bucket key : String) (tags : Attributes)
  | setRetention (bucket key : String) (id : Option String) (retention : Retention)
  | setLegalHold (bucket key : String) (id : Option String) (hold : Bool)
  /-- A number is taken and not used. -/
  | takeNumber
  /-- A number is taken, and an upload opened under it. -/
  | openUpload (bucket : String) (request : MultipartRequest)
  | putPart (bucket : String) (token : UploadToken) (number : Int) (data : Content)
  | completeUpload (bucket : String) (token : UploadToken) (parts : List PartReceipt)
  | abortUpload (bucket : String) (token : UploadToken)
  | createBucket (name : String) (region : Option String)
  | ensureBucket (name : String) (region : Option String)
  | deleteBucket (name : String)
  | setClock (now : Moment)

inductive Role where
  | writing
  | opening
  | putting
  | other
  deriving DecidableEq

/-- The identifier of the upload that is opened under a number. -/
def Upload.idOf (number : Nat) : String := "mpu-" ++ toString number

namespace Change

def apply : Change → Backend → Except Fault Backend
  | store bucket key draft, s => (s.store bucket key draft).map (·.2)
  | copy srcBucket srcKey srcId bucket key, s =>
      (s.copy srcBucket srcKey srcId bucket key).map (·.2)
  | delete bucket key id, s => s.delete bucket key id
  | setTags bucket key tags, s => s.setTags bucket key tags
  | setRetention bucket key id retention, s => s.setRetention bucket key id retention
  | setLegalHold bucket key id hold, s => s.setLegalHold bucket key id hold
  | takeNumber, s => .ok s.takeNumber.2
  | openUpload bucket r, s =>
      s.takeNumber.2.openUpload bucket (Upload.idOf s.takeNumber.1) r
  | putPart bucket token number data, s => s.putPart bucket token number data
  | completeUpload bucket token parts, s => (s.completeUpload bucket token parts).map (·.2)
  | abortUpload bucket token, s => s.abortUpload bucket token
  | createBucket name region, s => s.createBucket name region
  | ensureBucket name region, s => .ok (s.ensureBucket name region)
  | deleteBucket name, s => .ok (s.deleteBucket name)
  | setClock now, s => .ok { s with now }

def role : Change → Role
  | store _ _ _ | copy _ _ _ _ _ | completeUpload _ _ _ => .writing
  | openUpload _ _ => .opening
  | putPart _ _ _ _ => .putting
  | _ => .other

/-- The key that the change is to write under is not empty. -/
def Checked : Change → Prop
  | store _ key _ | copy _ _ _ _ key => key ≠ ""
  | openUpload _ r => r.key ≠ ""
  | completeUpload _ token _ => token.key ≠ ""
  | _ => True

end Change

namespace Version

/-- A version without its tags and its lock, which are all that may change. -/
def bare (v : Version) : Version :=
  { v with tags := [], retention := none, legalHold := false }

theorem number_of_bare {v w : Version} (h : v.bare = w.bare) : v.number = w.number := by
  have bare : v.bare.number = w.bare.number := congrArg (fun u : Version => u.number) h
  exact bare

/-- The second versions are some of the first in the same order, changed at most in their tags and
their locks. -/
def Kept (old new : List Version) : Prop :=
  ∃ (keep : Version → Bool) (change : Version → Version),
    (∀ v, (change v).bare = v.bare) ∧ new = (old.filter keep).map change

theorem Kept.refl (vs : List Version) : Kept vs vs :=
  ⟨fun _ => true, fun v => v, fun _ => rfl, by simp⟩

theorem Kept.nil (vs : List Version) : Kept vs [] :=
  ⟨fun _ => false, fun v => v, fun _ => rfl, by simp⟩

theorem Kept.filter (vs : List Version) (keep : Version → Bool) : Kept vs (vs.filter keep) :=
  ⟨keep, fun v => v, fun _ => rfl, by simp⟩

theorem Kept.map (vs : List Version) {change : Version → Version}
    (h : ∀ v, (change v).bare = v.bare) : Kept vs (vs.map change) :=
  ⟨fun _ => true, change, h, by simp⟩

theorem Kept.trans {first second third : List Version} (h : Kept first second)
    (k : Kept second third) : Kept first third := by
  obtain ⟨keep, change, bare, rfl⟩ := h
  obtain ⟨keep', change', bare', rfl⟩ := k
  refine ⟨fun v => keep v && keep' (change v), change' ∘ change, ?_, ?_⟩
  · intro v
    exact (bare' _).trans (bare v)
  · simp [List.filter_map, List.filter_filter, Bool.and_comm, Function.comp_def]

theorem Kept.mem {old new : List Version} (h : Kept old new) {v : Version} (hv : v ∈ new) :
    ∃ w ∈ old, w.bare = v.bare := by
  obtain ⟨keep, change, bare, rfl⟩ := h
  obtain ⟨w, hw, rfl⟩ := List.mem_map.mp hv
  exact ⟨w, (List.mem_filter.mp hw).1, (bare w).symm⟩

theorem Kept.append {old new t : List Version} (h : Kept (old ++ new) t) :
    ∃ old' new', t = old' ++ new' ∧ Kept old old' ∧ Kept new new' := by
  obtain ⟨keep, change, bare, rfl⟩ := h
  exact ⟨_, _, by simp, ⟨keep, change, bare, rfl⟩, ⟨keep, change, bare, rfl⟩⟩

theorem Kept.pairwise {old new : List Version} (h : Kept old new)
    (ascending : old.Pairwise (·.number < ·.number)) : new.Pairwise (·.number < ·.number) := by
  obtain ⟨keep, change, bare, rfl⟩ := h
  rw [List.pairwise_map]
  refine (ascending.filter keep).imp ?_
  intro v w hvw
  rwa [number_of_bare (bare v), number_of_bare (bare w)]

end Version

namespace Backend
variable {s t u : Backend}

/-- No version is new in the second backend. -/
structure Thinned (s t : Backend) : Prop where
  kept : ∀ bucket key, Version.Kept (s.versionsAt bucket key) (t.versionsAt bucket key)
  next : s.nextNumber ≤ t.nextNumber

theorem Rewritten.thinned {bucket key : String} {vs : List Version}
    (h : Rewritten s t bucket key vs) (kept : Version.Kept (s.versionsAt bucket key) vs)
    (next : t.nextNumber = s.nextNumber) : Thinned s t := by
  refine ⟨?_, Nat.le_of_eq next.symm⟩
  intro bucket' key'
  rw [h bucket' key']
  split
  · rename_i here
    rwa [here.1, here.2]
  · exact .refl _

theorem SameVersions.thinned (h : SameVersions s t) (next : s.nextNumber ≤ t.nextNumber) :
    Thinned s t := by
  refine ⟨?_, next⟩
  intro bucket key
  rw [h bucket key]
  exact .refl _

theorem Unmoved.thinned (h : Unmoved s t) : Thinned s t :=
  h.versions.thinned (Nat.le_of_eq h.next.symm)

theorem thinned_of_amend (tidy : s.Tidy) {bucket key : String} {id : Option String}
    (change : Version → Version) (bare : ∀ v, (change v).bare = v.bare)
    (h : s.amend bucket key id change = .ok t) : Thinned s t := by
  obtain ⟨v, _, rewritten⟩ := rewritten_of_amend tidy h
  refine rewritten.thinned (.map _ ?_) (nextNumber_of_amend h)
  intro w
  split
  · exact bare w
  · rfl

theorem tidy_of_apply (tidy : s.Tidy) {c : Change} (h : c.apply s = .ok t) : t.Tidy := by
  cases c with
  | store bucket key draft =>
      obtain ⟨⟨v, t'⟩, hs, rfl⟩ := map_eq_ok_iff.mp h
      exact tidy.store hs
  | copy srcBucket srcKey srcId bucket key =>
      obtain ⟨⟨v, t'⟩, hc, rfl⟩ := map_eq_ok_iff.mp h
      obtain ⟨source, _, hs⟩ := (copy_eq_ok_iff ..).mp hc
      exact tidy.store hs
  | delete bucket key id => exact tidy.delete h
  | setTags | setRetention | setLegalHold => exact tidy.amend h
  | takeNumber =>
      cases h
      exact tidy.withNumber _
  | openUpload bucket r => exact (uploaded_of_openUpload (tidy.withNumber _) h).tidy
  | putPart bucket token number data =>
      obtain ⟨b, id, u, _, put⟩ := uploaded_of_putPart tidy h
      exact put.tidy
  | completeUpload bucket token parts =>
      obtain ⟨⟨v, t'⟩, hc, rfl⟩ := map_eq_ok_iff.mp h
      obtain ⟨b, id, u, chosen, s', _, _, _, gone⟩ := stored_of_completeUpload tidy hc
      exact gone.tidy
  | abortUpload bucket token =>
      obtain ⟨b, id, u, _, gone⟩ := uploaded_of_abortUpload tidy h
      exact gone.tidy
  | createBucket name region => exact (unmoved_of_createBucket tidy h).tidy
  | ensureBucket name region =>
      cases h
      exact (unmoved_ensureBucket tidy name region).tidy
  | deleteBucket name =>
      cases h
      exact tidy.deleteBucket name
  | setClock now =>
      cases h
      exact ⟨tidy.buckets, tidy.named, tidy.bucket⟩

theorem appended_or_thinned (tidy : s.Tidy) {c : Change} (h : c.apply s = .ok t) :
    (c.role = .writing ∧ ∃ bucket key v, Appended s t bucket key v ∧ (c.Checked → key ≠ "")) ∨
      (c.role ≠ .writing ∧ Thinned s t) := by
  cases c with
  | store bucket key draft =>
      obtain ⟨⟨v, t'⟩, hs, rfl⟩ := map_eq_ok_iff.mp h
      exact .inl ⟨rfl, bucket, key, v, appended_of_store tidy hs, id⟩
  | copy srcBucket srcKey srcId bucket key =>
      obtain ⟨⟨v, t'⟩, hc, rfl⟩ := map_eq_ok_iff.mp h
      obtain ⟨source, _, hs⟩ := (copy_eq_ok_iff ..).mp hc
      exact .inl ⟨rfl, bucket, key, v, appended_of_store tidy hs, id⟩
  | completeUpload bucket token parts =>
      obtain ⟨⟨v, t'⟩, hc, rfl⟩ := map_eq_ok_iff.mp h
      exact .inl ⟨rfl, bucket, token.key, v, appended_of_completeUpload tidy hc, id⟩
  | delete bucket key id =>
      exact .inr ⟨nofun, (rewritten_of_delete tidy h).thinned (.filter _ _)
        (nextNumber_of_delete h)⟩
  | setTags bucket key tags =>
      exact .inr ⟨nofun, thinned_of_amend tidy (fun v => { v with tags }) (fun _ => rfl) h⟩
  | setRetention bucket key id retention =>
      exact .inr ⟨nofun, thinned_of_amend tidy
        (fun v => { v with retention := some retention }) (fun _ => rfl) h⟩
  | setLegalHold bucket key id hold =>
      exact .inr ⟨nofun, thinned_of_amend tidy (fun v => { v with legalHold := hold })
        (fun _ => rfl) h⟩
  | takeNumber =>
      cases h
      exact .inr ⟨nofun, SameVersions.thinned (fun _ _ => rfl) (Nat.le_succ _)⟩
  | openUpload bucket r =>
      have opened := uploaded_of_openUpload (tidy.withNumber _) h
      refine .inr ⟨nofun, SameVersions.thinned (fun b k => (opened.versions b k).trans rfl) ?_⟩
      exact opened.next ▸ Nat.le_succ _
  | putPart bucket token number data =>
      obtain ⟨b, id, u, _, put⟩ := uploaded_of_putPart tidy h
      exact .inr ⟨nofun, put.versions.thinned (Nat.le_of_eq put.next.symm)⟩
  | abortUpload bucket token =>
      obtain ⟨b, id, u, _, gone⟩ := uploaded_of_abortUpload tidy h
      exact .inr ⟨nofun, gone.versions.thinned (Nat.le_of_eq gone.next.symm)⟩
  | createBucket name region =>
      exact .inr ⟨nofun, (unmoved_of_createBucket tidy h).thinned⟩
  | ensureBucket name region =>
      cases h
      exact .inr ⟨nofun, (unmoved_ensureBucket tidy name region).thinned⟩
  | deleteBucket name =>
      cases h
      refine .inr ⟨nofun, ⟨?_, (Nat.le_refl _)⟩⟩
      intro bucket key
      rw [versionsAt_deleteBucket]
      split
      · exact .nil _
      · exact .refl _
  | setClock now =>
      cases h
      exact .inr ⟨nofun, SameVersions.thinned (fun _ _ => rfl) (Nat.le_refl _)⟩

section Uploads
variable {bucket id : String} {u : Upload}

theorem Reassigned.eq_some_or {b id' : String} {v : Option Upload}
    (h : Reassigned s t b id' v) (hu : t.uploadAt bucket id = some u) :
    s.uploadAt bucket id = some u ∨ bucket = b ∧ id = id' ∧ v = some u := by
  rw [h bucket id] at hu
  split at hu
  · rename_i here
    exact .inr ⟨here.1, here.2, hu⟩
  · exact .inl hu

/-- An upload was there before a change, or the change opened it, or it put a part into it. -/
theorem uploadAt_of_apply (tidy : s.Tidy) {c : Change} (h : c.apply s = .ok t)
    (hu : t.uploadAt bucket id = some u) :
    s.uploadAt bucket id = some u ∨
      (∃ r, c = .openUpload bucket r ∧ id = Upload.idOf s.nextNumber ∧ u = .ofRequest r ∧
        t.nextNumber = s.nextNumber + 1) ∨
      ∃ token number data u', c = .putPart bucket token number data ∧ token.id = .known id ∧
        u'.key = token.key ∧ s.uploadAt bucket id = some u' ∧ u = u'.put number data := by
  have same (k : SameUploads s t) : s.uploadAt bucket id = some u := (k bucket id).symm.trans hu
  cases c with
  | store b key draft =>
      obtain ⟨⟨v, t'⟩, hs, rfl⟩ := map_eq_ok_iff.mp h
      exact .inl (same (sameUploads_of_store tidy hs))
  | copy srcBucket srcKey srcId b key =>
      obtain ⟨⟨v, t'⟩, hc, rfl⟩ := map_eq_ok_iff.mp h
      obtain ⟨source, _, hs⟩ := (copy_eq_ok_iff ..).mp hc
      exact .inl (same (sameUploads_of_store tidy hs))
  | delete b key i => exact .inl (same (sameUploads_of_delete tidy h))
  | setTags | setRetention | setLegalHold => exact .inl (same (sameUploads_of_amend tidy h))
  | takeNumber =>
      cases h
      exact .inl (same fun _ _ => rfl)
  | openUpload b r =>
      have opened := uploaded_of_openUpload (tidy.withNumber _) h
      rcases opened.reassigned.eq_some_or hu with old | ⟨rfl, rfl, here⟩
      · exact .inl old
      · exact .inr (.inl ⟨r, rfl, rfl, (Option.some.inj here).symm, opened.next⟩)
  | putPart b token number data =>
      obtain ⟨b', i, w, found, put⟩ := uploaded_of_putPart tidy h
      obtain ⟨hb, known, hw, hk⟩ := (upload_eq_ok_iff ..).mp found
      rcases put.reassigned.eq_some_or hu with old | ⟨rfl, rfl, here⟩
      · exact .inl old
      · exact .inr (.inr ⟨token, number, data, w, rfl, known, hk, uploadAt_of_upload found,
          (Option.some.inj here).symm⟩)
  | completeUpload b token parts =>
      obtain ⟨⟨v, t'⟩, hc, rfl⟩ := map_eq_ok_iff.mp h
      obtain ⟨b', i, w, chosen, s', _, _, hs, gone⟩ := stored_of_completeUpload tidy hc
      rcases gone.reassigned.eq_some_or hu with old | ⟨_, _, here⟩
      · exact .inl ((sameUploads_of_store tidy hs bucket id).symm.trans old)
      · cases here
  | abortUpload b token =>
      obtain ⟨b', i, w, _, gone⟩ := uploaded_of_abortUpload tidy h
      rcases gone.reassigned.eq_some_or hu with old | ⟨_, _, here⟩
      · exact .inl old
      · cases here
  | createBucket name region => exact .inl (same (unmoved_of_createBucket tidy h).uploads)
  | ensureBucket name region =>
      cases h
      exact .inl (same (unmoved_ensureBucket tidy name region).uploads)
  | deleteBucket name =>
      cases h
      rw [uploadAt_deleteBucket] at hu
      split at hu
      · cases hu
      · exact .inl hu
  | setClock now =>
      cases h
      exact .inl (same fun _ _ => rfl)

end Uploads
end Backend
end BlobStorage.Memory
