import BlobStorage.Proofs.Memory.Paging
import BlobStorage.Proofs.Memory.Run

/-!
What callers see of a backend that nobody changes meanwhile: a listing delivers the heads of its stem,
whatever the size of its pages, and a key is there if it has a version.
-/
namespace BlobStorage.Memory
open Memory.Listing

/-- Pages show something, and batches hold something. -/
structure Store.Sized (s : Store) : Prop where
  pages : s.pageSize ≠ some 0
  batches : 0 < s.deleteLimit.toNat

section Fetch
variable (s : Store) (request : ListRequest) (place : Option String) {guard : Guard Backend}
  {w w₁ : World Backend}

/-- Fetching a page does to the world what its guard does. -/
theorem runFrom_fetch (harmless : Store.Harmless guard)
    (guarded : ((guard .listPage none).runFrom w).2 = w₁)
    (accepted : ∀ n ∈ request.maxResults, 0 < n) :
    (∃ f, (Listing.fetch (s.adapter guard) request (place.map .known)).runFrom w =
        (.ok (.error f), w₁) ∧
      ((guard .listPage none).runFrom w = (.ok (), w₁) → w.remote.buckets.get? s.bucket = none)) ∨
    ∃ bucket, w.remote.buckets.get? s.bucket = some bucket ∧
      (Listing.fetch (s.adapter guard) request (place.map .known)).runFrom w =
        (.ok (.ok (page bucket { request with token := place.map .known } s.pageSize)), w₁) := by
  have same : w₁.remote = w.remote := guarded ▸ harmless _ _ w
  have answered {r : Except Failure Page}
      (own : ((s.adapter guard).listPage { request with token := place.map .known }).runFrom w =
        (r, w₁)) :
      (Listing.fetch (s.adapter guard) request (place.map .known)).runFrom w =
        (.ok (r.mapError (·.within .generator)), w₁) := by
    have tried : (BlobStorage.Store.listPage (s.adapter guard)
        { request with token := place.map .known }).outcome.runFrom w = (.ok r, w₁) := by
      rw [Action.runFrom_outcome, BlobStorage.Store.runFrom_listPage accepted, own]
    exact Action.runFrom_bind_ok tried _
  rcases passed : (guard .listPage none).runFrom w with ⟨e | x, w₂⟩
  · rw [passed] at guarded
    cases guarded
    refine .inl ⟨_, answered (r := .error e) ?_, fun ok => nomatch ok⟩
    exact (Action.runFrom_bind ..).trans (by rw [passed])
  · rw [passed] at guarded
    cases guarded
    cases found : w.remote.buckets.get? s.bucket with
    | none =>
        have missing : w₂.remote.bucket s.bucket = .error (.noBucket s.bucket) := by
          rw [same, Backend.bucket, found]
        refine .inl ⟨_, answered (r := .error (.memory (.noBucket s.bucket))) ?_, fun _ => rfl⟩
        refine (Action.runFrom_bind_ok passed _).trans ?_
        rw [Action.runFrom_bind, Store.runFrom_see, missing]
        rfl
    | some bucket =>
        have checked : checkToken bucket { request with token := place.map .known } = .ok () := by
          cases place <;> rfl
        refine .inr ⟨bucket, rfl, answered (r := .ok _) ?_⟩
        refine (Action.runFrom_bind_ok passed _).trans ?_
        refine (Action.runFrom_bind_ok (x := bucket) (t := w₂) ?_ _).trans ?_
        · rw [Store.runFrom_see, same, (Backend.bucket_eq_ok_iff ..).mpr found]
          rfl
        · exact Action.runFrom_bind_ok (by rw [checked]; rfl) _

variable {s} {bucket : Bucket}

theorem runFrom_fetch_of_passed (harmless : Store.Harmless guard)
    (passed : (guard .listPage none).runFrom w = (.ok (), w))
    (accepted : ∀ n ∈ request.maxResults, 0 < n)
    (found : w.remote.buckets.get? s.bucket = some bucket) :
    (Listing.fetch (s.adapter guard) request (place.map .known)).runFrom w =
      (.ok (.ok (page bucket { request with token := place.map .known } s.pageSize)), w) := by
  obtain ⟨f, _, missing⟩ | ⟨b, there, ran⟩ :=
    runFrom_fetch s request place harmless (congrArg Prod.snd passed) accepted
  · cases found.symm.trans (missing passed)
  · cases found.symm.trans there
    exact ran

end Fetch

section Pull
variable {s : Store} {guard : Guard Backend} {w : World Backend} {bucket : Bucket}
  {stem : Option String}

/-- Pulling on goes through all heads that remain. -/
theorem runFrom_pull (harmless : Store.Harmless guard)
    (passed : (guard .listPage none).runFrom w = (.ok (), w))
    (found : w.remote.buckets.get? s.bucket = some bucket) (tidy : bucket.Tidy)
    (positive : s.pageSize ≠ some 0) {place : Option String} {rest : List (String × Version)}
    (remaining : Heads w.remote s.bucket (stem.getD "") place rest)
    (keyed : ∀ r ∈ rest, r.1 ≠ "") {bound : Nat} (enough : rest.length < bound) :
    (Listing.pull (s.adapter guard) { stem } bound (place.map .known) none).runFrom w =
      (.ok ⟨rest.map fun h => infoOf h.1 h.2, .complete⟩, w) := by
  induction bound generalizing place rest with
  | zero => exact absurd enough (Nat.not_lt_zero _)
  | succ bound ih =>
      have fetched := runFrom_fetch_of_passed { stem } place harmless passed (fun _ is => nomatch is) found
      obtain ⟨here, more, rfl, shown, last | next⟩ :=
        page_spec positive found tidy remaining keyed
      · obtain ⟨ends, rfl⟩ := last
        rw [List.append_nil, ← shown]
        exact Directory.runFrom_pull_last fetched ends
      · obtain ⟨last, ends, follows⟩ := next
        have nonempty := List.length_pos_of_mem (List.mem_of_getLast? ends)
        rw [List.length_append] at enough
        have onward := remaining.rest ends
        have later := ih onward (fun r hr => keyed r (List.mem_append_right _ hr)) (by omega)
        rw [List.map_append, ← shown]
        exact Directory.runFrom_pull_next fetched follows later

end Pull

section Caller
variable {c : Caller} {w : World Backend} {stem : Option String} {heads : List (String × Version)}

theorem there_of_hasBucket {s : Backend} {name : String} (there : s.hasBucket name = true) :
    ∃ b, s.buckets.get? name = some b :=
  Option.isSome_iff_exists.mp there

theorem exists_heads {s : Backend} (tidy : s.Tidy) (bucket stem : String) :
    ∃ heads, Heads s bucket stem none heads := by
  cases found : s.buckets.get? bucket with
  | some b => exact ⟨_, heads_headsOf found (tidy.bucket bucket b found) stem⟩
  | none =>
      refine ⟨[], .nil, fun key v => ?_⟩
      simp [Backend.versionsAt, found]

theorem Backend.Numbered.keyed_heads {s : Backend} (numbered : s.Numbered) {bucket stem : String}
    {heads : List (String × Version)} (h : Heads s bucket stem none heads) :
    ∀ head ∈ heads, head.1 ≠ "" := by
  intro head listed
  have newest := ((h.mem head.1 head.2).mp listed).2.2
  exact numbered.keyed bucket head.1 head.2 (List.mem_of_getLast? newest)

theorem length_lt_pageBound (tidy : w.remote.Tidy)
    (heads_at : Heads w.remote c.store.bucket (stem.getD "") none heads) :
    heads.length < c.adapter.pageBound w := by
  change heads.length < c.store.pageBound w
  unfold Store.pageBound Backend.bucket
  cases found : w.remote.buckets.get? c.store.bucket with
  | some b =>
      have all := heads_headsOf found (tidy.bucket _ b found) (stem.getD "")
      rw [heads_at.unique all]
      have few : (headsOf b (stem.getD "")).length ≤ b.objects.length := by
        unfold headsOf
        refine (List.length_filter_le _ _).trans ?_
        rw [List.length_mergeSort]
        exact List.length_filterMap_le _ _
      dsimp only
      omega
  | none =>
      cases heads with
      | nil => exact Nat.one_pos
      | cons h rest =>
          have newest := ((heads_at.mem h.1 h.2).mp (List.mem_cons_self ..)).2.2
          simp [Backend.versionsAt, found] at newest

section Blobs
variable (tidy : w.remote.Tidy) (sized : c.store.Sized) (spared : c.Spared .listPage w)
  (there : w.remote.hasBucket c.store.bucket = true)
  (heads_at : Heads w.remote c.store.bucket (stem.getD "") none heads)
  (keyed : ∀ h ∈ heads, h.1 ≠ "")
include tidy sized spared there heads_at keyed

theorem runFrom_listed : (BlobStorage.Listing.blobs c.adapter { stem }).runFrom w =
    (.ok ⟨heads.map fun h => infoOf h.1 h.2, .complete⟩, w) := by
  obtain ⟨bucket, found⟩ := there_of_hasBucket there
  have pulled := runFrom_pull (harmless_guardOf c.plans) (runFrom_guardOf spared none) found
    (tidy.bucket _ bucket found) sized.pages heads_at keyed (length_lt_pageBound tidy heads_at)
  exact (Action.runFrom_bind_ok (Action.runFrom_get w) _).trans pulled

theorem runFrom_blobs : (c.client.blobs { stem } none).runFrom w =
    (.ok ⟨heads.map fun h => infoOf h.1 h.2, .complete⟩, w) := by
  have listed := runFrom_listed tidy sized spared there heads_at keyed
  unfold BucketClient.blobs
  rw [BlobStorage.Listing.blobs_listingIn, bind_map_left]
  exact (Action.runFrom_bind_ok listed _).trans rfl

end Blobs

theorem status_of_version {s : Backend} {bucket key : String} {f : Fault}
    (missing : s.version bucket key none = .error f) :
    f.status = 404 ∧ s.versionsAt bucket key = [] := by
  unfold Backend.version Backend.bucket at missing
  cases found : s.buckets.get? bucket with
  | none =>
      rw [found] at missing
      cases missing
      exact ⟨rfl, by simp [Backend.versionsAt, found]⟩
  | some b =>
      rw [found] at missing
      change b.version key none = .error f at missing
      rw [Backend.versionsAt_of_get? found]
      unfold Bucket.version at missing
      cases last : (b.versions key).getLast? with
      | none =>
          rw [last] at missing
          cases missing
          exact ⟨rfl, List.getLast?_eq_none_iff.mp last⟩
      | some v =>
          rw [last] at missing
          cases missing

theorem runFrom_objectExists (spared : c.Spared .objectExists w) {key : String} (named : key ≠ "") :
    (Call.perform c (.objectExists ⟨key, none⟩)).run.runFrom w =
      (.ok (.yes !(w.remote.versionsAt c.store.bucket key).isEmpty), w) := by
  refine (BucketClient.runFrom_call_ok_iff ..).mpr ?_
  have asked : (c.adapter.objectExists ⟨key, none⟩).runFrom w =
      (.ok !(w.remote.versionsAt c.store.bucket key).isEmpty, w) := by
    refine (Action.runFrom_bind_ok (runFrom_guardOf spared _) _).trans ?_
    rw [Store.runFrom_see]
    cases looked : w.remote.version c.store.bucket key none with
    | ok v =>
        have newest := (Backend.version_eq_ok_iff ..).mp looked
        have nonempty := List.ne_nil_of_mem (Version.chosen?_mem newest)
        rw [List.isEmpty_eq_false_iff.mpr nonempty]
        rfl
    | error f =>
        obtain ⟨status, nothing⟩ := status_of_version looked
        rw [nothing]
        dsimp only
        rw [if_pos status]
        rfl
  change (Answer.yes <$> BlobStorage.Store.objectExists c.adapter ⟨key, none⟩).runFrom w = _
  unfold BlobStorage.Store.objectExists
  rw [Action.runFrom_map, BlobStorage.Store.runFrom_check_bind_ok
    ((Check.key_eq_ok_iff _).mpr named), asked]
  rfl

end Caller
end BlobStorage.Memory
