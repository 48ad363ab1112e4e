import BlobStorage.Proofs.Memory.Run

/-!
What a change may do to a version that is there: a deletion removes it unless it is locked, its retention
and its legal hold change only where they are set, and everything else about it stays. The clock moves
only when it is set.
-/
namespace BlobStorage.Memory
namespace Backend
variable {s t : Backend} {bucket key : String} {v : Version}

/-- The version as a change leaves it. -/
structure Endured (s : Backend) (bucket key : String) (c : Change) (v u : Version) : Prop where
  bare : u.bare = v.bare
  retention : u.retention = v.retention ∨
    ∃ id r, c = .setRetention bucket key id r ∧ u.retention = some r ∧
      Version.chosen? (s.versionsAt bucket key) id = some v
  legalHold : u.legalHold = v.legalHold ∨
    ∃ id, c = .setLegalHold bucket key id u.legalHold ∧
      Version.chosen? (s.versionsAt bucket key) id = some v

theorem Endured.same (c : Change) (v : Version) : Endured s bucket key c v v :=
  ⟨rfl, .inl rfl, .inl rfl⟩

theorem mem_of_amend (sound : s.Sound) {b k : String} {id : Option String}
    {change : Version → Version} (h : s.amend b k id change = .ok t)
    (hv : v ∈ s.versionsAt bucket key) :
    v ∈ t.versionsAt bucket key ∨
      bucket = b ∧ key = k ∧ Version.chosen? (s.versionsAt bucket key) id = some v ∧
        change v ∈ t.versionsAt bucket key := by
  obtain ⟨w, chosen, rewritten⟩ := rewritten_of_amend sound.tidy h
  rw [rewritten bucket key]
  by_cases here : bucket = b ∧ key = k
  · obtain ⟨rfl, rfl⟩ := here
    rw [if_pos ⟨rfl, rfl⟩]
    by_cases same : v.number = w.number
    · obtain ⟨_, _, rfl⟩ := sound.versions.unique hv (Version.chosen?_mem chosen) same
      exact .inr ⟨rfl, rfl, chosen, List.mem_map.mpr ⟨v, hv, if_pos rfl⟩⟩
    · exact .inl (List.mem_map.mpr ⟨v, hv, if_neg same⟩)
  · rw [if_neg here]
    exact .inl hv

theorem mem_of_delete (tidy : s.Tidy) {b k : String} {id : Option String}
    (h : s.delete b k id = .ok t) (hv : v ∈ s.versionsAt bucket key)
    (locked : bucket = b → key = k → v.isLocked s.now = true) : v ∈ t.versionsAt bucket key := by
  rw [rewritten_of_delete tidy h bucket key]
  by_cases here : bucket = b ∧ key = k
  · obtain ⟨rfl, rfl⟩ := here
    obtain ⟨b, found, free, _⟩ := (delete_eq_ok_iff ..).mp h
    rw [versionsAt_of_get? found] at hv ⊢
    rw [if_pos ⟨rfl, rfl⟩]
    refine List.mem_filter.mpr ⟨hv, ?_⟩
    by_contra target
    have released := free v hv (by simpa using target)
    rw [locked rfl rfl] at released
    cases released
  · rw [if_neg here]
    exact hv

theorem endures_of_apply (sound : s.Sound) {c : Change} (h : c.apply s = .ok t)
    (hv : v ∈ s.versionsAt bucket key)
    (locked : ∀ id, c = .delete bucket key id → v.isLocked s.now = true)
    (stands : c ≠ .deleteBucket bucket) :
    ∃ u ∈ t.versionsAt bucket key, Endured s bucket key c v u := by
  have tidy := sound.tidy
  have stays (same : SameVersions s t) : ∃ u ∈ t.versionsAt bucket key, Endured s bucket key c v u :=
    ⟨v, by rw [same]; exact hv, .same c v⟩
  have written {b k : String} {x : Version} (added : Appended s t b k x) :
      ∃ u ∈ t.versionsAt bucket key, Endured s bucket key c v u :=
    ⟨v, (added.mem_iff bucket key v).mpr (.inl hv), .same c v⟩
  have amended {b k : String} {id : Option String} {change : Version → Version}
      (made : s.amend b k id change = .ok t)
      (changed : bucket = b → key = k → Version.chosen? (s.versionsAt bucket key) id = some v →
        Endured s bucket key c v (change v)) :
      ∃ u ∈ t.versionsAt bucket key, Endured s bucket key c v u := by
    rcases mem_of_amend sound made hv with old | ⟨hb, hk, chosen, new⟩
    · exact ⟨v, old, .same c v⟩
    · exact ⟨change v, new, changed hb hk chosen⟩
  cases c with
  | store b k draft =>
      obtain ⟨⟨x, t'⟩, stored, rfl⟩ := map_eq_ok_iff.mp h
      exact written (appended_of_store tidy stored)
  | copy srcBucket srcKey srcId b k =>
      obtain ⟨⟨x, t'⟩, copied, rfl⟩ := map_eq_ok_iff.mp h
      obtain ⟨source, _, stored⟩ := (copy_eq_ok_iff ..).mp copied
      exact written (appended_of_store tidy stored)
  | completeUpload b token parts =>
      obtain ⟨⟨x, t'⟩, completed, rfl⟩ := map_eq_ok_iff.mp h
      exact written (appended_of_completeUpload tidy completed)
  | delete b k id =>
      refine ⟨v, mem_of_delete tidy h hv ?_, .same _ v⟩
      rintro rfl rfl
      exact locked id rfl
  | setTags b k tags => exact amended h fun _ _ _ => ⟨rfl, .inl rfl, .inl rfl⟩
  | setRetention b k id r =>
      refine amended h ?_
      rintro rfl rfl chosen
      exact ⟨rfl, .inr ⟨id, r, rfl, rfl, chosen⟩, .inl rfl⟩
  | setLegalHold b k id hold =>
      refine amended h ?_
      rintro rfl rfl chosen
      exact ⟨rfl, .inl rfl, .inr ⟨id, rfl, chosen⟩⟩
  | takeNumber =>
      cases h
      exact stays fun _ _ => rfl
  | openUpload b r =>
      have opened := uploaded_of_openUpload (tidy.withNumber _) h
      exact stays fun b k => (opened.versions b k).trans rfl
  | putPart b token number data =>
      obtain ⟨_, _, _, _, put⟩ := uploaded_of_putPart tidy h
      exact stays put.versions
  | abortUpload b token =>
      obtain ⟨_, _, _, _, gone⟩ := uploaded_of_abortUpload tidy h
      exact stays gone.versions
  | createBucket name region => exact stays (unmoved_of_createBucket tidy h).versions
  | ensureBucket name region =>
      cases h
      exact stays (unmoved_ensureBucket tidy name region).versions
  | deleteBucket name =>
      cases h
      have other : name ≠ bucket := fun same => stands (congrArg _ same)
      refine ⟨v, ?_, .same _ v⟩
      rw [versionsAt_deleteBucket, if_neg other]
      exact hv
  | setClock now =>
      cases h
      exact stays fun _ _ => rfl

/-- The signing key never changes, and the clock only when it is set. -/
theorem frame_of_apply {c : Change} (h : c.apply s = .ok t) :
    t.signingKey = s.signingKey ∧ ((∀ now, c ≠ .setClock now) → t.now = s.now) := by
  have framed {t : Backend} (key : t.signingKey = s.signingKey) (now : t.now = s.now) :
      t.signingKey = s.signingKey ∧ ((∀ now, c ≠ .setClock now) → t.now = s.now) :=
    ⟨key, fun _ => now⟩
  have stored {b k : String} {draft : Draft} {x : Version} {t : Backend}
      (made : s.store b k draft = .ok (x, t)) : t.signingKey = s.signingKey ∧ t.now = s.now := by
    obtain ⟨_, _, _, rfl⟩ := (store_eq_ok_iff ..).mp made
    exact ⟨rfl, rfl⟩
  have amended {b k : String} {id : Option String} {change : Version → Version}
      (made : s.amend b k id change = .ok t) : t.signingKey = s.signingKey ∧ t.now = s.now := by
    obtain ⟨_, _, _, _, rfl⟩ := (amend_eq_ok_iff ..).mp made
    exact ⟨rfl, rfl⟩
  cases c with
  | store b k draft =>
      obtain ⟨⟨x, t'⟩, made, rfl⟩ := map_eq_ok_iff.mp h
      exact framed (stored made).1 (stored made).2
  | copy srcBucket srcKey srcId b k =>
      obtain ⟨⟨x, t'⟩, copied, rfl⟩ := map_eq_ok_iff.mp h
      obtain ⟨source, _, made⟩ := (copy_eq_ok_iff ..).mp copied
      exact framed (stored made).1 (stored made).2
  | completeUpload b token parts =>
      obtain ⟨⟨x, t'⟩, completed, rfl⟩ := map_eq_ok_iff.mp h
      obtain ⟨_, _, _, _, _, _, _, _, _, made, _, rfl⟩ := (completeUpload_eq_ok_iff ..).mp completed
      have same := stored made
      exact framed same.1 same.2
  | delete b k id =>
      obtain ⟨_, _, _, rfl⟩ := (delete_eq_ok_iff ..).mp h
      exact framed rfl rfl
  | setTags | setRetention | setLegalHold => exact framed (amended h).1 (amended h).2
  | openUpload b r =>
      obtain ⟨_, _, rfl⟩ := (openUpload_eq_ok_iff ..).mp h
      exact framed rfl rfl
  | putPart b token number data =>
      obtain ⟨_, _, _, _, rfl⟩ := (putPart_eq_ok_iff ..).mp h
      exact framed rfl rfl
  | abortUpload b token =>
      obtain ⟨_, _, _, _, rfl⟩ := (abortUpload_eq_ok_iff ..).mp h
      exact framed rfl rfl
  | createBucket name region =>
      change s.createBucket name region = .ok t at h
      unfold createBucket at h
      split at h <;> cases h
      exact framed rfl rfl
  | ensureBucket name region =>
      cases h
      unfold ensureBucket
      split <;> exact framed rfl rfl
  | takeNumber | deleteBucket =>
      cases h
      exact framed rfl rfl
  | setClock now =>
      cases h
      exact ⟨rfl, fun still => absurd rfl (still now)⟩

theorem now_of_apply {c : Change} (h : c.apply s = .ok t) (still : ∀ now, c ≠ .setClock now) :
    t.now = s.now :=
  (frame_of_apply h).2 still

end Backend
end BlobStorage.Memory
