import BlobStorage.Proofs.Memory.Change
import Mathlib.Data.List.Pairwise

/-!
Chains of changes. Two facts carry every claim about the history of a backend: in a sound backend each
number that was given out stands for one version under one key or for one upload, and along a chain the
versions of a key are only thinned out at the front and extended at the end, with numbers that no
earlier backend of the chain has given out.
-/
namespace BlobStorage.Memory.Backend
variable {s t u : Backend} {allowed : Change → Prop}

/-- Every version has a number that was given out, the numbers of a list ascend, and no number is
found under two keys. -/
structure Numbered (s : Backend) : Prop where
  keyed : ∀ bucket key v, v ∈ s.versionsAt bucket key → key ≠ ""
  ascending : ∀ bucket key, (s.versionsAt bucket key).Pairwise (·.number < ·.number)
  issued : ∀ bucket key v, v ∈ s.versionsAt bucket key → v.number < s.nextNumber
  placed : ∀ bucket key v bucket' key' v', v ∈ s.versionsAt bucket key →
    v' ∈ s.versionsAt bucket' key' → v.number = v'.number → bucket = bucket' ∧ key = key'

/-- Every upload in progress has an identifier that was given out, in one bucket only, and the tags
of its parts are those of their bytes. -/
structure Opened (s : Backend) : Prop where
  keyed : ∀ bucket id w, s.uploadAt bucket id = some w → w.key ≠ ""
  issued : ∀ bucket id w, s.uploadAt bucket id = some w →
    ∃ n, n < s.nextNumber ∧ id = Upload.idOf n
  placed : ∀ bucket bucket' id w w', s.uploadAt bucket id = some w →
    s.uploadAt bucket' id = some w' → bucket = bucket'
  distinct : ∀ bucket id w, s.uploadAt bucket id = some w → w.parts.Distinct
  tagged : ∀ bucket id w number data etag, s.uploadAt bucket id = some w →
    (number, data, etag) ∈ w.parts → etag = etagOf data

/-- What holds of every backend that a chain of changes leads to from a fresh one. -/
structure Sound (s : Backend) : Prop where
  tidy : s.Tidy
  versions : s.Numbered
  uploads : s.Opened

def fresh (signingKey : Content) (now : Moment) : Backend := { signingKey, now }

theorem sound_fresh (signingKey : Content) (now : Moment) : (fresh signingKey now).Sound := by
  have nothing (bucket key : String) : (fresh signingKey now).versionsAt bucket key = [] := rfl
  have none (bucket id : String) : (fresh signingKey now).uploadAt bucket id = Option.none := rfl
  refine ⟨⟨List.nodup_nil, (fun _ _ h => nomatch h), (fun _ _ h => nomatch h)⟩, ?_, ?_⟩
  · constructor <;> simp [nothing]
  · constructor <;> simp [none]

theorem idOf_inj {m n : Nat} : Upload.idOf m = Upload.idOf n ↔ m = n := by
  unfold Upload.idOf
  rw [String.append_right_inj, Number.Numeral.toString_inj]

section Versions

/-- The second backend goes on from the first: of each list some versions are left, in order, and
those that follow them have numbers that the first backend has not given out. -/
structure Grown (s t : Backend) : Prop where
  next : s.nextNumber ≤ t.nextNumber
  lists : ∀ bucket key, ∃ left more, t.versionsAt bucket key = left ++ more ∧
    Version.Kept (s.versionsAt bucket key) left ∧ ∀ v ∈ more, s.nextNumber ≤ v.number

theorem Grown.refl (s : Backend) : Grown s s :=
  ⟨Nat.le_refl _, fun bucket key =>
    ⟨s.versionsAt bucket key, [], by simp, .refl _, by simp⟩⟩

theorem Grown.trans (h : Grown s t) (k : Grown t u) : Grown s u := by
  refine ⟨Nat.le_trans h.next k.next, ?_⟩
  intro bucket key
  obtain ⟨left, more, eq, kept, later⟩ := h.lists bucket key
  obtain ⟨left', more', eq', kept', later'⟩ := k.lists bucket key
  rw [eq] at kept'
  obtain ⟨old, new, rfl, keptOld, keptNew⟩ := kept'.append
  refine ⟨old, new ++ more', by rw [eq', List.append_assoc], kept.trans keptOld, ?_⟩
  intro v hv
  rcases List.mem_append.mp hv with hv | hv
  · obtain ⟨w, hw, bare⟩ := keptNew.mem hv
    rw [← Version.number_of_bare bare]
    exact later w hw
  · exact Nat.le_trans h.next (later' v hv)

theorem Grown.mem (h : Grown s t) {bucket key : String} {v : Version}
    (hv : v ∈ t.versionsAt bucket key) :
    (∃ w ∈ s.versionsAt bucket key, w.bare = v.bare) ∨ s.nextNumber ≤ v.number := by
  obtain ⟨left, more, eq, kept, later⟩ := h.lists bucket key
  rw [eq] at hv
  rcases List.mem_append.mp hv with hv | hv
  · exact .inl (kept.mem hv)
  · exact .inr (later v hv)

theorem Thinned.grown (h : Thinned s t) : Grown s t :=
  ⟨h.next, fun bucket key => ⟨_, [], (List.append_nil _).symm, h.kept bucket key, by simp⟩⟩

theorem Thinned.trans (h : Thinned s t) (k : Thinned t u) : Thinned s u :=
  ⟨fun bucket key => (h.kept bucket key).trans (k.kept bucket key), Nat.le_trans h.next k.next⟩

theorem Appended.grown {bucket key : String} {v : Version} (h : Appended s t bucket key v) :
    Grown s t := by
  refine ⟨h.next ▸ Nat.le_succ _, ?_⟩
  intro bucket' key'
  rw [h.rewritten bucket' key']
  split
  · rename_i here
    rw [here.1, here.2]
    exact ⟨_, [v], rfl, .refl _, by simp [h.number]⟩
  · exact ⟨_, [], (List.append_nil _).symm, .refl _, by simp⟩

theorem Appended.mem_iff {bucket key : String} {v : Version} (h : Appended s t bucket key v)
    (bucket' key' : String) (w : Version) :
    w ∈ t.versionsAt bucket' key' ↔
      w ∈ s.versionsAt bucket' key' ∨ bucket' = bucket ∧ key' = key ∧ w = v := by
  rw [h.rewritten bucket' key']
  by_cases here : bucket' = bucket ∧ key' = key
  · simp [here]
  · rw [if_neg here]
    constructor
    · exact .inl
    · rintro (old | ⟨rfl, rfl, _⟩)
      · exact old
      · exact absurd ⟨rfl, rfl⟩ here

theorem grown_of_apply (tidy : s.Tidy) {c : Change} (h : c.apply s = .ok t) : Grown s t := by
  rcases appended_or_thinned tidy h with ⟨_, bucket, key, v, appended, _⟩ | ⟨_, thinned⟩
  · exact appended.grown
  · exact thinned.grown

end Versions

section Numbered

/-- A number stands for one version. -/
theorem Numbered.unique (h : s.Numbered) {bucket key bucket' key' : String} {v v' : Version}
    (hv : v ∈ s.versionsAt bucket key) (hv' : v' ∈ s.versionsAt bucket' key')
    (same : v.number = v'.number) : bucket = bucket' ∧ key = key' ∧ v = v' := by
  obtain ⟨rfl, rfl⟩ := h.placed bucket key v bucket' key' v' hv hv' same
  refine ⟨rfl, rfl, ?_⟩
  by_contra differ
  have apart : (s.versionsAt bucket key).Pairwise fun w w' => w.number ≠ w'.number :=
    (h.ascending bucket key).imp Nat.ne_of_lt
  have symmetric : Std.Symm fun w w' : Version => w.number ≠ w'.number := ⟨fun _ _ => Ne.symm⟩
  exact apart.forall hv hv' differ same

theorem Numbered.thinned (h : s.Numbered) (thin : Thinned s t) : t.Numbered := by
  refine ⟨?_, ?_, ?_, ?_⟩
  · intro bucket key v hv
    obtain ⟨w, hw, _⟩ := (thin.kept bucket key).mem hv
    exact h.keyed bucket key w hw
  · intro bucket key
    exact (thin.kept bucket key).pairwise (h.ascending bucket key)
  · intro bucket key v hv
    obtain ⟨w, hw, bare⟩ := (thin.kept bucket key).mem hv
    rw [← Version.number_of_bare bare]
    exact Nat.lt_of_lt_of_le (h.issued bucket key w hw) thin.next
  · intro bucket key v bucket' key' v' hv hv' same
    obtain ⟨w, hw, bare⟩ := (thin.kept bucket key).mem hv
    obtain ⟨w', hw', bare'⟩ := (thin.kept bucket' key').mem hv'
    rw [← Version.number_of_bare bare, ← Version.number_of_bare bare'] at same
    exact h.placed bucket key w bucket' key' w' hw hw' same

theorem Numbered.appended (h : s.Numbered) {bucket key : String} {v : Version}
    (add : Appended s t bucket key v) (named : key ≠ "") : t.Numbered := by
  have old {b k w} (hw : w ∈ s.versionsAt b k) : w.number < v.number := by
    rw [add.number]
    exact h.issued b k w hw
  refine ⟨?_, ?_, ?_, ?_⟩
  · intro b k w hw
    rcases (add.mem_iff b k w).mp hw with hw | ⟨_, rfl, _⟩
    · exact h.keyed b k w hw
    · exact named
  · intro b k
    rw [add.rewritten b k]
    split
    · rw [List.pairwise_append]
      refine ⟨h.ascending bucket key, List.pairwise_singleton _ _, ?_⟩
      intro w hw w' hw'
      rw [List.mem_singleton.mp hw']
      exact old hw
    · exact h.ascending b k
  · intro b k w hw
    rw [add.next]
    rcases (add.mem_iff b k w).mp hw with hw | ⟨_, _, rfl⟩
    · exact Nat.lt_succ_of_lt (h.issued b k w hw)
    · rw [add.number]
      exact Nat.lt_succ_self _
  · intro b k w b' k' w' hw hw' same
    rcases (add.mem_iff b k w).mp hw with hw | ⟨rfl, rfl, rfl⟩ <;>
      rcases (add.mem_iff b' k' w').mp hw' with hw' | ⟨rfl, rfl, rfl⟩
    · exact h.placed b k w b' k' w' hw hw' same
    · exact absurd same (Nat.ne_of_lt (old hw))
    · exact absurd same.symm (Nat.ne_of_lt (old hw'))
    · exact ⟨rfl, rfl⟩

end Numbered

section Opened

theorem Upload.mem_parts_put {u : Upload} (distinct : u.parts.Distinct) {number : Int}
    {data : Content} {n : Int} {d : Content} {e : String}
    (h : (n, d, e) ∈ (u.put number data).parts) :
    (n, d, e) ∈ u.parts ∨ d = data ∧ e = etagOf data := by
  have found := Table.get?_of_mem (distinct.set number (data, etagOf data)) h
  rw [Table.get?_set] at found
  split at found
  · cases found
    exact .inr ⟨rfl, rfl⟩
  · exact .inl (Table.mem_of_get? found)

theorem old_or_opened (tidy : s.Tidy) {c : Change} (made : c.apply s = .ok t) {bucket id : String}
    {w : Upload} (hw : t.uploadAt bucket id = some w) :
    (∃ w', s.uploadAt bucket id = some w') ∨
      id = Upload.idOf s.nextNumber ∧ ∃ r, c = .openUpload bucket r := by
  rcases uploadAt_of_apply tidy made hw with old | ⟨r, opens, named, _, _⟩ |
    ⟨_, _, _, w', _, _, _, old, _⟩
  · exact .inl ⟨w, old⟩
  · exact .inr ⟨named, r, opens⟩
  · exact .inl ⟨w', old⟩

theorem Opened.unissued (h : s.Opened) (bucket : String) :
    s.uploadAt bucket (Upload.idOf s.nextNumber) = none := by
  rcases hw : s.uploadAt bucket (Upload.idOf s.nextNumber) with _ | w
  · rfl
  · obtain ⟨n, hn, same⟩ := h.issued _ _ w hw
    exact absurd (idOf_inj.mp same).symm (Nat.ne_of_lt hn)

theorem Opened.apply (h : s.Opened) (tidy : s.Tidy) {c : Change} (checked : c.Checked)
    (next : s.nextNumber ≤ t.nextNumber) (made : c.apply s = .ok t) : t.Opened := by
  refine ⟨?_, ?_, ?_, ?_, ?_⟩
  · intro bucket id w hw
    rcases uploadAt_of_apply tidy made hw with old | ⟨r, rfl, _, rfl, _⟩ |
      ⟨token, number, data, w', _, _, _, old, rfl⟩
    · exact h.keyed bucket id w old
    · exact checked
    · exact h.keyed bucket id w' old
  · intro bucket id w hw
    rcases uploadAt_of_apply tidy made hw with old | ⟨r, _, named, _, step⟩ |
      ⟨token, number, data, w', _, _, _, old, _⟩
    · obtain ⟨n, hn, named⟩ := h.issued bucket id w old
      exact ⟨n, Nat.lt_of_lt_of_le hn next, named⟩
    · exact ⟨s.nextNumber, step ▸ Nat.lt_succ_self _, named⟩
    · obtain ⟨n, hn, named⟩ := h.issued bucket id w' old
      exact ⟨n, Nat.lt_of_lt_of_le hn next, named⟩
  · intro bucket bucket' id w w' hw hw'
    rcases old_or_opened tidy made hw with ⟨x, old⟩ | ⟨named, r, opens⟩ <;>
      rcases old_or_opened tidy made hw' with ⟨x', old'⟩ | ⟨named', r', opens'⟩
    · exact h.placed bucket bucket' id x x' old old'
    · rw [named', h.unissued] at old
      cases old
    · rw [named, h.unissued] at old'
      cases old'
    · rw [opens] at opens'
      cases opens'
      rfl
  · intro bucket id w hw
    rcases uploadAt_of_apply tidy made hw with old | ⟨r, _, _, rfl, _⟩ |
      ⟨token, number, data, w', _, _, _, old, rfl⟩
    · exact h.distinct bucket id w old
    · exact List.nodup_nil
    · exact (h.distinct bucket id w' old).set _ _
  · intro bucket id w n d e hw hp
    rcases uploadAt_of_apply tidy made hw with old | ⟨r, _, _, rfl, _⟩ |
      ⟨token, number, data, w', _, _, _, old, rfl⟩
    · exact h.tagged bucket id w n d e old hp
    · cases hp
    · rcases Upload.mem_parts_put (h.distinct bucket id w' old) hp with hp | ⟨rfl, rfl⟩
      · exact h.tagged bucket id w' n d e old hp
      · rfl

end Opened

section Chains

/-- One change of an allowed kind leads from the first backend to the second. Which kinds are allowed
may depend on the backend that is changed. -/
def Made (allowed : Backend → Change → Prop) (s t : Backend) : Prop :=
  ∃ c, allowed s c ∧ c.apply s = .ok t

/-- A chain of changes of an allowed kind does. -/
def Proceeds (allowed : Backend → Change → Prop) : Backend → Backend → Prop :=
  Relation.ReflTransGen (Made allowed)

/-- A chain of changes does of which the same kinds are allowed throughout. -/
def Evolves (allowed : Change → Prop) : Backend → Backend → Prop :=
  Proceeds fun _ => allowed

theorem Sound.made (sound : s.Sound) (h : Made (fun _ => Change.Checked) s t) : t.Sound := by
  obtain ⟨c, checked, made⟩ := h
  have grown := grown_of_apply sound.tidy made
  refine ⟨tidy_of_apply sound.tidy made, ?_,
    sound.uploads.apply sound.tidy checked grown.next made⟩
  rcases appended_or_thinned sound.tidy made with ⟨_, bucket, key, v, add, named⟩ | ⟨_, thin⟩
  · exact sound.versions.appended add (named checked)
  · exact sound.versions.thinned thin

theorem Proceeds.mono {narrow wide : Backend → Change → Prop}
    (sub : ∀ s c, narrow s c → wide s c) (h : Proceeds narrow s t) : Proceeds wide s t := by
  refine Relation.ReflTransGen.mono ?_ _ _ h
  intro s t ⟨c, hc, made⟩
  exact ⟨c, sub s c hc, made⟩

theorem Evolves.mono {wider : Change → Prop} (sub : ∀ c, allowed c → wider c)
    (h : Evolves allowed s t) : Evolves wider s t :=
  Proceeds.mono (fun _ => sub) h

theorem Sound.evolves (sound : s.Sound) (h : Evolves Change.Checked s t) : t.Sound := by
  induction h with
  | refl => exact sound
  | tail _ made ih => exact ih.made made

theorem Evolves.grown (sound : s.Sound) (h : Evolves Change.Checked s t) : Grown s t := by
  induction h with
  | refl => exact .refl _
  | tail chain made ih =>
      obtain ⟨c, _, made⟩ := made
      exact ih.trans (grown_of_apply (sound.evolves chain).tidy made)

/-- A chain of changes that write nothing leaves no new version. -/
theorem Evolves.thinned (sound : s.Sound)
    (h : Evolves (fun c => c.Checked ∧ c.role ≠ .writing) s t) : Thinned s t := by
  induction h with
  | refl => exact SameVersions.thinned (fun _ _ => rfl) (Nat.le_refl _)
  | tail chain made ih =>
      obtain ⟨c, ⟨_, quiet⟩, made⟩ := made
      have tidy := (sound.evolves (Evolves.mono (fun _ h => h.1) chain)).tidy
      rcases appended_or_thinned tidy made with ⟨writes, _⟩ | ⟨_, thin⟩
      · exact absurd writes quiet
      · exact ih.trans thin

end Chains

end BlobStorage.Memory.Backend
