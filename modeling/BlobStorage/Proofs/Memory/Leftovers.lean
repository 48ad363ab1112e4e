import BlobStorage.Proofs.Memory.Batching
import BlobStorage.Proofs.Memory.Removable

/-!
What is left when a directory has been deleted and no batch has failed. The batches aim at the newest
version of each key, so a key loses that version and keeps the older ones: nothing is left exactly
where no key had more than one version.
-/
namespace BlobStorage.Memory
open Directory Memory.Listing

def Under (stem : Option String) (key : String) : Prop :=
  (stem.getD "").toList.isPrefixOf key.toList = true

/-- What a deletion has left of the state from which it started. -/
structure Leftovers (c : Caller) (stem : Option String) (w w' : World Backend) : Prop where
  older : ∀ key, Under stem key → w'.remote.versionsAt c.store.bucket key =
    (w.remote.versionsAt c.store.bucket key).dropLast
  outside : ∀ key, ¬ Under stem key →
    w'.remote.versionsAt c.store.bucket key = w.remote.versionsAt c.store.bucket key
  elsewhere : ∀ bucket key, bucket ≠ c.store.bucket →
    w'.remote.versionsAt bucket key = w.remote.versionsAt bucket key
  /-- Whoever asks for a key under the stem finds it if it had more than one version. -/
  found : ∀ (o : Caller) key, o.store.bucket = c.store.bucket → o.Spared .objectExists w' →
    key ≠ "" → Under stem key → (Call.perform o (.objectExists ⟨key, none⟩)).run.runFrom w' =
      (.ok (.yes (decide (1 < (w.remote.versionsAt c.store.bucket key).length))), w')
  /-- Whoever lists the stem is given nothing exactly if no key had more than one version. -/
  listed : ∀ o : Caller, o.store.bucket = c.store.bucket → o.store.Sized → o.Spared .listPage w' →
    ∃ delivered, (o.client.blobs { stem } none).runFrom w' = (.ok ⟨delivered, .complete⟩, w') ∧
      (delivered = [] ↔
        ∀ key, Under stem key → (w.remote.versionsAt c.store.bucket key).length ≤ 1)

/-- What deleting a directory without a failed batch does, from one state. -/
structure LeftoverLaws (w : World Backend) : Prop where
  /-- No batch fails where no failure is planned and no version under the stem is locked. -/
  succeeds : ∀ (c : Caller) stem pace turns, c.store.Sized → c.plans = none →
    w.remote.hasBucket c.store.bucket = true →
    (∀ key, Under stem key → ∀ v ∈ w.remote.versionsAt c.store.bucket key, ∀ now,
      v.isLocked now = false) →
    ∃ d w', (c.deleting stem pace turns).runFrom w = (.ok d, w') ∧ d.failed = []
  leaves : ∀ (c : Caller) stem pace turns d w', c.store.Sized →
    (c.deleting stem pace turns).runFrom w = (.ok d, w') → d.failed = [] → Leftovers c stem w w'

section Removed
variable {s t : Backend} {bucket stem : String} {heads : List (String × Version)}
  {gone : List (String × String)} (heads_at : Heads s bucket stem none heads)
include heads_at

theorem named_mem_heads (key id : String) :
    named (key, id) ∈ heads.map aim ↔ stem.toList.isPrefixOf key.toList = true ∧
      ∃ v, (s.versionsAt bucket key).getLast? = some v ∧ v.id = id := by
  rw [List.mem_map]
  constructor
  · rintro ⟨head, listed, same⟩
    simp only [named_aim, named, Target.mk.injEq, Reported.known.injEq, Option.some.injEq] at same
    obtain ⟨rfl, rfl⟩ := same
    obtain ⟨under, _, newest⟩ := (heads_at.mem head.1 head.2).mp listed
    exact ⟨under, head.2, newest, rfl⟩
  · rintro ⟨under, v, newest, rfl⟩
    refine ⟨(key, v), (heads_at.mem key v).mpr ⟨under, ?_, newest⟩, rfl⟩
    intro _ place
    cases place

variable (removed : Removed bucket gone s t)
  (aimed : ∀ i, i ∈ gone ↔ named i ∈ heads.map aim) {key : String}
include removed aimed

/-- Where all heads are gone and nothing else, each key is left with its older versions. -/
theorem versions_of_headless (numbered : s.Numbered)
    (under : stem.toList.isPrefixOf key.toList = true) :
    t.versionsAt bucket key = (s.versionsAt bucket key).dropLast := by
  rw [removed.versions]
  cases last : (s.versionsAt bucket key).getLast? with
  | none => simp [List.getLast?_eq_none_iff.mp last]
  | some v =>
      obtain ⟨older, split⟩ := List.getLast?_eq_some_iff.mp last
      have ascending := numbered.ascending bucket key
      rw [split, List.pairwise_append] at ascending
      have newest : (key, v.id) ∈ gone :=
        (aimed _).mpr ((named_mem_heads heads_at key v.id).mpr ⟨under, v, last, rfl⟩)
      have kept : older.filter (fun u => decide ((key, u.id) ∉ gone)) = older := by
        rw [List.filter_eq_self]
        intro u hu
        rw [decide_eq_true_eq, aimed, named_mem_heads heads_at]
        rintro ⟨_, v', latest, same⟩
        cases last.symm.trans latest
        have lt := ascending.2.2 u hu v (List.mem_singleton_self v)
        exact Nat.ne_of_lt lt (Version.id_inj.mp same).symm
      rw [split, List.dropLast_concat, List.filter_append, kept,
        List.filter_cons_of_neg (by simpa using newest), List.filter_nil, List.append_nil]

theorem versions_of_headless_outside (outside : ¬ stem.toList.isPrefixOf key.toList = true) :
    t.versionsAt bucket key = s.versionsAt bucket key := by
  refine removed.untouched ?_
  rintro i hi rfl
  exact outside ((named_mem_heads heads_at i.1 i.2).mp ((aimed i).mp hi)).1

end Removed

theorem not_isEmpty_dropLast (versions : List Version) :
    (!versions.dropLast.isEmpty) = decide (1 < versions.length) := by
  rcases versions with _ | ⟨first, _ | ⟨second, rest⟩⟩ <;> simp

section Clean
variable {c : Caller} (plain : c.plans = none) (limited : 0 < c.store.deleteLimit.toNat)
  {w w' : World Backend} {runs : List BatchOutcome}
include plain limited

theorem clean_of_carried (h : Queue.Carried (deleteBatch c.adapter) w runs w')
    (tidy : w.remote.Tidy) (removable : Removable c.store.bucket (runs.flatMap (·.1)) w.remote) :
    ∀ r ∈ runs, r.2 = none := by
  have passes (p : Primitive) (key : Option String) (w : World Backend) :
      (guardOf c.plans p key).runFrom w = (.ok (), w) := by
    rw [plain]
    rfl
  induction h with
  | nil => simp
  | @step w w₁ w' batch outcome runs ran later ih =>
      rw [List.flatMap_cons, unit_of_deleteBatch ran] at removable
      have now := removable.subset (List.subset_append_left ..)
      have rest := removable.subset (List.subset_append_right ..)
      obtain ⟨w₂, succeeded⟩ := Store.deleteBatch_succeeds passes limited tidy now
      cases ran.symm.trans succeeded
      obtain ⟨_, gone, removed, _⟩ :=
        removes_deleteBatch (harmless_guardOf c.plans) now.named_of_mem tidy ran
      have others := ih removed.tidy (rest.removed removed)
      exact List.forall_mem_cons.mpr ⟨rfl, others⟩

theorem Attempted.clean (h : Attempted c w runs w') (tidy : w.remote.Tidy)
    (removable : Removable c.store.bucket (runs.flatMap (·.1)) w.remote) :
    ∀ r ∈ runs, r.2 = none := by
  induction h with
  | start => simp
  | fetched _ ih => exact ih removable
  | @tried runs batch result w₁ w₂ before ran ih =>
      rw [List.flatMap_append] at removable
      have earlier := removable.subset (List.subset_append_left ..)
      have later := removable.subset (List.subset_append_right ..)
      obtain ⟨gone, removed, _⟩ := before.removes earlier.named_of_mem tidy
      have second := clean_of_carried plain limited (.step (runFrom_deleteBatch ran) (.nil _))
        removed.tidy (later.removed removed)
      exact List.forall_mem_append.mpr ⟨ih earlier, second⟩

end Clean

section State
variable {w w' : World Backend} (sound : w.remote.Sound) {c : Caller} {stem : Option String}
  {d : DirectoryDeletion} {heads : List (String × Version)} {outcomes runs : List BatchOutcome}

theorem Accounted.mem_targets (h : Accounted c stem w w' d heads outcomes runs) (t : Target) :
    t ∈ runs.flatMap (·.1) ↔ t ∈ heads.map aim := by
  rw [(h.once.flatMap_right _).mem_iff, ← h.batches.whole, List.flatMap_def]

theorem Accounted.clean_iff (h : Accounted c stem w w' d heads outcomes runs) :
    d.failed = [] ↔ ∀ r ∈ runs, r.2 = none := by
  have nothing : d.failed = [] ↔ failing outcomes = [] := by
    rw [← List.map_eq_nil_iff (f := FailedDelete.targets), h.failed, List.map_eq_nil_iff]
  rw [nothing, failing_eq_nil_iff]
  exact forall_congr' fun r => by rw [h.once.mem_iff]

include sound

theorem clean_of_unlocked (sized : c.store.Sized) (plain : c.plans = none)
    (there : w.remote.hasBucket c.store.bucket = true)
    (unlocked : ∀ key, Under stem key → ∀ v ∈ w.remote.versionsAt c.store.bucket key, ∀ now,
      v.isLocked now = false) (pace : Pace) (turns : Turns) :
    ∃ d w', (c.deleting stem pace turns).runFrom w = (.ok d, w') ∧ d.failed = [] := by
  have spared : c.Spared .listPage w := spared_of_plain plain _ w
  obtain ⟨d, w', run⟩ := account_of_spared sound stem pace turns sized spared there
  obtain ⟨heads, outcomes, runs, accounted⟩ := accounted_of_deleting sound sized run
  refine ⟨d, w', run, accounted.clean_iff.mpr ?_⟩
  obtain ⟨w₁, attempted, _⟩ := accounted.attempted
  refine attempted.clean plain sized.batches sound.tidy ⟨there, ?_, ?_⟩
  · intro t ht
    obtain ⟨head, listed, rfl⟩ := List.mem_map.mp ((accounted.mem_targets t).mp ht)
    exact ⟨_, named_aim head, sound.versions.keyed_heads accounted.heads_at head listed⟩
  · intro i hi v hv _
    have listed := (accounted.mem_targets _).mp hi
    exact unlocked i.1 ((named_mem_heads accounted.heads_at i.1 i.2).mp listed).1 v hv

variable (h : Accounted c stem w w' d heads outcomes runs) (fine : d.failed = [])
include h fine

theorem Accounted.removed :
    ∃ gone, Removed c.store.bucket gone w.remote w'.remote ∧
      ∀ i, i ∈ gone ↔ named i ∈ heads.map aim := by
  obtain ⟨w₁, attempted, same⟩ := h.attempted
  obtain ⟨gone, removed, only, whole⟩ :=
    attempted.removes (fun t ht => exists_named ((h.mem_targets t).mp ht)) sound.tidy
  rw [same]
  refine ⟨gone, removed, fun i => ?_⟩
  rw [← h.mem_targets]
  exact ⟨only i, whole (h.clean_iff.mp fine) i⟩

theorem Accounted.leftovers : Leftovers c stem w w' := by
  obtain ⟨gone, removed, aimed⟩ := h.removed sound fine
  have older (key : String) (under : Under stem key) : w'.remote.versionsAt c.store.bucket key =
      (w.remote.versionsAt c.store.bucket key).dropLast :=
    versions_of_headless h.heads_at removed aimed sound.versions under
  refine ⟨older, ?_, ?_, ?_, ?_⟩
  · intro key outside
    exact versions_of_headless_outside h.heads_at removed aimed outside
  · intro bucket key other
    exact removed.elsewhere bucket key other
  · intro o key same spared keyed under
    rw [runFrom_objectExists spared keyed, same, older key under, not_isEmpty_dropLast]
  · intro o same sized spared
    obtain ⟨left, left_at⟩ := exists_heads removed.tidy o.store.bucket (stem.getD "")
    have there : w'.remote.hasBucket o.store.bucket = true := by
      rw [same, removed.there, h.there]
    have keyed (head : String × Version) (listed : head ∈ left) : head.1 ≠ "" := by
      have newest := List.mem_of_getLast? ((left_at.mem head.1 head.2).mp listed).2.2
      rw [same, removed.versions] at newest
      exact sound.versions.keyed _ _ _ (List.mem_of_mem_filter newest)
    refine ⟨_, runFrom_blobs removed.tidy sized spared there left_at keyed, ?_⟩
    rw [List.map_eq_nil_iff, left_at.eq_nil_iff, same]
    refine forall_congr' fun key => forall_congr' fun under => ?_
    rw [older key under, ← List.length_eq_zero_iff, List.length_dropLast]
    omega

end State

theorem leftovers_of_run (signingKey : Content) (now : Moment) (files : FileTree)
    (interceptions : List Interception) (calls : List Call) :
    LeftoverLaws (after { remote := Backend.fresh signingKey now, files, interceptions } calls) := by
  have sound := sound_after (Backend.sound_fresh signingKey now) calls
    (w := { remote := Backend.fresh signingKey now, files, interceptions })
  refine ⟨?_, ?_⟩
  · intro c stem pace turns sized plain there unlocked
    exact clean_of_unlocked sound sized plain there unlocked pace turns
  · intro c stem pace turns d w' sized run fine
    obtain ⟨heads, outcomes, runs, accounted⟩ := accounted_of_deleting sound sized run
    exact accounted.leftovers sound fine

end BlobStorage.Memory
