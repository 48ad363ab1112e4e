import BlobStorage.Proofs.Memory.Download

/-!
The versions of a backend that many stores share, over a whole run of calls. Each identifier stands for
one version for good, the list of a key is in the order in which its versions were written, and what a
version holds never changes and can be downloaded for as long as the version is there.
-/
namespace BlobStorage.Memory

/-- What a run does with versions, at every moment of it. -/
structure VersionLaws (w : World Backend) (calls : List Call) : Prop where
  /-- An identifier stands for one version of one key of one bucket, and for one content. -/
  identified : ∀ i j bucket key v bucket' key' v',
    v ∈ (moment w calls i).versionsAt bucket key →
    v' ∈ (moment w calls j).versionsAt bucket' key' → v.id = v'.id →
    bucket = bucket' ∧ key = key' ∧ v.bare = v'.bare
  /-- An identifier that is found at two moments is found at each between them: once its version is
  removed, it is never given out again. -/
  lasting : ∀ i j k bucket key v v', i ≤ j → j ≤ k →
    v ∈ (moment w calls i).versionsAt bucket key →
    v' ∈ (moment w calls k).versionsAt bucket key → v.id = v'.id →
    ∃ u ∈ (moment w calls j).versionsAt bucket key, u.id = v.id
  /-- A version that was not there yet has a later number than all that were. -/
  later : ∀ i j bucket key v bucket' key' v', i ≤ j →
    v ∈ (moment w calls i).versionsAt bucket key →
    v' ∈ (moment w calls j).versionsAt bucket' key' →
    (∀ u ∈ (moment w calls i).versionsAt bucket' key', u.id ≠ v'.id) → v.number < v'.number
  /-- The numbers of a list ascend, so that its last version is the latest to be written. -/
  ascending : ∀ i bucket key,
    ((moment w calls i).versionsAt bucket key).Pairwise fun v v' => v.number < v'.number
  /-- A key that a bucket knows has versions. -/
  inhabited : ∀ i bucket b key versions, (moment w calls i).buckets.get? bucket = some b →
    (key, versions) ∈ b.objects → versions ≠ []
  /-- Whoever downloads a version that is there, and wherever to, is given its bytes, if anything. -/
  intact : ∀ i bucket key v (c : Caller) destination x w',
    v ∈ (moment w calls i).versionsAt bucket key → c.store.bucket = bucket →
    ((Call.perform c (.download { key, version := v.id } destination)).run).runFrom
        (after w (calls.take i)) = (.ok x, w') →
    ∃ d, x = .downloaded d ∧ d.bytes? = some v.data
  /-- And it is given, where no failure is planned and the destination takes it. -/
  available : ∀ i bucket key v (c : Caller) destination,
    v ∈ (moment w calls i).versionsAt bucket key → c.store.bucket = bucket → c.plans = none →
    destination.TakesAll →
    ∃ x, ((Call.perform c (.download { key, version := v.id } destination)).run).runFrom
      (after w (calls.take i)) = (.ok x, after w (calls.take i))
  /-- An upload, a copy or a completion that succeeds adds one version to one key, and its answer
  names the version. -/
  written : ∀ i c command bucket key x w', calls[i]? = some (.perform c command) →
    target c.store command = some (bucket, key) →
    ((Call.perform c command).run).runFrom (after w (calls.take i)) = (.ok x, w') →
    ∃ v, Backend.Appended (moment w calls i) (moment w calls (i + 1)) bucket key v ∧
      Memory.written x = some (.known v.id) ∧
      ∀ j bucket' key' u, j ≤ i → u ∈ (moment w calls j).versionsAt bucket' key' → u.id ≠ v.id
  /-- One that fails changes nothing. -/
  unwritten : ∀ i c command bucket key e w', calls[i]? = some (.perform c command) →
    target c.store command = some (bucket, key) →
    ((Call.perform c command).run).runFrom (after w (calls.take i)) = (.error e, w') →
    moment w calls (i + 1) = moment w calls i
  /-- No other call adds versions, but for the upload of a directory, which is many uploads. -/
  thinned : ∀ i call, calls[i]? = some call →
    (∀ c command, call = .perform c command → target c.store command = none) →
    (∀ c request, call ≠ .perform c (.uploadDirectory request)) →
    Backend.Thinned (moment w calls i) (moment w calls (i + 1))

section Run
variable {w : World Backend} (sound : w.remote.Sound) (calls : List Call)
include sound

theorem sound_moment (i : Nat) : (moment w calls i).Sound :=
  sound_after sound _

theorem grown_moment {i j : Nat} (le : i ≤ j) :
    Backend.Grown (moment w calls i) (moment w calls j) :=
  Backend.Evolves.grown (sound_moment sound calls i) (evolves_moment w calls le)

/-- A version of a later moment whose number was given out before is there at the earlier moment. -/
theorem there_before {i j : Nat} (le : i ≤ j) {bucket key : String} {v : Version}
    (hv : v ∈ (moment w calls j).versionsAt bucket key)
    (given : v.number < (moment w calls i).nextNumber) :
    ∃ u ∈ (moment w calls i).versionsAt bucket key, u.bare = v.bare := by
  cases (grown_moment sound calls le).mem hv with
  | inl old => exact old
  | inr new => exact absurd given (Nat.not_lt.mpr new)

theorem identified_of_le {i j : Nat} (le : i ≤ j) {bucket key bucket' key' : String}
    {v v' : Version} (hv : v ∈ (moment w calls i).versionsAt bucket key)
    (hv' : v' ∈ (moment w calls j).versionsAt bucket' key') (same : v.number = v'.number) :
    bucket = bucket' ∧ key = key' ∧ v.bare = v'.bare := by
  have numbered := (sound_moment sound calls i).versions
  obtain ⟨u, hu, bare⟩ := there_before sound calls le hv'
    (same ▸ numbered.issued bucket key v hv)
  obtain ⟨hb, hk, rfl⟩ := numbered.unique hv hu
    (same.trans (Version.number_of_bare bare).symm)
  exact ⟨hb, hk, bare⟩

theorem lasting_of_le {i j k : Nat} (ij : i ≤ j) (jk : j ≤ k) {bucket key : String}
    {v v' : Version} (hv : v ∈ (moment w calls i).versionsAt bucket key)
    (hv' : v' ∈ (moment w calls k).versionsAt bucket key) (same : v.number = v'.number) :
    ∃ u ∈ (moment w calls j).versionsAt bucket key, u.number = v.number := by
  have given : v.number < (moment w calls j).nextNumber :=
    Nat.lt_of_lt_of_le ((sound_moment sound calls i).versions.issued bucket key v hv)
      (grown_moment sound calls ij).next
  obtain ⟨u, hu, bare⟩ := there_before sound calls jk hv' (same ▸ given)
  exact ⟨u, hu, (Version.number_of_bare bare).trans same.symm⟩

theorem later_of_le {i j : Nat} (le : i ≤ j) {bucket key bucket' key' : String} {v v' : Version}
    (hv : v ∈ (moment w calls i).versionsAt bucket key)
    (hv' : v' ∈ (moment w calls j).versionsAt bucket' key')
    (new : ∀ u ∈ (moment w calls i).versionsAt bucket' key', u.number ≠ v'.number) :
    v.number < v'.number := by
  cases (grown_moment sound calls le).mem hv' with
  | inl old =>
      obtain ⟨u, hu, bare⟩ := old
      exact absurd (Version.number_of_bare bare) (new u hu)
  | inr fresh =>
      exact Nat.lt_of_lt_of_le ((sound_moment sound calls i).versions.issued bucket key v hv) fresh

theorem intact_of_download {i : Nat} {c : Caller} {key : String} {v : Version}
    {destination : Destination} {x : Answer} {w' : World Backend}
    (hv : v ∈ (moment w calls i).versionsAt c.store.bucket key)
    (run : ((Call.perform c (.download { key, version := v.id } destination)).run).runFrom
      (after w (calls.take i)) = (.ok x, w')) :
    ∃ d, x = .downloaded d ∧ d.bytes? = some v.data := by
  obtain ⟨d, own, rfl⟩ := Action.ok_of_map_ok ((BucketClient.runFrom_call_ok_iff ..).mp run)
  obtain ⟨_, content, ⟨u, found, cut⟩, bytes⟩ :=
    (atomic_download (harmless_guardOf c.plans) _ destination).of_ok own
  have there := (sound_moment sound calls i).versions.version_eq_ok hv
  cases found.symm.trans there
  cases cut
  exact ⟨d, rfl, bytes⟩

theorem available_to_download {i : Nat} {s : Store} {style : CallStyle} {categorizes : Bool}
    {key : String} {v : Version} {destination : Destination}
    (hv : v ∈ (moment w calls i).versionsAt s.bucket key) (takes : destination.TakesAll) :
    ∃ x, ((Call.perform ⟨s, none, style, categorizes⟩
        (.download { key, version := v.id } destination)).run).runFrom (after w (calls.take i)) =
      (.ok x, after w (calls.take i)) := by
  have numbered := (sound_moment sound calls i).versions
  have found : (after w (calls.take i)).remote.version s.bucket key (some v.id) = .ok v :=
    numbered.version_eq_ok hv
  obtain ⟨d, own⟩ := download_succeeds (numbered.keyed _ _ _ hv) rfl found
    (slice_whole v.data key (some v.id)) takes
  refine ⟨.downloaded d, (BucketClient.runFrom_call_ok_iff ..).mpr ?_⟩
  change (Answer.downloaded <$> BlobStorage.Store.download (s.adapter World.unguarded) _ _).runFrom _ = _
  rw [Action.runFrom_map, own]
  rfl

end Run

section Effects
variable {w : World Backend} (sound : w.remote.Sound) (calls : List Call) {i : Nat}

theorem moment_succ {call : Call} (here : calls[i]? = some call) :
    moment w calls (i + 1) = (call.run.runFrom (after w (calls.take i))).2.remote :=
  congrArg World.remote (after_take_succ w here)

theorem atomic_perform {c : Caller} {command : Command} {bucket key : String}
    (writes : target c.store command = some (bucket, key)) :
    Atomic (fun b x b' => b.Tidy → ∃ v, Backend.Appended b b' bucket key v ∧
        written x = some (.known v.id))
      (Call.perform c command).run :=
  BucketClient.atomic_call (readsQuietly c).classify _
    (atomic_run (harmless_guardOf c.plans) c.style writes)

include sound

theorem written_by_perform {c : Caller} {command : Command} {bucket key : String} {x : Answer}
    {w' : World Backend} (here : calls[i]? = some (.perform c command))
    (writes : target c.store command = some (bucket, key))
    (run : ((Call.perform c command).run).runFrom (after w (calls.take i)) = (.ok x, w')) :
    ∃ v, Backend.Appended (moment w calls i) (moment w calls (i + 1)) bucket key v ∧
      written x = some (.known v.id) := by
  have added := (atomic_perform writes).of_ok run (sound_moment sound calls i).tidy
  rw [moment_succ calls here, run]
  exact added

theorem thinned_by_call {call : Call} (here : calls[i]? = some call)
    (quiet : Role.writing ∉ call.roles) :
    Backend.Thinned (moment w calls i) (moment w calls (i + 1)) := by
  refine Backend.Evolves.thinned (sound_moment sound calls i) ?_
  rw [moment_succ calls here]
  refine Backend.Evolves.mono ?_ (leads_call call (after w (calls.take i)))
  intro c kind
  exact ⟨kind.1, fun writes => quiet (writes ▸ kind.2)⟩

end Effects

/-- Only the operations that write, and the upload of a directory, may add versions. -/
theorem writing_of_roles {call : Call} (writes : Role.writing ∈ call.roles) :
    (∃ caller command place, call = .perform caller command ∧
      target caller.store command = some place) ∨
      ∃ caller request, call = .perform caller (.uploadDirectory request) := by
  cases call with
  | perform caller command =>
      cases command with
      | upload | copy | copyFrom | completeUpload => exact .inl ⟨_, _, _, rfl, rfl⟩
      | uploadDirectory request => exact .inr ⟨_, _, rfl⟩
      | _ => simp [Call.roles, roles] at writes
  | _ => simp [Call.roles] at writes

theorem versions_of_run (signingKey : Content) (now : Moment) (files : FileTree)
    (interceptions : List Interception) (calls : List Call) :
    VersionLaws { remote := Backend.fresh signingKey now, files, interceptions } calls := by
  have sound := Backend.sound_fresh signingKey now
  refine ⟨?_, ?_, ?_, ?_, ?_, ?_, ?_, ?_, ?_, ?_⟩
  · intro i j bucket key v bucket' key' v' hv hv' same
    have same := Version.id_inj.mp same
    cases Nat.le_total i j with
    | inl le => exact identified_of_le sound calls le hv hv' same
    | inr le =>
        obtain ⟨hb, hk, bare⟩ := identified_of_le sound calls le hv' hv same.symm
        exact ⟨hb.symm, hk.symm, bare.symm⟩
  · intro i j k bucket key v v' ij jk hv hv' same
    obtain ⟨u, hu, number⟩ := lasting_of_le sound calls ij jk hv hv' (Version.id_inj.mp same)
    exact ⟨u, hu, Version.id_inj.mpr number⟩
  · intro i j bucket key v bucket' key' v' le hv hv' new
    exact later_of_le sound calls le hv hv' fun u hu number => new u hu (Version.id_inj.mpr number)
  · intro i bucket key
    exact (sound_moment sound calls i).versions.ascending bucket key
  · intro i bucket b key versions found listed
    exact ((sound_moment sound calls i).tidy.bucket bucket b found).inhabited key versions listed
  · rintro i bucket key v c destination x w' hv rfl run
    exact intact_of_download sound calls hv run
  · rintro i bucket key v ⟨s, plans, style, categorizes⟩ destination hv rfl rfl takes
    exact available_to_download sound calls hv takes
  · intro i c command bucket key x w' here writes run
    obtain ⟨v, appended, named⟩ := written_by_perform sound calls here writes run
    refine ⟨v, appended, named, ?_⟩
    intro j bucket' key' u le hu same
    have given := Nat.lt_of_lt_of_le
      ((sound_moment sound calls j).versions.issued bucket' key' u hu)
      (grown_moment sound calls le).next
    rw [Version.id_inj.mp same, appended.number] at given
    exact Nat.lt_irrefl _ given
  · intro i c command bucket key e w' here writes run
    rw [moment_succ calls here, run]
    exact (atomic_perform writes).of_error run
  · intro i call here notWriting notDirectory
    refine thinned_by_call sound calls here fun writes => ?_
    cases writing_of_roles writes with
    | inl one =>
        obtain ⟨caller, command, place, made, writes⟩ := one
        rw [notWriting caller command made] at writes
        cases writes
    | inr many =>
        obtain ⟨caller, request, made⟩ := many
        exact notDirectory caller request made

end BlobStorage.Memory
