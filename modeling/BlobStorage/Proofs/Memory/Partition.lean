import BlobStorage.Proofs.Memory.DeclaredLengths
import BlobStorage.Proofs.Memory.Undisturbed

/-!
A listing with room for everything parts the keys under its stem. A key that has no delimiter after the
stem is shown itself. Every other key is cut after its first delimiter there, and what the cut leaves is
shown once for all keys that start with it. The calls that look at one key agree with the page.
-/
namespace BlobStorage.Memory
namespace Listing

section Places

/-- The delimiter stands at a place of the key that does not come before the end of the stem. -/
def DelimitedAt (stem delimiter key : String) (i : Nat) : Prop :=
  delimiter ≠ "" ∧ stem.length ≤ i ∧ delimiter.toList <+: key.toList.drop i

/-- The key, cut after the first delimiter that does not come before the end of the stem. -/
def CutTo (stem delimiter key name : String) : Prop :=
  ∃ i, DelimitedAt stem delimiter key i ∧ (∀ j < i, ¬ DelimitedAt stem delimiter key j) ∧
    name = String.ofList (key.toList.take (i + delimiter.length))

variable {delimiter cs q : List Char}

theorem throughFirst?_eq_none_iff (nonempty : delimiter ≠ []) :
    throughFirst? delimiter cs = none ↔ ∀ i, ¬ delimiter <+: cs.drop i := by
  induction cs with
  | nil => simp [throughFirst?, nonempty]
  | cons c rest ih =>
      by_cases here : delimiter <+: c :: rest
      · have found := List.isPrefixOf_iff_prefix.mpr here
        simp only [throughFirst?, found, if_true, reduceCtorEq, false_iff]
        exact fun nowhere => nowhere 0 here
      · have passed : ¬ delimiter.isPrefixOf (c :: rest) = true :=
          fun found => here (List.isPrefixOf_iff_prefix.mp found)
        simp only [throughFirst?, if_neg passed, Option.map_eq_none_iff, ih]
        constructor
        · intro later i
          cases i with
          | zero => exact here
          | succ i => exact later i
        · exact fun nowhere i => nowhere (i + 1)

theorem throughFirst?_eq_some_iff (nonempty : delimiter ≠ []) :
    throughFirst? delimiter cs = some q ↔ ∃ i, delimiter <+: cs.drop i ∧
      (∀ j < i, ¬ delimiter <+: cs.drop j) ∧ q = cs.take (i + delimiter.length) := by
  induction cs generalizing q with
  | nil => simp [throughFirst?, nonempty]
  | cons c rest ih =>
      by_cases here : delimiter <+: c :: rest
      · have found := List.isPrefixOf_iff_prefix.mpr here
        simp only [throughFirst?, found, if_true, Option.some.injEq]
        constructor
        · rintro rfl
          exact ⟨0, here, fun j before => absurd before (Nat.not_lt_zero j),
            by simpa using List.prefix_iff_eq_take.mp here⟩
        · rintro ⟨i, _, first, rfl⟩
          cases i with
          | zero => simpa using List.prefix_iff_eq_take.mp here
          | succ i => exact absurd here (first 0 (Nat.succ_pos i))
      · have passed : ¬ delimiter.isPrefixOf (c :: rest) = true :=
          fun found => here (List.isPrefixOf_iff_prefix.mp found)
        simp only [throughFirst?, if_neg passed, Option.map_eq_some_iff, ih]
        constructor
        · rintro ⟨_, ⟨i, stands, first, rfl⟩, rfl⟩
          refine ⟨i + 1, stands, fun j before => ?_, ?_⟩
          · cases j with
            | zero => exact here
            | succ j => exact first j (Nat.lt_of_succ_lt_succ before)
          · rw [Nat.add_right_comm, List.take_succ_cons]
        · rintro ⟨i, stands, first, rfl⟩
          cases i with
          | zero => exact absurd stands here
          | succ i =>
              refine ⟨_, ⟨i, stands, fun j before => first (j + 1) (Nat.succ_lt_succ before), rfl⟩, ?_⟩
              rw [Nat.add_right_comm, List.take_succ_cons]

end Places

section Keys
variable {stem delimiter key name : String}

/-- Places in a key are counted from the end of the stem. -/
theorem delimitedAt_add (stem delimiter key : String) (i : Nat) :
    DelimitedAt stem delimiter key (stem.length + i) ↔
      delimiter ≠ "" ∧ delimiter.toList <+: (key.toList.drop stem.length).drop i := by
  simp [DelimitedAt, List.drop_drop]

theorem exists_of_delimitedAt {i : Nat} (h : DelimitedAt stem delimiter key i) :
    ∃ j, i = stem.length + j :=
  Nat.exists_eq_add_of_le h.2.1

theorem toList_ne_nil {s : String} (h : s ≠ "") : s.toList ≠ [] := by simpa using h

/-- A key is shown itself if it has no delimiter after the stem. -/
theorem commonPrefix?_eq_none_iff :
    commonPrefix? stem.toList delimiter.toList key.toList = none ↔
      ∀ i, ¬ DelimitedAt stem delimiter key i := by
  by_cases empty : delimiter = ""
  · simp [commonPrefix?, DelimitedAt, empty]
  · have some_char : ¬ delimiter.toList.isEmpty = true := by simpa using empty
    rw [commonPrefix?, if_neg some_char, Option.map_eq_none_iff,
      throughFirst?_eq_none_iff (toList_ne_nil empty), String.length_toList]
    constructor
    · intro nowhere i stands
      obtain ⟨j, rfl⟩ := exists_of_delimitedAt stands
      exact nowhere j ((delimitedAt_add ..).mp stands).2
    · exact fun nowhere i stands => nowhere _ ((delimitedAt_add ..).mpr ⟨empty, stands⟩)

/-- A key is rolled up into what the cut leaves of it. -/
theorem commonPrefix?_eq_some_iff (under : stem.toList <+: key.toList) :
    commonPrefix? stem.toList delimiter.toList key.toList = some name.toList ↔
      CutTo stem delimiter key name := by
  by_cases empty : delimiter = ""
  · simp [commonPrefix?, CutTo, DelimitedAt, empty]
  obtain ⟨rest, split⟩ := under
  have some_char : ¬ delimiter.toList.isEmpty = true := by simpa using empty
  have cut (i : Nat) : key.toList.take (stem.length + i + delimiter.length) =
      stem.toList ++ (key.toList.drop stem.length).take (i + delimiter.toList.length) := by
    rw [← split, ← String.length_toList, ← String.length_toList, List.drop_left, Nat.add_assoc,
      List.take_length_add_append]
  rw [commonPrefix?, if_neg some_char, Option.map_eq_some_iff]
  simp only [throughFirst?_eq_some_iff (toList_ne_nil empty), String.length_toList (s := stem)]
  constructor
  · rintro ⟨_, ⟨i, stands, first, rfl⟩, named⟩
    refine ⟨stem.length + i, (delimitedAt_add ..).mpr ⟨empty, stands⟩, fun j before at_j => ?_, ?_⟩
    · obtain ⟨j, rfl⟩ := exists_of_delimitedAt at_j
      exact first j (by omega) ((delimitedAt_add ..).mp at_j).2
    · rw [cut, named, String.ofList_toList]
  · rintro ⟨i, stands, first, rfl⟩
    obtain ⟨i, rfl⟩ := exists_of_delimitedAt stands
    refine ⟨_, ⟨i, ((delimitedAt_add ..).mp stands).2, fun j before at_j => ?_, rfl⟩, ?_⟩
    · exact first (stem.length + j) (by omega) ((delimitedAt_add ..).mpr ⟨empty, at_j⟩)
    · rw [String.toList_ofList, cut]

-- the delimiter that begins within the stem does not count
example : commonPrefix? "a-".toList "--".toList "a---b".toList = some "a---".toList := by decide

end Keys

/-- Keys and common prefixes into which the keys under a stem are parted, of those that are there. -/
structure Parted (there : String → Prop) (stem delimiter : String) (keys names : List String) :
    Prop where
  keysAscend : keys.Pairwise (· < ·)
  namesAscend : names.Pairwise (· < ·)
  /-- The keys that have no delimiter after the stem. -/
  mem_keys : ∀ key, key ∈ keys ↔ there key ∧ stem.toList <+: key.toList ∧
    ∀ i, ¬ DelimitedAt stem delimiter key i
  /-- What the cut leaves of the others. -/
  mem_names : ∀ name, name ∈ names ↔ ∃ key, there key ∧ stem.toList <+: key.toList ∧
    CutTo stem delimiter key name
  apart : ∀ name ∈ names, name ∉ keys
  once : ∀ key, there key → stem.toList <+: key.toList →
    key ∈ keys ∧ (∀ name ∈ names, ¬ name.toList <+: key.toList) ∨
      key ∉ keys ∧ ∃! name, name ∈ names ∧ name.toList <+: key.toList

section Entries
variable {b : Bucket} {stem delimiter : String} {keys names : List String}

theorem known_mem_map {x : String} {xs : List String} :
    Reported.known x ∈ xs.map .known ↔ x ∈ xs :=
  List.mem_map_of_injective fun _ _ same => Reported.known.inj same

theorem mem_keys_iff {es : List Entry} (told : (blobs es).map (·.key) = keys.map .known)
    (key : String) : key ∈ keys ↔ ∃ v, Entry.blob key v ∈ es := by
  rw [← known_mem_map, ← told]
  simp only [blobs, List.mem_map, List.mem_filterMap]
  constructor
  · rintro ⟨_, ⟨e, listed, shown⟩, named⟩
    cases e with
    | blob k v =>
        cases shown
        cases named
        exact ⟨v, listed⟩
    | rolled name => cases shown
  · rintro ⟨v, listed⟩
    exact ⟨infoOf key v, ⟨_, listed, rfl⟩, rfl⟩

theorem mem_names_iff {es : List Entry} (told : commonPrefixes es = names.map .known)
    (name : String) : name ∈ names ↔ Entry.rolled name ∈ es := by
  rw [← known_mem_map, ← told]
  simp only [commonPrefixes, List.mem_filterMap]
  constructor
  · rintro ⟨e, listed, shown⟩
    cases e with
    | blob k v => cases shown
    | rolled other =>
        cases shown
        exact listed
  · exact fun listed => ⟨_, listed, rfl⟩

variable (tidy : b.Tidy)
include tidy

theorem blob_mem_entries (key : String) (v : Version) :
    Entry.blob key v ∈ entries b stem delimiter ↔ (b.versions key).getLast? = some v ∧
      stem.toList <+: key.toList ∧ ∀ i, ¬ DelimitedAt stem delimiter key i := by
  rw [mem_entries tidy]
  constructor
  · rintro ⟨k, u, newest, entry⟩
    obtain ⟨under, ⟨whole, same⟩ | ⟨_, _, same⟩⟩ := entryOf_eq_some_iff.mp entry
    · cases same
      exact ⟨newest, under, commonPrefix?_eq_none_iff.mp whole⟩
    · cases same
  · rintro ⟨newest, under, nowhere⟩
    exact ⟨key, v, newest, entryOf_eq_some_iff.mpr
      ⟨under, .inl ⟨commonPrefix?_eq_none_iff.mpr nowhere, rfl⟩⟩⟩

theorem rolled_mem_entries (name : String) :
    Entry.rolled name ∈ entries b stem delimiter ↔ ∃ key, b.versions key ≠ [] ∧
      stem.toList <+: key.toList ∧ CutTo stem delimiter key name := by
  rw [mem_entries tidy]
  constructor
  · rintro ⟨key, v, newest, entry⟩
    obtain ⟨under, ⟨_, same⟩ | ⟨q, rolled, same⟩⟩ := entryOf_eq_some_iff.mp entry
    · cases same
    · cases same
      refine ⟨key, List.ne_nil_of_mem (List.mem_of_getLast? newest), under, ?_⟩
      exact (commonPrefix?_eq_some_iff under).mp (by simpa using rolled)
  · rintro ⟨key, nonempty, under, cut⟩
    refine ⟨key, _, List.getLast?_eq_some_getLast nonempty, entryOf_eq_some_iff.mpr ⟨under, .inr ?_⟩⟩
    exact ⟨_, (commonPrefix?_eq_some_iff under).mpr cut, by rw [String.ofList_toList]⟩

theorem eq_of_name {e f : Entry} (he : e ∈ entries b stem delimiter)
    (hf : f ∈ entries b stem delimiter) (same : e.name = f.name) : e = f := by
  obtain ⟨k, v, newestK, entryK⟩ := (mem_entries_iff ..).mp he
  obtain ⟨l, u, newestL, entryL⟩ := (mem_entries_iff ..).mp hf
  exact entry_unique tidy newestK newestL entryK entryL same

/-- The entries of a bucket part its keys. -/
theorem parted_entries
    (toldKeys : (blobs (entries b stem delimiter)).map (·.key) = keys.map .known)
    (keysAscend : keys.Pairwise (· < ·))
    (toldNames : commonPrefixes (entries b stem delimiter) = names.map .known)
    (namesAscend : names.Pairwise (· < ·)) :
    Parted (fun key => b.versions key ≠ []) stem delimiter keys names where
  keysAscend := keysAscend
  namesAscend := namesAscend
  mem_keys key := by
    rw [mem_keys_iff toldKeys]
    simp only [blob_mem_entries tidy, exists_and_right, ← List.getLast?_isSome, Option.isSome_iff_exists]
  mem_names name := by
    rw [mem_names_iff toldNames, rolled_mem_entries tidy]
  apart name rolled blob := by
    obtain ⟨v, blob⟩ := (mem_keys_iff toldKeys name).mp blob
    cases eq_of_name tidy blob ((mem_names_iff toldNames name).mp rolled) rfl
  once key there under := by
    -- the entry that shows the key, and what any other that shows it would have to be called
    obtain ⟨e, entry⟩ := exists_entryOf delimiter ((b.versions key).getLast there) under
    have listed : e ∈ entries b stem delimiter :=
      (mem_entries tidy ..).mpr ⟨key, _, List.getLast?_eq_some_getLast there, entry⟩
    have shown (name : String) (listed : name ∈ names) (starts : name.toList <+: key.toList) :
        Entry.rolled name = e := by
      have rolled := (mem_names_iff toldNames name).mp listed
      obtain ⟨_, _, _, other⟩ := (mem_entries tidy ..).mp rolled
      refine eq_of_name tidy rolled ‹_› ?_
      rw [name_of_entryOf entry]
      exact (shows_iff other under).mp (List.isPrefixOf_iff_prefix.mpr starts)
    cases e with
    | blob k v =>
        obtain ⟨_, ⟨_, same⟩ | ⟨_, _, same⟩⟩ := entryOf_eq_some_iff.mp entry
        · cases same
          refine .inl ⟨(mem_keys_iff toldKeys key).mpr ⟨_, listed⟩, fun name rolled starts => ?_⟩
          cases shown name rolled starts
        · cases same
    | rolled name =>
        obtain ⟨_, ⟨_, same⟩ | ⟨q, cut, same⟩⟩ := entryOf_eq_some_iff.mp entry
        · cases same
        · refine .inr ⟨fun own => ?_, name, ⟨(mem_names_iff toldNames name).mpr listed, ?_⟩, ?_⟩
          · obtain ⟨v, own⟩ := (mem_keys_iff toldKeys key).mp own
            have nowhere := ((blob_mem_entries tidy key v).mp own).2.2
            rw [commonPrefix?_eq_none_iff.mpr nowhere] at cut
            cases cut
          · cases same
            simpa using (commonPrefix?_within under cut).1
          · rintro other ⟨rolled, starts⟩
            exact Entry.rolled.inj (shown other rolled starts)

end Entries

def limit? (s : Store) (request : PageRequest) : Option Nat :=
  (request.maxResults.map Int.toNat) <|> s.pageSize

theorem page_of_room {b : Bucket} {s : Store} {request : PageRequest} (first : request.token = none)
    (accepted : ∀ n ∈ request.maxResults, 0 < n)
    (room : ∀ limit ∈ limit? s request,
      (entries b (request.stem.getD "") (request.delimiter.getD "")).length ≤ limit) :
    Shows (page b request s.pageSize)
      (entries b (request.stem.getD "") (request.delimiter.getD "")) := by
  have chosen : ((request.maxResults.map Int.toNat).filter (· ≠ 0) <|> s.pageSize) =
      limit? s request := by
    unfold limit?
    cases asked : request.maxResults with
    | none => rfl
    | some n =>
        have positive := accepted n asked
        simp [Option.filter, show n.toNat ≠ 0 by omega]
  unfold page afterToken
  dsimp only
  rw [chosen, first]
  cases limited : limit? s request with
  | none => exact ⟨rfl, rfl⟩
  | some limit =>
      simp only [Option.bind_none]
      rw [List.take_of_length_le (room limit limited)]
      exact ⟨rfl, rfl⟩

end Listing

open Memory.Listing

/-- A caller who asks whether the key exists is told that it does. -/
def Caller.Finds (c : Caller) (w : World Backend) (key : String) : Prop :=
  (Call.perform c (.objectExists ⟨key, none⟩)).run.runFrom w = (.ok (.yes true), w)

/-- What the page says of a key is what a caller is told who asks for its metadata. -/
def Caller.Confirms (c : Caller) (w : World Backend) (info : BlobInfo) : Prop :=
  ∃ key metadata, info.key = .known key ∧
    (Call.perform c (.getMetadata ⟨key, none⟩)).run.runFrom w = (.ok (.metadata metadata), w) ∧
    info.size = metadata.size ∧ info.etag = metadata.etag ∧
    info.version.map .known = metadata.version

structure PartitionLaws (w : World Backend) : Prop where
  /-- The keys are parted, and each is shown as it is or with those that are cut to the same name. -/
  parted : ∀ c (request : PageRequest), c.Unhindered w →
    w.remote.hasBucket c.store.bucket = true → request.token = none →
    (∀ n ∈ request.maxResults, 0 < n) →
    ∃ keys names,
      Parted (c.Finds w) (request.stem.getD "") (request.delimiter.getD "") keys names ∧
      ((∀ limit ∈ limit? c.store request, keys.length + names.length ≤ limit) →
        ∃ p : Page, (Call.perform c (.listPage request)).run.runFrom w = (.ok (.page p), w) ∧
          p.blobs.map (·.key) = keys.map .known ∧ p.commonPrefixes = names.map .known ∧
          ∀ info ∈ p.blobs, c.Confirms w info)
  /-- Where the bucket is missing, no key is found, and there is no page either. -/
  missing : ∀ c (request : PageRequest), c.Unhindered w →
    w.remote.hasBucket c.store.bucket = false → (∀ n ∈ request.maxResults, 0 < n) →
    (∀ key, ¬ c.Finds w key) ∧
      (Call.perform c (.listPage request)).run.runFrom w =
        (.error (c.heard none (.memory (.noBucket c.store.bucket))), w)

section Laws
variable {c : Caller} {w : World Backend} {request : PageRequest} (free : c.Unhindered w)
include free

/-- A key is found if it has a version. -/
theorem finds_iff (sound : w.remote.Sound) (key : String) :
    c.Finds w key ↔ w.remote.versionsAt c.store.bucket key ≠ [] := by
  by_cases named : key = ""
  · have bare : w.remote.versionsAt c.store.bucket key = [] :=
      List.eq_nil_iff_forall_not_mem.mpr fun v hv => sound.versions.keyed _ _ v hv named
    refine iff_of_false (fun found => ?_) (not_not_intro bare)
    obtain ⟨_, own, _⟩ := Action.ok_of_map_ok ((BucketClient.runFrom_call_ok_iff ..).mp found)
    exact (Check.key_eq_ok_iff key).mp (BlobStorage.Store.ok_of_check_bind own).1 named
  · unfold Caller.Finds
    rw [runFrom_objectExists (free .objectExists) named]
    simp

theorem confirms_infoOf {key : String} {v : Version} (named : key ≠ "")
    (newest : (w.remote.versionsAt c.store.bucket key).getLast? = some v) :
    c.Confirms w (infoOf key v) :=
  ⟨key, _, rfl, runFrom_getMetadata (i := ⟨key, none⟩) (free .getMetadata) named newest, rfl, rfl, rfl⟩

variable (accepted : ∀ n ∈ request.maxResults, 0 < n)
include accepted

theorem runFrom_listPage_found {b : Bucket} (found : w.remote.buckets.get? c.store.bucket = some b)
    (first : request.token = none) :
    (Call.perform c (.listPage request)).run.runFrom w =
      (.ok (.page (page b request c.store.pageSize)), w) := by
  refine (BucketClient.runFrom_call_ok_iff ..).mpr (Action.runFrom_map_ok_iff.mpr ⟨_, rfl, ?_⟩)
  rw [BlobStorage.Store.runFrom_listPage accepted]
  refine (Action.runFrom_bind_ok (runFrom_guardOf (free .listPage) none) _).trans ?_
  refine (Action.runFrom_bind_ok (x := b) (t := w) ?_ _).trans ?_
  · rw [Store.runFrom_see, (Backend.bucket_eq_ok_iff ..).mpr found]
    rfl
  · rw [checkToken, first]
    rfl

theorem runFrom_listPage_missing (missing : w.remote.buckets.get? c.store.bucket = none) :
    (Call.perform c (.listPage request)).run.runFrom w =
      (.error (c.heard none (.memory (.noBucket c.store.bucket))), w) := by
  refine call_error_of_unhindered free ?_
  have failed : (c.adapter.listPage request).runFrom w =
      (.error (.memory (.noBucket c.store.bucket)), w) := by
    refine (Action.runFrom_bind_ok (runFrom_guardOf (free .listPage) none) _).trans ?_
    refine Action.runFrom_bind_error ?_ _
    rw [Store.runFrom_see, Backend.bucket, missing]
    rfl
  change (Answer.page <$> BlobStorage.Store.listPage c.adapter request).runFrom w = _
  rw [Action.runFrom_map, BlobStorage.Store.runFrom_listPage accepted, failed]
  rfl

theorem parted_of_unhindered (sound : w.remote.Sound)
    (there : w.remote.hasBucket c.store.bucket = true) (first : request.token = none) :
    ∃ keys names,
      Parted (c.Finds w) (request.stem.getD "") (request.delimiter.getD "") keys names ∧
      ((∀ limit ∈ limit? c.store request, keys.length + names.length ≤ limit) →
        ∃ p : Page, (Call.perform c (.listPage request)).run.runFrom w = (.ok (.page p), w) ∧
          p.blobs.map (·.key) = keys.map .known ∧ p.commonPrefixes = names.map .known ∧
          ∀ info ∈ p.blobs, c.Confirms w info) := by
  obtain ⟨b, found⟩ := there_of_hasBucket there
  have tidy := sound.tidy.bucket _ b found
  have ascending := ascending_entries tidy (request.stem.getD "") (request.delimiter.getD "")
  obtain ⟨keys, toldKeys, keysAscend⟩ := keys_blobs ascending
  obtain ⟨names, toldNames, namesAscend⟩ := names_commonPrefixes ascending
  have finds : c.Finds w = fun key => b.versions key ≠ [] := by
    funext key
    rw [finds_iff free sound, Backend.versionsAt_of_get? found]
  refine ⟨keys, names, finds ▸ parted_entries tidy toldKeys keysAscend toldNames namesAscend, ?_⟩
  intro room
  have counted : (entries b (request.stem.getD "") (request.delimiter.getD "")).length =
      keys.length + names.length := by
    have shows := shows_wholePage b request.toListRequest
    have keysCounted := congrArg List.length toldKeys
    have namesCounted := congrArg List.length toldNames
    rw [List.length_map] at namesCounted
    rw [List.length_map, List.length_map] at keysCounted
    exact (length_of_shows shows).symm.trans (congrArg₂ _ keysCounted namesCounted)
  have shows := page_of_room first accepted (counted ▸ room)
  refine ⟨_, runFrom_listPage_found free accepted found first, ?_, ?_, ?_⟩
  · rw [shows.blobs, toldKeys]
  · rw [shows.commonPrefixes, toldNames]
  · intro info shown
    rw [shows.blobs] at shown
    obtain ⟨e, listed, shown⟩ := List.mem_filterMap.mp shown
    cases e with
    | blob key v =>
        cases shown
        have newest := ((blob_mem_entries tidy key v).mp listed).1
        have named := keyed_of_sound sound found key
          (List.ne_nil_of_mem (List.mem_of_getLast? newest))
        rw [← Backend.versionsAt_of_get? found] at newest
        exact confirms_infoOf free named newest
    | rolled name => cases shown

end Laws

theorem partitions_of_run (signingKey : Content) (now : Moment) (files : FileTree)
    (interceptions : List Interception) (calls : List Call) :
    PartitionLaws
      (after { remote := Backend.fresh signingKey now, files, interceptions } calls) := by
  have sound := sound_after (Backend.sound_fresh signingKey now) calls
    (w := { remote := Backend.fresh signingKey now, files, interceptions })
  refine ⟨?_, ?_⟩
  · intro c request free there first accepted
    exact parted_of_unhindered free accepted sound there first
  · intro c request free bare accepted
    have missing := Option.not_isSome_iff_eq_none.mp (Bool.eq_false_iff.mp bare)
    refine ⟨fun key found => (finds_iff free sound key).mp found ?_,
      runFrom_listPage_missing free accepted missing⟩
    simp [Backend.versionsAt, missing]

end BlobStorage.Memory
