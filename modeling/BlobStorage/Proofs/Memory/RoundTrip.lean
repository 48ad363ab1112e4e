import BlobStorage.Proofs.Memory.DirectoryDownload

/-!
A directory that is uploaded and downloaded again, in any state that a run of calls reaches and in
whatever order the files are transferred. The uploaded keys are those of a download of what they start
with, which brings every file back to its relative name, as long as the file system can name it there.
-/
namespace BlobStorage.Memory
open Directory

/-- An upload of a directory, and a download of what its keys start with to a place where nothing is
yet. The bucket has no other key that starts so. -/
structure Trip (c o : Caller) (upload : DirectoryUpload) (download : DirectoryDownload)
    (directory : List String) (w : World Backend) : Prop where
  bucket : o.store.bucket = c.store.bucket
  there : w.remote.hasBucket c.store.bucket = true
  sized : o.store.Sized
  sending : c.Unhindered w
  fetching : o.Unhindered w
  tree : w.files.Sound
  leads : w.files.directory? upload.source = .ok (some directory)
  readable : Readable w.files upload directory
  tagged : Check.tags upload.tags = .ok ()
  alone : ∀ key, (stemOf upload.stem).toList <+: key.toList →
    w.remote.versionsAt c.store.bucket key ≠ [] →
    ∃ relative content, w.files.FileBelow directory upload.recursive relative content ∧
      keyOf (stemOf upload.stem) relative = key
  stem : download.stem.getD "" = stemOf upload.stem
  everything : download.exclude = []
  clean : download.destination.hasNull = false
  fresh : w.files.Fresh download.destination.resolve

/-- What the two transfers do. -/
structure Returned (c : Caller) (upload : DirectoryUpload) (download : DirectoryDownload)
    (directory : List String) (w w₁ w₂ : World Backend) (failed : List FailedDownload) : Prop where
  uploaded : Uploaded c.store.bucket upload directory w w₁
  apart : ∀ relative content other content',
    w.files.FileBelow directory upload.recursive relative content →
    w.files.FileBelow directory upload.recursive other content' →
    keyOf (stemOf upload.stem) relative = keyOf (stemOf upload.stem) other → relative = other
  downloaded : Downloaded download (w.files.FileBelow directory upload.recursive) w₁ w₂ failed
  /-- Nothing fails and everything is recreated if all paths are short enough. -/
  whole : (∀ relative content, w.files.FileBelow directory upload.recursive relative content →
      Fits download.destination.resolve relative) →
    failed = [] ∧ w₁.files.Recreated w₂.files download.destination.resolve.segments
      (w.files.FileBelow directory upload.recursive)

/-- What holds of transfers of directories that begin in one state. -/
structure RoundTripLaws (w : World Backend) : Prop where
  /-- The commands are these transfers. -/
  uploads : ∀ (c : Caller) upload x w',
    (Call.perform c (.uploadDirectory upload)).run.runFrom w = (.ok x, w') ↔
      ∃ failed, x = .directoryUploaded failed ∧ (c.uploading upload []).runFrom w = (.ok failed, w')
  downloads : ∀ (c : Caller) download x w',
    (Call.perform c (.downloadDirectory download)).run.runFrom w = (.ok x, w') ↔
      ∃ failed, x = .directoryDownloaded failed ∧
        (c.downloading download []).runFrom w = (.ok failed, w')
  /-- What keys start with is the stem, with one slash in place of those that it ends in. -/
  stems : ∀ stem, (stem = "" ∧ stemOf stem = "") ∨
    (stem ≠ "" ∧ ∃ left, Trimmed stem left ∧ stemOf stem = left ++ "/")
  returns : ∀ (c o : Caller) upload download directory, Trip c o upload download directory w →
    ∀ turns turns', ∃ w₁ w₂ failed, (c.uploading upload turns).runFrom w = (.ok [], w₁) ∧
      (o.downloading download turns').runFrom w₁ = (.ok failed, w₂) ∧
      Returned c upload download directory w w₁ w₂ failed

section Trip
variable {c o : Caller} {upload : DirectoryUpload} {download : DirectoryDownload}
  {directory : List String} {w w₁ : World Backend}

theorem Trip.mirror (trip : Trip c o upload download directory w)
    (uploaded : Uploaded c.store.bucket upload directory w w₁) :
    Mirror w₁.remote o.store.bucket (download.stem.getD "")
      (w.files.FileBelow directory upload.recursive) := by
  rw [trip.bucket, trip.stem]
  constructor
  · intro relative content below
    obtain ⟨v, data, _, versions⟩ := uploaded.new relative content below
    exact ⟨v, by simp [versions], data⟩
  · intro key under some_version
    by_contra none
    have other : ∀ relative content, w.files.FileBelow directory upload.recursive relative content →
        keyOf (stemOf upload.stem) relative ≠ key :=
      fun relative content below same => none ⟨relative, content, below, same⟩
    rw [uploaded.others c.store.bucket key fun _ => other] at some_version
    exact none (trip.alone key under some_version)

theorem Trip.returned (trip : Trip c o upload download directory w) (sound : w.remote.Sound)
    (turns turns' : Turns) :
    ∃ w₁ w₂ failed, (c.uploading upload turns).runFrom w = (.ok [], w₁) ∧
      (o.downloading download turns').runFrom w₁ = (.ok failed, w₂) ∧
      Returned c upload download directory w w₁ w₂ failed := by
  obtain ⟨w₁, sent, uploaded, sound₁, plans, there⟩ := runFrom_uploading trip.tree trip.leads
    trip.readable sound trip.sending trip.there trip.tagged turns
  have layout := trip.tree.layout directory upload.recursive
  have fresh : w₁.files.Fresh download.destination.resolve := uploaded.files ▸ trip.fresh
  obtain ⟨failed, w₂, fetched, downloaded⟩ := runFrom_downloading sound₁ trip.sized
    (trip.fetching.congr plans) (trip.bucket ▸ there) fresh trip.clean trip.everything layout
    (trip.mirror uploaded) turns'
  refine ⟨w₁, w₂, failed, sent, fetched, uploaded, ?_, downloaded, fun fits => ⟨?_, ?_⟩⟩
  · intro relative content other content' below below' same
    exact keyOf_inj (fun s hs => (trip.tree.named_below below s hs).toIsName)
      (fun s hs => (trip.tree.named_below below' s hs).toIsName) same
  · rw [← List.map_eq_nil_iff (f := fun f : FailedDownload => f.destination),
      List.eq_nil_iff_forall_not_mem]
    intro p listed
    obtain ⟨relative, content, below, long, _⟩ := (downloaded.reported p).mp listed
    exact long (fits relative content below)
  · refine ⟨fun relative content => ?_, downloaded.recreated.others⟩
    rw [downloaded.recreated.files]
    exact and_iff_left_of_imp (fits relative content)

end Trip

section Limit

def widest : String := String.ofList (List.replicate FileTree.nameLimit 'x')

def widestTree : FileTree := { entries := [(["s"], .directory), (["s", widest], .file [])] }

def widestWorld : World Backend :=
  after { remote := Backend.fresh [] ⟨0, none⟩, files := widestTree, interceptions := [] }
    [.build "b" none]

def widestCaller : Caller := { store := { config := { provider := "memory" }, bucket := "b" } }

def widestUpload : DirectoryUpload := { source := ⟨"", ["s"]⟩, recursive := true }

def deepDownload : DirectoryDownload := { destination := ⟨"", List.replicate 15 widest⟩ }

theorem utf8ByteSize_repeated (n : Nat) :
    (String.ofList (List.replicate n 'x')).utf8ByteSize = n := by
  induction n with
  | zero => rfl
  | succ n ih =>
      rw [List.replicate_succ, ← List.singleton_append, String.ofList_append,
        String.utf8ByteSize_append, ih, ← String.singleton_eq_ofList,
        String.utf8ByteSize_singleton, show 'x'.utf8Size = 1 from rfl, Nat.add_comm]

theorem utf8ByteSize_widest : widest.utf8ByteSize = FileTree.nameLimit := utf8ByteSize_repeated _

theorem widest_ne {text : String} (short : text.utf8ByteSize < FileTree.nameLimit) :
    widest ≠ text := by
  rintro rfl
  exact absurd utf8ByteSize_widest (Nat.ne_of_lt short)

theorem not_mem_widest {c : Char} (differ : c ≠ 'x') : c ∉ widest.toList := by
  intro h
  rw [widest, String.toList_ofList] at h
  exact differ (List.eq_of_mem_replicate h)

theorem isFileName_widest : FileTree.IsFileName widest :=
  ⟨⟨widest_ne (by decide), widest_ne (by decide), widest_ne (by decide),
    not_mem_widest (by decide)⟩, not_mem_widest (by decide), Nat.le_of_eq utf8ByteSize_widest⟩

theorem isFileName_source : FileTree.IsFileName "s" := by
  refine ⟨⟨?_, ?_, ?_, ?_⟩, ?_, ?_⟩ <;> decide

theorem node?_widestTree (name : List String) :
    widestTree.node? name =
      if name = [] ∨ name = ["s"] then some .directory
      else if name = ["s", widest] then some (.file []) else none := by
  cases name with
  | nil => simp
  | cons first rest =>
      simp [FileTree.node?, widestTree, Table.get?, eq_comm]

theorem sound_widestTree : widestTree.Sound := by
  have names : widestTree.entries.names = [["s"], ["s", widest]] := rfl
  refine ⟨?_, ?_, ?_⟩
  · simp [Table.Distinct, names]
  · simp [names, isFileName_widest, isFileName_source]
  · simp [names, node?_widestTree]

theorem fileBelow_widestTree {deep : Bool} {relative : List String} {content : Content}
    (below : widestTree.FileBelow ["s"] deep relative content) :
    relative = [widest] ∧ content = [] := by
  have found := below.found
  rw [node?_widestTree] at found
  simpa [below.some_name] using found

theorem node?_under_widest (rest : List String) : widestTree.node? (widest :: rest) = none := by
  have differ : widest ≠ "s" := widest_ne (by decide)
  simp [node?_widestTree, differ]

theorem segment_deep {segment : String} (h : segment ∈ deepDownload.destination.segments) :
    segment = widest := List.eq_of_mem_replicate h

theorem clear_deep : widestTree.Clear deepDownload.destination.segments := by
  intro lead under content found
  cases lead with
  | nil => simp at found
  | cons first rest =>
      rw [segment_deep (under.subset (List.mem_cons_self ..)), node?_under_widest] at found
      cases found

theorem fresh_deep : widestTree.Fresh deepDownload.destination := by
  refine ⟨rfl, ?_, ?_, clear_deep, ?_⟩
  · rw [Path.hasNull_eq_false_iff]
    intro segment hs
    rw [segment_deep hs]
    exact isFileName_widest.no_null
  · intro segment hs
    rw [segment_deep hs]
    exact ⟨isFileName_widest.ne_back, isFileName_widest.short⟩
  · exact fun rest _ => node?_under_widest _

theorem resolve_deep : deepDownload.destination.resolve = deepDownload.destination :=
  Path.resolve_eq_self _ fun back => isFileName_widest.ne_back (segment_deep back).symm

theorem makeDirectories_deep :
    ∃ t, widestTree.makeDirectories deepDownload.destination = (.ok (), t) := by
  have short : deepDownload.destination.text.utf8ByteSize < FileTree.pathLimit := by
    simp [Path.utf8ByteSize_text, deepDownload, utf8ByteSize_widest, FileTree.nameLimit,
      FileTree.pathLimit]
  have straight : widestTree.Straight deepDownload.destination :=
    ⟨fresh_deep.home, fresh_deep.clean, short, fresh_deep.forward⟩
  obtain ⟨t, made, _⟩ := straight.makeDirectories fresh_deep.clear
  exact ⟨t, made⟩

theorem not_fits_deep : ¬ Fits deepDownload.destination [widest] := by
  simp [Fits, Path.utf8ByteSize_text, deepDownload, utf8ByteSize_widest, FileTree.nameLimit,
    FileTree.pathLimit]

theorem readable_widestTree : Readable widestTree widestUpload ["s"] := by
  constructor
  · intro relative content below
    rw [(fileBelow_widestTree below).2]
    exact Nat.zero_le _
  · intro relative content below
    rw [(fileBelow_widestTree below).1]
    simp [Path.utf8ByteSize_text, widestUpload, utf8ByteSize_widest, FileTree.nameLimit,
      FileTree.pathLimit, show "s".utf8ByteSize = 1 from rfl]

theorem trip_deep :
    Trip widestCaller widestCaller widestUpload deepDownload ["s"] widestWorld where
  bucket := rfl
  there := rfl
  sized := ⟨by decide, by decide⟩
  sending p := spared_of_plain rfl p _
  fetching p := spared_of_plain rfl p _
  tree := sound_widestTree
  leads := rfl
  readable := readable_widestTree
  tagged := rfl
  alone key _ some_version := absurd rfl some_version
  stem := rfl
  everything := rfl
  clean := fresh_deep.clean
  fresh := by
    rw [resolve_deep]
    exact fresh_deep

end Limit

theorem roundTrips_of_run (signingKey : Content) (now : Moment) (files : FileTree)
    (interceptions : List Interception) (calls : List Call) :
    RoundTripLaws (after { remote := Backend.fresh signingKey now, files, interceptions } calls) := by
  have sound := sound_after (Backend.sound_fresh signingKey now) calls
    (w := { remote := Backend.fresh signingKey now, files, interceptions })
  refine ⟨?_, ?_, stemOf_spec, ?_⟩
  · intro c upload x w'
    refine (BucketClient.runFrom_call_ok_iff ..).trans ?_
    rw [Command.run, Action.runFrom_map_ok_iff]
    exact exists_congr fun _ => and_congr_right fun _ => (BucketClient.runFrom_call_ok_iff ..).symm
  · intro c download x w'
    refine (BucketClient.runFrom_call_ok_iff ..).trans ?_
    rw [Command.run, Action.runFrom_map_ok_iff]
    exact exists_congr fun _ => and_congr_right fun _ => (BucketClient.runFrom_call_ok_iff ..).symm
  · intro c o upload download directory trip turns turns'
    exact trip.returned sound turns turns'

/-- The directory to download to can be made, and yet the path of a file in it is too long. -/
theorem target_beyond_limit :
    Trip widestCaller widestCaller widestUpload deepDownload ["s"] widestWorld ∧
      (∃ t, widestWorld.files.makeDirectories deepDownload.destination = (.ok (), t)) ∧
      ∀ turns turns', ∃ w₁ w₂ failed,
        (widestCaller.uploading widestUpload turns).runFrom widestWorld = (.ok [], w₁) ∧
        (widestCaller.downloading deepDownload turns').runFrom w₁ = (.ok failed, w₂) ∧
        failed ≠ [] ∧
        widestTree.FileBelow ["s"] true [widest] [] ∧
        ¬ w₂.files.FileBelow deepDownload.destination.segments true [widest] [] := by
  refine ⟨trip_deep, makeDirectories_deep, fun turns turns' => ?_⟩
  have sound : widestWorld.remote.Sound := sound_after (Backend.sound_fresh [] ⟨0, none⟩) _
  obtain ⟨w₁, w₂, failed, sent, fetched, returned⟩ := trip_deep.returned sound turns turns'
  have source : widestTree.FileBelow ["s"] true [widest] [] :=
    ⟨by simp, .inl rfl, by simp [node?_widestTree]⟩
  have downloaded := returned.downloaded
  refine ⟨w₁, w₂, failed, sent, fetched, ?_, source, ?_⟩
  · rintro rfl
    have reported := (downloaded.reported _).mpr
      ⟨[widest], [], source, by rw [resolve_deep]; exact not_fits_deep, rfl⟩
    cases reported
  · intro there
    have placed := downloaded.recreated.files
    rw [resolve_deep] at placed
    exact not_fits_deep ((placed _ _).mp there).2

end BlobStorage.Memory
