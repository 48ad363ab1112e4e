import BlobStorage.Proofs.Directory.Filling
import BlobStorage.Proofs.Directory.Keys
import BlobStorage.Proofs.Memory.Delivery
import BlobStorage.Proofs.Memory.DirectoryUpload

/-!
Downloading a directory from a memory store to a place where nothing is yet. Every file whose path is
not too long is written with the bytes of the newest version of its key, whatever the order in which
the keys are downloaded; all others are reported.
-/
namespace BlobStorage.Memory
open Directory Memory.Listing

theorem runFrom_download_file_blocked {c : Caller} {w : World Backend} {key : String} (named : key ≠ "")
    {path : Path} {a : Ambient} (blocked : w.files.exists? path = .error a) :
    (BlobStorage.Store.download c.adapter { key } (.file path)).runFrom w = (.error (.ambient a), w) :=
  (runFrom_checked named (range_whole key) _).trans
    (BlobStorage.Store.runFrom_downloadToFile_blocked blocked)

/-- The bucket has one key for every file below a stem, and no other key there. -/
structure Mirror (s : Backend) (bucket stem : String) (source : List String → Content → Prop) :
    Prop where
  stored : ∀ relative content, source relative content →
    ∃ v, (s.versionsAt bucket (keyOf stem relative)).getLast? = some v ∧ v.data = content
  only : ∀ key, stem.toList <+: key.toList → s.versionsAt bucket key ≠ [] →
    ∃ relative content, source relative content ∧ keyOf stem relative = key

/-- The path of a file below a place is short enough for the file system. -/
def Fits (place : Path) (relative : List String) : Prop :=
  (Path.mk place.base (place.segments ++ relative)).text.utf8ByteSize < FileTree.pathLimit

instance (place : Path) (relative : List String) : Decidable (Fits place relative) :=
  inferInstanceAs (Decidable (_ < _))

def itemOf (request : DirectoryDownload) (relative : List String) : DownloadItem :=
  item request (keyOf (request.stem.getD "") relative)

section Items
variable {c : Caller} {request : DirectoryDownload} {source : List String → Content → Prop}
  (layout : FileTree.Layout source) {relative : List String} {content : Content}
  (wanted : source relative content)
include layout wanted

theorem keyOf_of_layout (stem : String) : keyOf stem relative ≠ "" :=
  keyOf_ne_empty (layout.some_name relative content wanted)
    (fun s hs => (layout.named relative content wanted s hs).toIsName) stem

variable (request) in
theorem itemOf_target : (itemOf request relative).target =
    ⟨request.destination.resolve.base, request.destination.resolve.segments ++ relative⟩ := by
  rw [itemOf, item_target]
  exact landing_keyOf request (layout.some_name relative content wanted)
    (layout.named relative content wanted)

theorem itemOf_parent : (itemOf request relative).target.parent =
    ⟨request.destination.resolve.base,
      request.destination.resolve.segments ++ relative.dropLast⟩ := by
  rw [itemOf_target request layout wanted, Path.parent,
    List.dropLast_append_of_ne_nil (layout.some_name relative content wanted)]

theorem Fits.dropLast {place : Path} (fits : Fits place relative) :
    Fits place relative.dropLast := by
  have longer := Path.utf8ByteSize_text_le place.base (place.segments ++ relative.dropLast)
    [relative.getLast (layout.some_name relative content wanted)]
  rw [List.append_assoc, List.dropLast_append_getLast] at longer
  exact Nat.lt_of_le_of_lt longer fits

theorem itemOf_inj {other : List String} {content' : Content} (wanted' : source other content')
    (same : itemOf request relative = itemOf request other) : relative = other :=
  keyOf_inj (fun s hs => (layout.named relative content wanted s hs).toIsName)
    (fun s hs => (layout.named other content' wanted' s hs).toIsName) (congrArg (·.key) same)

end Items

/-- A file that fits belongs to an item that is done. -/
def Placed (request : DirectoryDownload) (source : List String → Content → Prop)
    (done : List DownloadItem) (relative : List String) (content : Content) : Prop :=
  source relative content ∧ Fits request.destination.resolve relative ∧
    itemOf request relative ∈ done

/-- Some of the items of a download are done. -/
structure Downloading (request : DirectoryDownload) (source : List String → Content → Prop)
    (w : World Backend) (done : List DownloadItem) (w' : World Backend) : Prop where
  remote : w'.remote = w.remote
  plans : w'.interceptions = w.interceptions
  filled : w.files.Filled w'.files request.destination.resolve.segments source
    (Placed request source done)

section Step
variable {c : Caller} {request : DirectoryDownload} {source : List String → Content → Prop}
  {w w₁ : World Backend} {done : List DownloadItem} {relative : List String} {content : Content}

theorem Downloading.start : Downloading request source w [] w :=
  ⟨rfl, rfl, (FileTree.Filled.start _ _ _).congr (by simp [Placed])⟩

variable (h : Downloading request source w done w₁) (layout : FileTree.Layout source)
  (wanted : source relative content)
include h layout wanted

theorem Downloading.skip {t : FileTree}
    (filled : w.files.Filled t request.destination.resolve.segments source
      (Placed request source done))
    (long : ¬ Fits request.destination.resolve relative) :
    Downloading request source w (itemOf request relative :: done) { w₁ with files := t } := by
  refine ⟨h.remote, h.plans, filled.congr fun other found => ?_⟩
  refine and_congr_right fun is => and_congr_right fun fits => ?_
  rw [List.mem_cons]
  refine or_iff_right fun same => long ?_
  exact itemOf_inj layout is wanted same ▸ fits

theorem Downloading.put {t : FileTree}
    (filled : w.files.Filled t request.destination.resolve.segments source
      (Placed request source done))
    (room : t.node? (request.destination.resolve.segments ++ relative) = none)
    (fits : Fits request.destination.resolve relative) :
    Downloading request source w (itemOf request relative :: done)
      { w₁ with files := t.write (request.destination.resolve.segments ++ relative) content } := by
  refine ⟨h.remote, h.plans, (filled.put content (layout.some_name relative content wanted)
    room).congr fun other found => ?_⟩
  simp only [Placed, List.mem_cons]
  constructor
  · rintro ⟨is, short, same | earlier⟩
    · obtain rfl := itemOf_inj layout is wanted same
      exact .inr ⟨rfl, layout.unique _ _ _ is wanted⟩
    · exact .inl ⟨is, short, earlier⟩
  · rintro (⟨is, short, earlier⟩ | ⟨rfl, rfl⟩)
    · exact ⟨is, short, .inr earlier⟩
    · exact ⟨wanted, fits, .inl rfl⟩

end Step

section Whole
variable {c : Caller} {request : DirectoryDownload} {source : List String → Content → Prop}
  {w : World Backend}

section Case
variable {w₁ : World Backend} {done : List DownloadItem} {relative : List String} {content : Content}
  (fresh : w.files.Fresh request.destination.resolve) (layout : FileTree.Layout source)
  (h : Downloading request source w done w₁) (wanted : source relative content)
include fresh layout h wanted

/-- The directories that lead to an item's file are made. -/
theorem Downloading.opened (later : itemOf request relative ∉ done)
    (room : Fits request.destination.resolve relative.dropLast) :
    ∃ t, w₁.files.makeDirectories (itemOf request relative).target.parent = (.ok (), t) ∧
      w.files.Filled t request.destination.resolve.segments source (Placed request source done) ∧
      t.Rooted (request.destination.resolve.segments ++ relative) ∧
      t.node? (request.destination.resolve.segments ++ relative) = none := by
  have lead := layout.named_dropLast wanted
  rw [itemOf_parent layout wanted]
  exact h.filled.opened fresh layout (fun _ _ placed => placed.1) wanted
    (fun _ earlier => later earlier.2.2) ((fresh.straight lead room).of_base h.filled.base)

theorem Downloading.written (free : c.Unhindered w)
    (mirror : Mirror w.remote c.store.bucket (request.stem.getD "") source)
    (later : itemOf request relative ∉ done) (fits : Fits request.destination.resolve relative) :
    ∃ w₂, (downloadItem c.adapter (itemOf request relative)).runFrom w₁ = (.ok (), w₂) ∧
      Downloading request source w (itemOf request relative :: done) w₂ := by
  obtain ⟨t, made, filled, rooted, room⟩ :=
    h.opened fresh layout wanted later (fits.dropLast layout wanted)
  obtain ⟨v, newest, rfl⟩ := mirror.stored relative content wanted
  have target : (itemOf request relative).target = _ := itemOf_target request layout wanted
  have straight : t.Straight (itemOf request relative).target := by
    rw [target]
    exact (fresh.straight (layout.named relative _ wanted) fits).of_base filled.base
  have found : w₁.remote.version c.store.bucket _ none = .ok v :=
    (Backend.version_eq_ok_iff ..).mpr (h.remote ▸ newest)
  have loaded := runFrom_download_file (c := c) (w := { w₁ with files := t })
    (keyOf_of_layout layout wanted (request.stem.getD "")) (range_whole _) (free.congr h.plans)
    found (slice_whole v.data _ none) (straight.vacant (target ▸ rooted) (target ▸ room))
  refine ⟨_, ?_, h.put layout wanted filled room fits⟩
  have segments : (itemOf request relative).target.segments =
      request.destination.resolve.segments ++ relative := congrArg Path.segments target
  rw [segments] at loaded
  exact runFrom_downloadItem_made made loaded

theorem Downloading.refused (later : itemOf request relative ∉ done)
    (long : ¬ Fits request.destination.resolve relative) :
    ∃ f w₂, (downloadItem c.adapter (itemOf request relative)).runFrom w₁ = (.error f, w₂) ∧
      Downloading request source w (itemOf request relative :: done) w₂ := by
  have target : (itemOf request relative).target = _ := itemOf_target request layout wanted
  have named := layout.named relative content wanted
  -- Either the path of the file alone is too long, or that of its directory is already.
  by_cases room : Fits request.destination.resolve relative.dropLast
  · obtain ⟨t, made, filled, _⟩ := h.opened fresh layout wanted later room
    have blocked : t.exists? (itemOf request relative).target =
        .error (.file .nameTooLong (itemOf request relative).target.text) := by
      rw [target]
      exact FileTree.exists?_tooLong (fresh.hasNull named) (Nat.not_lt.mp long)
    have failed := runFrom_download_file_blocked (c := c) (w := { w₁ with files := t })
      (keyOf_of_layout layout wanted (request.stem.getD "")) blocked
    refine ⟨.ambient (.file .nameTooLong (itemOf request relative).target.text), _, ?_,
      h.skip layout wanted filled long⟩
    exact runFrom_downloadItem_made made failed
  · have made := FileTree.makeDirectories_tooLong (t := w₁.files)
      (fresh.hasNull (layout.named_dropLast wanted)) (Nat.not_lt.mp room)
    have parent : (itemOf request relative).target.parent = _ := itemOf_parent layout wanted
    rw [← parent] at made
    exact ⟨_, _, runFrom_downloadItem_failed made, h.skip layout wanted h.filled long⟩

variable (c) in
theorem step_downloadItem_of_layout (free : c.Unhindered w)
    (mirror : Mirror w.remote c.store.bucket (request.stem.getD "") source)
    (later : itemOf request relative ∉ done) :
    (((downloadItem c.adapter (itemOf request relative)).runFrom w₁).1 = .ok () ↔
        Fits request.destination.resolve relative) ∧
      Downloading request source w (itemOf request relative :: done)
        ((downloadItem c.adapter (itemOf request relative)).runFrom w₁).2 := by
  by_cases fits : Fits request.destination.resolve relative
  · obtain ⟨w₂, ran, kept⟩ := h.written fresh layout wanted free mirror later fits
    rw [ran]
    exact ⟨by simp [fits], kept⟩
  · obtain ⟨f, w₂, ran, kept⟩ := h.refused (c := c) fresh layout wanted later fits
    rw [ran]
    exact ⟨by simp [fits], kept⟩

end Case

end Whole

/-- Downloading a directory through a caller's client. -/
def Caller.downloading (c : Caller) (request : DirectoryDownload) (turns : Turns) :
    Op Backend (List FailedDownload) :=
  c.client.call none (Directory.downloadIn c.style c.adapter request turns)

/-- Every file that fits is at its place with its bytes, and nothing else is there. All others are
reported, and nothing else is. -/
structure Downloaded (request : DirectoryDownload) (source : List String → Content → Prop)
    (w w' : World Backend) (failed : List FailedDownload) : Prop where
  remote : w'.remote = w.remote
  recreated : w.files.Recreated w'.files request.destination.resolve.segments
    fun relative content => source relative content ∧ Fits request.destination.resolve relative
  reported : ∀ p, p ∈ failed.map (·.destination) ↔ ∃ relative content, source relative content ∧
    ¬ Fits request.destination.resolve relative ∧
      p = ⟨request.destination.resolve.base, request.destination.resolve.segments ++ relative⟩

section Directory
variable {c : Caller} {w : World Backend} {request : DirectoryDownload}
  {source : List String → Content → Prop}

theorem exists_names {stem : String} {keys : List String}
    (each : ∀ key ∈ keys, ∃ relative content, source relative content ∧ keyOf stem relative = key) :
    ∃ names : List (List String), names.map (keyOf stem) = keys ∧
      ∀ relative ∈ names, ∃ content, source relative content := by
  induction keys with
  | nil => exact ⟨[], rfl, by simp⟩
  | cons key rest ih =>
      obtain ⟨⟨relative, content, is, rfl⟩, later⟩ := List.forall_mem_cons.mp each
      obtain ⟨names, rfl, all⟩ := ih later
      exact ⟨relative :: names, rfl, List.forall_mem_cons.mpr ⟨⟨content, is⟩, all⟩⟩

variable (sound : w.remote.Sound) (sized : c.store.Sized) (free : c.Unhindered w)
  (there : w.remote.hasBucket c.store.bucket = true)
  (fresh : w.files.Fresh request.destination.resolve) (clean : request.destination.hasNull = false)
  (everything : request.exclude = []) (layout : FileTree.Layout source)
  (mirror : Mirror w.remote c.store.bucket (request.stem.getD "") source)
include sound sized free there layout mirror

variable (request) in
/-- A listing of the stem has the key of every file once, and no others. -/
theorem runFrom_listed_names : ∃ names : List (List String),
    (names.map (keyOf (request.stem.getD ""))).Nodup ∧
      (∀ relative, relative ∈ names ↔ ∃ content, source relative content) ∧
      ∃ blobs : List BlobInfo, (BlobStorage.Listing.blobs c.adapter { stem := request.stem }).runFrom w =
          (.ok ⟨blobs, .complete⟩, w) ∧
        blobs.map (·.key) = (names.map (keyOf (request.stem.getD ""))).map .known := by
  obtain ⟨heads, heads_at⟩ := exists_heads sound.tidy c.store.bucket (request.stem.getD "")
  have listed := runFrom_listed sound.tidy sized (free .listPage) there heads_at
    (sound.versions.keyed_heads heads_at)
  have each : ∀ key ∈ heads.map (·.1), ∃ relative content, source relative content ∧
      keyOf (request.stem.getD "") relative = key := by
    intro key hk
    obtain ⟨head, hh, rfl⟩ := List.mem_map.mp hk
    obtain ⟨under, _, newest⟩ := (heads_at.mem head.1 head.2).mp hh
    exact mirror.only head.1 (List.isPrefixOf_iff_prefix.mp under)
      (List.ne_nil_of_mem (List.mem_of_getLast? newest))
  obtain ⟨names, keys, all⟩ := exists_names each
  refine ⟨names, keys ▸ heads_at.distinct, fun relative => ⟨all relative, ?_⟩, _, listed, ?_⟩
  · rintro ⟨content, is⟩
    obtain ⟨v, newest, _⟩ := mirror.stored relative content is
    have under : (request.stem.getD "").toList.isPrefixOf
        (keyOf (request.stem.getD "") relative).toList = true := by
      simp [keyOf, List.isPrefixOf_iff_prefix]
    have found : keyOf (request.stem.getD "") relative ∈ names.map (keyOf (request.stem.getD "")) :=
      keys ▸ List.mem_map_of_mem (f := (·.1))
        ((heads_at.mem _ v).mpr ⟨under, by simp [Follows], newest⟩)
    obtain ⟨other, ho, same⟩ := List.mem_map.mp found
    obtain ⟨content', is'⟩ := all other ho
    have names_of (relative : List String) (content : Content) (is : source relative content) :
        ∀ segment ∈ relative, Path.IsName segment :=
      fun s hs => (layout.named relative content is s hs).toIsName
    exact keyOf_inj (names_of other content' is') (names_of relative content is) same ▸ ho
  · rw [keys, List.map_map, List.map_map]
    rfl

include fresh clean everything

theorem runFrom_downloading (turns : Turns) :
    ∃ failed w', (c.downloading request turns).runFrom w = (.ok failed, w') ∧
      Downloaded request source w w' failed := by
  obtain ⟨names, distinct, all, blobs, listed, keys⟩ :=
    runFrom_listed_names request sound sized free there layout mirror
  have planned := planDownload_keys request clean everything names
    (fun relative hr => ((all relative).mp hr).elim (layout.some_name relative))
    (fun relative hr => ((all relative).mp hr).elim (layout.named relative))
  rw [← keys, List.map_map] at planned
  have apart : (names.map (itemOf request)).Nodup := by
    have := distinct.map (f := item request) fun a b same => congrArg (·.key) same
    rwa [List.map_map] at this
  -- Whatever is done before, an item is downloaded exactly if its path is short enough.
  have step : Step (downloadItem c.adapter) (names.map (itemOf request))
      (Downloading request source w)
      fun item => item.target.text.utf8ByteSize < FileTree.pathLimit := by
    intro done item w₁ listed later h
    obtain ⟨relative, hr, rfl⟩ := List.mem_map.mp listed
    obtain ⟨content, wanted⟩ := (all relative).mp hr
    dsimp only
    rw [itemOf_target request layout wanted]
    exact step_downloadItem_of_layout c fresh layout h wanted free mirror later
  obtain ⟨failed, done, w', ran, carried, inv, reported⟩ := trials_spec c.style
    (fun (item : DownloadItem) f => FailedDownload.mk item.target f) (·.destination) (·.target)
    (fun _ _ => rfl) (fun item => some item.key) apart step
    (fun f done => keeps_classify (fun w₁ h => free.congr h.plans) f) Downloading.start turns
  refine ⟨failed, w', ?_, inv.remote, ?_, ?_⟩
  · refine (BucketClient.runFrom_call_ok_iff ..).mpr ?_
    have divided : (c.style.reach (Action.ofAmbient (planDownload request (blobs.map (·.key))) :
        Op Backend _)).runFrom w = (.ok (names.map (itemOf request), []), w) := by
      refine c.style.runFrom_reach_ok_iff.mpr ?_
      rw [planned]
      rfl
    rw [downloadIn_eq]
    refine (Action.runFrom_bind_ok listed _).trans ((Action.runFrom_bind_ok divided _).trans ?_)
    dsimp only
    rw [← bind_assoc]
    exact (Action.runFrom_bind_ok ran _).trans rfl
  · refine (inv.filled.congr fun relative content => ?_).recreated fresh layout
      fun _ _ placed => placed.1
    refine and_congr_right fun is => (and_iff_left ?_).symm
    exact carried.mem_iff.mpr (List.mem_map_of_mem ((all relative).mpr ⟨content, is⟩))
  · intro p
    rw [reported, List.mem_map]
    constructor
    · rintro ⟨item, kept, rfl⟩
      obtain ⟨hi, long⟩ := List.mem_filter.mp kept
      obtain ⟨relative, hr, rfl⟩ := List.mem_map.mp hi
      obtain ⟨content, is⟩ := (all relative).mp hr
      have target := itemOf_target request layout is
      rw [target] at long ⊢
      exact ⟨relative, content, is, by simpa [Fits] using long, rfl⟩
    · rintro ⟨relative, content, is, long, rfl⟩
      have target := itemOf_target request layout is
      refine ⟨itemOf request relative, List.mem_filter.mpr ⟨?_, ?_⟩, target⟩
      · exact List.mem_map_of_mem ((all relative).mpr ⟨content, is⟩)
      · rw [target]
        simpa [Fits] using long

end Directory
end BlobStorage.Memory
