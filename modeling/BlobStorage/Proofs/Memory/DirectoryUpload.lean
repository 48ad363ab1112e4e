import BlobStorage.Proofs.Directory.Keys
import BlobStorage.Proofs.Memory.Upload

/-!
Uploading a directory to a memory store. Every file of the source becomes the newest version of a key
of its own, whatever the order in which the files are uploaded, and nothing else changes.
-/
namespace BlobStorage

namespace Memory
open Directory

theorem keeps_classify {c : Caller} {P : World Backend → Prop} (free : ∀ w, P w → c.Unhindered w)
    (f : Failure) : (c.adapter.classify f).Keeps (Stays P) := by
  intro w inv
  rw [runFrom_classify (free w inv)]
  exact inv

section Whole
variable {c : Caller} {w : World Backend} {tags : Attributes} {units done : List UploadItem}

/-- Some of the units of an upload are done: each is the newest version of its key. -/
structure Uploading (c : Caller) (tags : Attributes) (w : World Backend) (units done : List UploadItem)
    (w' : World Backend) : Prop where
  sub : ∀ item ∈ done, item ∈ units
  files : w'.files = w.files
  plans : w'.interceptions = w.interceptions
  sound : w'.remote.Sound
  there : w'.remote.hasBucket c.store.bucket = true
  new : ∀ item ∈ done, ∃ v : Version, w.files.read? item.path = .ok (some v.data) ∧ v.tags = tags ∧
    w'.remote.versionsAt c.store.bucket item.key =
      w.remote.versionsAt c.store.bucket item.key ++ [v]
  others : ∀ bucket key, (bucket = c.store.bucket → ∀ item ∈ done, item.key ≠ key) →
    w'.remote.versionsAt bucket key = w.remote.versionsAt bucket key

/-- The units can be uploaded, each under a key of its own. -/
structure Ready (files : FileTree) (units : List UploadItem) : Prop where
  keyed : ∀ item ∈ units, item.key ≠ ""
  apart : ∀ item ∈ units, ∀ other ∈ units, item.key = other.key → item = other
  read : ∀ item ∈ units, ∃ content, files.read? item.path = .ok (some content) ∧
    content.length ≤ 9223372036854775807

theorem Uploading.start (sound : w.remote.Sound)
    (there : w.remote.hasBucket c.store.bucket = true) : Uploading c tags w units [] w :=
  ⟨by simp, rfl, rfl, sound, there, by simp, fun _ _ _ => rfl⟩

variable {w₁ : World Backend} {item : UploadItem} (h : Uploading c tags w units done w₁)
  (ready : Ready w.files units) (listed : item ∈ units)
include h ready listed

theorem Uploading.add (later : item ∉ done) {draft : Draft} {v : Version} {t : Backend}
    (stored : w₁.remote.store c.store.bucket item.key draft = .ok (v, t))
    (read : w.files.read? item.path = .ok (some draft.data)) (tagged : draft.tags = tags)
    (there : t.hasBucket c.store.bucket = true) :
    Uploading c tags w units (item :: done) { w₁ with remote := t } := by
  have appended := Backend.appended_of_store h.sound.tidy stored
  have drafted := Backend.toDraft_of_store stored
  have earlier (other : UploadItem) (ho : other ∈ done) : other.key ≠ item.key := fun same =>
    later (ready.apart other (h.sub other ho) item listed same ▸ ho)
  refine ⟨List.forall_mem_cons.mpr ⟨listed, h.sub⟩, h.files, h.plans, ?_, there,
    List.forall_mem_cons.mpr ⟨?_, ?_⟩, ?_⟩
  · exact h.sound.made ⟨.store c.store.bucket item.key draft, ready.keyed item listed,
      map_eq_ok_iff.mpr ⟨_, stored, rfl⟩⟩
  · have rewritten := appended.rewritten c.store.bucket item.key
    rw [if_pos ⟨rfl, rfl⟩, h.others _ _ fun _ => earlier] at rewritten
    exact ⟨v, drafted ▸ read, drafted ▸ tagged, rewritten⟩
  · intro other ho
    have rewritten := appended.rewritten c.store.bucket other.key
    rw [if_neg fun same => earlier other ho same.2] at rewritten
    obtain ⟨u, is, tagged, versions⟩ := h.new other ho
    exact ⟨u, is, tagged, rewritten.trans versions⟩
  · intro bucket key apart
    rw [appended.rewritten bucket key, if_neg]
    · exact h.others bucket key fun same => (List.forall_mem_cons.mp (apart same)).2
    · exact fun same => (List.forall_mem_cons.mp (apart same.1)).1 same.2.symm

omit h listed in
theorem step_uploadItem (free : c.Unhindered w) (tagged : Check.tags tags = .ok ()) :
    Step (uploadItem c.adapter tags) units (Uploading c tags w units) fun _ => True := by
  intro done item w₁ listed later h
  obtain ⟨content, read, short⟩ := ready.read item listed
  have found : w₁.files.read? item.path = .ok (some content) := h.files ▸ read
  let request : UploadRequest := { key := item.key, contentLength := Int.ofNat content.length, tags }
  obtain ⟨v, t, stored, there⟩ :=
    Backend.exists_store h.there request.key (Store.draftOf request content)
  have offers : (UploadSource.file item.path).Offers w₁.files request.contentLength content :=
    UploadSource.Holds.offers (.file found) (.inr rfl) short
  have sent := runFrom_upload (free.congr h.plans) stored (ready.keyed item listed) tagged offers
  have ran : (uploadItem c.adapter tags item).runFrom w₁ = (.ok (), { w₁ with remote := t }) := by
    refine (Action.runFrom_bind_ok (Action.runFrom_get w₁) _).trans ?_
    refine (Action.runFrom_ambient_bind_ok found _ w₁).trans ?_
    exact Action.runFrom_bind_ok sent _
  rw [ran]
  exact ⟨by simp, h.add ready listed later stored read rfl there⟩

end Whole

def Caller.uploading (c : Caller) (request : DirectoryUpload) (turns : Turns) :
    Op Backend (List FailedUpload) :=
  c.client.call none (Directory.uploadIn c.style c.adapter request turns)

/-- Every file of the source is the newest version of its key, with the tags of the request, and there
is no other change. -/
structure Uploaded (bucket : String) (request : DirectoryUpload) (directory : List String)
    (w w' : World Backend) : Prop where
  files : w'.files = w.files
  new : ∀ relative content, w.files.FileBelow directory request.recursive relative content →
    ∃ v : Version, v.data = content ∧ v.tags = request.tags ∧
      w'.remote.versionsAt bucket (keyOf (stemOf request.stem) relative) =
        w.remote.versionsAt bucket (keyOf (stemOf request.stem) relative) ++ [v]
  others : ∀ name key,
    (name = bucket → ∀ relative content,
      w.files.FileBelow directory request.recursive relative content →
        keyOf (stemOf request.stem) relative ≠ key) →
    w'.remote.versionsAt name key = w.remote.versionsAt name key

/-- The files of a source can all be read: none is too large or has too long a path. -/
structure Readable (files : FileTree) (request : DirectoryUpload) (directory : List String) : Prop where
  size : ∀ relative content, files.FileBelow directory request.recursive relative content →
    content.length ≤ 9223372036854775807
  path : ∀ relative content, files.FileBelow directory request.recursive relative content →
    (Path.mk request.source.base (request.source.segments ++ relative)).text.utf8ByteSize <
      FileTree.pathLimit

section Directory
variable {c : Caller} {w : World Backend} {request : DirectoryUpload} {directory : List String}
  (tree : w.files.Sound) (leads : w.files.directory? request.source = .ok (some directory))
  (readable : Readable w.files request directory)
include tree leads readable

theorem ready_of_readable {names : List (List String)}
    (all : ∀ relative, relative ∈ names ↔
      ∃ content, w.files.FileBelow directory request.recursive relative content) :
    Ready w.files (names.map (filed request)) := by
  have named (relative : List String) (hn : relative ∈ names) :
      relative ≠ [] ∧ ∀ segment ∈ relative, Path.IsName segment := by
    obtain ⟨content, below⟩ := (all relative).mp hn
    exact ⟨below.some_name, fun s hs => (tree.named_below below s hs).toIsName⟩
  constructor
  · intro item hi
    obtain ⟨relative, hn, rfl⟩ := List.mem_map.mp hi
    exact keyOf_ne_empty (named relative hn).1 (named relative hn).2 _
  · intro item hi other ho same
    obtain ⟨relative, hn, rfl⟩ := List.mem_map.mp hi
    obtain ⟨relative', hn', rfl⟩ := List.mem_map.mp ho
    exact congrArg _ (keyOf_inj (named relative hn).2 (named relative' hn').2 same)
  · intro item hi
    obtain ⟨relative, hn, rfl⟩ := List.mem_map.mp hi
    obtain ⟨content, below⟩ := (all relative).mp hn
    exact ⟨content, tree.read?_below leads below (readable.path relative content below),
      readable.size relative content below⟩

theorem runFrom_uploading (sound : w.remote.Sound) (free : c.Unhindered w)
    (there : w.remote.hasBucket c.store.bucket = true) (tagged : Check.tags request.tags = .ok ())
    (turns : Turns) :
    ∃ w', (c.uploading request turns).runFrom w = (.ok [], w') ∧
      Uploaded c.store.bucket request directory w w' ∧ w'.remote.Sound ∧
      w'.interceptions = w.interceptions ∧ w'.remote.hasBucket c.store.bucket = true := by
  obtain ⟨names, planned, distinct, all⟩ := planUpload_spec tree request leads
  have ready := ready_of_readable tree leads readable all
  have apart : (names.map (filed request)).Nodup :=
    distinct.map fun relative relative' same => filed_inj same
  obtain ⟨failed, done, w', ran, carried, inv, none_failed⟩ := trials_spec c.style
    (fun (item : UploadItem) f => FailedUpload.mk item.path f) (·.source) (·.path)
    (fun _ _ => rfl) (fun item => some item.key) apart (step_uploadItem ready free tagged)
    (fun f done => keeps_classify (fun w₁ h => free.congr h.plans) f)
    (Uploading.start sound there) turns
  -- Every unit of an upload goes well, so those that failed are none.
  have nothing : failed = [] := by simpa using none_failed
  subst nothing
  have mem (relative : List String) (content : Content)
      (below : w.files.FileBelow directory request.recursive relative content) :
      filed request relative ∈ done :=
    carried.mem_iff.mpr (List.mem_map_of_mem ((all relative).mpr ⟨content, below⟩))
  refine ⟨w', ?_, ⟨inv.files, ?_, ?_⟩, inv.sound, inv.plans, inv.there⟩
  · refine (BucketClient.runFrom_call_ok_iff ..).mpr ?_
    have planned : (planning request).runFrom w = (.ok (names.map (filed request)), w) := by
      refine (Action.runFrom_bind_ok (Action.runFrom_get w) _).trans ?_
      rw [planned]
      rfl
    rw [uploadIn_eq]
    exact (Action.runFrom_bind_ok (c.style.runFrom_reach_ok_iff.mpr planned) _).trans ran
  · intro relative content below
    obtain ⟨v, read, tags, versions⟩ := inv.new _ (mem relative content below)
    have found := tree.read?_below leads below (readable.path relative content below)
    refine ⟨v, ?_, tags, versions⟩
    simpa [filed, found, eq_comm] using read
  · intro name key other
    refine inv.others name key fun same item hi => ?_
    obtain ⟨relative, hn, rfl⟩ := List.mem_map.mp (carried.mem_iff.mp hi)
    obtain ⟨content, below⟩ := (all relative).mp hn
    exact other same relative content below

end Directory
end Memory
end BlobStorage
