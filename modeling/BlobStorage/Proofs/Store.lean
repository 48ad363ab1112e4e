import BlobStorage.Proofs.Directory.FileTree
import BlobStorage.Proofs.Validation
import BlobStorage.Proofs.World
import BlobStorage.Store

/-!
The operations on a bucket, for any provider: an operation that only reads is quiet if the adapter's
reads are, and one that changes one thing is atomic if the adapter's change is. The checks that come
first are facts for what comes after them.
-/
namespace BlobStorage
variable {ρ α : Type} {a : Adapter ρ}

/-- The category that a classification gives a failure; one that fails itself leaves it unknown. -/
def verdict (classify : Failure → Op ρ ErrorKind) (f : Failure) (w : World ρ) : ErrorKind :=
  match ((classify f).runFrom w).1 with
  | .ok k => k
  | .error _ => .unknown

theorem runFrom_categorizeWith (classify : Failure → Op ρ ErrorKind) (f : Failure)
    (key : Option String) (chained : Bool) (w : World ρ) :
    (categorizeWith classify f key chained).runFrom w =
      (.ok (f.categorize (verdict classify f w) key chained), ((classify f).runFrom w).2) := by
  unfold categorizeWith verdict
  rw [Action.runFrom_bind, Action.runFrom_outcome]
  rcases (classify f).runFrom w with ⟨e | k, w'⟩ <;> rfl

namespace Store

theorem quiet_check (c : Check) : Quiet (check c : Op ρ Unit) := Action.Keeps.ofExcept c

theorem quiet_ambient (r : Except Ambient α) : Quiet (Action.ofAmbient r : Op ρ α) :=
  Action.Keeps.ofAmbient r

theorem runFrom_check_bind_ok {c : Check} (h : c = .ok ()) (f : Unit → Op ρ α) (w : World ρ) :
    Action.runFrom (check c >>= f) w = Action.runFrom (f ()) w := by
  rw [Action.runFrom_bind_ok (x := ()) (t := w)]
  simp [check, h]

theorem runFrom_check_bind_error {c : Check} {e : Failure} (h : c = .error e)
    (f : Unit → Op ρ α) (w : World ρ) :
    Action.runFrom (check c >>= f) w = (.error e, w) := by
  rw [Action.runFrom_bind_error]
  simp [check, h]

theorem ok_of_check_bind {c : Check} {f : Unit → Op ρ α} {w w' : World ρ} {x : α}
    (ran : Action.runFrom (check c >>= f) w = (.ok x, w')) :
    c = .ok () ∧ (f ()).runFrom w = (.ok x, w') := by
  obtain ⟨_, _, passed, ran⟩ := Action.ok_of_bind_ok ran
  obtain ⟨accepted, rfl⟩ := Prod.mk.inj passed
  exact ⟨accepted, ran⟩

theorem flatten_pieces {β : Type} {size : Nat} (positive : size ≠ 0) (items : List β) :
    (Content.pieces size items).flatten = items := by
  fun_induction Content.pieces size items with
  | case1 items none => simpa [positive, eq_comm] using none
  | case2 items more ih => simp [ih]

theorem flatten_of_partition {β : Type} {items : List β} {size : Int} {batches : List (List β)}
    (h : partition items size = .ok batches) : batches.flatten = items := by
  unfold partition at h
  split at h
  · cases h
  · cases h
    exact flatten_pieces (by omega) items

theorem pieces_map {β γ : Type} (f : β → γ) (size : Nat) (items : List β) :
    Content.pieces size (items.map f) = (Content.pieces size items).map (·.map f) := by
  fun_induction Content.pieces size items with
  | case1 items none => rw [Content.pieces, if_pos (by simpa using none), List.map_nil]
  | case2 items more ih =>
      rw [Content.pieces, if_neg (by simpa using more), ← List.map_drop, ih, ← List.map_take,
        List.map_cons]

/-- Targets whose keys are given are deleted batch after batch. -/
theorem runFrom_deleteMany {targets : List Target} (positive : 0 < a.deleteLimit)
    (given : ∀ t ∈ targets, t.key.isGiven = true) (w : World ρ) :
    (deleteMany a targets).runFrom w =
      ((Content.pieces a.deleteLimit.toNat targets).forM a.deleteMany).runFrom w := by
  unfold deleteMany
  cases targets with
  | nil =>
      have none : Content.pieces a.deleteLimit.toNat ([] : List Target) = [] := by
        rw [Content.pieces, if_pos (.inr rfl)]
      rw [none]
      rfl
  | cons t rest =>
      have accepted : Check.keys (t :: rest) = .ok () := by
        rw [Check.keys_eq, if_pos (List.all_eq_true.mpr given)]
      rw [if_neg (by simp), runFrom_check_bind_ok accepted, partition, if_neg (by omega)]
      rfl

/-- With a key that is not given, nothing is deleted. -/
theorem runFrom_deleteMany_refused {targets : List Target}
    (bare : ∃ t ∈ targets, t.key.isGiven = false) (w : World ρ) :
    (deleteMany a targets).runFrom w = (.error (.refusal .emptyKey none), w) := by
  obtain ⟨t, listed, bare⟩ := bare
  have some_target : ¬ targets.isEmpty = true := by simpa using List.ne_nil_of_mem listed
  have refused : Check.keys targets = .error (.refusal .emptyKey none) := by
    rw [Check.keys_eq, if_neg]
    · rfl
    · simpa using ⟨t, listed, bare⟩
  unfold deleteMany
  rw [if_neg some_target, runFrom_check_bind_error refused]

section Uploads
variable {request : UploadRequest} {path : Path} {content : Content} {w : World ρ}

section Accepted
variable (named : request.key ≠ "") (tagged : Check.tags request.tags = .ok ())
include named tagged

theorem runFrom_upload_bytes : (upload a request (.bytes content)).runFrom w =
    (a.uploadBytes request content).runFrom w := by
  unfold upload
  rw [runFrom_check_bind_ok ((Check.key_eq_ok_iff _).mpr named), runFrom_check_bind_ok tagged]

theorem runFrom_upload_stream : (upload a request (.stream content)).runFrom w =
    (a.uploadStream request content).runFrom w := by
  unfold upload
  rw [runFrom_check_bind_ok ((Check.key_eq_ok_iff _).mpr named), runFrom_check_bind_ok tagged]

/-- A file that is there is uploaded by the adapter. -/
theorem runFrom_upload_file (found : w.files.read? path = .ok (some content)) :
    (upload a request (.file path)).runFrom w = (a.uploadFile request path).runFrom w := by
  have there := FileTree.isFile_eq_true_iff.mpr ⟨content, found⟩
  unfold upload
  rw [runFrom_check_bind_ok ((Check.key_eq_ok_iff _).mpr named), runFrom_check_bind_ok tagged]
  dsimp only
  rw [Action.runFrom_bind_ok (Action.runFrom_get w), Action.runFrom_ambient_bind_ok there, if_pos rfl]

end Accepted

/-- A file is uploaded as a stream of its bytes, and declares how many they are if nothing else was
declared. -/
theorem runFrom_fileUpload {guard : Guard ρ} (found : w.files.read? path = .ok (some content))
    (passed : (guard .uploadFile request.key).runFrom w = (.ok (), w))
    (uploadStream : UploadRequest → Content → Op ρ UploadReceipt) :
    (Adapter.fileUpload guard uploadStream request path).runFrom w =
      (uploadStream { request with
        contentLength := some (request.contentLength.getD content.length) } content).runFrom w := by
  refine (Action.runFrom_bind_ok passed _).trans ?_
  refine (Action.runFrom_bind_ok (Action.runFrom_get w) _).trans ?_
  exact Action.runFrom_ambient_bind_ok found _ w

end Uploads

/-- A retention may be moved if it is there and not fixed for good. -/
theorem movableMode_eq_ok_iff (key : String) (current : Option LockInfo) (mode : RetentionMode) :
    movableMode key current = .ok mode ↔
      current.bind (·.mode) = some .governance ∧ mode = .governance := by
  unfold movableMode
  rcases current.bind (·.mode) with _ | _ | _ <;> simp [eq_comm]

/-- The first step of an update of a retention: the mode under which it may be moved. -/
def readMode (a : Adapter ρ) (i : Identifier) : Op ρ RetentionMode := do
  check (Check.key i.key)
  let current ← a.getRetention i
  Action.ofExcept (movableMode i.key current)

theorem setRetention_eq (a : Adapter ρ) (i : Identifier) (retainUntil : Option Moment) :
    setRetention a i retainUntil =
      readMode a i >>= fun mode => a.putRetention i mode retainUntil := by
  simp only [setRetention, readMode, bind_assoc]

/-- An upload that is asked for is opened by the adapter, or refused with nothing done. -/
theorem initiateUpload_cases (request : MultipartRequest) (w : World ρ) :
    (∃ e, (initiateUpload a request).runFrom w = (.error e, w)) ∨
      (initiateUpload a request).runFrom w = (a.initiateUpload request).runFrom w := by
  unfold initiateUpload
  cases Check.key request.key with
  | error e => exact .inl ⟨e, runFrom_check_bind_error rfl _ _⟩
  | ok _ =>
      rw [runFrom_check_bind_ok rfl]
      cases Check.tags request.tags with
      | error e => exact .inl ⟨e, runFrom_check_bind_error rfl _ _⟩
      | ok _ => exact .inr (runFrom_check_bind_ok rfl _ _)

/-- A completion is refused for its token or its parts, or goes to the adapter in order. -/
theorem runFrom_completeUpload (token : UploadToken) (parts : List PartReceipt) (w : World ρ) :
    (completeUpload a token parts).runFrom w =
      match Check.uploadToken token a.bucket, Check.parts parts with
      | .error e, _ => (.error e, w)
      | .ok _, .error e => (.error e, w)
      | .ok _, .ok _ => (a.completeUpload token (inOrder parts)).runFrom w := by
  unfold completeUpload
  cases Check.uploadToken token a.bucket with
  | error e => exact runFrom_check_bind_error rfl _ _
  | ok _ =>
      rw [runFrom_check_bind_ok rfl]
      cases Check.parts parts with
      | error e => exact runFrom_check_bind_error rfl _ _
      | ok _ => exact runFrom_check_bind_ok rfl _ _

/-- A part is refused for its token or for itself, or goes to the adapter. -/
theorem runFrom_uploadPart (token : UploadToken) (part : Part) (w : World ρ) :
    (uploadPart a token part).runFrom w =
      match Check.uploadToken token a.bucket, Check.part part a.partLimit with
      | .error e, _ => (.error e, w)
      | .ok _, .error e => (.error e, w)
      | .ok _, .ok _ => (a.uploadPart token part).runFrom w := by
  unfold uploadPart
  cases Check.uploadToken token a.bucket with
  | error e => exact runFrom_check_bind_error rfl _ _
  | ok _ =>
      rw [runFrom_check_bind_ok rfl]
      cases Check.part part a.partLimit with
      | error e => exact runFrom_check_bind_error rfl _ _
      | ok _ => exact runFrom_check_bind_ok rfl _ _

/-- A page is asked of the adapter if there is no limit, or a positive one. -/
theorem runFrom_listPage {request : PageRequest} (accepted : ∀ n ∈ request.maxResults, 0 < n)
    (w : World ρ) : (listPage a request).runFrom w = (a.listPage request).runFrom w := by
  obtain ⟨⟨stem, delimiter, maxResults⟩, token⟩ := request
  cases maxResults with
  | none => rfl
  | some n => exact runFrom_check_bind_ok (Check.positive_whole (accepted n rfl)) _ w

/-- What comes after a check may rely on it. -/
theorem atomic_check {P : ρ → α → ρ → Prop} {c : Check} {f : Unit → Op ρ α}
    (hf : c = .ok () → Atomic P (f ())) : Atomic P (check c >>= f) := by
  intro w
  rcases h : c with e | ⟨⟨⟩⟩
  · rw [runFrom_check_bind_error rfl]
  · rw [runFrom_check_bind_ok rfl]
    exact hf h w

theorem keeps_check {R : World ρ → World ρ → Prop} [Std.Refl R] {c : Check} {f : Unit → Op ρ α}
    (hf : c = .ok () → (f ()).Keeps R) : (check c >>= f).Keeps R := by
  intro w
  rcases h : c with e | ⟨⟨⟩⟩
  · rw [runFrom_check_bind_error rfl]
    exact Std.Refl.refl w
  · rw [runFrom_check_bind_ok rfl]
    exact hf h w

theorem keeps_listPage {R : World ρ → World ρ → Prop} [Std.Refl R] [IsTrans (World ρ) R]
    (h : ∀ r, (a.listPage r).Keeps R) (request : PageRequest) : (listPage a request).Keeps R := by
  obtain ⟨⟨stem, delimiter, maxResults⟩, token⟩ := request
  cases maxResults with
  | none => exact Action.Keeps.bind (Action.Keeps.pure _) fun _ => h _
  | some n => exact keeps_check fun _ => h _

/-- A bulk delete does no more than the bulk deletes of its batches, which hold nothing but its
targets. -/
theorem keeps_deleteMany {R : World ρ → World ρ → Prop} [Std.Refl R] [IsTrans (World ρ) R]
    {targets : List Target} (h : ∀ batch ⊆ targets, (a.deleteMany batch).Keeps R) :
    (deleteMany a targets).Keeps R := by
  unfold deleteMany
  cases cut : partition targets a.deleteLimit with
  | error e =>
      split
      · exact Action.Keeps.pure _
      · exact Action.Keeps.bind (Action.Keeps.ofExcept _) fun _ => Action.Keeps.throw e
  | ok batches =>
      have whole := flatten_of_partition cut
      have batchwise : (batches.forM a.deleteMany).Keeps R := by
        refine Action.Keeps.forM fun batch listed => h batch fun t ht => ?_
        rw [← whole]
        exact List.mem_flatten_of_mem listed ht
      split
      · exact Action.Keeps.pure _
      · exact Action.Keeps.bind (Action.Keeps.ofExcept _) fun _ => batchwise

section Reads

/-- The adapter only looks where it is asked to look. -/
structure ReadsQuietly (a : Adapter ρ) : Prop where
  classify : ∀ f, Quiet (a.classify f)
  downloadToStream : ∀ r, Quiet (a.downloadToStream r)
  downloadBytes : ∀ r, Quiet (a.downloadBytes r)
  downloadStream : ∀ r, Quiet (a.downloadStream r)
  getMetadata : ∀ i, Quiet (a.getMetadata i)
  listPage : ∀ r, Quiet (a.listPage r)
  listParts : ∀ token, Quiet (a.listParts token)
  getTags : ∀ key, Quiet (a.getTags key)
  presign : ∀ operation r, Quiet (a.presign operation r)
  objectExists : ∀ i, Quiet (a.objectExists i)
  bucketExists : Quiet a.bucketExists
  getRetention : ∀ i, Quiet (a.getRetention i)
  getLegalHold : ∀ i, Quiet (a.getLegalHold i)
  close : Quiet a.close

variable (reads : ReadsQuietly a)
include reads

theorem quiet_downloadToFile (request : DownloadRequest) (path : Path) :
    Quiet (downloadToFile a request path) := by
  refine Action.Keeps.bind Action.Keeps.get fun w => Action.Keeps.bind (quiet_ambient _) fun found => ?_
  cases found
  case' true => refine Action.Keeps.bind (Action.Keeps.throw _) fun _ => ?_
  all_goals
    refine Action.Keeps.bind (quiet_ambient _) fun made => ?_
    refine Action.Keeps.bind (Action.Keeps.modify fun _ => rfl) fun _ => ?_
    refine Action.Keeps.bind ((reads.downloadToStream request).onFailure
      (Action.Keeps.modify fun _ => rfl)) fun loaded => ?_
    exact Action.Keeps.bind (Action.Keeps.modify fun _ => rfl) fun _ => Action.Keeps.pure _

theorem quiet_download (request : DownloadRequest) (destination : Destination) :
    Quiet (download a request destination) := by
  refine Action.Keeps.bind (quiet_check _) fun _ => Action.Keeps.bind (quiet_check _) fun _ => ?_
  cases destination with
  | live => exact Action.Keeps.bind (reads.downloadStream request) fun _ => Action.Keeps.pure _
  | buffer => exact Action.Keeps.bind (reads.downloadBytes request) fun _ => Action.Keeps.pure _
  | stream => exact Action.Keeps.bind (reads.downloadToStream request) fun _ => Action.Keeps.pure _
  | file path => exact quiet_downloadToFile reads request path
  | unsupported typeName => exact Action.Keeps.throw _

theorem quiet_getMetadata (i : Identifier) : Quiet (getMetadata a i) :=
  Action.Keeps.bind (quiet_check _) fun _ => reads.getMetadata i

theorem quiet_listPage (request : PageRequest) : Quiet (listPage a request) :=
  keeps_listPage reads.listPage request

theorem quiet_listParts (token : UploadToken) : Quiet (listParts a token) :=
  Action.Keeps.bind (quiet_check _) fun _ =>
    Action.Keeps.bind (reads.listParts token) fun _ => quiet_ambient _

theorem quiet_getTags (key : String) : Quiet (getTags a key) :=
  Action.Keeps.bind (quiet_check _) fun _ => reads.getTags key

theorem quiet_presign (request : PresignRequest) : Quiet (presign a request) := by
  refine Action.Keeps.bind (quiet_check _) fun _ => Action.Keeps.bind (quiet_check _) fun _ => ?_
  cases request.operation with
  | ok operation => exact reads.presign operation request
  | error v => exact Action.Keeps.throw _

theorem quiet_objectExists (i : Identifier) : Quiet (objectExists a i) :=
  Action.Keeps.bind (quiet_check _) fun _ => reads.objectExists i

theorem quiet_getLock (i : Identifier) : Quiet (getLock a i) :=
  Action.Keeps.bind (quiet_check _) fun _ => Action.Keeps.bind (reads.getRetention i) fun _ =>
    Action.Keeps.bind (reads.getLegalHold i) fun _ => Action.Keeps.pure _

end Reads

section Changes
variable {P : ρ → α → ρ → Prop}

theorem atomic_upload {P : ρ → UploadReceipt → ρ → Prop} {request : UploadRequest}
    {source : UploadSource}
    (bytes : request.key ≠ "" → ∀ content, Atomic P (a.uploadBytes request content))
    (stream : request.key ≠ "" → ∀ content, Atomic P (a.uploadStream request content))
    (file : request.key ≠ "" → ∀ path, Atomic P (a.uploadFile request path)) :
    Atomic P (upload a request source) := by
  refine atomic_check fun named => .after (quiet_check _) fun _ => ?_
  have named := (Check.key_eq_ok_iff _).mp named
  cases source with
  | bytes content => exact bytes named content
  | stream content => exact stream named content
  | file path =>
      refine .after Action.Keeps.get fun w => .after (quiet_ambient _) fun found => ?_
      cases found with
      | true => exact file named path
      | false => exact .throw _
  | unsupported typeName => exact .throw _

theorem atomic_copy {P : ρ → CopyReceipt → ρ → Prop} {request : CopyRequest}
    (h : request.destKey ≠ "" → Atomic P (a.copy request)) : Atomic P (copy a request) :=
  .after (quiet_check _) fun _ => atomic_check fun named => h ((Check.key_eq_ok_iff _).mp named)

theorem atomic_copyFrom {P : ρ → CopyReceipt → ρ → Prop} {request : CopyFromRequest}
    (h : request.destKey ≠ "" → Atomic P (a.copyFrom request)) : Atomic P (copyFrom a request) :=
  .after (quiet_check _) fun _ => .after (quiet_check _) fun _ =>
    atomic_check fun named => h ((Check.key_eq_ok_iff _).mp named)

theorem atomic_delete {P : ρ → Unit → ρ → Prop} {i : Identifier} (h : Atomic P (a.delete i)) :
    Atomic P (delete a i) :=
  .after (quiet_check _) fun _ => h

theorem atomic_setTags {P : ρ → Unit → ρ → Prop} {key : String} {tags : Attributes}
    (h : Atomic P (a.setTags key tags)) : Atomic P (setTags a key tags) :=
  .after (quiet_check _) fun _ => .after (quiet_check _) fun _ => h

theorem atomic_setLegalHold {P : ρ → Unit → ρ → Prop} {i : Identifier} {hold : Bool}
    (h : Atomic P (a.putLegalHold i hold)) : Atomic P (setLegalHold a i hold) :=
  .after (quiet_check _) fun _ => h

theorem atomic_uploadPart {P : ρ → PartReceipt → ρ → Prop} {token : UploadToken} {part : Part}
    (h : token.bucket = a.bucket → Check.part part a.partLimit = .ok () →
      Atomic P (a.uploadPart token part)) :
    Atomic P (uploadPart a token part) :=
  atomic_check fun ours => atomic_check fun accepted =>
    h ((Check.uploadToken_eq_ok_iff _ _).mp ours).2.1 accepted

theorem atomic_completeUpload {P : ρ → MultipartReceipt → ρ → Prop} {token : UploadToken}
    {parts : List PartReceipt}
    (h : token.key ≠ "" → Atomic P (a.completeUpload token (inOrder parts))) :
    Atomic P (completeUpload a token parts) :=
  atomic_check fun ours => .after (quiet_check _) fun _ =>
    h ((Check.uploadToken_eq_ok_iff _ _).mp ours).2.2

theorem atomic_abortUpload {P : ρ → Unit → ρ → Prop} {token : UploadToken}
    (h : Atomic P (a.abortUpload token)) : Atomic P (abortUpload a token) :=
  .after (quiet_check _) fun _ => h

end Changes
end Store
end BlobStorage
