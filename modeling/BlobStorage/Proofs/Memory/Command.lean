import BlobStorage.Command
import BlobStorage.Proofs.Directory.Awaited
import BlobStorage.Proofs.Memory.Adapter
import BlobStorage.Proofs.Memory.Entries
import BlobStorage.Proofs.Memory.History
import BlobStorage.Proofs.Memory.Removal

/-!
What the operations on a memory store do to its backend. Whether it succeeds or fails, an operation is
a chain of changes of the kinds that it may make; one that writes a version, or that puts a part, is
one such change exactly when it succeeds.
-/
namespace BlobStorage.Memory

/-- A chain of changes of an allowed kind leads from the remote side of one world to that of another. -/
def Leads (allowed : Backend → Change → Prop) (w w' : World Backend) : Prop :=
  Backend.Proceeds allowed w.remote w'.remote

instance (allowed : Backend → Change → Prop) : Std.Refl (Leads allowed) :=
  ⟨fun _ => Relation.ReflTransGen.refl⟩

instance (allowed : Backend → Change → Prop) : IsTrans (World Backend) (Leads allowed) :=
  ⟨fun _ _ _ h k => Relation.ReflTransGen.trans h k⟩

variable {α : Type} {allowed : Backend → Change → Prop}

theorem leads_of_same {w w' : World Backend} (same : SameRemote w w') : Leads allowed w w' := by
  unfold Leads
  rw [same]
  exact Relation.ReflTransGen.refl

theorem leads_of_quiet {a : Op Backend α} (h : Quiet a) : a.Keeps (Leads allowed) :=
  Action.Keeps.mono h fun _ _ => leads_of_same

theorem leads_of_atomic {P : Backend → α → Backend → Prop} {a : Op Backend α} (h : Atomic P a)
    (made : ∀ s x t, P s x t → Backend.Made allowed s t) : a.Keeps (Leads allowed) :=
  h.keeps (fun _ => Relation.ReflTransGen.refl) fun s x t hp => Relation.ReflTransGen.single (made s x t hp)

namespace Store
variable {s : Store} {guard : Guard Backend} (harmless : Harmless guard)
include harmless

theorem keeps_deleteManyChecked {R : World Backend → World Backend → Prop} [Std.Refl R]
    [IsTrans (World Backend) R] (quiet : ∀ w w', SameRemote w w' → R w w') {targets : List Target}
    (deleted : ∀ i : Identifier, i.target ∈ targets →
      (update fun b => b.delete s.bucket i.key i.version).Keeps R) :
    (BlobStorage.Store.deleteMany (s.adapter guard) targets).Keeps R := by
  refine BlobStorage.Store.keeps_deleteMany fun batch sub => ?_
  exact keeps_deleteMany (fun p key => (harmless p key).mono quiet) fun i hi => deleted i (sub hi)

/-- What a page lists are versions of keys under the stem. -/
theorem gives_fetch {R : World Backend → World Backend → Prop} [Std.Refl R]
    [IsTrans (World Backend) R] (quiet : ∀ w w', SameRemote w w' → R w w') (stem : Option String)
    (token : Option PageToken) :
    (Listing.fetch (s.adapter guard) { stem } token).Gives R fun answer =>
      ∀ page, answer = .ok page → ∀ t ∈ Directory.targets page,
        ∃ i : Identifier, t = i.target ∧ Memory.Listing.Listed stem i := by
  have still {α : Type} {a : Op Backend α} (h : Quiet a) : a.Gives R fun _ => True :=
    Action.Gives.of_keeps (Action.Keeps.mono h quiet) fun _ => trivial
  have asked : ((s.adapter guard).listPage { stem, token }).Gives R fun page =>
      ∀ t ∈ Directory.targets page, ∃ i : Identifier, t = i.target ∧ Memory.Listing.Listed stem i :=
    (still (harmless _ _)).bind fun _ _ => (still (quiet_see _)).bind fun _ _ =>
      (still (Action.Keeps.ofAmbient _)).bind fun _ _ =>
        Action.Gives.pure fun _ ht => Memory.Listing.listed_of_page ht
  refine Action.Gives.bind (Action.Gives.bind (still (Action.Keeps.pure ())) fun _ _ => asked).outcome
    fun answer listed => Action.Gives.pure ?_
  intro page is
  cases answer with
  | error f => cases is
  | ok p => exact listed page (congrArg Except.ok (Except.ok.inj is))

/-- Opening an upload takes a number, also where there is no bucket to open it in. -/
theorem initiateUpload_spec (request : MultipartRequest) (w : World Backend) :
    match (initiateUpload s guard request).runFrom w with
    | (.ok token, w') =>
        (Change.openUpload s.bucket request).apply w.remote = .ok w'.remote ∧
          token.bucket = s.bucket ∧ token.key = request.key ∧
          token.id = .known (Upload.idOf w.remote.nextNumber)
    | (.error _, w') => w'.remote = w.remote ∨ w'.remote = w.remote.takeNumber.2 := by
  have quiet : ((guard .initiateUpload request.key).runFrom w).2.remote = w.remote :=
    harmless _ _ w
  unfold initiateUpload
  rw [Action.runFrom_bind]
  rcases passed : (guard .initiateUpload request.key).runFrom w with ⟨e | x, w₁⟩
  · rw [passed] at quiet
    exact .inl quiet
  · rw [passed] at quiet
    dsimp only at quiet ⊢
    rw [Action.runFrom_bind_ok (runFrom_change_ok rfl)]
    have opens : (Change.openUpload s.bucket request).apply w.remote =
        w₁.remote.takeNumber.2.openUpload s.bucket (Upload.idOf w₁.remote.takeNumber.1) request := by
      rw [quiet]
      rfl
    rcases h : (Change.openUpload s.bucket request).apply w.remote with fault | t
    · rw [Action.runFrom_bind_error (runFrom_update_error (opens.symm.trans h))]
      refine .inr ?_
      rw [quiet]
      rfl
    · rw [Action.runFrom_bind_ok (runFrom_update_ok (opens.symm.trans h))]
      refine ⟨rfl, rfl, rfl, ?_⟩
      rw [← quiet]
      rfl

theorem leads_initiateUpload (request : MultipartRequest)
    (permitted : ∀ b, allowed b .takeNumber ∧ allowed b (.openUpload s.bucket request)) :
    (initiateUpload s guard request).Keeps (Leads allowed) := by
  intro w
  have spec := initiateUpload_spec (s := s) harmless request w
  unfold Leads
  rcases run : (initiateUpload s guard request).runFrom w with ⟨e | token, w'⟩
  · rw [run] at spec
    cases spec with
    | inl same => exact same ▸ Relation.ReflTransGen.refl
    | inr took =>
        refine Relation.ReflTransGen.single ⟨.takeNumber, (permitted _).1, ?_⟩
        rw [took]
        rfl
  · rw [run] at spec
    exact Relation.ReflTransGen.single ⟨_, (permitted _).2, spec.1⟩

end Store

/-- What an operation may do: one that reads makes no changes. -/
def roles : Command → List Role
  | .upload _ _ | .copy _ | .copyFrom _ | .completeUpload _ _ | .uploadDirectory _ => [.writing]
  | .initiateUpload _ => [.opening, .other]
  | .uploadPart _ _ => [.putting]
  | .delete _ | .deleteMany _ | .abortUpload _ | .setTags _ _ | .setRetention _ _
  | .setLegalHold _ _ | .deleteDirectory _ => [.other]
  | _ => []

/-- The changes that an operation may make through a store to a backend. Only a retention that may be
moved is moved. -/
inductive Makes (s : Store) : Command → Backend → Change → Prop
  | upload {b : Backend} {request : UploadRequest} {source : UploadSource} (content : Content) :
      request.key ≠ "" →
      Makes s (.upload request source) b (.store s.bucket request.key (Store.draftOf request content))
  | copy {b : Backend} {request : CopyRequest} : request.destKey ≠ "" →
      Makes s (.copy request) b (.copy s.bucket request.srcKey request.srcVersion
        ((request.destBucket.filter (!·.isEmpty)).getD s.bucket) request.destKey)
  | copyFrom {b : Backend} {request : CopyFromRequest} : request.destKey ≠ "" →
      Makes s (.copyFrom request) b
        (.copy request.srcBucket request.srcKey request.srcVersion s.bucket request.destKey)
  | delete {b : Backend} (i : Identifier) : Makes s (.delete i) b (.delete s.bucket i.key i.version)
  | deleteMany {b : Backend} {targets : List Target} (i : Identifier) : i.target ∈ targets →
      Makes s (.deleteMany targets) b (.delete s.bucket i.key i.version)
  | takeNumber {b : Backend} (request : MultipartRequest) :
      Makes s (.initiateUpload request) b .takeNumber
  | openUpload {b : Backend} {request : MultipartRequest} : request.key ≠ "" →
      Makes s (.initiateUpload request) b (.openUpload s.bucket request)
  | putPart {b : Backend} {token : UploadToken} {part : Part} {data : Content} :
      part.data = .ok data →
      Makes s (.uploadPart token part) b (.putPart s.bucket token part.number data)
  | completeUpload {b : Backend} {token : UploadToken} {parts : List PartReceipt} :
      token.key ≠ "" → Makes s (.completeUpload token parts) b
        (.completeUpload s.bucket token (BlobStorage.Store.inOrder parts))
  | abortUpload {b : Backend} (token : UploadToken) :
      Makes s (.abortUpload token) b (.abortUpload s.bucket token)
  | setTags {b : Backend} (key : String) (tags : Attributes) :
      Makes s (.setTags key tags) b (.setTags s.bucket key tags)
  | setRetention {b : Backend} {i : Identifier} {v : Version} (retainUntil : Option Moment) :
      Version.chosen? (b.versionsAt s.bucket i.key) i.version = some v →
      v.retention.bind (·.mode) = some .governance →
      Makes s (.setRetention i retainUntil) b
        (.setRetention s.bucket i.key i.version ⟨RetentionMode.governance, retainUntil⟩)
  | setLegalHold {b : Backend} (i : Identifier) (hold : Bool) :
      Makes s (.setLegalHold i hold) b (.setLegalHold s.bucket i.key i.version hold)
  | uploadDirectory {b : Backend} {directory : DirectoryUpload} {request : UploadRequest}
      (content : Content) : request.key ≠ "" → Makes s (.uploadDirectory directory) b
        (.store s.bucket request.key (Store.draftOf request content))
  | deleteDirectory {b : Backend} {stem : Option String} {i : Identifier} :
      Memory.Listing.Listed stem i →
      Makes s (.deleteDirectory stem) b (.delete s.bucket i.key i.version)

theorem Makes.kind {s : Store} {command : Command} {b : Backend} {c : Change}
    (made : Makes s command b c) : c.Checked ∧ c.role ∈ roles command := by
  cases made <;> simp_all [Change.Checked, Change.role, roles]

theorem listed_of_targets {stem : Option String} {targets : List Target} {i : Identifier}
    (all : ∀ t ∈ targets, ∃ i : Identifier, t = i.target ∧ Memory.Listing.Listed stem i)
    (hi : i.target ∈ targets) : Memory.Listing.Listed stem i := by
  obtain ⟨j, same, listed⟩ := all _ hi
  obtain ⟨key, version⟩ := i
  cases same
  exact listed

/-- Where an operation that writes one version writes it. -/
def target (s : Store) : Command → Option (String × String)
  | .upload request _ => some (s.bucket, request.key)
  | .copy request => some ((request.destBucket.filter (!·.isEmpty)).getD s.bucket, request.destKey)
  | .copyFrom request => some (s.bucket, request.destKey)
  | .completeUpload token _ => some (s.bucket, token.key)
  | _ => none

/-- The identifier of a version that an answer names as written. -/
def written : Answer → Option (Reported String)
  | .uploaded receipt => receipt.version
  | .copied receipt => receipt.version
  | .completed receipt => receipt.version
  | _ => none

section Commands
variable {s : Store} {guard : Guard Backend} (harmless : Store.Harmless guard)
include harmless

theorem atomic_upload (request : UploadRequest) (source : UploadSource) :
    Atomic (fun b x b' => request.key ≠ "" ∧ ∃ content, Store.Uploads s request content b x b')
      (BlobStorage.Store.upload (s.adapter guard) request source) := by
  refine BlobStorage.Store.atomic_upload ?_ ?_ ?_
  · intro named content
    exact (Store.atomic_uploadBytes harmless request content).mono fun _ _ _ h => ⟨named, _, h⟩
  · intro named content
    exact (Store.atomic_uploadRead harmless _ request).mono fun _ _ _ h => ⟨named, h⟩
  · intro named path
    refine (Store.atomic_uploadFile harmless request path).mono ?_
    intro b x b' ⟨length, content, h⟩
    exact ⟨named, content, h⟩

theorem atomic_copy (request : CopyRequest) :
    Atomic (fun b x b' => request.destKey ≠ "" ∧ ∃ v,
        b.copy s.bucket request.srcKey request.srcVersion
          ((request.destBucket.filter (!·.isEmpty)).getD s.bucket) request.destKey = .ok (v, b') ∧
        x.version = some (.known v.id))
      (BlobStorage.Store.copy (s.adapter guard) request) := by
  refine BlobStorage.Store.atomic_copy fun named => ?_
  exact (Store.atomic_copy harmless request).mono fun _ _ _ h => ⟨named, h⟩

theorem atomic_copyFrom (request : CopyFromRequest) :
    Atomic (fun b x b' => request.destKey ≠ "" ∧ ∃ v,
        b.copy request.srcBucket request.srcKey request.srcVersion s.bucket request.destKey =
          .ok (v, b') ∧
        x.version = some (.known v.id))
      (BlobStorage.Store.copyFrom (s.adapter guard) request) := by
  refine BlobStorage.Store.atomic_copyFrom fun named => ?_
  exact (Store.atomic_copyFrom harmless request).mono fun _ _ _ h => ⟨named, h⟩

theorem atomic_uploadPart (token : UploadToken) (part : Part) :
    Atomic (fun b x b' => Check.part part (s.adapter guard).partLimit = .ok () ∧
        ∃ data, part.data = .ok data ∧ b.putPart s.bucket token part.number data = .ok b' ∧
          x = ⟨part.number, .known (etagOf data), Int.ofNat data.length⟩)
      (BlobStorage.Store.uploadPart (s.adapter guard) token part) := by
  refine BlobStorage.Store.atomic_uploadPart fun _ accepted => ?_
  exact (Store.atomic_uploadPart harmless token part).mono fun _ _ _ h => ⟨accepted, h⟩

theorem atomic_completeUpload (token : UploadToken) (parts : List PartReceipt) :
    Atomic (fun b x b' => token.key ≠ "" ∧ ∃ v,
        b.completeUpload s.bucket token (BlobStorage.Store.inOrder parts) = .ok (v, b') ∧
        x.version = some (.known v.id))
      (BlobStorage.Store.completeUpload (s.adapter guard) token parts) := by
  refine BlobStorage.Store.atomic_completeUpload fun named => ?_
  exact (Store.atomic_completeUpload harmless token _).mono fun _ _ _ h => ⟨named, h⟩

theorem atomic_readMode (i : Identifier) :
    Atomic (fun b mode b' => b' = b ∧ mode = .governance ∧
        ∃ v, Version.chosen? (b.versionsAt s.bucket i.key) i.version = some v ∧
          v.retention.bind (·.mode) = some .governance)
      (BlobStorage.Store.readMode (s.adapter guard) i) := by
  refine .after (BlobStorage.Store.quiet_check _) fun _ =>
    .looked (Store.atomic_getRetention harmless i) fun current => .ofExcept fun mode movable b => ?_
  rintro ⟨v, chosen, rfl⟩
  obtain ⟨governed, rfl⟩ := (BlobStorage.Store.movableMode_eq_ok_iff ..).mp movable
  rw [Option.bind_map] at governed
  exact ⟨rfl, rfl, v, chosen, governed⟩

/-- A retention is moved only from one that may be moved. -/
theorem atomic_setRetention (i : Identifier) (retainUntil : Option Moment) :
    Atomic (fun b _ b' =>
        (∃ v, Version.chosen? (b.versionsAt s.bucket i.key) i.version = some v ∧
          v.retention.bind (·.mode) = some .governance) ∧
        b.setRetention s.bucket i.key i.version ⟨RetentionMode.governance, retainUntil⟩ = .ok b')
      (BlobStorage.Store.setRetention (s.adapter guard) i retainUntil) := by
  rw [BlobStorage.Store.setRetention_eq]
  refine .looked (atomic_readMode harmless i) fun mode => ?_
  refine (Store.atomic_putRetention harmless i mode retainUntil).mono ?_
  rintro b x b' put ⟨rfl, governed⟩
  exact ⟨governed, put⟩

section Chains
variable {command : Command} {β : Type}

omit harmless in
theorem leads_of_change {c : Change} {P : Backend → α → Backend → Prop} {a : Op Backend α}
    (h : Atomic P a) (permitted : ∀ b, allowed b c) (made : ∀ {b x b'}, P b x b' → c.apply b = .ok b')
    (answer : β) : (a >>= fun _ => pure answer).Keeps (Leads allowed) :=
  Action.Keeps.bind (leads_of_atomic h fun b _ _ changed => ⟨c, permitted b, made changed⟩)
    fun _ => Action.Keeps.pure _

theorem leads_upload (request : UploadRequest) (source : UploadSource)
    (permitted : ∀ b content, request.key ≠ "" → Makes s command b
      (.store s.bucket request.key (Store.draftOf request content))) :
    (BlobStorage.Store.upload (s.adapter guard) request source).Keeps (Leads (Makes s command)) := by
  refine leads_of_atomic (atomic_upload harmless request source) ?_
  intro b x b' ⟨named, content, v, h, _⟩
  exact ⟨_, permitted b content named, map_eq_ok_iff.mpr ⟨_, h, rfl⟩⟩

theorem leads_deleteMany {targets : List Target}
    (permitted : ∀ b (i : Identifier), i.target ∈ targets →
      Makes s command b (.delete s.bucket i.key i.version)) :
    (BlobStorage.Store.deleteMany (s.adapter guard) targets).Keeps (Leads (Makes s command)) := by
  refine Store.keeps_deleteManyChecked harmless (fun _ _ => leads_of_same) fun i hi => ?_
  exact leads_of_atomic (Store.atomic_update _) fun b _ _ h => ⟨_, permitted b i hi, h⟩

/-- A number is taken for an upload before it is opened. -/
theorem leads_initiate (request : MultipartRequest) :
    (BlobStorage.Store.initiateUpload (s.adapter guard) request).Keeps
      (Leads (Makes s (.initiateUpload request))) := by
  refine BlobStorage.Store.keeps_check fun named => Action.Keeps.bind (Action.Keeps.ofExcept _)
    fun _ => Store.leads_initiateUpload harmless request fun _ => ?_
  exact ⟨.takeNumber request, .openUpload ((Check.key_eq_ok_iff _).mp named)⟩

/-- Nothing but what is listed under its stem is deleted with a directory. -/
theorem leads_deleteDirectory (style : CallStyle) (stem : Option String) (pace : Pace) (turns : Turns) :
    (Directory.deleteIn style (s.adapter guard) stem pace turns).Keeps
      (Leads (Makes s (.deleteDirectory stem))) :=
  Directory.keeps_deleteIn
    (fun f => leads_of_quiet ((Store.readsQuietly_adapter (s := s) harmless).classify f))
    (Store.gives_fetch harmless (fun _ _ => leads_of_same) stem)
    (fun _ all => leads_deleteMany harmless fun _ _ hi => .deleteDirectory (listed_of_targets all hi))
    style pace turns

end Chains

/-- Whatever an operation does is a chain of the changes that it may make. -/
theorem makes_run (style : CallStyle) (command : Command) :
    (command.run (s.adapter guard) style).Keeps (Leads (Makes s command)) := by
  have reads := Store.readsQuietly_adapter (s := s) harmless
  cases command with
  | upload request source =>
      exact (leads_upload harmless request source fun _ content named => .upload content named).map _
  | download request destination =>
      exact (leads_of_quiet (BlobStorage.Store.quiet_download reads request destination)).map _
  | delete i =>
      exact leads_of_change (BlobStorage.Store.atomic_delete (Store.atomic_delete harmless i))
        (fun _ => .delete i) id _
  | deleteMany targets =>
      exact Action.Keeps.bind (leads_deleteMany harmless fun _ i hi => .deleteMany i hi)
        fun _ => Action.Keeps.pure _
  | copy request =>
      refine Action.Keeps.map (leads_of_atomic (atomic_copy harmless request) ?_) _
      intro b x b' ⟨named, v, h, _⟩
      exact ⟨_, .copy named, map_eq_ok_iff.mpr ⟨_, h, rfl⟩⟩
  | copyFrom request =>
      refine Action.Keeps.map (leads_of_atomic (atomic_copyFrom harmless request) ?_) _
      intro b x b' ⟨named, v, h, _⟩
      exact ⟨_, .copyFrom named, map_eq_ok_iff.mpr ⟨_, h, rfl⟩⟩
  | getMetadata i => exact (leads_of_quiet (BlobStorage.Store.quiet_getMetadata reads i)).map _
  | listPage request => exact (leads_of_quiet (BlobStorage.Store.quiet_listPage reads request)).map _
  | initiateUpload request => exact (leads_initiate harmless request).map _
  | uploadPart token part =>
      refine Action.Keeps.map (leads_of_atomic (atomic_uploadPart harmless token part) ?_) _
      intro b x b' ⟨_, data, read, h, _⟩
      exact ⟨_, .putPart read, h⟩
  | completeUpload token parts =>
      refine Action.Keeps.map (leads_of_atomic (atomic_completeUpload harmless token parts) ?_) _
      intro b x b' ⟨named, v, h, _⟩
      exact ⟨_, .completeUpload named, map_eq_ok_iff.mpr ⟨_, h, rfl⟩⟩
  | listParts token => exact (leads_of_quiet (BlobStorage.Store.quiet_listParts reads token)).map _
  | abortUpload token =>
      exact leads_of_change
        (BlobStorage.Store.atomic_abortUpload (Store.atomic_abortUpload harmless token))
        (fun _ => .abortUpload token) id _
  | getTags key => exact (leads_of_quiet (BlobStorage.Store.quiet_getTags reads key)).map _
  | setTags key tags =>
      exact leads_of_change
        (BlobStorage.Store.atomic_setTags (Store.atomic_setTags harmless key tags))
        (fun _ => .setTags key tags) id _
  | presign request => exact (leads_of_quiet (BlobStorage.Store.quiet_presign reads request)).map _
  | objectExists i => exact (leads_of_quiet (BlobStorage.Store.quiet_objectExists reads i)).map _
  | bucketExists => exact (leads_of_quiet reads.bucketExists).map _
  | getLock i => exact (leads_of_quiet (BlobStorage.Store.quiet_getLock reads i)).map _
  | setRetention i retainUntil =>
      refine Action.Keeps.bind ?_ fun _ => Action.Keeps.pure _
      refine leads_of_atomic (atomic_setRetention harmless i retainUntil) ?_
      intro b x b' ⟨⟨v, chosen, governed⟩, h⟩
      exact ⟨_, .setRetention retainUntil chosen governed, h⟩
  | setLegalHold i hold =>
      exact leads_of_change
        (BlobStorage.Store.atomic_setLegalHold (Store.atomic_putLegalHold harmless i hold))
        (fun _ => .setLegalHold i hold) id _
  | uploadDirectory directory =>
      exact (Directory.keeps_uploadIn style directory [] (fun f => leads_of_quiet (reads.classify f))
        fun request _ => leads_upload harmless request _ fun _ content named =>
          .uploadDirectory content named).map _
  | downloadDirectory request =>
      exact (leads_of_quiet (Directory.quiet_downloadIn style request [] reads)).map _
  | deleteDirectory stem => cases style <;> exact (leads_deleteDirectory harmless _ stem _ []).map _
  | close =>
      exact Action.Keeps.bind (leads_of_quiet reads.close) fun _ => Action.Keeps.pure _

/-- An operation that writes adds one version, which its answer names, or changes nothing. -/
theorem atomic_run (style : CallStyle) {command : Command} {bucket key : String}
    (writes : target s command = some (bucket, key)) :
    Atomic (fun b x b' => b.Tidy → ∃ v, Backend.Appended b b' bucket key v ∧
        written x = some (.known v.id))
      (command.run (s.adapter guard) style) := by
  cases command with
  | upload request source =>
      cases writes
      refine (atomic_upload harmless request source).map ?_
      intro b x b' ⟨_, content, v, h, named⟩ tidy
      exact ⟨v, Backend.appended_of_store tidy h, named⟩
  | copy request =>
      cases writes
      refine (atomic_copy harmless request).map ?_
      intro b x b' ⟨_, v, h, named⟩ tidy
      obtain ⟨source, _, hs⟩ := (Backend.copy_eq_ok_iff ..).mp h
      exact ⟨v, Backend.appended_of_store tidy hs, named⟩
  | copyFrom request =>
      cases writes
      refine (atomic_copyFrom harmless request).map ?_
      intro b x b' ⟨_, v, h, named⟩ tidy
      obtain ⟨source, _, hs⟩ := (Backend.copy_eq_ok_iff ..).mp h
      exact ⟨v, Backend.appended_of_store tidy hs, named⟩
  | completeUpload token parts =>
      cases writes
      refine (atomic_completeUpload harmless token parts).map ?_
      intro b x b' ⟨_, v, h, named⟩ tidy
      exact ⟨v, Backend.appended_of_completeUpload tidy h, named⟩
  | _ => cases writes

end Commands
end BlobStorage.Memory
