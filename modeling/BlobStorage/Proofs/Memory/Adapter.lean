import BlobStorage.Memory.Adapter
import BlobStorage.Proofs.Memory.Outcome
import BlobStorage.Proofs.Store

/-!
The primitives of a memory store. Those that read are quiet, and each of those that change something
is atomic: it is one step of the backend, or it fails and the backend stays as it was.
-/
namespace BlobStorage.Memory.Store
variable {s : Store} {guard : Guard Backend}

theorem runFrom_see {α : Type} (look : Backend → Except Fault α) (w : World Backend) :
    (see look).runFrom w = ((look w.remote).mapError .memory, w) := by
  simp only [Action.runFrom, ExceptT.run, see, World.observe]
  cases look w.remote <;> rfl

theorem runFrom_change_ok {α : Type} {step : Backend → Except Fault (α × Backend)}
    {w : World Backend} {x : α} {b : Backend} (h : step w.remote = .ok (x, b)) :
    (change step).runFrom w = (.ok x, { w with remote := b }) := by
  simp only [Action.runFrom, ExceptT.run, change, World.attempt, h]

theorem runFrom_change_error {α : Type} {step : Backend → Except Fault (α × Backend)}
    {w : World Backend} {fault : Fault} (h : step w.remote = .error fault) :
    (change step).runFrom w = (.error (.memory fault), w) := by
  simp only [Action.runFrom, ExceptT.run, change, World.attempt, h]

theorem runFrom_update_ok {step : Backend → Except Fault Backend} {w : World Backend}
    {b : Backend} (h : step w.remote = .ok b) :
    (update step).runFrom w = (.ok (), { w with remote := b }) :=
  runFrom_change_ok (by rw [h]; rfl)

theorem runFrom_update_error {step : Backend → Except Fault Backend} {w : World Backend}
    {fault : Fault} (h : step w.remote = .error fault) :
    (update step).runFrom w = (.error (.memory fault), w) :=
  runFrom_change_error (by rw [h]; rfl)

theorem quiet_see {α : Type} (look : Backend → Except Fault α) : Quiet (see look) :=
  quiet_observe _ look

theorem atomic_see {α : Type} (look : Backend → Except Fault α) :
    Atomic (fun b x b' => b' = b ∧ look b = .ok x) (see look) :=
  .observe _ look

theorem atomic_change {α : Type} (step : Backend → Except Fault (α × Backend)) :
    Atomic (fun b x b' => step b = .ok (x, b')) (change step) :=
  .attempt _ step

theorem atomic_update (step : Backend → Except Fault Backend) :
    Atomic (fun b _ b' => step b = .ok b') (update step) := by
  refine (atomic_change _).mono ?_
  intro b x b' h
  obtain ⟨t, ht, same⟩ := map_eq_ok_iff.mp h
  rw [ht, (Prod.mk.inj same).2]

/-- What comes before each primitive may fail, but is quiet. -/
abbrev Harmless (guard : Guard Backend) : Prop := ∀ p key, Quiet (guard p key)

section Primitives
variable (harmless : Harmless guard)
include harmless

theorem quiet_guarded {α : Type} {p : Primitive} {key : Option String} {f : Op Backend α}
    (hf : Quiet f) : Quiet (do guard p key; f) :=
  Action.Keeps.bind (harmless p key) fun _ => hf

theorem readsQuietly_adapter : BlobStorage.Store.ReadsQuietly (s.adapter guard) where
  classify _ := quiet_guarded harmless (Action.Keeps.pure _)
  downloadToStream _ := quiet_guarded harmless
    (Action.Keeps.bind (quiet_see _) fun _ => Action.Keeps.pure _)
  downloadBytes _ := quiet_guarded harmless
    (Action.Keeps.bind (quiet_see _) fun _ => Action.Keeps.pure _)
  downloadStream _ := quiet_guarded harmless
    (Action.Keeps.bind (quiet_see _) fun _ => Action.Keeps.pure _)
  getMetadata _ := quiet_guarded harmless (quiet_see _)
  listPage _ := quiet_guarded harmless (Action.Keeps.bind (quiet_see _) fun _ =>
    Action.Keeps.bind (Action.Keeps.ofAmbient _) fun _ => Action.Keeps.pure _)
  listParts _ := quiet_guarded harmless (quiet_see _)
  getTags _ := quiet_guarded harmless (quiet_see _)
  presign _ _ := quiet_guarded harmless (Action.Keeps.bind Action.Keeps.get fun _ =>
    Action.Keeps.bind (Action.Keeps.ofExcept _) fun _ => Action.Keeps.pure _)
  objectExists _ := quiet_guarded harmless (quiet_see _)
  bucketExists := quiet_guarded harmless (quiet_see _)
  getRetention _ := quiet_guarded harmless (quiet_see _)
  getLegalHold _ := quiet_guarded harmless (quiet_see _)
  close := Action.Keeps.pure _

def Uploads (s : Store) (request : UploadRequest) (content : Content) (b : Backend)
    (x : UploadReceipt) (b' : Backend) : Prop :=
  ∃ v, b.store s.bucket request.key (draftOf request content) = .ok (v, b') ∧
    x.version = some (.known v.id)

theorem atomic_uploadBytes (request : UploadRequest) (content : Content) :
    Atomic (Uploads s request content) (uploadBytes s guard request content) :=
  .after (harmless _ _) fun _ => (atomic_change _).answer fun _ v _ h => ⟨v, h, rfl⟩

theorem atomic_uploadRead (read : Int → Except Ambient Content) (request : UploadRequest) :
    Atomic (fun b x b' => ∃ content, Uploads s request content b x b')
      (uploadRead s guard read request) :=
  .after (harmless _ _) fun _ => .after (Action.Keeps.ofAmbient _) fun content =>
    .after (quiet_see _) fun _ =>
      (atomic_uploadBytes harmless request content).mono fun _ _ _ h => ⟨content, h⟩

theorem atomic_uploadFile (request : UploadRequest) (path : Path) :
    Atomic (fun b x b' => ∃ length content,
        Uploads s { request with contentLength := length } content b x b')
      ((s.adapter guard).uploadFile request path) := by
  refine .after (harmless _ _) fun _ => .after Action.Keeps.get fun w =>
    .after (Action.Keeps.ofAmbient _) fun found => ?_
  cases found with
  | none => exact .throw _
  | some content =>
      refine (atomic_uploadRead harmless _ _).mono ?_
      intro b x b' ⟨content, h⟩
      exact ⟨_, content, h⟩

theorem atomic_copy (request : CopyRequest) :
    Atomic (fun b x b' => ∃ v, b.copy s.bucket request.srcKey request.srcVersion
          ((request.destBucket.filter (!·.isEmpty)).getD s.bucket) request.destKey = .ok (v, b') ∧
        x.version = some (.known v.id))
      ((s.adapter guard).copy request) :=
  .after (harmless _ _) fun _ => (atomic_change _).answer fun _ v _ h => ⟨v, h, rfl⟩

theorem atomic_copyFrom (request : CopyFromRequest) :
    Atomic (fun b x b' => ∃ v, b.copy request.srcBucket request.srcKey request.srcVersion s.bucket
          request.destKey = .ok (v, b') ∧ x.version = some (.known v.id))
      ((s.adapter guard).copyFrom request) :=
  .after (harmless _ _) fun _ => (atomic_change _).answer fun _ v _ h => ⟨v, h, rfl⟩

theorem atomic_completeUpload (token : UploadToken) (parts : List PartReceipt) :
    Atomic (fun b x b' => ∃ v, b.completeUpload s.bucket token parts = .ok (v, b') ∧
        x.version = some (.known v.id))
      ((s.adapter guard).completeUpload token parts) :=
  .after (harmless _ _) fun _ => (atomic_change _).answer fun _ v _ h => ⟨v, h, rfl⟩

theorem atomic_uploadPart (token : UploadToken) (part : Part) :
    Atomic (fun b x b' => ∃ data, part.data = .ok data ∧
        b.putPart s.bucket token part.number data = .ok b' ∧
        x = ⟨part.number, .known (etagOf data), Int.ofNat data.length⟩)
      ((s.adapter guard).uploadPart token part) := by
  refine .after (harmless _ _) fun _ => .ambient fun data read => ?_
  refine (atomic_update _).answer ?_
  intro b _ b' put
  exact ⟨data, read, put, rfl⟩

theorem atomic_delete (i : Identifier) :
    Atomic (fun b _ b' => b.delete s.bucket i.key i.version = .ok b') (delete s guard i) :=
  .after (harmless _ _) fun _ => atomic_update _

theorem atomic_abortUpload (token : UploadToken) :
    Atomic (fun b _ b' => b.abortUpload s.bucket token = .ok b')
      ((s.adapter guard).abortUpload token) :=
  .after (harmless _ _) fun _ => atomic_update _

theorem atomic_setTags (key : String) (tags : Attributes) :
    Atomic (fun b _ b' => b.setTags s.bucket key tags = .ok b')
      ((s.adapter guard).setTags key tags) :=
  .after (harmless _ _) fun _ => atomic_update _

theorem atomic_getRetention (i : Identifier) :
    Atomic (fun b x b' => b' = b ∧
        ∃ v, Version.chosen? (b.versionsAt s.bucket i.key) i.version = some v ∧
          x = v.retention.map (·.lockInfo))
      ((s.adapter guard).getRetention i) := by
  refine .after (harmless _ _) fun _ => (atomic_see _).mono ?_
  intro b x b' ⟨same, seen⟩
  obtain ⟨v, found, told⟩ := bind_eq_ok_iff.mp seen
  exact ⟨same, v, (Backend.version_eq_ok_iff ..).mp found, (Except.ok.inj told).symm⟩

theorem atomic_putRetention (i : Identifier) (mode : RetentionMode) (retainUntil : Option Moment) :
    Atomic (fun b _ b' => b.setRetention s.bucket i.key i.version ⟨mode, retainUntil⟩ = .ok b')
      ((s.adapter guard).putRetention i mode retainUntil) :=
  .after (harmless _ _) fun _ => atomic_update _

theorem atomic_putLegalHold (i : Identifier) (hold : Bool) :
    Atomic (fun b _ b' => b.setLegalHold s.bucket i.key i.version hold = .ok b')
      ((s.adapter guard).putLegalHold i hold) :=
  .after (harmless _ _) fun _ => atomic_update _

end Primitives
end BlobStorage.Memory.Store
