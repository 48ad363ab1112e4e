import BlobStorage.Proofs.Buffer
import BlobStorage.Proofs.Memory.Run
import BlobStorage.Proofs.Memory.Stepwise

/-!
Operations on one object are all or nothing. Every one of them fails, if it does, before its first write
to a bucket, wherever it fails: in the checks of its request, in the adapter, or in the backend. Those
that only look change nothing in any case.
-/
namespace BlobStorage.Memory

/-- The operations that change one object or one upload. -/
def ChangesOne : Command → Prop
  | .upload _ _ | .copy _ | .copyFrom _ | .delete _ | .initiateUpload _ | .uploadPart _ _
  | .completeUpload _ _ | .abortUpload _ | .setTags _ _ | .setRetention _ _
  | .setLegalHold _ _ => True
  | _ => False

/-- The operations that only look. -/
def Looks : Command → Prop
  | .download _ _ | .getMetadata _ | .listPage _ | .getTags _ | .getLock _ | .objectExists _
  | .bucketExists | .listParts _ | .presign _ => True
  | _ => False

structure AllOrNothingLaws (w : World Backend) : Prop where
  /-- An operation on one object or upload that fails leaves every bucket as it was, with all its
  versions and uploads, and the rest of the backend as well; only a number may have been taken for an
  upload that could not be opened. -/
  refused : ∀ c command e w', ChangesOne command →
    (Call.perform c command).run.runFrom w = (.error e, w') →
    w'.remote.buckets = w.remote.buckets ∧
      ((∀ request, command ≠ .initiateUpload request) → w'.remote = w.remote)
  /-- So does the creation of a bucket. -/
  uncreated : ∀ config plans categorizes bucket e w',
    (Call.createBucket config plans categorizes bucket).run.runFrom w = (.error e, w') →
    w'.remote = w.remote
  /-- An operation that only looks changes nothing, whether it succeeds or fails. -/
  looked : ∀ c command, Looks command →
    ((Call.perform c command).run.runFrom w).2.remote = w.remote
  /-- A download into a buffer changes nothing of the backend, and if it fails nothing of the buffer;
  else the buffer holds the bytes that the same download hands over. -/
  buffered : ∀ (c : Caller) request buffer r w' buffer',
    (c.client.downloadInto request).runFrom (w, buffer) = (r, (w', buffer')) →
    w'.remote = w.remote ∧ (∀ f, r = .error f → buffer' = buffer) ∧
      ∀ reply, r = .ok reply → (c.client.perform (.download request .buffer)).runFrom w =
        (.ok (.downloaded ⟨reply, some buffer'⟩), w')
  /-- None of this is owed to changes being made in one piece: with every change carried out step by
  step, where nothing is undone, a store is the same, and so is the client for the whole account. -/
  stepwise : (∀ c : Caller, c.store.stepwise (guardOf c.plans) = c.adapter) ∧
    ∀ config plans, serviceStepwise config (guardOf plans) = serviceAdapter config (guardOf plans)

section Commands
variable {s : Store} {guard : Guard Backend} (harmless : Store.Harmless guard)
include harmless

theorem remote_of_initiateUpload_error {request : MultipartRequest} {w w' : World Backend}
    {e : Failure}
    (run : (BlobStorage.Store.initiateUpload (s.adapter guard) request).runFrom w = (.error e, w')) :
    w'.remote = w.remote ∨ w'.remote = w.remote.takeNumber.2 := by
  have spec := Store.initiateUpload_spec (s := s) harmless request w
  rcases BlobStorage.Store.initiateUpload_cases (a := s.adapter guard) request w with
    ⟨e', refused⟩ | opened
  · rw [refused] at run
    cases run
    exact .inl rfl
  · have own : (Store.initiateUpload s guard request).runFrom w = (.error e, w') :=
      opened.symm.trans run
    rw [own] at spec
    exact spec

/-- Every operation on one object or upload but the opening of one is a single change. -/
theorem atomic_of_changesOne (style : CallStyle) {command : Command} (one : ChangesOne command)
    (other : ∀ request, command ≠ .initiateUpload request) :
    Atomic (fun _ _ _ => True) (command.run (s.adapter guard) style) := by
  have told {α : Type} {P : Backend → α → Backend → Prop} {a : Op Backend α} (h : Atomic P a)
      (g : α → Answer) : Atomic (fun _ _ _ => True) (g <$> a) := h.map fun _ _ _ _ => trivial
  have done {P : Backend → Unit → Backend → Prop} {a : Op Backend Unit} (h : Atomic P a) :
      Atomic (fun _ _ _ => True) (do a; return Answer.done) := h.answer fun _ _ _ _ => trivial
  cases command with
  | upload request source => exact told (atomic_upload harmless request source) _
  | copy request => exact told (atomic_copy harmless request) _
  | copyFrom request => exact told (atomic_copyFrom harmless request) _
  | delete i => exact done (BlobStorage.Store.atomic_delete (Store.atomic_delete harmless i))
  | initiateUpload request => exact absurd rfl (other request)
  | uploadPart token part => exact told (atomic_uploadPart harmless token part) _
  | completeUpload token parts => exact told (atomic_completeUpload harmless token parts) _
  | abortUpload token =>
      exact done (BlobStorage.Store.atomic_abortUpload (Store.atomic_abortUpload harmless token))
  | setTags key tags =>
      exact done (BlobStorage.Store.atomic_setTags (Store.atomic_setTags harmless key tags))
  | setRetention i retainUntil => exact done (atomic_setRetention harmless i retainUntil)
  | setLegalHold i hold =>
      exact done (BlobStorage.Store.atomic_setLegalHold (Store.atomic_putLegalHold harmless i hold))
  | _ => exact one.elim

theorem quiet_of_looks (style : CallStyle) {command : Command} (looks : Looks command) :
    Quiet (command.run (s.adapter guard) style) := by
  have reads := Store.readsQuietly_adapter (s := s) harmless
  cases command with
  | download request destination =>
      exact (BlobStorage.Store.quiet_download reads request destination).map _
  | getMetadata i => exact (BlobStorage.Store.quiet_getMetadata reads i).map _
  | listPage request => exact (BlobStorage.Store.quiet_listPage reads request).map _
  | listParts token => exact (BlobStorage.Store.quiet_listParts reads token).map _
  | getTags key => exact (BlobStorage.Store.quiet_getTags reads key).map _
  | presign request => exact (BlobStorage.Store.quiet_presign reads request).map _
  | objectExists i => exact (BlobStorage.Store.quiet_objectExists reads i).map _
  | bucketExists => exact Action.Keeps.map reads.bucketExists _
  | getLock i => exact (BlobStorage.Store.quiet_getLock reads i).map _
  | _ => exact looks.elim

end Commands

section Calls
variable {w w' : World Backend}

theorem remote_of_refused {c : Caller} {command : Command} {e : Failure} (one : ChangesOne command)
    (run : (Call.perform c command).run.runFrom w = (.error e, w')) :
    w'.remote.buckets = w.remote.buckets ∧
      ((∀ request, command ≠ .initiateUpload request) → w'.remote = w.remote) := by
  have harmless := harmless_guardOf c.plans
  obtain ⟨f, w₁, own, same⟩ := BucketClient.of_call_error (readsQuietly c).classify run
  by_cases opening : ∃ request, command = .initiateUpload request
  · obtain ⟨request, rfl⟩ := opening
    rw [same]
    refine ⟨?_, fun other => absurd rfl (other request)⟩
    rcases remote_of_initiateUpload_error harmless (Action.error_of_map_error own) with still | took
    · rw [still]
    · rw [took]
      rfl
  · have other (request : MultipartRequest) : command ≠ .initiateUpload request :=
      fun is => opening ⟨request, is⟩
    have still := same.trans ((atomic_of_changesOne harmless c.style one other).of_error own)
    exact ⟨congrArg Backend.buckets still, fun _ => still⟩

theorem remote_of_uncreated {config : Config} {plans : Option Nat} {categorizes : Bool}
    {bucket : Option String} {e : Failure}
    (run : (Call.createBucket config plans categorizes bucket).run.runFrom w = (.error e, w')) :
    w'.remote = w.remote := by
  have guarded := harmless_guardOf plans
  have classify (f : Failure) : Quiet ((serviceAdapter config (guardOf plans)).classify f) :=
    Store.quiet_guarded guarded (Action.Keeps.pure _)
  have created : Atomic (fun _ _ _ => True) (do
      Action.ofExcept (Check.bucket bucket)
      (serviceAdapter config (guardOf plans)).createBucket (bucket.getD "")) :=
    .after (Action.Keeps.ofExcept _) fun _ => .after (guarded _ _) fun _ =>
      (Store.atomic_update _).mono fun _ _ _ _ => trivial
  rw [Call.run, bind_pure_comp] at run
  obtain ⟨f, w₁, failed, same⟩ := ServiceClient.of_call_error classify
    (Action.error_of_map_error run)
  exact same.trans (created.of_error failed)

theorem remote_of_looks (c : Caller) {command : Command} (looks : Looks command)
    (w : World Backend) : ((Call.perform c command).run.runFrom w).2.remote = w.remote :=
  BucketClient.keeps_call (c := c.client) (readsQuietly c).classify _
    (quiet_of_looks (harmless_guardOf c.plans) c.style looks) w

theorem buffered_of_download {c : Caller} {request : DownloadRequest} {buffer buffer' : Content}
    {r : Except Failure DownloadReply}
    (run : (c.client.downloadInto request).runFrom (w, buffer) = (r, (w', buffer'))) :
    w'.remote = w.remote ∧ (∀ f, r = .error f → buffer' = buffer) ∧
      ∀ reply, r = .ok reply → (c.client.perform (.download request .buffer)).runFrom w =
        (.ok (.downloaded ⟨reply, some buffer'⟩), w') := by
  have still : ((c.client.call (some request.key)
      (BlobStorage.Store.download c.client.adapter request .buffer)).runFrom w).2.remote = w.remote :=
    BucketClient.keeps_call (c := c.client) (readsQuietly c).classify _
      (BlobStorage.Store.quiet_download (readsQuietly c) request .buffer) w
  rw [c.client.runFrom_downloadInto request w buffer] at run
  rcases ran : (c.client.call (some request.key)
      (BlobStorage.Store.download c.client.adapter request .buffer)).runFrom w with ⟨f | d, w₁⟩
  · rw [ran] at still run
    cases run
    exact ⟨still, fun _ _ => rfl, fun _ is => nomatch is⟩
  · rw [ran] at still run
    have own := (BucketClient.runFrom_call_ok_iff _ _ _ _ _).mp ran
    obtain ⟨content, handed⟩ := BlobStorage.Store.delivered_of_download own
    obtain ⟨reply, delivered⟩ := d
    cases handed
    cases run
    refine ⟨still, (fun _ is => nomatch is), ?_⟩
    rintro _ ⟨⟩
    refine (BucketClient.runFrom_call_ok_iff _ _ _ _ _).mpr ?_
    exact Action.runFrom_map_ok_iff.mpr ⟨_, rfl, own⟩

end Calls

theorem allOrNothing (w : World Backend) : AllOrNothingLaws w := by
  refine ⟨?_, ?_, ?_, ?_, ?_⟩
  · intro c command e w' one run
    exact remote_of_refused one run
  · intro config plans categorizes bucket e w' run
    exact remote_of_uncreated run
  · intro c command looks
    exact remote_of_looks c looks w
  · intro c request buffer r w' buffer' run
    exact buffered_of_download run
  · exact ⟨fun c => Store.stepwise_eq c.store _, fun config plans => serviceStepwise_eq config _⟩

end BlobStorage.Memory
