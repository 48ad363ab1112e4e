import BlobStorage.Proofs.Memory.Parts
import BlobStorage.Proofs.Memory.Run

/-!
Completing an upload through a client. Which failure comes out may depend on the order in which the
parts are listed only where the list itself is refused; everything else is the same for every order.
-/
namespace BlobStorage.Memory

def completing (c : Caller) (token : UploadToken) (parts : List PartReceipt) : Op Backend Answer :=
  (Call.perform c (.completeUpload token parts)).run

theorem completing_ok {c : Caller} {token : UploadToken} {parts : List PartReceipt}
    {w w' : World Backend} {receipt : MultipartReceipt}
    (own : (BlobStorage.Store.completeUpload c.adapter token parts).runFrom w = (.ok receipt, w')) :
    (completing c token parts).runFrom w = (.ok (.completed receipt), w') := by
  refine (BucketClient.runFrom_call_ok_iff ..).mpr ?_
  change (Answer.completed <$> BlobStorage.Store.completeUpload c.adapter token parts).runFrom w = _
  rw [Action.runFrom_map, own]
  rfl

def Caller.heard (c : Caller) (key : Option String) (f : Failure) : Failure :=
  if c.categorizes then (c.style.hand f).categorize (classify (c.style.hand f)) key true
  else c.style.hand f

theorem heard_refusal (c : Caller) (key : Option String) (reason : Refusal)
    (about : Option String) : c.heard key (.refusal reason about) = .refusal reason about := by
  have same : c.style.hand (.refusal reason about) = .refusal reason about := by
    cases c.style <;> rfl
  unfold Caller.heard
  rw [same]
  split
  · exact if_pos (decide_eq_true rfl)
  · rfl

/-- Where no failure is planned, a completion whose checks pass is one step of the backend. -/
theorem runFrom_completeUpload_of_spared {c : Caller} (token : UploadToken) (parts : List PartReceipt)
    {w : World Backend} (spared : c.Spared .completeUpload w) :
    (c.adapter.completeUpload token parts).runFrom w =
      match w.remote.completeUpload c.store.bucket token parts with
      | .ok (v, b) => (.ok ⟨some (.known v.etag), some (.known v.id)⟩, { w with remote := b })
      | .error fault => (.error (.memory fault), w) := by
  refine (Action.runFrom_bind_ok (runFrom_guardOf spared _) _).trans ?_
  rcases step : w.remote.completeUpload c.store.bucket token parts with fault | ⟨v, b⟩
  · exact Action.runFrom_bind_error (Store.runFrom_change_error step) _
  · exact Action.runFrom_bind_ok (Store.runFrom_change_ok step) _

section Plain
variable {c : Caller} (plain : c.plans = none)
include plain

theorem adapter_of_plain : c.adapter = c.store.adapter World.unguarded := by
  unfold Caller.adapter
  rw [plain]
  rfl

theorem call_of_error {α : Type} {key : Option String} {action : Op Backend α}
    {w w' : World Backend} {f : Failure} (run : action.runFrom w = (.error f, w')) :
    (c.client.call key action).runFrom w = (.error (c.heard key f), w') := by
  refine BucketClient.runFrom_call_classified run ?_
  change (c.adapter.classify (c.style.hand f)).runFrom w' = _
  rw [adapter_of_plain plain]
  rfl

theorem completing_error {token : UploadToken} {parts : List PartReceipt} {w w' : World Backend}
    {f : Failure}
    (own : (BlobStorage.Store.completeUpload c.adapter token parts).runFrom w = (.error f, w')) :
    (completing c token parts).runFrom w = (.error (c.heard token.key f), w') := by
  refine call_of_error plain ?_
  change (Answer.completed <$> BlobStorage.Store.completeUpload c.adapter token parts).runFrom w = _
  rw [Action.runFrom_map, own]
  rfl

theorem completing_of_refused {token : UploadToken} {parts : List PartReceipt} {w : World Backend}
    (accepted : Check.uploadToken token c.adapter.bucket = .ok ()) {e : Failure}
    (refused : Check.parts parts = .error e) :
    ∃ e', (completing c token parts).runFrom w = (.error e', w) ∧
      e'.category? = some .invalidArgument := by
  obtain ⟨reason, rfl, flaw⟩ := Check.parts_error refused
  refine ⟨.refusal reason none, ?_, congrArg some flaw.kind⟩
  have own := BlobStorage.Store.runFrom_completeUpload (a := c.adapter) token parts w
  rw [accepted, refused] at own
  rw [completing_error plain own, heard_refusal]

/-- The list may come in any order: the completion is the same, or the list is refused. -/
theorem completing_perm (token : UploadToken) {parts parts' : List PartReceipt}
    (perm : parts.Perm parts') (w : World Backend) :
    (completing c token parts).runFrom w = (completing c token parts').runFrom w ∨
      ∃ e e', (completing c token parts).runFrom w = (.error e, w) ∧
        (completing c token parts').runFrom w = (.error e', w) ∧
        e.category? = some .invalidArgument ∧ e'.category? = some .invalidArgument := by
  have congr (same : (BlobStorage.Store.completeUpload c.adapter token parts).runFrom w =
      (BlobStorage.Store.completeUpload c.adapter token parts').runFrom w) :
      (completing c token parts).runFrom w = (completing c token parts').runFrom w := by
    refine BucketClient.runFrom_call_congr _ ?_
    change (Answer.completed <$> BlobStorage.Store.completeUpload c.adapter token parts).runFrom w =
      (Answer.completed <$> BlobStorage.Store.completeUpload c.adapter token parts').runFrom w
    rw [Action.runFrom_map, Action.runFrom_map, same]
  have whole (parts : List PartReceipt) := BlobStorage.Store.runFrom_completeUpload
    (a := c.adapter) token parts w
  cases ours : Check.uploadToken token c.adapter.bucket with
  | error e =>
      left
      apply congr
      rw [whole, whole, ours]
  | ok _ =>
      cases first : Check.parts parts with
      | error e =>
          cases second : Check.parts parts' with
          | error e' =>
              obtain ⟨f, run, kind⟩ := completing_of_refused plain (w := w) ours first
              obtain ⟨f', run', kind'⟩ := completing_of_refused plain (w := w) ours second
              exact .inr ⟨f, f', run, run', kind, kind'⟩
          | ok _ => cases first.symm.trans (Check.parts_ok_of_perm perm.symm second)
      | ok _ =>
          have second := Check.parts_ok_of_perm perm first
          have distinct := ((Check.parts_eq_ok_iff _).mp first).2.1
          left
          apply congr
          rw [whole, whole, ours, first, second, inOrder_eq_of_perm perm distinct]

end Plain

section Success
variable {c : Caller} {token : UploadToken} {parts : List PartReceipt} {w w' : World Backend}
  {id : String} {u : Upload}

theorem accepted_of_completing {x : Answer} (run : (completing c token parts).runFrom w = (.ok x, w')) :
    Check.uploadToken token c.adapter.bucket = .ok () ∧ Check.parts parts = .ok () := by
  obtain ⟨receipt, own, rfl⟩ := Action.ok_of_map_ok ((BucketClient.runFrom_call_ok_iff ..).mp run)
  rw [BlobStorage.Store.runFrom_completeUpload] at own
  cases ours : Check.uploadToken token c.adapter.bucket with
  | error e =>
      rw [show Check.uploadToken token c.client.adapter.bucket = .error e from ours] at own
      cases own
  | ok _ =>
      rw [show Check.uploadToken token c.client.adapter.bucket = .ok _ from ours] at own
      cases accepted : Check.parts parts with
      | error e =>
          rw [accepted] at own
          cases own
      | ok _ => exact ⟨rfl, rfl⟩

theorem accepts_token (sound : w.remote.Sound) (known : token.id = .known id)
    (there : w.remote.uploadAt token.bucket id = some u) (keyed : u.key = token.key)
    (ours : c.store.bucket = token.bucket) :
    Check.uploadToken token c.adapter.bucket = .ok () := by
  refine (Check.uploadToken_eq_ok_iff _ _).mpr ⟨?_, ours.symm, ?_⟩
  · obtain ⟨n, _, rfl⟩ := sound.uploads.issued token.bucket id u there
    rw [known]
    simp [Reported.isGiven, Reported.value, Sayable.value, Value.isGiven, Upload.idOf]
  · rw [← keyed]
    exact sound.uploads.keyed token.bucket id u there

theorem completing_assembled (tidy : w.remote.Tidy) (known : token.id = .known id)
    (there : w.remote.uploadAt token.bucket id = some u) (keyed : u.key = token.key)
    (ours : c.store.bucket = token.bucket) {x : Answer}
    (run : (completing c token parts).runFrom w = (.ok x, w')) :
    ∃ v, written x = some (.known v.id) ∧
      Assembled w.remote w'.remote token.bucket token.key id u
        ((BlobStorage.Store.inOrder parts).map (·.number)) v := by
  obtain ⟨receipt, own, rfl⟩ := Action.ok_of_map_ok ((BucketClient.runFrom_call_ok_iff ..).mp run)
  obtain ⟨_, v, step, named⟩ := (atomic_completeUpload (harmless_guardOf c.plans) token parts).of_ok own
  obtain ⟨b, found⟩ := upload_of_uploadAt known there keyed
  rw [ours] at step
  exact ⟨v, named, assembled_of_completeUpload tidy found step⟩

/-- Where no failure is planned, a completion succeeds exactly when the list completes the upload. -/
theorem completing_ok_iff (spared : c.Spared .completeUpload w) (sound : w.remote.Sound)
    (known : token.id = .known id) (there : w.remote.uploadAt token.bucket id = some u)
    (keyed : u.key = token.key) (ours : c.store.bucket = token.bucket) :
    (∃ x w', (completing c token parts).runFrom w = (.ok x, w')) ↔ Completes u.bytes? parts := by
  obtain ⟨b, found⟩ := upload_of_uploadAt known there keyed
  have chosen := stored_iff_chosen sound.uploads there parts
  rw [← completeUpload_ok_iff sound.tidy found (ascending_inOrder parts)] at chosen
  constructor
  · rintro ⟨x, w', run⟩
    obtain ⟨nonempty, distinct, given⟩ := (Check.parts_eq_ok_iff _).mp (accepted_of_completing run).2
    obtain ⟨receipt, own, rfl⟩ := Action.ok_of_map_ok ((BucketClient.runFrom_call_ok_iff ..).mp run)
    obtain ⟨_, v, step, _⟩ :=
      (atomic_completeUpload (harmless_guardOf c.plans) token parts).of_ok own
    rw [ours] at step
    exact ⟨nonempty, distinct, given, chosen.mp ⟨v, _, step⟩⟩
  · intro completes
    have accepted := (Check.parts_eq_ok_iff parts).mpr
      ⟨completes.nonempty, completes.distinct, completes.given⟩
    obtain ⟨v, b', step⟩ := chosen.mpr completes.stored
    have inner := BlobStorage.Store.runFrom_completeUpload (a := c.adapter) token parts w
    rw [accepts_token sound known there keyed ours, accepted] at inner
    rw [runFrom_completeUpload_of_spared _ _ spared, ours, step] at inner
    exact ⟨_, _, completing_ok inner⟩

end Success
end BlobStorage.Memory
