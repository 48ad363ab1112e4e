import BlobStorage.Proofs.Memory.Reordering
import BlobStorage.Proofs.Memory.Sends
import BlobStorage.Proofs.Multipart

/-!
The steps of an upload in parts on a memory backend. Sending parts changes nothing but the upload, which
then keeps what was sent with success; an abort removes it, and what is sent after that is lost.
-/
namespace BlobStorage.Memory
open Multipart

section Plans

theorem samePlans_call (c : Caller) {α : Type} (key : Option String) {action : Op Backend α}
    (h : action.Keeps SamePlans) : (c.client.call key action).Keeps SamePlans :=
  BucketClient.keeps_call (fun _ => Action.Keeps.bind (samePlans_guardOf c.plans _ _) fun _ =>
    Action.Keeps.pure _) key h

theorem samePlans_initiate (c : Caller) (request : MultipartRequest) :
    (c.client.partClient.initiate request).Keeps SamePlans := by
  refine samePlans_call c _ (Action.Keeps.bind (Action.Keeps.ofExcept _) fun _ =>
    Action.Keeps.bind (Action.Keeps.ofExcept _) fun _ => ?_)
  exact Action.Keeps.bind (samePlans_guardOf c.plans _ _) fun _ =>
    Action.Keeps.bind (samePlans_attempt _ _) fun _ =>
      Action.Keeps.bind (samePlans_attempt _ _) fun _ => Action.Keeps.pure _

theorem samePlans_sending (c : Caller) (token : UploadToken) (part : Part) :
    (sending c.client.partClient token part).Keeps SamePlans := by
  refine Action.Keeps.map (Action.Keeps.outcome (samePlans_call c _ (Action.Keeps.bind
    (Action.Keeps.ofExcept _) fun _ => Action.Keeps.bind (Action.Keeps.ofExcept _) fun _ => ?_))) _
  exact Action.Keeps.bind (samePlans_guardOf c.plans _ _) fun _ =>
    Action.Keeps.bind (Action.Keeps.ofAmbient _) fun _ =>
      Action.Keeps.bind (samePlans_attempt _ _) fun _ => Action.Keeps.pure _

theorem samePlans_complete (c : Caller) (token : UploadToken) (receipts : List PartReceipt) :
    (c.client.partClient.complete token receipts).Keeps SamePlans := by
  refine samePlans_call c _ (Action.Keeps.bind (Action.Keeps.ofExcept _) fun _ =>
    Action.Keeps.bind (Action.Keeps.ofExcept _) fun _ => ?_)
  exact Action.Keeps.bind (samePlans_guardOf c.plans _ _) fun _ =>
    Action.Keeps.bind (samePlans_attempt _ _) fun _ => Action.Keeps.pure _

theorem Caller.Spared.samePlans {c : Caller} {p : Primitive} {w w' : World Backend}
    (spared : c.Spared p w) (same : SamePlans w w') : c.Spared p w' :=
  fun store planned => same.spares (spared store planned)

end Plans

section Uploaded
variable {s t r : Backend} {bucket id : String} {u v : Option Upload}

theorem Backend.Uploaded.refl (tidy : s.Tidy) (there : s.uploadAt bucket id = u) :
    Backend.Uploaded s s bucket id u := by
  refine ⟨fun bucket' id' => ?_, fun _ _ => rfl, rfl, tidy⟩
  split
  · rename_i here
    rw [here.1, here.2, there]
  · rfl

theorem Backend.Uploaded.trans (h : Backend.Uploaded s t bucket id u)
    (k : Backend.Uploaded t r bucket id v) : Backend.Uploaded s r bucket id v := by
  refine ⟨fun bucket' id' => ?_, fun b key => (k.versions b key).trans (h.versions b key),
    k.next.trans h.next, k.tidy⟩
  rw [k.reassigned bucket' id', h.reassigned bucket' id']
  split <;> rfl

theorem Backend.Uploaded.here (h : Backend.Uploaded s t bucket id u) :
    t.uploadAt bucket id = u := by
  rw [h.reassigned bucket id, if_pos ⟨rfl, rfl⟩]

end Uploaded

section Sending
variable {c : Caller} {token : UploadToken} {id : String} {w w' : World Backend}

def receiptOf (part : Part) (data : Content) : PartReceipt :=
  ⟨part.number, .known (etagOf data), Int.ofNat data.length⟩

theorem atomic_partwise (c : Caller) (token : UploadToken) (part : Part) :
    Atomic (fun s receipt t => Check.part part 10000 = .ok () ∧ ∃ data, part.data = .ok data ∧
        s.putPart c.store.bucket token part.number data = .ok t ∧ receipt = receiptOf part data)
      (c.client.partClient.sendPart token part) :=
  BucketClient.atomic_call (readsQuietly c).classify _
    (atomic_uploadPart (harmless_guardOf c.plans) token part)

/-- A part that is sent has failed and changed nothing, or its bytes were put. -/
theorem sending_cases {part : Part} {outcome : Part × Except Failure PartReceipt}
    (ran : (sending c.client.partClient token part).runFrom w = (.ok outcome, w')) :
    (∃ e, outcome = (part, .error e) ∧ w'.remote = w.remote) ∨
      ∃ data, outcome = (part, .ok (receiptOf part data)) ∧ Check.part part 10000 = .ok () ∧
        part.data = .ok data ∧
        w.remote.putPart c.store.bucket token part.number data = .ok w'.remote := by
  have atomic := atomic_partwise c token part
  rw [runFrom_sending] at ran
  rcases own : (c.client.partClient.sendPart token part).runFrom w with ⟨e | receipt, w₁⟩
  · rw [own] at ran
    cases ran
    exact .inl ⟨e, rfl, atomic.of_error own⟩
  · rw [own] at ran
    cases ran
    obtain ⟨accepted, data, read, put, rfl⟩ := atomic.of_ok own
    exact .inr ⟨data, rfl, accepted, read, put⟩

/-- Where the upload is there and no failure is planned, a part that passes its check is put. -/
theorem runFrom_uploadPart_of_spared (spared : c.Spared .uploadPart w)
    (accepted : Check.uploadToken token c.adapter.bucket = .ok ()) {b : Bucket} {u : Upload}
    (found : w.remote.upload c.store.bucket token = .ok (b, id, u)) {part : Part}
    (numbered : Check.part part 10000 = .ok ()) {data : Content} (read : part.data = .ok data) :
    (BlobStorage.Store.uploadPart c.adapter token part).runFrom w = (.ok (receiptOf part data),
      { w with remote := holding w.remote b id (u.put part.number data) }) := by
  have put : w.remote.putPart c.store.bucket token part.number data =
      .ok (holding w.remote b id (u.put part.number data)) :=
    (Backend.putPart_eq_ok_iff ..).mpr ⟨b, id, u, found, rfl⟩
  have whole := BlobStorage.Store.runFrom_uploadPart (a := c.adapter) token part w
  rw [accepted, show Check.part part c.adapter.partLimit = .ok () from numbered] at whole
  exact whole.trans (runFrom_uploadPart_read spared read put)

theorem sent_of_spared (spared : c.Spared .uploadPart w)
    (accepted : Check.uploadToken token c.adapter.bucket = .ok ()) {b : Bucket} {u : Upload}
    (found : w.remote.upload c.store.bucket token = .ok (b, id, u)) {part : Part}
    (numbered : Check.part part 10000 = .ok ()) {data : Content} (read : part.data = .ok data) :
    ∃ receipt w', (sending c.client.partClient token part).runFrom w =
      (.ok (part, .ok receipt), w') := by
  have sent : (c.client.partClient.sendPart token part).runFrom w = _ :=
    (BucketClient.runFrom_call_ok_iff ..).mpr
      (runFrom_uploadPart_of_spared spared accepted found numbered read)
  rw [runFrom_sending, sent]
  exact ⟨_, _, rfl⟩

/-- The upload after sends, and what the sends tell of it. -/
structure Filled (c : Caller) (id : String) (outcomes : List (Part × Except Failure PartReceipt))
    (w w' : World Backend) (u u' : Upload) : Prop where
  uploaded : Backend.Uploaded w.remote w'.remote c.store.bucket id (some u')
  sound : w'.remote.Sound
  bare : u'.bare = u.bare
  untouched : ∀ n, n ∉ outcomes.map (·.1.number) → u'.bytes? n = u.bytes? n
  received : (outcomes.map (·.1.number)).Nodup → ∀ part receipt, (part, .ok receipt) ∈ outcomes →
    Check.part part 10000 = .ok () ∧ ∃ data, part.data = .ok data ∧ receipt = receiptOf part data ∧
      u'.bytes? part.number = some data
  passed : c.Spared .uploadPart w → ∀ part e, (part, .error e) ∈ outcomes →
    Check.part part 10000 = .ok () → ∀ data, part.data ≠ .ok data

theorem bytes?_put (u : Upload) (number n : Int) (data : Content) :
    (u.put number data).bytes? n = if number = n then some data else u.bytes? n := by
  unfold Upload.bytes? Upload.put
  rw [Table.get?_set]
  split <;> rfl

theorem filled_of_carried {outcomes : List (Part × Except Failure PartReceipt)}
    (carried : Queue.Carried (sending c.client.partClient token) w outcomes w')
    (sound : w.remote.Sound) (known : token.id = .known id) (ours : token.bucket = c.store.bucket)
    {u : Upload} (there : w.remote.uploadAt c.store.bucket id = some u) (keyed : u.key = token.key) :
    ∃ u', Filled c id outcomes w w' u u' := by
  induction carried generalizing u with
  | nil w =>
      exact ⟨u, .refl sound.tidy there, sound, rfl, fun _ _ => rfl, fun _ _ _ h => (nomatch h),
        fun _ _ _ h => (nomatch h)⟩
  | @step w w₁ w' part outcome outcomes ran _ ih =>
      have plans : SamePlans w w₁ := by
        have kept := samePlans_sending c token part w
        rwa [ran] at kept
      have accepted : Check.uploadToken token c.adapter.bucket = .ok () :=
        accepts_token sound known (ours ▸ there) keyed ours.symm
      obtain ⟨b, found⟩ := upload_of_uploadAt known there keyed
      rcases sending_cases ran with ⟨e, rfl, same⟩ | ⟨data, rfl, numbered, read, put⟩
      · rw [← same] at there sound
        obtain ⟨u', filled⟩ := ih sound there keyed
        refine ⟨u', same ▸ filled.uploaded, filled.sound, filled.bare, ?_, ?_, ?_⟩
        · intro n new
          exact filled.untouched n fun old => new (List.mem_cons_of_mem _ old)
        · intro distinct part' receipt listed
          rcases List.mem_cons.mp listed with is | later
          · cases is
          · exact filled.received distinct.of_cons part' receipt later
        · intro spared part' e' listed numbered data read
          rcases List.mem_cons.mp listed with is | later
          · cases is
            obtain ⟨receipt, w₂, sent⟩ := sent_of_spared spared accepted found numbered read
            cases ran.symm.trans sent
          · exact filled.passed (spared.samePlans plans) part' e' later numbered data read
      · obtain ⟨b', id', u₁, found', put_in⟩ := Backend.uploaded_of_putPart sound.tidy put
        cases found.symm.trans found'
        obtain ⟨u', filled⟩ := ih (sound.made ⟨.putPart _ _ _ _, trivial, put⟩) put_in.here keyed
        refine ⟨u', put_in.trans filled.uploaded, filled.sound, filled.bare, ?_, ?_, ?_⟩
        · intro n new
          obtain ⟨other, later⟩ := List.ne_and_not_mem_of_not_mem_cons new
          rw [filled.untouched n later, bytes?_put, if_neg (Ne.symm other)]
        · intro distinct part' receipt listed
          obtain ⟨once, distinct⟩ := List.nodup_cons.mp distinct
          rcases List.mem_cons.mp listed with is | later
          · cases is
            refine ⟨numbered, data, read, rfl, ?_⟩
            rw [filled.untouched _ once, bytes?_put, if_pos rfl]
          · exact filled.received distinct part' receipt later
        · intro spared part' e' listed
          rcases List.mem_cons.mp listed with is | later
          · cases is
          · exact filled.passed (spared.samePlans plans) part' e' later

/-- What is sent for an upload that is gone is lost. -/
theorem lost_of_carried {outcomes : List (Part × Except Failure PartReceipt)}
    (carried : Queue.Carried (sending c.client.partClient token) w outcomes w')
    (known : token.id = .known id) (gone : w.remote.uploadAt c.store.bucket id = none) :
    w'.remote = w.remote := by
  induction carried with
  | nil w => rfl
  | @step w w₁ w' part outcome outcomes ran _ ih =>
      rcases sending_cases ran with ⟨e, _, same⟩ | ⟨data, _, _, _, put⟩
      · rw [← same] at gone ⊢
        exact ih gone
      · obtain ⟨b, id', u, found, _⟩ := (Backend.putPart_eq_ok_iff ..).mp put
        have there := Backend.uploadAt_of_upload found
        cases known.symm.trans ((Backend.upload_eq_ok_iff ..).mp found).2.1
        cases gone.symm.trans there

theorem runFrom_complete_iff (receipts : List PartReceipt) (receipt : MultipartReceipt) :
    (c.client.partClient.complete token receipts).runFrom w = (.ok receipt, w') ↔
      (completing c token receipts).runFrom w = (.ok (.completed receipt), w') := by
  constructor
  · intro run
    exact completing_ok ((BucketClient.runFrom_call_ok_iff ..).mp run)
  · intro run
    obtain ⟨_, own, ⟨⟩⟩ := Action.ok_of_map_ok ((BucketClient.runFrom_call_ok_iff ..).mp run)
    exact (BucketClient.runFrom_call_ok_iff ..).mpr own

theorem remote_of_complete_error {receipts : List PartReceipt} {e : Failure}
    (run : (c.client.partClient.complete token receipts).runFrom w = (.error e, w')) :
    w'.remote = w.remote :=
  (BucketClient.atomic_call (readsQuietly c).classify _
    (atomic_completeUpload (harmless_guardOf c.plans) token receipts)).of_error run

theorem uploaded_abort (spared : c.Spared .abortUpload w) (sound : w.remote.Sound)
    (known : token.id = .known id) (ours : token.bucket = c.store.bucket) {u : Upload}
    (there : w.remote.uploadAt c.store.bucket id = some u) (keyed : u.key = token.key) :
    Backend.Uploaded w.remote ((c.client.partClient.abort token).runFrom w).2.remote
      c.store.bucket id none := by
  obtain ⟨b, found⟩ := upload_of_uploadAt known there keyed
  have removed : w.remote.abortUpload c.store.bucket token =
      .ok (w.remote.setBucket { b with uploads := b.uploads.erase id }) :=
    (Backend.abortUpload_eq_ok_iff ..).mpr ⟨b, id, u, found, rfl⟩
  have stepped : (c.adapter.abortUpload token).runFrom w = _ :=
    (Action.runFrom_bind_ok (runFrom_guardOf spared _) _).trans (Store.runFrom_update_ok removed)
  have aborted : (c.client.partClient.abort token).runFrom w = _ :=
    (BucketClient.runFrom_call_ok_iff ..).mpr ((BlobStorage.Store.runFrom_check_bind_ok
      (accepts_token sound known (ours ▸ there) keyed ours.symm) _ w).trans stepped)
  rw [aborted]
  exact Backend.uploaded_erase sound.tidy ((Backend.upload_eq_ok_iff ..).mp found).1 id

/-- An upload has been opened, under an identifier that was not used before. -/
structure Begun (c : Caller) (request : MultipartRequest) (token : UploadToken) (id : String)
    (w w' : World Backend) : Prop where
  known : token.id = .known id
  ours : token.bucket = c.store.bucket
  keyed : token.key = request.key
  unused : w.remote.uploadAt c.store.bucket id = none
  opened : Backend.Reassigned w.remote w'.remote c.store.bucket id (some (.ofRequest request))
  versions : Backend.SameVersions w.remote w'.remote
  sound : w'.remote.Sound
  plans : SamePlans w w'

theorem begun_of_initiate (sound : w.remote.Sound) {request : MultipartRequest}
    (run : (c.client.partClient.initiate request).runFrom w = (.ok token, w')) :
    ∃ id, Begun c request token id w w' := by
  have called : (Call.perform c (.initiateUpload request)).run.runFrom w = (.ok (.token token), w') := by
    refine (BucketClient.runFrom_call_ok_iff ..).mpr ?_
    change (Answer.token <$> BlobStorage.Store.initiateUpload c.adapter request).runFrom w = _
    rw [Action.runFrom_map, show (BlobStorage.Store.initiateUpload c.adapter request).runFrom w = _
      from (BucketClient.runFrom_call_ok_iff ..).mp run]
    rfl
  have spec := initiate_spec c request w
  rw [called] at spec
  obtain ⟨_, ⟨⟩, made, ours, keyed, known⟩ := spec
  have opened := Backend.uploaded_of_openUpload (sound.tidy.withNumber _) made
  have still := sound_after sound [.perform c (.initiateUpload request)]
  have plans := samePlans_initiate c request w
  rw [run] at plans
  rw [show after w [.perform c (.initiateUpload request)] = w' from congrArg Prod.snd called] at still
  exact ⟨_, known, ours, keyed, sound.uploads.unissued _, opened.reassigned, opened.versions, still,
    plans⟩

end Sending
end BlobStorage.Memory
