import BlobStorage.Proofs.Memory.PartSending
import Mathlib.Data.List.Forall2

/-!
Uploading a source in parts to a memory backend, in any state that a run of calls reaches. It is done as
a whole or not at all, in whatever order the parts are sent and whichever steps fail, and no upload is
left behind.
-/
namespace BlobStorage.Memory
open Multipart

/-- What is known of a part that was sent, and of the upload that keeps it. -/
def Stored (u : Upload) (part : Part) (receipt : PartReceipt) : Prop :=
  Check.part part 10000 = .ok () ∧ ∃ data, part.data = .ok data ∧ receipt = receiptOf part data ∧
    u.bytes? part.number = some data

/-- A version with the bytes of the source has been added, which the receipt names. -/
structure Added (c : Caller) (request : MultipartRequest) (source : Source)
    (receipt : MultipartReceipt) (s t : Backend) (v : Version) : Prop where
  named : receipt.version = some (.known v.id)
  data : v.data = contentOf source
  metadata : v.metadata = request.metadata
  tags : v.tags = request.tags
  contentType : v.contentType = request.contentType
  rewritten : Backend.Rewritten s t c.store.bucket request.key
    (s.versionsAt c.store.bucket request.key ++ [v])

section Pairs
variable {u : Upload} {ps : List Part} {receipts : List PartReceipt}

theorem numbers_of_stored (h : List.Forall₂ (Stored u) ps receipts) :
    receipts.map (·.number) = ps.map (·.number) := by
  induction h with
  | nil => rfl
  | cons stored _ ih =>
      obtain ⟨_, data, _, rfl, _⟩ := stored
      exact congrArg _ ih

theorem joined_of_stored (h : List.Forall₂ (Stored u) ps receipts) :
    (ps.map (·.number)).flatMap (fun n => (u.bytes? n).getD []) =
      ps.flatMap fun part => part.data.toOption.getD [] := by
  induction h with
  | nil => rfl
  | cons stored _ ih =>
      obtain ⟨_, data, read, _, kept⟩ := stored
      rw [List.map_cons, List.flatMap_cons, List.flatMap_cons, ih, kept, read]
      rfl

theorem kept_of_stored (h : List.Forall₂ (Stored u) ps receipts) :
    ∀ receipt ∈ receipts, ∃ data, u.bytes? receipt.number = some data ∧
      receipt.etag = .known (etagOf data) := by
  induction h with
  | nil => simp
  | cons stored _ ih =>
      obtain ⟨_, data, _, rfl, kept⟩ := stored
      exact List.forall_mem_cons.mpr ⟨⟨data, kept, rfl⟩, ih⟩

theorem completes_of_stored (h : List.Forall₂ (Stored u) ps receipts) (nonempty : ps ≠ [])
    (distinct : (ps.map (·.number)).Nodup) : Completes u.bytes? receipts := by
  refine ⟨?_, numbers_of_stored h ▸ distinct, ?_, kept_of_stored h⟩
  · rintro rfl
    exact nonempty (List.forall₂_nil_right_iff.mp h)
  · intro receipt listed
    obtain ⟨data, _, tagged⟩ := kept_of_stored h receipt listed
    rw [tagged]
    simp [Reported.isGiven, Reported.value, Sayable.value, Value.isGiven, etagOf]

theorem Filled.stored {c : Caller} {own : String} {w w' : World Backend} {u₀ : Upload}
    {outcomes : List (Part × Except Failure PartReceipt)} (filled : Filled c own outcomes w w' u₀ u)
    (distinct : (ps.map (·.number)).Nodup) (paired : receipts.length = ps.length)
    (sent : outcomes.Perm (ps.zip (receipts.map .ok))) : List.Forall₂ (Stored u) ps receipts := by
  have numbers : (ps.zip (receipts.map Except.ok)).map
      (fun outcome : Part × Except Failure PartReceipt => outcome.1.number) = ps.map (·.number) := by
    refine (List.map_map (f := Prod.fst) (g := Part.number)).symm.trans ?_
    rw [List.map_fst_zip (by simp [paired])]
  refine List.forall₂_iff_zip.mpr ⟨paired.symm, fun {part receipt} listed => ?_⟩
  refine filled.received ?_ part receipt (sent.mem_iff.mpr ?_)
  · rw [(sent.map (·.1.number)).nodup_iff, numbers]
    exact distinct
  · rw [List.zip_map_right]
    exact List.mem_map_of_mem (f := Prod.map id Except.ok) listed

end Pairs

section Steps
variable {c : Caller} {request : MultipartRequest} {token : UploadToken} {id : String}
  {source : Source} {size : Int} {concurrency : Concurrency} {w w₁ w₂ : World Backend}
  (begun : Begun c request token id w w₁)
include begun

theorem Begun.there : w₁.remote.uploadAt c.store.bucket id = some (.ofRequest request) := by
  rw [begun.opened c.store.bucket id, if_pos ⟨rfl, rfl⟩]

/-- An upload that is gone again leaves the uploads as they were before it was opened. -/
theorem Begun.closed {s : Backend} (gone : Backend.Reassigned w₁.remote s c.store.bucket id none) :
    Backend.SameUploads w.remote s := by
  intro bucket id'
  rw [gone bucket id', begun.opened bucket id']
  split
  · rename_i here
    rw [here.1, here.2, begun.unused]
  · rfl

theorem Begun.filled {outcomes : List (Part × Except Failure PartReceipt)}
    (carried : Queue.Carried (sending c.client.partClient token) w₁ outcomes w₂) :
    ∃ u, Filled c id outcomes w₁ w₂ (.ofRequest request) u ∧ u.key = token.key := by
  obtain ⟨u, filled⟩ := filled_of_carried carried begun.sound begun.known begun.ours begun.there
    begun.keyed.symm
  exact ⟨u, filled, (congrArg Upload.key filled.bare).trans begun.keyed.symm⟩

theorem Begun.stored {ps : List Part} {outcomes : List (Part × Except Failure PartReceipt)}
    {receipts : List PartReceipt} (cut : parts source size = .ok ps)
    (carried : Queue.Carried (sending c.client.partClient token) w₁ outcomes w₂)
    (paired : receipts.length = ps.length) (sent : outcomes.Perm (ps.zip (receipts.map .ok))) :
    ∃ u pieces, Filled c id outcomes w₁ w₂ (.ofRequest request) u ∧ u.key = token.key ∧
      ps = number 1 pieces ∧ pieces.flatten = contentOf source ∧
      pieces.length = partCount (contentOf source).length size ∧
      (ps.map (·.number)).Pairwise (· < ·) ∧ List.Forall₂ (Stored u) ps receipts := by
  obtain ⟨u, filled, keyed⟩ := begun.filled carried
  obtain ⟨_, pieces, rfl, whole, count⟩ := parts_spec cut
  have ascending := ascending_number 1 pieces
  exact ⟨u, pieces, filled, keyed, rfl, whole, count, ascending,
    filled.stored (ascending.imp fun lt => Int.ne_of_lt lt) paired sent⟩

/-- Where a step fails the upload is still there, and nothing else has changed. -/
theorem Begun.left_of_ends {e : Failure}
    (ends : Ends c.client.partClient token source size concurrency w₁ (.error e) w₂) :
    ∃ u, Backend.Uploaded w₁.remote w₂.remote c.store.bucket id (some u) ∧ u.key = token.key ∧
      w₂.remote.Sound ∧ SamePlans w₁ w₂ := by
  cases ends with
  | uncut cut =>
      exact ⟨_, .refl begun.sound.tidy begun.there, begun.keyed.symm, begun.sound, Std.Refl.refl _⟩
  | unsent cut carried once failed =>
      obtain ⟨u, filled, keyed⟩ := begun.filled carried
      exact ⟨u, filled.uploaded, keyed, filled.sound, carried.keeps (samePlans_sending c token)⟩
  | @joined ps outcomes receipts _ t _ cut carried paired sent completed =>
      obtain ⟨u, filled, keyed⟩ := begun.filled carried
      have plans := samePlans_complete c token receipts t
      rw [completed] at plans
      rw [remote_of_complete_error completed]
      exact ⟨u, filled.uploaded, keyed, filled.sound,
        IsTrans.trans _ _ _ (carried.keeps (samePlans_sending c token)) plans⟩

/-- Where no step fails, one version with the bytes of the source has been added. -/
theorem Begun.added_of_ends {receipt : MultipartReceipt}
    (ends : Ends c.client.partClient token source size concurrency w₁ (.ok receipt) w₂) :
    ∃ v, Added c request source receipt w.remote w₂.remote v ∧
      Backend.SameUploads w.remote w₂.remote := by
  cases ends with
  | @joined ps outcomes receipts _ t _ cut carried paired sent completed =>
      obtain ⟨u, pieces, filled, keyed, rfl, whole, _, ascending, stored⟩ :=
        begun.stored cut carried paired sent
      have numbers := numbers_of_stored stored
      have sorted : BlobStorage.Store.inOrder receipts = receipts := by
        refine Sorting.mergeSort_eq compares_number (.refl _) ?_
        rw [← List.pairwise_map (f := PartReceipt.number), numbers]
        exact ascending
      obtain ⟨v, named, done⟩ := completing_assembled filled.sound.tidy begun.known
        (begun.ours ▸ filled.uploaded.here) keyed begun.ours.symm
        ((runFrom_complete_iff ..).mp completed)
      have joined := done.data
      rw [sorted, numbers, joined_of_stored stored, joined_number, whole] at joined
      rw [begun.ours, begun.keyed] at done
      refine ⟨v, ⟨named, joined, done.metadata.trans (congrArg Upload.metadata filled.bare),
        done.tags.trans (congrArg Upload.tags filled.bare),
        done.contentType.trans (congrArg Upload.contentType filled.bare), ?_⟩, begun.closed ?_⟩
      · intro bucket key
        rw [done.appended.rewritten bucket key, filled.uploaded.versions, filled.uploaded.versions,
          begun.versions, begun.versions]
      · intro bucket id'
        rw [done.gone bucket id', filled.uploaded.reassigned bucket id']
        split <;> rfl

/-- An upload in which no step fails has no more parts than are allowed. -/
theorem Begun.few_of_ends {receipt : MultipartReceipt}
    (ends : Ends c.client.partClient token source size concurrency w₁ (.ok receipt) w₂) :
    1 ≤ size ∧ partCount (contentOf source).length size ≤ 10000 := by
  cases ends with
  | @joined ps outcomes receipts _ t _ cut carried paired sent completed =>
      obtain ⟨u, pieces, _, _, rfl, _, count, _, stored⟩ := begun.stored cut carried paired sent
      have nonempty : 1 ≤ partCount (contentOf source).length size := Nat.le_max_left ..
      have last : (pieces.length : Int) ∈ (number 1 pieces).map (·.number) :=
        mem_number_iff.mpr ⟨by omega, by omega⟩
      obtain ⟨part, listed, is⟩ := List.mem_map.mp last
      obtain ⟨bytes, _, read⟩ := data_of_mem_number listed
      have accepted := ((List.forall₂_and_left ..).mp stored).1 part listed
      have bounded := ((Check.part_eq_ok_iff read 10000).mp accepted).2
      exact ⟨(parts_spec cut).1, by omega⟩

/-- Where no failure is planned, an upload of a source that can be read fails for nothing but the size
and the number of its parts. -/
theorem Begun.ok_of_ends {outcome : Except Failure MultipartReceipt}
    (spared : c.Spared .uploadPart w) (spared' : c.Spared .completeUpload w)
    (reads : Reads source size) (positive : 1 ≤ size)
    (few : partCount (contentOf source).length size ≤ 10000)
    (ends : Ends c.client.partClient token source size concurrency w₁ outcome w₂) :
    ∃ receipt, outcome = .ok receipt := by
  have passes {ps : List Part} (cut : parts source size = .ok ps) {part : Part} (listed : part ∈ ps) :
      Check.part part 10000 = .ok () ∧ ∃ data, part.data = .ok data := by
    obtain ⟨_, pieces, rfl, _, count⟩ := parts_spec cut
    obtain ⟨data, _, read⟩ := data_of_mem_number listed
    have within := mem_number_iff.mp (List.mem_map_of_mem (f := Part.number) listed)
    exact ⟨(Check.part_eq_ok_iff read 10000).mpr ⟨within.1, by omega⟩, data, read⟩
  cases ends with
  | uncut cut =>
      obtain ⟨ps, own⟩ := parts_ok positive reads
      cases cut.symm.trans own
  | @unsent ps outcomes part f _ cut carried once failed =>
      obtain ⟨u, filled, _⟩ := begun.filled carried
      obtain ⟨accepted, data, read⟩ := passes cut (once.subset (List.mem_map_of_mem failed))
      exact absurd read (filled.passed (spared.samePlans begun.plans) part f failed accepted data)
  | @joined ps outcomes receipts _ t _ cut carried paired sent completed =>
      obtain ⟨u, pieces, filled, keyed, rfl, _, count, ascending, stored⟩ :=
        begun.stored cut carried paired sent
      have nonempty : number 1 pieces ≠ [] := by
        rw [← List.length_pos_iff, length_number, count]
        exact Nat.le_max_left ..
      have completes := completes_of_stored stored nonempty (ascending.imp fun lt => Int.ne_of_lt lt)
      have still : c.Spared .completeUpload t := (spared'.samePlans begun.plans).samePlans
        (carried.keeps (samePlans_sending c token))
      obtain ⟨x, w', run⟩ := (completing_ok_iff still filled.sound begun.known
        (begun.ours ▸ filled.uploaded.here) keyed begun.ours.symm).mpr completes
      obtain ⟨receipt, own, rfl⟩ :=
        Action.ok_of_map_ok ((BucketClient.runFrom_call_ok_iff ..).mp run)
      cases completed.symm.trans ((runFrom_complete_iff ..).mpr run)
      exact ⟨receipt, rfl⟩

end Steps

/-- What uploading a source in parts through a caller's client does, from one state. The upload is opened
first, and what is said of it holds for every order in which the parts are sent. -/
structure PartwiseLaws (w : World Backend) : Prop where
  /-- A call that returns has added one version, with all the bytes of the source, and leaves no upload
  behind. -/
  returned : ∀ (c : Caller) request source size concurrency schedule receipt w', concurrency.Moving →
    (c.client.uploadInParts request source size concurrency schedule).runFrom w = (.ok receipt, w') →
    ∃ v, Added c request source receipt w.remote w'.remote v ∧ Backend.SameUploads w.remote w'.remote
  /-- One that fails once the upload is open, where aborting works, has changed nothing, and its failure
  is that of one of its steps. -/
  raised : ∀ (c : Caller) request source size concurrency schedule token w₁ e w', concurrency.Moving →
    c.Spared .abortUpload w →
    (c.client.partClient.initiate request).runFrom w = (.ok token, w₁) →
    (c.client.uploadInParts request source size concurrency schedule).runFrom w = (.error e, w') →
    Backend.SameVersions w.remote w'.remote ∧ Backend.SameUploads w.remote w'.remote ∧
      ∃ w₂, Ends c.client.partClient token source size concurrency w₁ (.error e) w₂
  /-- The upload that the token names is gone either way. -/
  closed : ∀ (c : Caller) request source size concurrency schedule token w₁ outcome w',
    concurrency.Moving → c.Spared .abortUpload w →
    (c.client.partClient.initiate request).runFrom w = (.ok token, w₁) →
    (c.client.uploadInParts request source size concurrency schedule).runFrom w = (outcome, w') →
    ∃ id, token.id = .known id ∧ w₁.remote.uploadAt token.bucket id = some (.ofRequest request) ∧
      w'.remote.uploadAt token.bucket id = none
  /-- Where no failure is planned for its steps, a call returns exactly if the size of a part is positive
  and there are no more parts than are allowed. -/
  returns : ∀ (c : Caller) request source size concurrency schedule token w₁, concurrency.Moving →
    c.Spared .uploadPart w → c.Spared .completeUpload w → Reads source size →
    (c.client.partClient.initiate request).runFrom w = (.ok token, w₁) →
    ((∃ receipt w',
        (c.client.uploadInParts request source size concurrency schedule).runFrom w =
          (.ok receipt, w')) ↔
      1 ≤ size ∧ partCount (contentOf source).length size ≤ 10000)

section State
variable {w : World Backend} (sound : w.remote.Sound) {c : Caller} {request : MultipartRequest}
  {source : Source} {size : Int} {concurrency : Concurrency} (moving : concurrency.Moving)
  {schedule : Schedule}
include sound moving

/-- What the steps of a call come to decides what comes out of it and what it leaves. -/
theorem ends_of_uploadInParts {token : UploadToken} {w₁ w' : World Backend}
    {outcome : Except Failure MultipartReceipt}
    (opened : (c.client.partClient.initiate request).runFrom w = (.ok token, w₁))
    (run : (c.client.uploadInParts request source size concurrency schedule).runFrom w =
      (outcome, w')) :
    ∃ id w₂, Begun c request token id w w₁ ∧
      Ends c.client.partClient token source size concurrency w₁ outcome w₂ ∧
      match outcome with
      | .ok _ => w' = w₂
      | .error _ => c.Spared .abortUpload w →
          Backend.Uploaded w₁.remote w'.remote c.store.bucket id none := by
  obtain ⟨id, begun⟩ := begun_of_initiate sound opened
  obtain ⟨outcome', w₂, ends, came⟩ := upload_spec source size moving schedule opened
  cases outcome' with
  | ok receipt =>
      cases run.symm.trans came
      exact ⟨id, w', begun, ends, rfl⟩
  | error e =>
      obtain ⟨late, u, carried, ran⟩ := came
      cases run.symm.trans ran
      refine ⟨id, w₂, begun, ends, fun spared => ?_⟩
      obtain ⟨u, left, keyed, still, plans⟩ := begun.left_of_ends ends
      have aborted := uploaded_abort ((spared.samePlans begun.plans).samePlans plans) still begun.known
        begun.ours left.here keyed
      rw [lost_of_carried carried begun.known aborted.here]
      exact left.trans aborted

end State

theorem partwise_of_run (signingKey : Content) (now : Moment) (files : FileTree)
    (interceptions : List Interception) (calls : List Call) :
    PartwiseLaws (after { remote := Backend.fresh signingKey now, files, interceptions } calls) := by
  have sound := sound_after (Backend.sound_fresh signingKey now) calls
    (w := { remote := Backend.fresh signingKey now, files, interceptions })
  refine ⟨?_, ?_, ?_, ?_⟩
  · intro c request source size concurrency schedule receipt w' moving run
    obtain ⟨token, w₁, opened, _⟩ := Action.ok_of_bind_ok run
    obtain ⟨id, w₂, begun, ends, rfl⟩ := ends_of_uploadInParts sound moving opened run
    exact begun.added_of_ends ends
  · intro c request source size concurrency schedule token w₁ e w' moving spared opened run
    obtain ⟨id, w₂, begun, ends, undone⟩ := ends_of_uploadInParts sound moving opened run
    have gone := undone spared
    exact ⟨fun bucket key => (gone.versions bucket key).trans (begun.versions bucket key),
      begun.closed gone.reassigned, w₂, ends⟩
  · intro c request source size concurrency schedule token w₁ outcome w' moving spared opened run
    obtain ⟨id, w₂, begun, ends, came⟩ := ends_of_uploadInParts sound moving opened run
    refine ⟨id, begun.known, begun.ours ▸ begun.there, ?_⟩
    rw [begun.ours]
    cases outcome with
    | ok receipt =>
        obtain ⟨v, _, same⟩ := begun.added_of_ends ends
        rw [came, same, begun.unused]
    | error e => exact (came spared).here
  · intro c request source size concurrency schedule token w₁ moving spared spared' reads opened
    rcases run : (c.client.uploadInParts request source size concurrency schedule).runFrom _ with
      ⟨outcome, w'⟩
    obtain ⟨id, w₂, begun, ends, _⟩ := ends_of_uploadInParts sound moving opened run
    constructor
    · rintro ⟨receipt, w'', is⟩
      cases is
      exact begun.few_of_ends ends
    · rintro ⟨positive, few⟩
      obtain ⟨receipt, rfl⟩ := begun.ok_of_ends spared spared' reads positive few ends
      exact ⟨receipt, w', rfl⟩

end BlobStorage.Memory
