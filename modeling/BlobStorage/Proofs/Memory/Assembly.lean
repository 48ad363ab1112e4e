import BlobStorage.Proofs.Memory.Reordering
import BlobStorage.Proofs.Memory.Sends

/-!
Uploads in parts over a whole run of calls, of any number of callers who share the tokens. A completion
joins what was sent last under each listed number, in the order of the numbers, and succeeds exactly
when the list names these bytes by their tags.
-/
namespace BlobStorage.Memory

/-- The token is for an upload in progress. -/
structure Live (s : Backend) (token : UploadToken) (id : String) : Prop where
  known : token.id = .known id
  there : ∃ u, s.uploadAt token.bucket id = some u ∧ u.key = token.key

/-- The bytes that a run has sent last under a part number of an upload. -/
def latest (w : World Backend) (calls : List Call) (token : UploadToken) (id : String)
    (number : Int) : Option Content :=
  lastOf (sentPart token.bucket id number) w calls

/-- What a run of calls does with an upload in parts, at the end of the run. -/
structure AssemblyLaws (w : World Backend) (calls : List Call) : Prop where
  /-- A token that opening an upload gives is live. -/
  opened : ∀ c request token w',
    (Call.perform c (.initiateUpload request)).run.runFrom (after w calls) =
      (.ok (.token token), w') →
    ∃ id, Live w'.remote token id
  /-- A completion succeeds exactly if the list is not empty, comes from a store on the token's bucket,
  repeats no number, and has no tag but those of the bytes that were sent last. -/
  completes : ∀ c token id parts, Live (after w calls).remote token id → c.plans = none →
    ((∃ x w', (completing c token parts).runFrom (after w calls) = (.ok x, w')) ↔
      c.store.bucket = token.bucket ∧ Completes (latest w calls token id) parts)
  /-- One that succeeds adds one version, of these bytes in the order of their numbers and with what
  was given when the upload was opened, and removes the upload. -/
  assembled : ∀ c token id parts x w', Live (after w calls).remote token id →
    (completing c token parts).runFrom (after w calls) = (.ok x, w') →
    ∃ (v : Version) (request : MultipartRequest) (numbers : List Int), written x = some (.known v.id) ∧
      Backend.Appended (after w calls).remote w'.remote token.bucket token.key v ∧
      numbers.Pairwise (· < ·) ∧ numbers.Perm (parts.map (·.number)) ∧
      v.data = numbers.flatMap (fun n => (latest w calls token id n).getD []) ∧
      lastOf (openedWith token.bucket id) w calls = some request ∧
      v.metadata = request.metadata ∧ v.tags = request.tags ∧ v.contentType = request.contentType ∧
      Backend.Reassigned (after w calls).remote w'.remote token.bucket id none
  /-- The order in which the parts are listed makes no difference, unless both lists are refused. -/
  permuted : ∀ c token parts parts', c.plans = none → parts.Perm parts' →
    (completing c token parts).runFrom (after w calls) =
        (completing c token parts').runFrom (after w calls) ∨
      ∃ e e', (completing c token parts).runFrom (after w calls) = (.error e, after w calls) ∧
        (completing c token parts').runFrom (after w calls) = (.error e', after w calls) ∧
        e.category? = some .invalidArgument ∧ e'.category? = some .invalidArgument
  /-- The order in which parts of different numbers are sent makes no difference. -/
  reordered : ∀ c token id parts (sends sends' : List Send), Live (after w calls).remote token id →
    c.plans = none → c.store.bucket = token.bucket →
    (∀ s ∈ sends, s.To token.bucket token.key id) →
    (∀ s ∈ sends', s.To token.bucket token.key id) →
    (∀ n, sends.filter (·.part.number = n) = sends'.filter (·.part.number = n)) →
    SameOutcome ((completing c token parts).runFrom (after w (calls ++ sends.map Send.call)))
      ((completing c token parts).runFrom (after w (calls ++ sends'.map Send.call)))
  /-- A listing shows each number with the bytes that were sent last, in ascending order. -/
  listed : ∀ c token id, Live (after w calls).remote token id → c.plans = none →
    c.store.bucket = token.bucket →
    ∃ kept : List (Int × Content), kept.Pairwise (fun p q => p.1 < q.1) ∧
      (∀ n data, (n, data) ∈ kept ↔ latest w calls token id n = some data) ∧
      (Call.perform c (.listParts token)).run.runFrom (after w calls) =
        (.ok (.parts (kept.map fun p => listedPart p.1 p.2)), after w calls)

section Token
variable {s : Backend} {token : UploadToken} {id : String}

theorem Live.upload (live : Live s token id) :
    ∃ b u, s.upload token.bucket token = .ok (b, id, u) := by
  obtain ⟨u, there, keyed⟩ := live.there
  obtain ⟨b, found⟩ := upload_of_uploadAt live.known there keyed
  exact ⟨b, u, found⟩

end Token

theorem live_of_initiate {c : Caller} {request : MultipartRequest} {token : UploadToken}
    {w w' : World Backend} (tidy : w.remote.Tidy)
    (run : (Call.perform c (.initiateUpload request)).run.runFrom w = (.ok (.token token), w')) :
    ∃ id, Live w'.remote token id := by
  have spec := initiate_spec c request w
  rw [run] at spec
  obtain ⟨token, ⟨⟩, made, bucket, key, known⟩ := spec
  have opened := (Backend.uploaded_of_openUpload (tidy.withNumber _) made).reassigned
    c.store.bucket (Upload.idOf w.remote.nextNumber)
  rw [if_pos ⟨rfl, rfl⟩] at opened
  exact ⟨_, known, _, bucket ▸ opened, key.symm⟩

theorem ascending_numbers {parts : List PartReceipt}
    (distinct : (parts.map (·.number)).Nodup) :
    ((BlobStorage.Store.inOrder parts).map (·.number)).Pairwise (· < ·) := by
  rw [List.pairwise_map]
  exact Sorting.pairwise_lt compares_number distinct

section Listing
variable {c : Caller} (plain : c.plans = none) {token : UploadToken} {id : String} {u : Upload}
  {w : World Backend}
include plain

theorem runFrom_listParts (sound : w.remote.Sound) (known : token.id = .known id)
    (there : w.remote.uploadAt token.bucket id = some u) (keyed : u.key = token.key)
    (ours : c.store.bucket = token.bucket) :
    ∃ kept : List (Int × Content), kept.Pairwise (fun p q => p.1 < q.1) ∧
      (∀ n data, (n, data) ∈ kept ↔ u.bytes? n = some data) ∧
      (Call.perform c (.listParts token)).run.runFrom w =
        (.ok (.parts (kept.map fun p => listedPart p.1 p.2)), w) := by
  obtain ⟨kept, ascending, mem, listed⟩ := listedInOrder_parts sound.uploads there
  refine ⟨kept, ascending, mem, (BucketClient.runFrom_call_ok_iff ..).mpr ?_⟩
  obtain ⟨b, found⟩ := upload_of_uploadAt known there keyed
  have shown : (c.adapter.listParts token).runFrom w = (.ok u.listing, w) := by
    rw [adapter_of_plain plain]
    refine (World.runFrom_unguarded _ _ _ _).trans ((Store.runFrom_see _ w).trans ?_)
    rw [ours, Backend.listParts, found]
    rfl
  have whole : (BlobStorage.Store.listParts c.adapter token).runFrom w =
      (.ok (kept.map fun p => listedPart p.1 p.2), w) := by
    refine (BlobStorage.Store.runFrom_check_bind_ok
      (accepts_token sound known there keyed ours) _ w).trans ?_
    rw [Action.runFrom_bind_ok shown, listed]
    rfl
  change (Answer.parts <$> BlobStorage.Store.listParts c.adapter token).runFrom w = _
  rw [Action.runFrom_map, whole]
  rfl

end Listing

section Run
variable {w : World Backend} (sound : w.remote.Sound)
  (empty : ∀ bucket id, w.remote.uploadAt bucket id = none) (calls : List Call)
  {c : Caller} {token : UploadToken} {id : String} {parts : List PartReceipt}
include sound empty

theorem Live.told (live : Live (after w calls).remote token id) :
    ∃ u, (after w calls).remote.uploadAt token.bucket id = some u ∧ u.key = token.key ∧
      Told w calls token.bucket id u ∧ u.bytes? = latest w calls token id := by
  obtain ⟨u, there, keyed⟩ := live.there
  have told := told_of_run sound empty there
  exact ⟨u, there, keyed, told, funext told.sent⟩

theorem completes_of_live (live : Live (after w calls).remote token id) (plain : c.plans = none) :
    (∃ x w', (completing c token parts).runFrom (after w calls) = (.ok x, w')) ↔
      c.store.bucket = token.bucket ∧ Completes (latest w calls token id) parts := by
  obtain ⟨u, there, keyed, _, sent⟩ := live.told sound empty calls
  have iff (ours : c.store.bucket = token.bucket) :
      (∃ x w', (completing c token parts).runFrom (after w calls) = (.ok x, w')) ↔
        Completes (latest w calls token id) parts := by
    rw [← sent]
    exact completing_ok_iff (spared_of_plain plain _ _) (sound_after sound calls) live.known there
      keyed ours
  constructor
  · intro ⟨x, w', run⟩
    have ours := ((Check.uploadToken_eq_ok_iff ..).mp (accepted_of_completing run).1).2.1.symm
    exact ⟨ours, (iff ours).mp ⟨x, w', run⟩⟩
  · intro ⟨ours, completes⟩
    exact (iff ours).mpr completes

theorem assembled_of_live (live : Live (after w calls).remote token id) {x : Answer}
    {w' : World Backend} (run : (completing c token parts).runFrom (after w calls) = (.ok x, w')) :
    ∃ (v : Version) (request : MultipartRequest) (numbers : List Int),
      written x = some (.known v.id) ∧
      Backend.Appended (after w calls).remote w'.remote token.bucket token.key v ∧
      numbers.Pairwise (· < ·) ∧ numbers.Perm (parts.map (·.number)) ∧
      v.data = numbers.flatMap (fun n => (latest w calls token id n).getD []) ∧
      lastOf (openedWith token.bucket id) w calls = some request ∧
      v.metadata = request.metadata ∧ v.tags = request.tags ∧ v.contentType = request.contentType ∧
      Backend.Reassigned (after w calls).remote w'.remote token.bucket id none := by
  obtain ⟨u, there, keyed, told, sent⟩ := live.told sound empty calls
  obtain ⟨ours, accepted⟩ := accepted_of_completing run
  have ours := ((Check.uploadToken_eq_ok_iff ..).mp ours).2.1.symm
  have distinct := ((Check.parts_eq_ok_iff _).mp accepted).2.1
  obtain ⟨v, named, done⟩ := completing_assembled (sound_after sound calls).tidy live.known there
    keyed ours run
  obtain ⟨request, opened, _, metadata, tags, contentType⟩ := told.opened
  refine ⟨v, request, (BlobStorage.Store.inOrder parts).map (·.number), named, done.appended,
    ascending_numbers distinct, (inOrder_perm parts).map _, sent ▸ done.data, opened,
    done.metadata.trans metadata, done.tags.trans tags, done.contentType.trans contentType,
    done.gone⟩

end Run

theorem assembly_of_run (signingKey : Content) (now : Moment) (files : FileTree)
    (interceptions : List Interception) (calls : List Call) :
    AssemblyLaws { remote := Backend.fresh signingKey now, files, interceptions } calls := by
  have sound := Backend.sound_fresh signingKey now
  have empty (bucket id : String) : (Backend.fresh signingKey now).uploadAt bucket id = none := rfl
  refine ⟨?_, ?_, ?_, ?_, ?_, ?_⟩
  · intro c request token w' run
    exact live_of_initiate (sound_after sound calls).tidy run
  · intro c token id parts live plain
    exact completes_of_live sound empty calls live plain
  · intro c token id parts x w' live run
    exact assembled_of_live sound empty calls live run
  · intro c token parts parts' plain perm
    exact completing_perm plain token perm _
  · intro c token id parts sends sends' live plain ours own own' same
    obtain ⟨b, u, found⟩ := live.upload
    rw [← ours] at found own own'
    rw [after_append, after_append]
    exact completing_reordered plain (sound_after sound calls).tidy found own own' same
  · intro c token id live plain ours
    obtain ⟨u, there, keyed, _, sent⟩ := live.told sound empty calls
    rw [← sent]
    exact runFrom_listParts plain (sound_after sound calls) live.known there keyed ours

end BlobStorage.Memory
