import BlobStorage.Proofs.Memory.Astray
import BlobStorage.Proofs.Memory.Locking
import BlobStorage.Proofs.Memory.PartSending

/-!
The life of an upload in parts over a whole run of calls, of any number of callers who hold copies of its
token. It is opened once and ends at most once, by a completion or an abort or with its bucket; until
then it stays, whatever fails, and after that its token names nothing any more.
-/
namespace BlobStorage.Memory

/-- The call is to complete or to abort an upload. -/
inductive Concludes (bucket id : String) : Call → Prop
  | complete {c : Caller} {token : UploadToken} (parts : List PartReceipt) :
      c.store.bucket = bucket → token.id = .known id →
      Concludes bucket id (.perform c (.completeUpload token parts))
  | abort {c : Caller} {token : UploadToken} : c.store.bucket = bucket → token.id = .known id →
      Concludes bucket id (.perform c (.abortUpload token))

/-- A call of a run completes or aborts an upload. -/
def Ended (w : World Backend) (calls : List Call) (i : Nat) (bucket id : String) : Prop :=
  ∃ call x w', calls[i]? = some call ∧ Concludes bucket id call ∧
    call.run.runFrom (after w (calls.take i)) = (.ok x, w')

/-- No call of a stretch of a run completes or aborts the upload. -/
def Unended (w : World Backend) (calls : List Call) (bucket id : String) (i j : Nat) : Prop :=
  ∀ k, i ≤ k → k < j → ¬ Ended w calls k bucket id

/-- The token is for another bucket, or has no identifier, or names another key than the one that the
upload was opened for. -/
def Forged (w : World Backend) (calls : List Call) (c : Caller) (token : UploadToken) : Prop :=
  token.bucket ≠ c.store.bucket ∨ token.id.isGiven = false ∨
    ∃ id request, token.id = .known id ∧
      lastOf (openedWith c.store.bucket id) w calls = some request ∧ request.key ≠ token.key

/-- What becomes of uploads in parts over a run. -/
structure LifecycleLaws (w : World Backend) (calls : List Call) : Prop where
  /-- Of all completions and aborts of an upload at most one succeeds. -/
  once : ∀ i j bucket id, Ended w calls i bucket id → Ended w calls j bucket id → i = j
  /-- After that every operation on it fails, whoever tries, and changes nothing. Where no failure is
  planned, one that passes its checks and whose part can be read fails because there is no such upload,
  or no such bucket any more. -/
  closed : ∀ i j (c : Caller) command token id, Ended w calls i token.bucket id → i < j →
    names? command = some token → token.id = .known id →
    ∃ e w', (Call.perform c command).run.runFrom (after w (calls.take j)) = (.error e, w') ∧
      w'.remote = moment w calls j ∧
      (c.plans = none → validated c command = .ok () → Sendable command →
        e = c.heard token.key (.memory (if (moment w calls j).hasBucket token.bucket then .noUpload id
          else .noBucket token.bucket)))
  /-- An abort that succeeds leaves the versions of every key as they were. -/
  aborted : ∀ i c token x w',
    (Call.perform c (.abortUpload token)).run.runFrom (after w (calls.take i)) = (.ok x, w') →
    Backend.SameVersions (moment w calls i) w'.remote
  /-- A completion that fails leaves everything as it was, the upload and its parts included. -/
  unfinished : ∀ i c token parts e w',
    (completing c token parts).runFrom (after w (calls.take i)) = (.error e, w') →
    w'.remote = moment w calls i
  /-- An upload stays for as long as its bucket does and no completion or abort of it succeeds. -/
  lasting : ∀ i j token id, i ≤ j → Live (moment w calls i) token id →
    Stands calls token.bucket i j → Unended w calls token.bucket id i j →
    Live (moment w calls j) token id
  /-- And for as long as it is there, a completion succeeds that lists what was sent last. -/
  completable : ∀ i (c : Caller) token id parts, Live (moment w calls i) token id → c.plans = none →
    ((∃ x w', (completing c token parts).runFrom (after w (calls.take i)) = (.ok x, w')) ↔
      c.store.bucket = token.bucket ∧ Completes (latest w (calls.take i) token id) parts)
  /-- With a forged token every operation fails and changes nothing, and it fails as it would if there
  were no uploads at all. -/
  forged : ∀ i (c : Caller) command token, Forged w (calls.take i) c token →
    names? command = some token →
    ∃ e w', (Call.perform c command).run.runFrom (after w (calls.take i)) = (.error e, w') ∧
      w'.remote = moment w calls i ∧
      ((Call.perform c command).run.runFrom { after w (calls.take i) with
        remote := (moment w calls i).emptied }).1 = .error e

namespace Backend
variable {s t : Backend} {bucket id : String}

/-- The identifier was given to an upload that is not there any more. -/
def Spent (s : Backend) (bucket id : String) : Prop :=
  s.uploadAt bucket id = none ∧ ∃ n, n < s.nextNumber ∧ id = Upload.idOf n

/-- An identifier is given once: new uploads have numbers that were never given out. -/
theorem Spent.made (spent : s.Spent bucket id) (sound : s.Sound)
    (h : Made (fun _ => Change.Checked) s t) : t.Spent bucket id := by
  obtain ⟨c, _, made⟩ := h
  obtain ⟨gone, n, given, named⟩ := spent
  refine ⟨?_, n, Nat.lt_of_lt_of_le given (grown_of_apply sound.tidy made).next, named⟩
  rcases there : t.uploadAt bucket id with _ | u
  · rfl
  · rcases old_or_opened sound.tidy made there with ⟨u', old⟩ | ⟨new, _⟩
    · rw [gone] at old
      cases old
    · exact absurd (idOf_inj.mp (named.symm.trans new)) (Nat.ne_of_lt given)

theorem Spent.evolves (spent : s.Spent bucket id) (sound : s.Sound)
    (h : Evolves Change.Checked s t) : t.Spent bucket id := by
  induction h with
  | refl => exact spent
  | tail chain made ih => exact ih.made (sound.evolves chain) made

def Stays (t : Backend) (bucket id : String) (u : Upload) : Prop :=
  ∃ u', t.uploadAt bucket id = some u' ∧ u'.key = u.key

section Stays
variable {u : Upload} (there : s.uploadAt bucket id = some u)
include there

theorem stays_of_same (same : SameUploads s t) : t.Stays bucket id u :=
  ⟨u, (same bucket id).trans there, rfl⟩

/-- A new upload has a number that no other has had. -/
theorem stays_of_openUpload (sound : s.Sound) {b : String} {r : MultipartRequest}
    (made : (Change.openUpload b r).apply s = .ok t) : t.Stays bucket id u := by
  have opened := (uploaded_of_openUpload (sound.tidy.withNumber _) made).reassigned bucket id
  split at opened
  · rename_i here
    rw [here.1, here.2] at there
    cases (sound.uploads.unissued b).symm.trans there
  · exact ⟨u, opened.trans there, rfl⟩

theorem stays_of_putPart (tidy : s.Tidy) {b : String} {token : UploadToken} {number : Int} {data : Content}
    (made : (Change.putPart b token number data).apply s = .ok t) : t.Stays bucket id u := by
  obtain ⟨b', i, u₀, found, put⟩ := uploaded_of_putPart tidy made
  have here := put.reassigned bucket id
  split at here
  · rename_i ours
    obtain ⟨rfl, rfl⟩ := ours
    cases there.symm.trans (uploadAt_of_upload found)
    exact ⟨_, here, rfl⟩
  · exact ⟨u, here.trans there, rfl⟩

theorem stays_or_completed (tidy : s.Tidy) {b : String} {token : UploadToken} {parts : List PartReceipt}
    (made : (Change.completeUpload b token parts).apply s = .ok t) :
    t.Stays bucket id u ∨ (b = bucket ∧ token.id = .known id) := by
  obtain ⟨⟨v, t'⟩, hc, rfl⟩ := map_eq_ok_iff.mp made
  obtain ⟨b', i, u₀, chosen, s', found, _, hs, gone⟩ := stored_of_completeUpload tidy hc
  have here := gone.reassigned bucket id
  split at here
  · rename_i ours
    obtain ⟨rfl, rfl⟩ := ours
    exact .inr ⟨rfl, ((upload_eq_ok_iff ..).mp found).2.1⟩
  · exact .inl ⟨u, here.trans ((sameUploads_of_store tidy hs bucket id).trans there), rfl⟩

theorem stays_or_aborted (tidy : s.Tidy) {b : String} {token : UploadToken}
    (made : (Change.abortUpload b token).apply s = .ok t) :
    t.Stays bucket id u ∨ (b = bucket ∧ token.id = .known id) := by
  obtain ⟨b', i, u₀, found, gone⟩ := uploaded_of_abortUpload tidy made
  have here := gone.reassigned bucket id
  split at here
  · rename_i ours
    obtain ⟨rfl, rfl⟩ := ours
    exact .inr ⟨rfl, ((upload_eq_ok_iff ..).mp found).2.1⟩
  · exact .inl ⟨u, here.trans there, rfl⟩

theorem stays_or_removed {name : String} (made : (Change.deleteBucket name).apply s = .ok t) :
    t.Stays bucket id u ∨ name = bucket := by
  cases made
  by_cases ours : name = bucket
  · exact .inr ours
  · refine .inl ⟨u, ?_, rfl⟩
    rw [uploadAt_deleteBucket, if_neg ours]
    exact there

/-- A change leaves an upload there, unless it completes or aborts it or removes its bucket. -/
theorem stays_or_concludes (sound : s.Sound) {c : Change} (made : c.apply s = .ok t) :
    t.Stays bucket id u ∨ c = .deleteBucket bucket ∨
      (∃ token parts, c = .completeUpload bucket token parts ∧ token.id = .known id) ∨
      ∃ token, c = .abortUpload bucket token ∧ token.id = .known id := by
  have tidy := sound.tidy
  cases c with
  | store b key draft =>
      obtain ⟨⟨v, t'⟩, hs, rfl⟩ := map_eq_ok_iff.mp made
      exact .inl (stays_of_same there (sameUploads_of_store tidy hs))
  | copy srcBucket srcKey srcId b key =>
      obtain ⟨⟨v, t'⟩, hc, rfl⟩ := map_eq_ok_iff.mp made
      obtain ⟨source, _, hs⟩ := (copy_eq_ok_iff ..).mp hc
      exact .inl (stays_of_same there (sameUploads_of_store tidy hs))
  | delete b key i => exact .inl (stays_of_same there (sameUploads_of_delete tidy made))
  | setTags | setRetention | setLegalHold =>
      exact .inl (stays_of_same there (sameUploads_of_amend tidy made))
  | takeNumber | setClock =>
      cases made
      exact .inl (stays_of_same there fun _ _ => rfl)
  | openUpload b r => exact .inl (stays_of_openUpload there sound made)
  | putPart b token number data => exact .inl (stays_of_putPart there tidy made)
  | completeUpload b token parts =>
      refine (stays_or_completed there tidy made).imp_right ?_
      rintro ⟨rfl, known⟩
      exact .inr (.inl ⟨token, parts, rfl, known⟩)
  | abortUpload b token =>
      refine (stays_or_aborted there tidy made).imp_right ?_
      rintro ⟨rfl, known⟩
      exact .inr (.inr ⟨token, rfl, known⟩)
  | createBucket name region =>
      exact .inl (stays_of_same there (unmoved_of_createBucket tidy made).uploads)
  | ensureBucket name region =>
      cases made
      exact .inl (stays_of_same there (unmoved_ensureBucket tidy name region).uploads)
  | deleteBucket name =>
      refine (stays_or_removed there made).imp_right ?_
      rintro rfl
      exact .inl rfl

end Stays

/-- A chain of changes leaves an upload there, if none completes or aborts it or removes its bucket. -/
theorem Proceeds.stays {allowed : Backend → Change → Prop} (h : Proceeds allowed s t)
    (sound : s.Sound) (checked : ∀ b c, allowed b c → c.Checked)
    (stands : ∀ b, ¬ allowed b (.deleteBucket bucket))
    (uncompleted : ∀ b token parts, token.id = .known id →
      ¬ allowed b (.completeUpload bucket token parts))
    (unaborted : ∀ b token, token.id = .known id → ¬ allowed b (.abortUpload bucket token))
    {u : Upload} (there : s.uploadAt bucket id = some u) :
    t.Stays bucket id u := by
  induction h with
  | refl => exact ⟨u, there, rfl⟩
  | @tail t t' chain made ih =>
      obtain ⟨u', still, keyed⟩ := ih
      obtain ⟨c, permitted, made⟩ := made
      have sound' := sound.evolves (Backend.Proceeds.mono checked chain)
      rcases stays_or_concludes still sound' made with
        ⟨u'', later, same⟩ | rfl | ⟨token, parts, rfl, known⟩ | ⟨token, rfl, known⟩
      · exact ⟨u'', later, same.trans keyed⟩
      · exact absurd permitted (stands t)
      · exact absurd permitted (uncompleted t token parts known)
      · exact absurd permitted (unaborted t token known)

end Backend

section Calls
variable {bucket id : String} {call : Call} {w w' : World Backend}

theorem atomic_aborting (c : Caller) (token : UploadToken) :
    Atomic (fun b _ b' => b.abortUpload c.store.bucket token = .ok b')
      (Call.perform c (.abortUpload token)).run :=
  BucketClient.atomic_call (readsQuietly c).classify _ <|
    (BlobStorage.Store.atomic_abortUpload
      (Store.atomic_abortUpload (harmless_guardOf c.plans) token)).answer fun _ _ _ h => h

theorem atomic_completing (c : Caller) (token : UploadToken) (parts : List PartReceipt) :
    Atomic (fun b _ b' => ∃ v, b.completeUpload c.store.bucket token
        (BlobStorage.Store.inOrder parts) = .ok (v, b')) (completing c token parts) :=
  BucketClient.atomic_call (readsQuietly c).classify _ <|
    (atomic_completeUpload (harmless_guardOf c.plans) token parts).map
      fun _ _ _ ⟨_, v, h, _⟩ => ⟨v, h⟩

/-- What concludes an upload finds it there, and removes it. -/
theorem removes_of_concludes (sound : w.remote.Sound) (concludes : Concludes bucket id call) {x : Answer}
    (run : call.run.runFrom w = (.ok x, w')) :
    (∃ u, w.remote.uploadAt bucket id = some u) ∧ w'.remote.uploadAt bucket id = none := by
  cases concludes with
  | @complete c token parts ours known =>
      subst ours
      obtain ⟨v, step⟩ := (atomic_completing c token parts).of_ok run
      obtain ⟨b, own, u, chosen, s', found, _, _, gone⟩ :=
        Backend.stored_of_completeUpload sound.tidy step
      cases known.symm.trans ((Backend.upload_eq_ok_iff ..).mp found).2.1
      exact ⟨⟨u, Backend.uploadAt_of_upload found⟩, gone.here⟩
  | @abort c token ours known =>
      subst ours
      obtain ⟨b, own, u, found, gone⟩ :=
        Backend.uploaded_of_abortUpload sound.tidy ((atomic_aborting c token).of_ok run)
      cases known.symm.trans ((Backend.upload_eq_ok_iff ..).mp found).2.1
      exact ⟨⟨u, Backend.uploadAt_of_upload found⟩, gone.here⟩

theorem unchanged_of_concludes (concludes : Concludes bucket id call) {e : Failure}
    (run : call.run.runFrom w = (.error e, w')) : w'.remote = w.remote := by
  cases concludes with
  | complete parts _ _ => exact (atomic_completing _ _ parts).of_error run
  | abort _ _ => exact (atomic_aborting _ _).of_error run

theorem versions_of_abort {c : Caller} {token : UploadToken} {x : Answer} (tidy : w.remote.Tidy)
    (run : (Call.perform c (.abortUpload token)).run.runFrom w = (.ok x, w')) :
    Backend.SameVersions w.remote w'.remote := by
  obtain ⟨b, own, u, found, gone⟩ :=
    Backend.uploaded_of_abortUpload tidy ((atomic_aborting c token).of_ok run)
  exact gone.versions

/-- A call leaves an upload there, unless it succeeds in completing or aborting it, or removes its
bucket. -/
theorem stays_of_call (sound : w.remote.Sound) (stands : call ≠ .deleteBucket bucket)
    (unended : ∀ x w', Concludes bucket id call → call.run.runFrom w ≠ (.ok x, w')) {u : Upload}
    (there : w.remote.uploadAt bucket id = some u) :
    (call.run.runFrom w).2.remote.Stays bucket id u := by
  by_cases concludes : Concludes bucket id call
  · rcases run : call.run.runFrom w with ⟨e | x, w'⟩
    · rw [unchanged_of_concludes concludes run]
      exact ⟨u, there, rfl⟩
    · exact absurd run (unended x w' concludes)
  · refine (makes_call call w).stays sound (fun _ _ made => (Call.kind_of_makes made).1) ?_ ?_ ?_ there
    · exact fun b made => stands (eq_of_makes_deleteBucket made)
    · intro b token parts known made
      cases call with
      | perform c command =>
          cases made
          exact concludes (.complete _ rfl known)
      | _ => simp_all [Call.Makes]
    · intro b token known made
      cases call with
      | perform c command =>
          cases made
          exact concludes (.abort rfl known)
      | _ => simp_all [Call.Makes]

end Calls

section Run
variable {w : World Backend} (sound : w.remote.Sound) {calls : List Call} {bucket id : String}
include sound

theorem removes_of_ended {i : Nat} (ended : Ended w calls i bucket id) :
    (∃ u, (moment w calls i).uploadAt bucket id = some u) ∧
      (moment w calls (i + 1)).Spent bucket id := by
  obtain ⟨call, x, w', here, concludes, run⟩ := ended
  have sound' : (moment w calls i).Sound := sound_moment sound calls i
  obtain ⟨⟨u, there⟩, gone⟩ := removes_of_concludes sound' concludes run
  have next : moment w calls (i + 1) = w'.remote := by
    rw [moment, after_take_succ w here, run]
  obtain ⟨n, given, named⟩ := sound'.uploads.issued bucket id u there
  refine ⟨⟨u, there⟩, next ▸ gone, n, ?_, named⟩
  exact Nat.lt_of_lt_of_le given (grown_moment sound calls (Nat.le_succ i)).next

theorem spent_of_ended {i j : Nat} (ended : Ended w calls i bucket id) (lt : i < j) :
    (moment w calls j).Spent bucket id :=
  (removes_of_ended sound ended).2.evolves (sound_moment sound calls _) (evolves_moment w calls lt)

theorem not_ended_of_ended {i j : Nat} (ended : Ended w calls i bucket id) (lt : i < j) :
    ¬ Ended w calls j bucket id := by
  intro again
  obtain ⟨u, there⟩ := (removes_of_ended sound again).1
  rw [(spent_of_ended sound ended lt).1] at there
  cases there

theorem once_of_ended {i j : Nat} (first : Ended w calls i bucket id)
    (second : Ended w calls j bucket id) : i = j := by
  rcases Nat.lt_trichotomy i j with lt | eq | gt
  · exact absurd second (not_ended_of_ended sound first lt)
  · exact eq
  · exact absurd first (not_ended_of_ended sound second gt)

theorem closed_of_ended {i j : Nat} {c : Caller} {command : Command} {token : UploadToken}
    (ended : Ended w calls i token.bucket id) (lt : i < j) (names : names? command = some token)
    (known : token.id = .known id) :
    ∃ e w', (Call.perform c command).run.runFrom (after w (calls.take j)) = (.error e, w') ∧
      w'.remote = moment w calls j ∧
      (c.plans = none → validated c command = .ok () → Sendable command →
        e = c.heard token.key (.memory (if (moment w calls j).hasBucket token.bucket then .noUpload id
          else .noBucket token.bucket))) := by
  have gone := (spent_of_ended sound ended lt).1
  have ours (checked : validated c command = .ok ()) : token.bucket = c.store.bucket :=
    (token_of_validated names checked).2.1
  have astray (checked : validated c command = .ok ()) :
      Astray (moment w calls j) c.store.bucket token := by
    intro id' u known' there
    cases known.symm.trans known'
    rw [← ours checked, gone] at there
    cases there
  obtain ⟨e, w', failed, still, _⟩ := failsAlike_of_astray names astray _ rfl
  refine ⟨e, w', failed, still, fun plain checked sendable => ?_⟩
  have exactly := runFrom_of_astray names plain sendable checked
    (w := after w (calls.take j)) (astray checked)
  rw [failed] at exactly
  have told : lost (moment w calls j) c.store.bucket token =
      if (moment w calls j).hasBucket token.bucket then .noUpload id else .noBucket token.bucket := by
    rw [lost, ours checked, known]
    rfl
  rw [← told]
  exact Except.error.inj (congrArg Prod.fst exactly)

theorem lasting_of_live {i j : Nat} {token : UploadToken} (le : i ≤ j)
    (live : Live (moment w calls i) token id) (stands : Stands calls token.bucket i j)
    (unended : Unended w calls token.bucket id i j) : Live (moment w calls j) token id := by
  induction j, le using Nat.le_induction with
  | base => exact live
  | succ j le ih =>
      obtain ⟨known, u, there, keyed⟩ := ih (fun k ge lt => stands k ge (Nat.lt_succ_of_lt lt))
        (fun k ge lt => unended k ge (Nat.lt_succ_of_lt lt))
      cases here : calls[j]? with
      | none =>
          have same : moment w calls (j + 1) = moment w calls j := by
            have short := List.getElem?_eq_none_iff.mp here
            rw [moment, moment, List.take_of_length_le (Nat.le_succ_of_le short),
              List.take_of_length_le short]
          rw [same]
          exact ⟨known, u, there, keyed⟩
      | some call =>
          have stays := stays_of_call (w := after w (calls.take j)) (sound_moment sound calls j)
            (fun is => stands j le (Nat.lt_succ_self j) (is ▸ here))
            (fun x w' concludes run =>
              unended j le (Nat.lt_succ_self j) ⟨call, x, w', here, concludes, run⟩)
            there
          obtain ⟨u', still, same⟩ := stays
          rw [← after_take_succ w here] at still
          exact ⟨known, u', still, same.trans keyed⟩

end Run

section Forgery
variable {w : World Backend} (sound : w.remote.Sound)
  (empty : ∀ bucket id, w.remote.uploadAt bucket id = none) {calls : List Call} {c : Caller}
  {command : Command} {token : UploadToken}
include sound empty

theorem astray_of_forged (forged : Forged w calls c token) (names : names? command = some token)
    (checked : validated c command = .ok ()) :
    Astray (after w calls).remote c.store.bucket token := by
  rcases forged with foreign | nameless | ⟨id, request, known, opened, other⟩
  · exact absurd (token_of_validated names checked).2.1 foreign
  · rw [(token_of_validated names checked).1] at nameless
    cases nameless
  · intro id' u known' there
    cases known.symm.trans known'
    obtain ⟨r, told, keyed, _⟩ := (told_of_run sound empty there).opened
    cases opened.symm.trans told
    exact keyed ▸ other

end Forgery

theorem lifecycle_of_run (signingKey : Content) (now : Moment) (files : FileTree)
    (interceptions : List Interception) (calls : List Call) :
    LifecycleLaws { remote := Backend.fresh signingKey now, files, interceptions } calls := by
  have sound := Backend.sound_fresh signingKey now
  have empty (bucket id : String) : (Backend.fresh signingKey now).uploadAt bucket id = none := rfl
  refine ⟨?_, ?_, ?_, ?_, ?_, ?_, ?_⟩
  · intro i j bucket id first second
    exact once_of_ended sound first second
  · intro i j c command token id ended lt names known
    exact closed_of_ended sound ended lt names known
  · intro i c token x w' run
    exact versions_of_abort (sound_after sound _).tidy run
  · intro i c token parts e w' run
    exact (atomic_completing c token parts).of_error run
  · intro i j token id le live stands unended
    exact lasting_of_live sound le live stands unended
  · intro i c token id parts live plain
    exact completes_of_live sound empty (calls.take i) live plain
  · intro i c command token forged names
    have astray := astray_of_forged sound empty forged names
    obtain ⟨e, w', failed, still, alike⟩ := failsAlike_of_astray names astray _ rfl
    exact ⟨e, w', failed, still, congrArg Prod.fst alike⟩

section Removed

def plainCaller : Caller :=
  { store := { config := { provider := "memory" }, bucket := "b" }, categorizes := false }

def abortedToken : UploadToken := { bucket := "b", key := "k", id := .known "mpu-1" }

def removingRun : List Call :=
  [.build "b" none, .perform plainCaller (.initiateUpload { key := "k" }),
    .perform plainCaller (.abortUpload abortedToken), .deleteBucket "b"]

def endlessPart : Part :=
  { number := 1, source := .stream [], contentLength := some (2 ^ 63) }

/-- Not every operation on the upload is told then that there is no such upload: one that sends a part
that can not be read is told that, and once the bucket is removed it is the bucket that is missing. -/
theorem other_failures_after_abort :
    Ended { remote := Backend.fresh [] ⟨0, none⟩ } removingRun 2 "b" "mpu-1" ∧
      (validated plainCaller (.uploadPart abortedToken endlessPart) = .ok () ∧
        ((Call.perform plainCaller (.uploadPart abortedToken endlessPart)).run.runFrom
          (after { remote := Backend.fresh [] ⟨0, none⟩ } (removingRun.take 3))).1 =
            .error (.ambient .indexRange)) ∧
      validated plainCaller (.listParts abortedToken) = .ok () ∧
      ((Call.perform plainCaller (.listParts abortedToken)).run.runFrom
        (after { remote := Backend.fresh [] ⟨0, none⟩ } removingRun)).1 =
          .error (.memory (.noBucket "b")) :=
  ⟨⟨_, .done, _, rfl, .abort rfl rfl, rfl⟩, ⟨rfl, rfl⟩, rfl, rfl⟩

end Removed

end BlobStorage.Memory
