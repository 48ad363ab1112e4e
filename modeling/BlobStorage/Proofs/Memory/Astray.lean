import BlobStorage.Proofs.Blind
import BlobStorage.Proofs.Memory.Assembly

/-!
Operations on an upload in parts that is not there. Before the upload is looked for, an operation checks
its token and what it brings along and reads the part that it is to send; all this has nothing to do with
any upload. If none fits the token, the operation fails there, as it would if there were no uploads at
all, and leaves everything as it was.
-/
namespace BlobStorage.Memory

def Backend.emptied (s : Backend) : Backend :=
  { s with buckets := s.buckets.map fun (name, b) => (name, { b with uploads := [] }) }

def names? : Command → Option UploadToken
  | .uploadPart token _ | .completeUpload token _ | .listParts token | .abortUpload token =>
      some token
  | _ => none

def validated (c : Caller) : Command → Check
  | .uploadPart token part => do
      Check.uploadToken token c.adapter.bucket
      Check.part part c.adapter.partLimit
  | .completeUpload token parts => do
      Check.uploadToken token c.adapter.bucket
      Check.parts parts
  | .listParts token | .abortUpload token => Check.uploadToken token c.adapter.bucket
  | _ => .ok ()

/-- The bytes that an operation is to send can be read: always, if they are at hand. -/
def Sendable : Command → Prop
  | .uploadPart _ part => ∃ data, part.data = .ok data
  | _ => True

/-- What is left of an operation on an upload in parts once it has passed its checks. -/
def beyond (c : Caller) : Command → Op Backend Answer
  | .uploadPart token part => .part <$> c.adapter.uploadPart token part
  | .completeUpload token parts =>
      .completed <$> c.adapter.completeUpload token (BlobStorage.Store.inOrder parts)
  | .listParts token => .parts <$> do
      let parts ← c.adapter.listParts token
      Action.ofAmbient (BlobStorage.Store.listedInOrder parts)
  | .abortUpload token => do
      c.adapter.abortUpload token
      return .done
  | _ => pure .done

section Missing
variable {s t : Backend} {bucket : String} {token : UploadToken} {f : Fault}

theorem get?_emptied (s : Backend) (name : String) :
    s.emptied.buckets.get? name =
      (s.buckets.get? name).map fun b => { b with uploads := [] } := by
  unfold Backend.emptied
  induction s.buckets with
  | nil => rfl
  | cons entry rest ih =>
      rw [List.map_cons, Table.get?_cons, Table.get?_cons]
      split
      · rfl
      · exact ih

/-- No upload of the bucket fits the token. -/
def Astray (s : Backend) (bucket : String) (token : UploadToken) : Prop :=
  ∀ id u, token.id = .known id → s.uploadAt bucket id = some u → u.key ≠ token.key

/-- What a backend answers where no upload fits a token. -/
def lost (s : Backend) (bucket : String) (token : UploadToken) : Fault :=
  if s.hasBucket bucket then .noUpload token.id.value.shown else .noBucket bucket

theorem upload_of_astray (astray : Astray s bucket token) :
    s.upload bucket token = .error (lost s bucket token) := by
  unfold Backend.upload Backend.bucket lost Backend.hasBucket Table.contains
  cases here : s.buckets.get? bucket with
  | none => rfl
  | some b =>
      have missing : b.upload token = .error (.noUpload token.id.value.shown) := by
        unfold Bucket.upload
        cases known : token.id with
        | other v => rfl
        | known id =>
            dsimp only
            cases there : b.uploads.get? id with
            | none => rfl
            | some u =>
                have at_ : s.uploadAt bucket id = some u := by
                  rw [Backend.uploadAt_of_get? here]
                  exact there
                exact if_neg (astray id u known at_)
      change (b.upload token >>= fun found => Except.ok (b, found)) = _
      rw [missing]
      rfl

theorem lost_emptied : lost s.emptied bucket token = lost s bucket token := by
  unfold lost Backend.hasBucket Table.contains
  rw [get?_emptied, Option.isSome_map]

theorem astray_emptied : Astray s.emptied bucket token := by
  intro id u _ there
  unfold Backend.uploadAt at there
  rw [get?_emptied] at there
  cases here : s.buckets.get? bucket with
  | none =>
      rw [here] at there
      cases there
  | some b =>
      rw [here] at there
      cases there

end Missing

section Blindness
variable {s t : Backend} {f : Fault}

theorem blind_guardOf (plans : Option Nat) (p : Primitive) (key : Option String) :
    Blind s t (guardOf plans p key) := by
  cases plans with
  | none => exact .pure ()
  | some store => exact blind_guard store p key

theorem failsAlike_update {step : Backend → Except Fault Backend} (first : step s = .error f)
    (second : step t = .error f) : FailsAlike s t (Store.update step) := by
  unfold Store.update Store.change
  refine FailsAlike.attempt (e := f) ?_ ?_
  · rw [first]
    rfl
  · rw [second]
    rfl

end Blindness

section Operations
variable {c : Caller} {command : Command} {token : UploadToken}
  (names : names? command = some token)
include names

/-- The checks come first, and nothing else does before the adapter is asked. -/
theorem run_eq_validated : command.run c.adapter c.style =
    BlobStorage.Store.check (validated c command) >>= fun _ => beyond c command := by
  have check_bind (first second : Check) :
      (BlobStorage.Store.check (first >>= fun _ => second) : Op Backend Unit) =
        BlobStorage.Store.check first >>= fun _ => BlobStorage.Store.check second := by
    funext w
    cases first <;> rfl
  cases command with
  | uploadPart own part =>
      simp only [Command.run, BlobStorage.Store.uploadPart, validated, beyond, check_bind, map_bind,
        bind_assoc]
  | completeUpload own parts =>
      simp only [Command.run, BlobStorage.Store.completeUpload, validated, beyond, check_bind,
        map_bind, bind_assoc]
  | listParts own =>
      simp only [Command.run, BlobStorage.Store.listParts, validated, beyond, map_bind]
  | abortUpload own =>
      simp only [Command.run, BlobStorage.Store.abortUpload, validated, beyond, bind_assoc]
  | _ => cases names

theorem token_of_validated (checked : validated c command = .ok ()) :
    token.id.isGiven = true ∧ token.bucket = c.store.bucket ∧ token.key ≠ "" := by
  have ours : Check.uploadToken token c.adapter.bucket = .ok () := by
    cases command <;> cases names
    case uploadPart | completeUpload => exact (bind_eq_ok_iff.mp checked).choose_spec.1
    case listParts | abortUpload => exact checked
  exact (Check.uploadToken_eq_ok_iff ..).mp ours

section Alike
variable {s t : Backend} {f : Fault}

theorem failsAlike_beyond (first : s.upload c.store.bucket token = .error f)
    (second : t.upload c.store.bucket token = .error f) : FailsAlike s t (beyond c command) := by
  have guarded {α : Type} {a : Op Backend α} (p : Primitive) (key : Option String)
      (h : FailsAlike s t a) : FailsAlike s t (do guardOf c.plans p key; a) :=
    .after (blind_guardOf c.plans p key) fun _ => h
  have failed {α : Type} (rest : Bucket × String × Upload → Except Fault α) :
      (s.upload c.store.bucket token >>= rest) = .error f ∧
        (t.upload c.store.bucket token >>= rest) = .error f := by
    rw [first, second]
    exact ⟨rfl, rfl⟩
  cases command with
  | uploadPart own part =>
      cases names
      refine FailsAlike.map (guarded _ _ (.after (.ofExcept _) fun data => ?_)) _
      exact (failsAlike_update (failed _).1 (failed _).2).bind _
  | completeUpload own parts =>
      cases names
      refine FailsAlike.map (guarded _ _ (FailsAlike.bind ?_ _)) _
      exact .attempt (failed _).1 (failed _).2
  | listParts own =>
      cases names
      refine FailsAlike.map (FailsAlike.bind (guarded _ _ ?_) _) _
      exact .observe (failed _).1 (failed _).2
  | abortUpload own =>
      cases names
      exact (guarded _ _ (failsAlike_update (failed _).1 (failed _).2)).bind _
  | _ => cases names

theorem failsAlike_of_missing
    (missing : validated c command = .ok () → s.upload c.store.bucket token = .error f ∧
      t.upload c.store.bucket token = .error f) :
    FailsAlike s t (Call.perform c command).run := by
  refine FailsAlike.call (fun _ => (blind_guardOf c.plans _ _).bind fun _ => .pure _) _ ?_
  change FailsAlike s t (command.run c.adapter c.style)
  rw [run_eq_validated names]
  cases checked : validated c command with
  | error e => exact fun w here => ⟨e, w, rfl, here, rfl⟩
  | ok _ =>
      obtain ⟨first, second⟩ := missing checked
      exact .after (.pure ()) fun _ => failsAlike_beyond names first second

/-- An operation whose token fits no upload fails, and leaves all as it was; it fails as if there were
no uploads at all. -/
theorem failsAlike_of_astray (astray : validated c command = .ok () → Astray s c.store.bucket token) :
    FailsAlike s s.emptied (Call.perform c command).run := by
  refine failsAlike_of_missing (f := lost s c.store.bucket token) names fun checked => ⟨?_, ?_⟩
  · exact upload_of_astray (astray checked)
  · rw [upload_of_astray astray_emptied, lost_emptied]

end Alike

/-- Where no failure is planned, what has passed its checks fails because there is no such upload,
unless the part to send can not be read. -/
theorem runFrom_beyond_of_astray (plain : c.plans = none) (sendable : Sendable command)
    {w : World Backend} (astray : Astray w.remote c.store.bucket token) :
    (beyond c command).runFrom w =
      (.error (.memory (lost w.remote c.store.bucket token)), w) := by
  have guarded {α : Type} (p : Primitive) (key : Option String) (f : Unit → Op Backend α) :
      (guardOf c.plans p key >>= f).runFrom w = (f ()).runFrom w :=
    Action.runFrom_bind_ok (runFrom_guardOf (spared_of_plain plain p w) key) f
  have failed {α : Type} (rest : Bucket × String × Upload → Except Fault α) :
      (w.remote.upload c.store.bucket token >>= rest) =
        .error (lost w.remote c.store.bucket token) := by
    rw [upload_of_astray astray]
    rfl
  cases command with
  | uploadPart own part =>
      cases names
      obtain ⟨data, read⟩ := sendable
      have sent : (c.adapter.uploadPart token part).runFrom w =
          (.error (.memory (lost w.remote c.store.bucket token)), w) := by
        refine (guarded _ _ _).trans ((Action.runFrom_ambient_bind_ok read _ w).trans ?_)
        exact Action.runFrom_bind_error (Store.runFrom_update_error (failed _)) _
      rw [beyond, Action.runFrom_map, sent]
      rfl
  | completeUpload own parts =>
      cases names
      have completed : (c.adapter.completeUpload token (BlobStorage.Store.inOrder parts)).runFrom w =
          (.error (.memory (lost w.remote c.store.bucket token)), w) :=
        (guarded _ _ _).trans (Action.runFrom_bind_error (Store.runFrom_change_error (failed _)) _)
      rw [beyond, Action.runFrom_map, completed]
      rfl
  | listParts own =>
      cases names
      have listed : (c.adapter.listParts token).runFrom w =
          (.error (.memory (lost w.remote c.store.bucket token)), w) := by
        refine (guarded _ _ _).trans ((Store.runFrom_see _ w).trans ?_)
        rw [show w.remote.listParts c.store.bucket token = _ from failed _]
        rfl
      rw [beyond, Action.runFrom_map, Action.runFrom_bind_error listed]
      rfl
  | abortUpload own =>
      cases names
      exact Action.runFrom_bind_error
        ((guarded _ _ _).trans (Store.runFrom_update_error (failed _))) _
  | _ => cases names

theorem runFrom_of_astray (plain : c.plans = none) (sendable : Sendable command)
    (checked : validated c command = .ok ()) {w : World Backend}
    (astray : Astray w.remote c.store.bucket token) :
    (Call.perform c command).run.runFrom w =
      (.error (c.heard token.key (.memory (lost w.remote c.store.bucket token))), w) := by
  have own : (command.run c.adapter c.style).runFrom w =
      (.error (.memory (lost w.remote c.store.bucket token)), w) := by
    rw [run_eq_validated names, BlobStorage.Store.runFrom_check_bind_ok checked]
    exact runFrom_beyond_of_astray names plain sendable astray
  have subject : command.subject = some token.key := by
    cases command <;> cases names <;> rfl
  exact (call_of_error plain own).trans (by rw [subject])

end Operations

end BlobStorage.Memory
