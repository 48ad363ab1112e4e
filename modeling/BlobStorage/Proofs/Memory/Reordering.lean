import BlobStorage.Proofs.Memory.Completion

/-!
Sending parts in another order. Each send is let through or refused for what it is, whatever was sent
before, and puts its bytes under its own number. So the order of sends matters for none but those of
one number, and a completion can not tell the orders apart.
-/
namespace BlobStorage.Memory

/-- One part, and who sends it for which upload. -/
structure Send where
  caller : Caller
  token : UploadToken
  part : Part

namespace Send

def call (s : Send) : Call := .perform s.caller (.uploadPart s.token s.part)

def bytes? (s : Send) : Option Content :=
  match Check.uploadToken s.token s.caller.adapter.bucket,
      Check.part s.part s.caller.adapter.partLimit with
  | .ok _, .ok _ => s.part.data.toOption
  | _, _ => none

def onto (u : Upload) (s : Send) : Upload :=
  match s.bytes? with
  | some data => u.put s.part.number data
  | none => u

/-- The send is for the upload, and no failure is planned for it. -/
structure To (s : Send) (bucket key id : String) : Prop where
  plain : s.caller.plans = none
  ours : s.caller.store.bucket = bucket
  keyed : s.token.key = key
  known : s.token.id = .known id

end Send

section Onto
variable {u u' : Upload}

theorem key_onto (u : Upload) (s : Send) : (s.onto u).key = u.key := by
  unfold Send.onto
  split <;> rfl

theorem get?_onto {n : Int} (same : u.parts.get? n = u'.parts.get? n) (s : Send) :
    (s.onto u).parts.get? n = (s.onto u').parts.get? n := by
  unfold Send.onto
  cases s.bytes? with
  | none => exact same
  | some data => simp only [Upload.put, Table.get?_set, same]

theorem get?_onto_of_ne {n : Int} (u : Upload) {s : Send} (other : s.part.number ≠ n) :
    (s.onto u).parts.get? n = u.parts.get? n := by
  unfold Send.onto
  cases s.bytes? with
  | none => rfl
  | some data => exact Table.get?_set_ne _ _ other

/-- What is kept under a number is what the sends of this number leave there. -/
theorem get?_foldl_onto {n : Int} (sends : List Send)
    (same : u.parts.get? n = u'.parts.get? n) :
    (sends.foldl Send.onto u).parts.get? n =
      ((sends.filter (·.part.number = n)).foldl Send.onto u').parts.get? n := by
  induction sends generalizing u u' with
  | nil => exact same
  | cons s rest ih =>
      by_cases here : s.part.number = n
      · rw [List.filter_cons_of_pos (by simpa using here)]
        exact ih (get?_onto same s)
      · rw [List.filter_cons_of_neg (by simpa using here)]
        exact ih ((get?_onto_of_ne u here).trans same)

/-- The upload but for its parts. -/
def Upload.bare (u : Upload) : Upload := { u with parts := [] }

theorem bare_foldl_onto (u : Upload) (sends : List Send) :
    (sends.foldl Send.onto u).bare = u.bare := by
  induction sends generalizing u with
  | nil => rfl
  | cons s rest ih =>
      refine (ih _).trans ?_
      unfold Send.onto
      split <;> rfl

end Onto

section Holding
variable {s : Backend} {bucket id : String} {b : Bucket} {u : Upload} {token : UploadToken}

def holding (s : Backend) (b : Bucket) (id : String) (u : Upload) : Backend :=
  s.setBucket { b with uploads := b.uploads.set id u }

theorem holding_self (tidy : s.Tidy) (found : s.upload bucket token = .ok (b, id, u)) :
    holding s b id u = s := by
  obtain ⟨here, _, there, _⟩ := (Backend.upload_eq_ok_iff ..).mp found
  obtain rfl := tidy.named bucket b here
  unfold holding Backend.setBucket
  rw [Table.set_get? there, Table.set_get? here]

theorem upload_holding (tidy : s.Tidy) (found : s.upload bucket token = .ok (b, id, u))
    {u' : Upload} {token' : UploadToken} (known : token'.id = .known id) (keyed : u'.key = token'.key) :
    (holding s b id u').upload bucket token' =
      .ok ({ b with uploads := b.uploads.set id u' }, id, u') := by
  have here := ((Backend.upload_eq_ok_iff ..).mp found).1
  refine (Backend.upload_eq_ok_iff ..).mpr ⟨?_, known, Table.get?_set_self .., keyed⟩
  unfold holding
  rw [Backend.get?_setBucket, if_pos (tidy.named bucket b here)]

theorem holding_holding (u' u'' : Upload) :
    holding (holding s b id u') { b with uploads := b.uploads.set id u' } id u'' =
      holding s b id u'' := by
  simp only [holding, Backend.setBucket, Table.set_set]

theorem setVersions_withUploads (b : Bucket) (uploads : Table String Upload) (key : String)
    (vs : List Version) :
    ({ b with uploads }).setVersions key vs = { b.setVersions key vs with uploads } := by
  unfold Bucket.setVersions
  split <;> rfl

theorem finished_holding {u' : Upload} (same : u'.bare = u.bare)
    (chosen : List (Content × String)) :
    finished (holding s b id u') { b with uploads := b.uploads.set id u' } id u' chosen =
      finished s b id u chosen := by
  cases u with
  | mk key metadata tags contentType parts =>
  cases u' with
  | mk key' metadata' tags' contentType' parts' =>
      simp only [Upload.bare, Upload.mk.injEq, and_true] at same
      obtain ⟨rfl, rfl, rfl, rfl⟩ := same
      refine Prod.ext rfl ?_
      simp only [finished, holding, Backend.setBucket, setVersions_withUploads, Table.erase_set,
        Table.set_set, Bucket.setVersions_name]
      rfl

end Holding

section Sending
variable {bucket key id : String} {b : Bucket} {u : Upload}

section Spared
variable {c : Caller} {token : UploadToken} {part : Part} {w : World Backend}
  (spared : c.Spared .uploadPart w)
include spared

theorem runFrom_uploadPart_unread {e : Ambient} (read : part.data = .error e) :
    (c.adapter.uploadPart token part).runFrom w = (.error (.ambient e), w) := by
  refine (Action.runFrom_bind_ok (runFrom_guardOf spared _) _).trans (Action.runFrom_bind_error ?_ _)
  rw [read]
  rfl

theorem runFrom_uploadPart_read {data : Content} {t : Backend} (read : part.data = .ok data)
    (step : w.remote.putPart c.store.bucket token part.number data = .ok t) :
    (c.adapter.uploadPart token part).runFrom w =
      (.ok ⟨part.number, .known (etagOf data), Int.ofNat data.length⟩, { w with remote := t }) := by
  have updated : (Store.update fun b => b.putPart c.store.bucket token part.number data).runFrom w =
      (.ok (), { w with remote := t }) := Store.runFrom_update_ok step
  refine (Action.runFrom_bind_ok (runFrom_guardOf spared _) _).trans ?_
  refine (Action.runFrom_bind_ok (x := data) (t := w) ?_ _).trans ?_
  · rw [read]
    rfl
  · exact Action.runFrom_bind_ok updated _

end Spared

theorem remote_of_send {s : Send} (own : s.To bucket key id) {w : World Backend}
    (tidy : w.remote.Tidy) (found : w.remote.upload bucket s.token = .ok (b, id, u)) :
    (s.call.run.runFrom w).2.remote = holding w.remote b id (s.onto u) := by
  have whole := BlobStorage.Store.runFrom_uploadPart (a := s.caller.adapter) s.token s.part w
  have kept {e : Failure}
      (run : (BlobStorage.Store.uploadPart s.caller.adapter s.token s.part).runFrom w =
        (.error e, w)) (nothing : s.bytes? = none) :
      (s.call.run.runFrom w).2.remote = holding w.remote b id (s.onto u) := by
    have inner : (Command.run s.caller.adapter s.caller.style (.uploadPart s.token s.part)).runFrom w =
        (.error e, w) := by
      change (Answer.part <$> BlobStorage.Store.uploadPart s.caller.adapter _ _).runFrom w = _
      rw [Action.runFrom_map, run]
      rfl
    have outer : s.call.run.runFrom w = (.error (s.caller.heard _ e), w) :=
      call_of_error own.plain inner
    rw [outer, Send.onto, nothing]
    exact (holding_self tidy found).symm
  cases token : Check.uploadToken s.token s.caller.adapter.bucket with
  | error e =>
      rw [token] at whole
      exact kept whole (by simp [Send.bytes?, token])
  | ok _ =>
      cases part : Check.part s.part s.caller.adapter.partLimit with
      | error e =>
          rw [token, part] at whole
          exact kept whole (by simp [Send.bytes?, token, part])
      | ok _ =>
          rw [token, part] at whole
          cases read : s.part.data with
          | error e =>
              exact kept (whole.trans (runFrom_uploadPart_unread (spared_of_plain own.plain _ w) read))
                (by simp [Send.bytes?, token, part, read, Except.toOption])
          | ok data =>
              have put : w.remote.putPart s.caller.store.bucket s.token s.part.number data =
                  .ok (holding w.remote b id (u.put s.part.number data)) :=
                (Backend.putPart_eq_ok_iff ..).mpr ⟨b, id, u, own.ours ▸ found, rfl⟩
              have inner :=
                whole.trans (runFrom_uploadPart_read (spared_of_plain own.plain _ w) read put)
              have answered :
                  (Command.run s.caller.adapter s.caller.style (.uploadPart s.token s.part)).runFrom
                    w = (.ok (.part ⟨s.part.number, .known (etagOf data), Int.ofNat data.length⟩),
                      { w with remote := holding w.remote b id (u.put s.part.number data) }) := by
                change (Answer.part <$> BlobStorage.Store.uploadPart s.caller.adapter _ _).runFrom w =
                  _
                rw [Action.runFrom_map, inner]
                rfl
              have outer : s.call.run.runFrom w = _ :=
                (BucketClient.runFrom_call_ok_iff ..).mpr answered
              rw [outer]
              simp [Send.onto, Send.bytes?, token, part, read, Except.toOption]

theorem tidy_holding {s : Backend} (tidy : s.Tidy) {token : UploadToken}
    (found : s.upload bucket token = .ok (b, id, u)) (u' : Upload) : (holding s b id u').Tidy := by
  have here := ((Backend.upload_eq_ok_iff ..).mp found).1
  exact (Backend.uploaded_set tidy here id u').tidy

theorem remote_of_sends {sends : List Send} (own : ∀ s ∈ sends, s.To bucket key id)
    {w : World Backend} (tidy : w.remote.Tidy) {token : UploadToken}
    (found : w.remote.upload bucket token = .ok (b, id, u)) (keyed : token.key = key) :
    (after w (sends.map Send.call)).remote = holding w.remote b id (sends.foldl Send.onto u) := by
  induction sends generalizing w b u with
  | nil => exact (holding_self tidy found).symm
  | cons s rest ih =>
      obtain ⟨first, others⟩ := List.forall_mem_cons.mp own
      obtain ⟨here, known, there, named⟩ := (Backend.upload_eq_ok_iff ..).mp found
      have seen : w.remote.upload bucket s.token = .ok (b, id, u) :=
        (Backend.upload_eq_ok_iff ..).mpr ⟨here, first.known, there,
          named.trans (keyed.trans first.keyed.symm)⟩
      have once := remote_of_send first tidy seen
      have still : (s.call.run.runFrom w).2.remote.upload bucket token =
          .ok ({ b with uploads := b.uploads.set id (s.onto u) }, id, s.onto u) := by
        rw [once]
        exact upload_holding tidy found known ((key_onto u s).trans named)
      refine (ih others (once ▸ tidy_holding tidy found _) still).trans ?_
      rw [once]
      exact holding_holding ..

end Sending

/-- Two runs of one operation come to the same: the same answer or failure, and after an answer the
same backend. -/
def SameOutcome (first second : Except Failure Answer × World Backend) : Prop :=
  first.1 = second.1 ∧ ∀ x, first.1 = .ok x → first.2.remote = second.2.remote

section Completing
variable {c : Caller} {token : UploadToken} {parts : List PartReceipt}

/-- The outcome of a completion depends on nothing but what the completion does to the backend. -/
theorem completing_congr (plain : c.plans = none) {w w' : World Backend}
    (same : w.remote.completeUpload c.store.bucket token (BlobStorage.Store.inOrder parts) =
      w'.remote.completeUpload c.store.bucket token (BlobStorage.Store.inOrder parts)) :
    SameOutcome ((completing c token parts).runFrom w) ((completing c token parts).runFrom w') := by
  have whole (w : World Backend) := BlobStorage.Store.runFrom_completeUpload
    (a := c.adapter) token parts w
  have failed {f : Failure}
      (own : ∀ v, v = w ∨ v = w' →
        (BlobStorage.Store.completeUpload c.adapter token parts).runFrom v = (.error f, v)) :
      SameOutcome ((completing c token parts).runFrom w)
        ((completing c token parts).runFrom w') := by
    rw [completing_error plain (own w (.inl rfl)), completing_error plain (own w' (.inr rfl))]
    exact ⟨rfl, fun x ok => nomatch ok⟩
  cases ours : Check.uploadToken token c.adapter.bucket with
  | error e => exact failed fun v _ => by rw [whole, ours]
  | ok _ =>
      cases accepted : Check.parts parts with
      | error e => exact failed fun v _ => by rw [whole, ours, accepted]
      | ok _ =>
          have stepped (v : World Backend) := runFrom_completeUpload_of_spared token
            (BlobStorage.Store.inOrder parts) (spared_of_plain plain .completeUpload v)
          simp only [ours, accepted, stepped] at whole
          cases step : w.remote.completeUpload c.store.bucket token
              (BlobStorage.Store.inOrder parts) with
          | error fault =>
              refine failed (f := .memory fault) ?_
              rintro v (rfl | rfl)
              · rw [whole, step]
              · rw [whole, ← same, step]
          | ok done =>
              obtain ⟨v, b⟩ := done
              have first := whole w
              have second := whole w'
              rw [step] at first
              rw [← same, step] at second
              rw [completing_ok first, completing_ok second]
              exact ⟨rfl, fun _ _ => rfl⟩

theorem completeUpload_holding {s : Backend} (tidy : s.Tidy) {bucket id : String} {b : Bucket}
    {u u' : Upload} (found : s.upload bucket token = .ok (b, id, u)) (same : u'.bare = u.bare)
    (sorted : Backend.ascending (parts.map (·.number)) = true) :
    (holding s b id u').completeUpload bucket token parts =
      (Backend.chosenParts u' parts).map (finished s b id u) := by
  obtain ⟨_, known, _, keyed⟩ := (Backend.upload_eq_ok_iff ..).mp found
  have key : u'.key = u.key := congrArg (·.key) same
  have finished_same : finished (holding s b id u') _ id u' = finished s b id u :=
    funext (finished_holding same)
  rw [completeUpload_eq (tidy_holding tidy found u') (upload_holding tidy found known
    (key.trans keyed)) sorted, finished_same]

/-- Where the sends of each number come in the same order, a completion has the same outcome. -/
theorem completing_reordered (plain : c.plans = none) {id : String} {w : World Backend}
    (tidy : w.remote.Tidy) {b : Bucket} {u : Upload}
    (found : w.remote.upload c.store.bucket token = .ok (b, id, u)) {sends sends' : List Send}
    (own : ∀ s ∈ sends, s.To c.store.bucket token.key id)
    (own' : ∀ s ∈ sends', s.To c.store.bucket token.key id)
    (same : ∀ n, sends.filter (·.part.number = n) = sends'.filter (·.part.number = n)) :
    SameOutcome ((completing c token parts).runFrom (after w (sends.map Send.call)))
      ((completing c token parts).runFrom (after w (sends'.map Send.call))) := by
  apply completing_congr plain
  rw [remote_of_sends own tidy found rfl, remote_of_sends own' tidy found rfl,
    completeUpload_holding tidy found (bare_foldl_onto u sends) (ascending_inOrder parts),
    completeUpload_holding tidy found (bare_foldl_onto u sends') (ascending_inOrder parts)]
  refine congrArg (Except.map _) (chosenParts_congr (fun n => ?_) _)
  rw [get?_foldl_onto sends rfl, get?_foldl_onto sends' rfl, same n]

end Completing

end BlobStorage.Memory
