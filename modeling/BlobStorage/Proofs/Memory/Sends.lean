import BlobStorage.Proofs.Memory.Parts
import BlobStorage.Proofs.Memory.Run
import Mathlib.Data.List.Induction

/-!
The history of an upload in parts. What an upload keeps under a part number is what the last successful
call that sent this part has sent, and its key and attributes are those of the call that opened it,
whatever else was called in between.
-/
namespace BlobStorage.Memory

/-- The last of what the calls of a run, as far as they succeed, have to tell. -/
def lastOf {β : Type} (tell : Call → Answer → Option β) : World Backend → List Call → Option β
  | _, [] => none
  | w, call :: rest =>
      match call.run.runFrom w with
      | (.ok x, w') => lastOf tell w' rest <|> tell call x
      | (.error _, w') => lastOf tell w' rest

/-- The bytes that a call has sent as a certain part of an upload. -/
def sentPart (bucket id : String) (number : Int) : Call → Answer → Option Content
  | .perform c (.uploadPart token part), _ =>
      if c.store.bucket = bucket ∧ token.id.known? = some id ∧ part.number = number then
        part.data.toOption
      else none
  | _, _ => none

/-- The request with which a call has opened an upload. -/
def openedWith (bucket id : String) : Call → Answer → Option MultipartRequest
  | .perform c (.initiateUpload request), .token token =>
      if c.store.bucket = bucket ∧ token.id.known? = some id then some request else none
  | _, _ => none

theorem lastOf_concat {β : Type} (tell : Call → Answer → Option β) (w : World Backend)
    (calls : List Call) (call : Call) :
    lastOf tell w (calls ++ [call]) =
      match call.run.runFrom (after w calls) with
      | (.ok x, _) => tell call x <|> lastOf tell w calls
      | (.error _, _) => lastOf tell w calls := by
  induction calls generalizing w with
  | nil =>
      simp only [List.nil_append, lastOf, after, List.foldl_nil]
      rcases call.run.runFrom w with ⟨e | x, w'⟩ <;> simp
  | cons first rest ih =>
      simp only [List.cons_append, lastOf]
      have later : after w (first :: rest) = after (first.run.runFrom w).2 rest := rfl
      rw [later]
      rcases first.run.runFrom w with ⟨e | x, w'⟩
      · exact ih w'
      · simp only [ih w']
        rcases call.run.runFrom (after w' rest) with ⟨f | y, w''⟩
        · rfl
        · simp only [Option.orElse_eq_orElse, Option.orElse_eq_or, Option.or_assoc]

section Uploads
variable {s t : Backend} {bucket id : String} {u : Upload}

/-- Where no change opens an upload or puts a part, an upload that is there was there before. -/
theorem uploadAt_of_evolves (sound : s.Sound)
    (h : Backend.Evolves (fun c => c.Checked ∧ c.role ≠ .opening ∧ c.role ≠ .putting) s t)
    (hu : t.uploadAt bucket id = some u) : s.uploadAt bucket id = some u := by
  induction h with
  | refl => exact hu
  | tail chain made ih =>
      obtain ⟨c, ⟨_, notOpening, notPutting⟩, made⟩ := made
      have tidy := (sound.evolves (Backend.Evolves.mono (fun _ h => h.1) chain)).tidy
      rcases Backend.uploadAt_of_apply tidy made hu with old | ⟨r, rfl, _⟩ | ⟨_, _, _, _, rfl, _⟩
      · exact ih old
      · exact absurd rfl notOpening
      · exact absurd rfl notPutting

theorem atomic_sendPart (c : Caller) (token : UploadToken) (part : Part) :
    Atomic (fun b _ b' => ∃ data, part.data = .ok data ∧
        b.putPart c.store.bucket token part.number data = .ok b')
      (Call.perform c (.uploadPart token part)).run := by
  refine BucketClient.atomic_call (readsQuietly c).classify _ ?_
  refine (atomic_uploadPart (harmless_guardOf c.plans) token part).map ?_
  intro b x b' ⟨_, data, read, put, _⟩
  exact ⟨data, read, put⟩

/-- Opening an upload gives a token for it, or opens none. -/
theorem initiate_spec (c : Caller) (request : MultipartRequest) (w : World Backend) :
    match (Call.perform c (.initiateUpload request)).run.runFrom w with
    | (.ok x, w') => ∃ token, x = .token token ∧
        (Change.openUpload c.store.bucket request).apply w.remote = .ok w'.remote ∧
        token.bucket = c.store.bucket ∧ token.key = request.key ∧
        token.id = .known (Upload.idOf w.remote.nextNumber)
    | (.error _, w') => Backend.SameUploads w.remote w'.remote := by
  have spec := Store.initiateUpload_spec (s := c.store) (harmless_guardOf c.plans) request w
  have opens := BlobStorage.Store.initiateUpload_cases (a := c.adapter) request w
  rcases run : (Call.perform c (.initiateUpload request)).run.runFrom w with ⟨e | x, w'⟩
  · obtain ⟨f, w₁, own, same⟩ := BucketClient.of_call_error (readsQuietly c).classify run
    have own := Action.error_of_map_error own
    dsimp only
    rw [same]
    rcases opens with ⟨e, refused⟩ | opened
    · cases refused.symm.trans own
      exact fun _ _ => rfl
    · rw [show (Store.initiateUpload c.store (guardOf c.plans) request).runFrom w =
        (.error f, w₁) from opened.symm.trans own] at spec
      cases spec with
      | inl unchanged => exact unchanged ▸ fun _ _ => rfl
      | inr numbered => exact numbered ▸ fun _ _ => rfl
  · obtain ⟨token, own, rfl⟩ := Action.ok_of_map_ok ((BucketClient.runFrom_call_ok_iff ..).mp run)
    rcases opens with ⟨e, refused⟩ | opened
    · cases refused.symm.trans own
    · rw [show (Store.initiateUpload c.store (guardOf c.plans) request).runFrom w =
        (.ok token, w') from opened.symm.trans own] at spec
      exact ⟨token, rfl, spec⟩

end Uploads

/-- What a call was for an upload that is there after it: nothing, or what opened it, or what sent a
part of it. -/
inductive Touched (w : World Backend) (call : Call) (bucket id : String) (u : Upload) : Prop where
  | kept (old : w.remote.uploadAt bucket id = some u)
      (silent : ∀ x w', call.run.runFrom w = (.ok x, w') →
        openedWith bucket id call x = none ∧ ∀ n, sentPart bucket id n call x = none)
  | opened (x : Answer) (w' : World Backend) (request : MultipartRequest)
      (run : call.run.runFrom w = (.ok x, w')) (new : u = .ofRequest request)
      (named : id = Upload.idOf w.remote.nextNumber)
      (told : openedWith bucket id call x = some request)
      (silent : ∀ n, sentPart bucket id n call x = none)
  | put (x : Answer) (w' : World Backend) (u₀ : Upload) (number : Int) (data : Content)
      (run : call.run.runFrom w = (.ok x, w')) (old : w.remote.uploadAt bucket id = some u₀)
      (new : u = u₀.put number data) (silent : openedWith bucket id call x = none)
      (told : ∀ n, sentPart bucket id n call x = if number = n then some data else none)

section Touched
variable {w : World Backend} (sound : w.remote.Sound) {bucket id : String} {u : Upload}
include sound

theorem touched_of_sendPart {c : Caller} {token : UploadToken} {part : Part} {x : Answer}
    {w' : World Backend}
    (run : (Call.perform c (.uploadPart token part)).run.runFrom w = (.ok x, w'))
    (hu : w'.remote.uploadAt bucket id = some u) :
    Touched w (.perform c (.uploadPart token part)) bucket id u := by
  obtain ⟨data, read, put⟩ := (atomic_sendPart c token part).of_ok run
  obtain ⟨b, own, u₀, found, changed⟩ := Backend.uploaded_of_putPart sound.tidy put
  have known : token.id = .known own := ((Backend.upload_eq_ok_iff ..).mp found).2.1
  have told (n : Int) : sentPart bucket id n (.perform c (.uploadPart token part)) x =
      if c.store.bucket = bucket ∧ own = id ∧ part.number = n then some data else none := by
    simp only [sentPart, known, Reported.known?, Option.some.injEq, read, Except.toOption]
  by_cases ours : bucket = c.store.bucket ∧ id = own
  · obtain ⟨rfl, rfl⟩ := ours
    have here := changed.reassigned c.store.bucket id
    rw [hu, if_pos ⟨rfl, rfl⟩] at here
    refine .put x w' u₀ part.number data run (Backend.uploadAt_of_upload found)
      (Option.some.inj here) rfl ?_
    intro n
    simp only [told, true_and]
  · have here := changed.reassigned bucket id
    rw [hu, if_neg ours] at here
    refine .kept here.symm ?_
    intro y w'' again
    cases run.symm.trans again
    refine ⟨rfl, fun n => ?_⟩
    rw [told, if_neg]
    rintro ⟨rfl, rfl, _⟩
    exact ours ⟨rfl, rfl⟩

theorem touched_of_initiate {c : Caller} {request : MultipartRequest}
    (hu : ((Call.perform c (.initiateUpload request)).run.runFrom w).2.remote.uploadAt bucket id =
      some u) :
    Touched w (.perform c (.initiateUpload request)) bucket id u := by
  have spec := initiate_spec c request w
  rcases run : (Call.perform c (.initiateUpload request)).run.runFrom w with ⟨e | x, w'⟩
  · rw [run] at spec hu
    refine .kept ((spec bucket id).symm.trans hu) ?_
    intro x w'' again
    cases run.symm.trans again
  · rw [run] at spec hu
    obtain ⟨token, rfl, made, _, _, known⟩ := spec
    have told : openedWith bucket id (.perform c (.initiateUpload request)) (.token token) =
        if c.store.bucket = bucket ∧ Upload.idOf w.remote.nextNumber = id then some request
        else none := by
      simp only [openedWith, known, Reported.known?, Option.some.injEq]
    have changed := Backend.uploaded_of_openUpload (sound.tidy.withNumber _) made
    have here := changed.reassigned bucket id
    rw [hu] at here
    split at here
    · rename_i ours
      obtain ⟨rfl, rfl⟩ := ours
      exact .opened _ w' request run (Option.some.inj here) rfl (told.trans (if_pos ⟨rfl, rfl⟩))
        fun _ => rfl
    · rename_i other
      refine .kept here.symm ?_
      intro y w'' again
      cases run.symm.trans again
      refine ⟨told.trans (if_neg ?_), fun _ => rfl⟩
      rintro ⟨rfl, rfl⟩
      exact other ⟨rfl, rfl⟩

theorem touched_of_call (call : Call)
    (hu : (call.run.runFrom w).2.remote.uploadAt bucket id = some u) :
    Touched w call bucket id u := by
  have kept (notOpening : Role.opening ∉ call.roles) (notPutting : Role.putting ∉ call.roles) :
      w.remote.uploadAt bucket id = some u := by
    refine uploadAt_of_evolves sound (Backend.Evolves.mono ?_ (leads_call call w)) hu
    intro c kind
    exact ⟨kind.1, fun is => notOpening (is ▸ kind.2), fun is => notPutting (is ▸ kind.2)⟩
  cases call with
  | perform c command =>
      cases command with
      | uploadPart token part =>
          rcases run : (Call.perform c (.uploadPart token part)).run.runFrom w with ⟨e | x, w'⟩
          · rw [run] at hu
            rw [(atomic_sendPart c token part).of_error run] at hu
            refine .kept hu ?_
            intro x w'' again
            cases run.symm.trans again
          · rw [run] at hu
            exact touched_of_sendPart sound run hu
      | initiateUpload request => exact touched_of_initiate sound hu
      | _ =>
          exact .kept (kept (by simp [Call.roles, roles]) (by simp [Call.roles, roles]))
            fun _ _ _ => ⟨rfl, fun _ => rfl⟩
  | _ =>
      exact .kept (kept (by simp [Call.roles]) (by simp [Call.roles]))
        fun _ _ _ => ⟨rfl, fun _ => rfl⟩

end Touched

section History
variable {w : World Backend} (sound : w.remote.Sound) {bucket id : String}
include sound

theorem grown_after (calls : List Call) (call : Call) :
    (after w calls).remote.nextNumber ≤ (after w (calls ++ [call])).remote.nextNumber := by
  rw [after_append]
  exact (Backend.Evolves.grown (sound_after sound calls)
    (evolves_after (after w calls) [call])).next

theorem issued_of_send {call : Call} {x : Answer} {w' : World Backend} {number : Int}
    {data : Content} (run : call.run.runFrom w = (.ok x, w'))
    (sent : sentPart bucket id number call x = some data) :
    ∃ n, n < w.remote.nextNumber ∧ id = Upload.idOf n := by
  unfold sentPart at sent
  split at sent
  · rename_i _ c token part
    split at sent
    · rename_i ours
      obtain ⟨rfl, known, _⟩ := ours
      obtain ⟨_, _, put⟩ := (atomic_sendPart c token part).of_ok run
      obtain ⟨b, own, u, found, _⟩ := Backend.uploaded_of_putPart sound.tidy put
      have named : token.id = .known own := ((Backend.upload_eq_ok_iff ..).mp found).2.1
      cases named.symm.trans ((known?_eq_some_iff _ _).mp known)
      exact sound.uploads.issued c.store.bucket id u (Backend.uploadAt_of_upload found)
    · cases sent
  · cases sent

theorem issued_of_sentPart {calls : List Call} {number : Int} {data : Content}
    (sent : lastOf (sentPart bucket id number) w calls = some data) :
    ∃ n, n < (after w calls).remote.nextNumber ∧ id = Upload.idOf n := by
  induction calls using List.reverseRecOn with
  | nil => cases sent
  | append_singleton calls call ih =>
      have later := grown_after sound calls call
      have earlier (sent : lastOf (sentPart bucket id number) w calls = some data) :
          ∃ n, n < (after w (calls ++ [call])).remote.nextNumber ∧ id = Upload.idOf n := by
        obtain ⟨n, lt, named⟩ := ih sent
        exact ⟨n, Nat.lt_of_lt_of_le lt later, named⟩
      rw [lastOf_concat] at sent
      rcases run : call.run.runFrom (after w calls) with ⟨e | x, w'⟩
      · rw [run] at sent
        exact earlier sent
      · rw [run] at sent
        dsimp only at sent
        cases now : sentPart bucket id number call x with
        | none =>
            rw [now] at sent
            exact earlier sent
        | some d =>
            obtain ⟨n, lt, named⟩ := issued_of_send (sound_after sound calls) run now
            exact ⟨n, Nat.lt_of_lt_of_le lt later, named⟩

/-- What the calls of a run tell of an upload that is in progress at its end. -/
structure Told (w : World Backend) (calls : List Call) (bucket id : String) (u : Upload) : Prop where
  opened : ∃ r, lastOf (openedWith bucket id) w calls = some r ∧ u.key = r.key ∧
    u.metadata = r.metadata ∧ u.tags = r.tags ∧ u.contentType = r.contentType
  sent : ∀ n, u.bytes? n = lastOf (sentPart bucket id n) w calls

theorem told_of_run (empty : ∀ bucket id, w.remote.uploadAt bucket id = none) {calls : List Call}
    {u : Upload} (hu : (after w calls).remote.uploadAt bucket id = some u) :
    Told w calls bucket id u := by
  induction calls using List.reverseRecOn generalizing u with
  | nil =>
      have none := empty bucket id
      rw [show w.remote.uploadAt bucket id = some u from hu] at none
      cases none
  | append_singleton calls call ih =>
      rw [after_append] at hu
      have touched := touched_of_call (sound_after sound calls) call hu
      cases touched with
      | kept old silent =>
          have told := ih old
          have same {β : Type} {tell : Call → Answer → Option β}
              (quiet : ∀ x w', call.run.runFrom (after w calls) = (.ok x, w') → tell call x = none) :
              lastOf tell w (calls ++ [call]) = lastOf tell w calls := by
            rw [lastOf_concat]
            rcases run : call.run.runFrom (after w calls) with ⟨e | x, w'⟩
            · rfl
            · simp [quiet x w' run]
          refine ⟨?_, fun n => ?_⟩
          · rw [same fun x w' run => (silent x w' run).1]
            exact told.opened
          · rw [same fun x w' run => (silent x w' run).2 n]
            exact told.sent n
      | opened x w' request run new named told silent =>
          refine ⟨⟨request, ?_, ?_⟩, fun n => ?_⟩
          · rw [lastOf_concat, run]
            simp [told]
          · rw [new]
            exact ⟨rfl, rfl, rfl, rfl⟩
          · rw [lastOf_concat, run]
            dsimp only
            rw [silent n, new]
            cases earlier : lastOf (sentPart bucket id n) w calls with
            | none => rfl
            | some data =>
                obtain ⟨m, lt, same⟩ := issued_of_sentPart sound earlier
                rw [named] at same
                exact absurd (Backend.idOf_inj.mp same).symm (Nat.ne_of_lt lt)
      | put x w' u₀ number data run old new silent told =>
          have earlier := ih old
          refine ⟨?_, fun n => ?_⟩
          · obtain ⟨r, opened, same⟩ := earlier.opened
            refine ⟨r, ?_, ?_⟩
            · rw [lastOf_concat, run]
              simp [silent, opened]
            · rw [new]
              exact same
          · rw [lastOf_concat, run]
            dsimp only
            rw [told n, ← earlier.sent n, new]
            simp only [Upload.bytes?, Upload.put, Table.get?_set]
            split <;> simp

end History

end BlobStorage.Memory
