import BlobStorage.Memory.Stepwise
import BlobStorage.Proofs.Memory.Adapter
import BlobStorage.Proofs.Memory.Change

/-!
The steps of a change against the change in one piece. Where a change can fail, it does so before its
first write, so carrying it out step by step comes to the same as carrying it out all at once; opening an
upload is the one exception, and all that it may leave behind is a number that nothing has.
-/
namespace BlobStorage.Memory.Stepwise
variable {α β : Type}

/-- What a change in one piece comes to: its outcome, and the backend that it leaves. -/
def settled (s : Backend) : Except Fault (α × Backend) → Except Failure α × Backend
  | .ok (x, t) => (.ok x, t)
  | .error fault => (.error (.memory fault), s)

/-- The steps come to the same as the change in one piece. -/
def AllAtOnce (steps : Action Backend α) (change : Backend → Except Fault (α × Backend)) : Prop :=
  ∀ s, steps.runFrom s = settled s (change s)

theorem AllAtOnce.inPlace_eq {steps : Action Backend α}
    {change : Backend → Except Fault (α × Backend)} (h : AllAtOnce steps change) :
    inPlace steps = Store.change change := by
  funext w
  unfold inPlace Store.change World.attempt
  rw [h w.remote]
  rcases change w.remote with fault | ⟨x, t⟩ <;> rfl

section Steps
variable {s : Backend}

theorem settled_look {f : Backend → Except Fault α} {g : α → Action Backend β}
    {c : α → Except Fault (β × Backend)}
    (h : ∀ x, f s = .ok x → (g x).runFrom s = settled s (c x)) :
    (look f >>= g).runFrom s = settled s (f s >>= c) := by
  unfold look
  rw [Action.runFrom_bind, Action.runFrom_bind_ok (Action.runFrom_get s)]
  cases found : f s with
  | error fault => rfl
  | ok x => exact h x found

theorem settled_look_only {f : Backend → Except Fault α} {g : α → Action Backend Unit}
    {c : α → Except Fault Backend}
    (h : ∀ x, f s = .ok x → (g x).runFrom s = settled s ((c x).map ((), ·))) :
    (look f >>= g).runFrom s = settled s ((f s >>= c).map ((), ·)) := by
  rw [settled_look h]
  cases f s <;> rfl

theorem runFrom_write {bucket : String} {b : Bucket} (here : s.buckets.get? bucket = some b)
    (f : Bucket → Bucket) : (write bucket f).runFrom s = (.ok (), s.setBucket (f b)) := by
  unfold write
  rw [Action.runFrom_modify, here]

end Steps

section Changes

theorem store_atOnce (bucket key : String) (draft : Draft) :
    AllAtOnce (store bucket key draft) (·.store bucket key draft) := by
  intro s
  refine settled_look fun b found => ?_
  have here := (Backend.bucket_eq_ok_iff s bucket b).mp found
  have numbered (g : Nat → Action Backend Version) :
      (takeNumber >>= g).runFrom s = (g s.nextNumber).runFrom s.takeNumber.2 := rfl
  rw [numbered, Action.runFrom_bind_ok (Action.runFrom_get _)]
  exact Action.runFrom_bind_ok (runFrom_write (s := s.takeNumber.2) here _) _

theorem copy_atOnce (srcBucket srcKey : String) (srcId : Option String) (bucket key : String) :
    AllAtOnce (copy srcBucket srcKey srcId bucket key)
      (·.copy srcBucket srcKey srcId bucket key) :=
  fun s => settled_look fun _ _ => store_atOnce bucket key _ s

theorem delete_atOnce (bucket key : String) (id : Option String) :
    AllAtOnce (delete bucket key id) fun s => (s.delete bucket key id).map ((), ·) := by
  intro s
  refine settled_look_only fun b found => ?_
  have written := runFrom_write ((Backend.bucket_eq_ok_iff s bucket b).mp found)
  change Action.runFrom
      (if ((b.versions key).filter (Version.isTarget id)).any (·.isLocked s.now) then
        refuse (.protectedObject key)
      else write bucket fun b =>
        b.setVersions key ((b.versions key).filter fun v => !v.isTarget id)) s =
    settled s (Except.map ((), ·)
      (if ((b.versions key).filter (Version.isTarget id)).any (·.isLocked s.now) then
        .error (.protectedObject key)
      else .ok (s.setBucket
        (b.setVersions key ((b.versions key).filter fun v => !v.isTarget id)))))
  split
  · rfl
  · exact written _

theorem amend_atOnce (bucket key : String) (id : Option String) (change : Version → Version) :
    AllAtOnce (amend bucket key id change)
      fun s => (s.amend bucket key id change).map ((), ·) := by
  intro s
  have whole : s.amend bucket key id change = s.version bucket key id >>= fun chosen =>
      (s.bucket bucket).map fun b => s.setBucket <| b.setVersions key <|
        (b.versions key).map fun v => if v.number = chosen.number then change v else v := by
    unfold Backend.amend Backend.version Bucket.amend
    cases s.bucket bucket with
    | error fault => rfl
    | ok b =>
        change (b.version key id >>= _) >>= _ = (b.version key id) >>= _
        cases b.version key id <;> rfl
  refine Eq.trans ?_ (congrArg (fun r => settled s (r.map ((), ·))) whole.symm)
  refine settled_look_only fun chosen found => ?_
  obtain ⟨b, here, _⟩ := bind_eq_ok_iff.mp found
  rw [here]
  exact runFrom_write ((Backend.bucket_eq_ok_iff s bucket b).mp here) _

theorem putPart_atOnce (bucket : String) (token : UploadToken) (number : Int) (data : Content) :
    AllAtOnce (putPart bucket token number data)
      fun s => (s.putPart bucket token number data).map ((), ·) := by
  intro s
  refine settled_look_only fun ⟨b, id, u⟩ found => ?_
  exact runFrom_write ((Backend.upload_eq_ok_iff ..).mp found).1 _

theorem abortUpload_atOnce (bucket : String) (token : UploadToken) :
    AllAtOnce (abortUpload bucket token) fun s => (s.abortUpload bucket token).map ((), ·) := by
  intro s
  refine settled_look_only fun ⟨b, id, u⟩ found => ?_
  exact runFrom_write ((Backend.upload_eq_ok_iff ..).mp found).1 _

/-- A store leaves its bucket in place. -/
theorem bucket_of_store {s t : Backend} {bucket key : String} {draft : Draft} {v : Version}
    (h : s.store bucket key draft = .ok (v, t)) : ∃ b, t.bucket bucket = .ok b := by
  obtain ⟨b, here, _, rfl⟩ := (Backend.store_eq_ok_iff ..).mp h
  simp only [Backend.bucket_eq_ok_iff, Backend.get?_setBucket]
  split
  · exact ⟨_, rfl⟩
  · exact ⟨b, here⟩

/-- Between the append and the removal nothing can fail: the bucket is still there. -/
theorem runFrom_store_removeUpload (bucket key id : String) (draft : Draft) (s : Backend) :
    Action.runFrom (do
        let v ← store bucket key draft
        let _ ← look (·.bucket bucket)
        removeUpload bucket id
        return v) s =
      settled s (s.store bucket key draft >>= fun (v, t) =>
        t.bucket bucket >>= fun b => .ok (v, t.removeUpload b id)) := by
  rw [Action.runFrom_bind, store_atOnce]
  dsimp only
  cases stored : s.store bucket key draft with
  | error fault => rfl
  | ok written =>
      obtain ⟨v, t⟩ := written
      obtain ⟨b, here⟩ := bucket_of_store stored
      have removed := settled_look (s := t) (f := (·.bucket bucket))
        (g := fun _ => do removeUpload bucket id; return v)
        (c := fun b => .ok (v, t.removeUpload b id)) fun b again =>
          Action.runFrom_bind_ok
            (runFrom_write ((Backend.bucket_eq_ok_iff t bucket b).mp again) _) _
      rw [here] at removed
      refine removed.trans ?_
      change _ = settled s (t.bucket bucket >>= _)
      rw [here]
      rfl

theorem completeUpload_atOnce (bucket : String) (token : UploadToken) (parts : List PartReceipt) :
    AllAtOnce (completeUpload bucket token parts) (·.completeUpload bucket token parts) := by
  intro s
  refine settled_look fun ⟨b, id, u⟩ found => ?_
  dsimp only
  split
  · rfl
  · exact settled_look fun chosen _ => runFrom_store_removeUpload bucket u.key id _ s

theorem createBucket_atOnce (name : String) (region : Option String) :
    AllAtOnce (createBucket name region) fun s => (s.createBucket name region).map ((), ·) := by
  intro s
  change Action.runFrom (if s.hasBucket name then _ else _) s =
    settled s (Except.map _ (if s.hasBucket name then _ else _))
  split <;> rfl

theorem runFrom_openUpload (bucket : String) (r : MultipartRequest) (s : Backend) :
    (openUpload bucket r).runFrom s =
      settled s.takeNumber.2 ((s.takeNumber.2.openUpload bucket (Upload.idOf s.nextNumber) r).map
        (Upload.idOf s.nextNumber, ·)) := by
  have opened := settled_look (s := s.takeNumber.2) (f := (·.bucket bucket))
    (g := fun _ => do
      write bucket fun b =>
        { b with uploads := b.uploads.set (Upload.idOf s.nextNumber) (.ofRequest r) }
      return Upload.idOf s.nextNumber)
    (c := fun b => .ok (Upload.idOf s.nextNumber, s.takeNumber.2.setBucket
      { b with uploads := b.uploads.set (Upload.idOf s.nextNumber) (.ofRequest r) }))
    fun b found => Action.runFrom_bind_ok
      (runFrom_write ((Backend.bucket_eq_ok_iff _ bucket b).mp found) _) _
  refine Eq.trans opened ?_
  unfold Backend.openUpload
  cases s.takeNumber.2.bucket bucket <;> rfl

end Changes

end Stepwise

namespace Store
open Stepwise
variable (s : Store) (guard : Guard Backend)

theorem uploadBytesStepwise_eq : uploadBytesStepwise s guard = uploadBytes s guard := by
  funext request content
  unfold uploadBytesStepwise
  rw [(store_atOnce _ _ _).inPlace_eq]
  rfl

theorem uploadReadStepwise_eq : uploadReadStepwise s guard = uploadRead s guard := by
  funext read request
  unfold uploadReadStepwise
  rw [uploadBytesStepwise_eq]
  rfl

theorem inPlace_openUpload (request : MultipartRequest) :
    inPlace (openUpload s.bucket request) = (do
      let number ← change fun b => .ok b.takeNumber
      let id := "mpu-" ++ toString number
      update fun b => b.openUpload s.bucket id request
      return id) := by
  funext w
  unfold inPlace
  rw [runFrom_openUpload]
  have numbered : (change fun b => .ok b.takeNumber).runFrom w =
    (.ok w.remote.nextNumber, { w with remote := w.remote.takeNumber.2 }) := runFrom_change_ok rfl
  symm
  refine (Action.runFrom_bind_ok numbered _).trans ?_
  rcases opened : w.remote.takeNumber.2.openUpload s.bucket (Upload.idOf w.remote.nextNumber)
    request with fault | t
  · exact Action.runFrom_bind_error (runFrom_update_error opened) _
  · exact Action.runFrom_bind_ok (runFrom_update_ok opened) _

/-- Carried out step by step, every change comes to the same as in one piece. -/
theorem stepwise_eq : s.stepwise guard = s.adapter guard := by
  unfold stepwise
  simp only [uploadBytesStepwise_eq, uploadReadStepwise_eq, (delete_atOnce _ _ _).inPlace_eq,
    (copy_atOnce _ _ _ _ _).inPlace_eq, (putPart_atOnce _ _ _ _).inPlace_eq,
    (completeUpload_atOnce _ _ _).inPlace_eq, (abortUpload_atOnce _ _).inPlace_eq,
    (amend_atOnce _ _ _ _).inPlace_eq, inPlace_openUpload, bind_assoc, pure_bind]
  rfl

end Store

theorem serviceStepwise_eq (config : Config) (guard : Guard Backend) :
    serviceStepwise config guard = serviceAdapter config guard := by
  unfold serviceStepwise
  simp only [(Stepwise.createBucket_atOnce _ _).inPlace_eq]
  rfl

end BlobStorage.Memory
