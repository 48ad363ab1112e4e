import BlobStorage.Proofs.Memory.Ranges
import BlobStorage.Proofs.S3.Downloads
import BlobStorage.Proofs.S3.Uploads

/-!
The header by which a download from the S3 service asks for a range. One call carries it if a range is
asked for, and none otherwise, wherever the bytes are to go; and no two ranges are asked for in the same
words.
-/
namespace BlobStorage

theorem DownloadRequest.isSome_rangeHeader (r : DownloadRequest) :
    r.rangeHeader.isSome = r.hasRange := by
  obtain ⟨key, version, start, stop⟩ := r
  cases start <;> cases stop <;> rfl

theorem DownloadRequest.unbounded {r : DownloadRequest} (unsent : r.rangeHeader = none) :
    r.start = none ∧ r.stop = none := by
  obtain ⟨key, version, start, stop⟩ := r
  cases start <;> cases stop <;> first | exact ⟨rfl, rfl⟩ | cases unsent

namespace S3

/-- The call asks for a part of an object. -/
def Call.ranged (call : Call) : Bool := (Table.get? call.named "Range").isSome

/-- The call that asks for the part of an object that a header names. -/
def Store.rangeCall {ρ : Type} (s : Store ρ) (request : DownloadRequest) (header : String) : Call where
  method := .getObject
  named := Parameters.place s.bucket request.key request.version ++ [("Range", .text header)]

/-- The calls that ask for the range of a request: one if it has a header, and none otherwise. -/
def Store.rangeCalls {ρ : Type} (s : Store ρ) (request : DownloadRequest) : List Call :=
  request.rangeHeader.toList.map (s.rangeCall request)

/-- Of the calls that were made between two moments, these ask for a part. -/
def Asked (before after : World Exchange) (asked : List Call) : Prop :=
  ∃ calls, after.remote.calls = before.remote.calls ++ calls ∧ calls.filter Call.ranged = asked

/-- How a store asks the service for a range. -/
structure HeaderLaws (s : Store Exchange) : Prop where
  /-- With a range that is accepted, a download makes one call that carries its header, and without one
  it makes no such call. -/
  sent : ∀ {request : DownloadRequest} {destination : Destination} {style categorizes}
    {w : World Exchange}, request.key ≠ "" → Check.range request = .ok () →
    destination.Ready w.files →
    Asked w (((s.held style categorizes).perform (.download request destination)).runFrom w).2
      (s.rangeCalls request)
  /-- So does a download that replaces what a buffer holds. -/
  into : ∀ {request : DownloadRequest} {style categorizes} {w : World Exchange} {held : Content},
    request.key ≠ "" → Check.range request = .ok () →
    Asked w (((s.held style categorizes).downloadInto request).runFrom (w, held)).2.1
      (s.rangeCalls request)
  /-- There is a header if a bound is set. -/
  present : ∀ request : DownloadRequest,
    request.rangeHeader.isSome ↔ request.start.isSome ∨ request.stop.isSome
  /-- The header tells the bounds. -/
  told : ∀ {first second : DownloadRequest}, Check.range first = .ok () →
    Check.range second = .ok () → first.rangeHeader = second.rangeHeader →
    first.start = second.start ∧ first.stop = second.stop

namespace Exchange
variable {α β : Type} {w : World Exchange} {asked : List Call}

/-- Of the calls that an action makes, these ask for a part. -/
def Asks (a : Op Exchange α) (w : World Exchange) (asked : List Call) : Prop :=
  Asked w (a.runFrom w).2 asked

theorem asks_send {call : Call} (ranged : call.ranged = true) : Asks (send call) w [call] :=
  ⟨[call], makes_send call w, List.filter_cons_of_pos ranged⟩

theorem asks_send_bare {call : Call} (bare : call.ranged = false) : Asks (send call) w [] :=
  ⟨[call], makes_send call w, List.filter_cons_of_neg (by simp [bare])⟩

theorem asks_of_quiet {a : Op Exchange α} (quiet : Quiet a) (w : World Exchange) : Asks a w [] :=
  ⟨[], makes_of_quiet quiet w, rfl⟩

/-- If nothing after an action asks for a part, the action alone does. -/
theorem asks_bind {a : Op Exchange α} {f : α → Op Exchange β} (first : Asks a w asked)
    (later : ∀ x w', Asks (f x) w' []) : Asks (a >>= f) w asked := by
  obtain ⟨calls, made, rfl⟩ := first
  rcases ran : a.runFrom w with ⟨e | x, w'⟩
  · refine ⟨calls, ?_, rfl⟩
    rw [ran] at made
    rw [Action.runFrom_bind_error ran, made]
  · obtain ⟨more, after, none⟩ := later x w'
    refine ⟨calls ++ more, ?_, ?_⟩
    · rw [ran] at made
      rw [Action.runFrom_bind_ok ran, after, made, List.append_assoc]
    · rw [List.filter_append, none, List.append_nil]

/-- What comes after a quiet action asks as it does by itself. -/
theorem asks_after {a : Op Exchange α} {f : α → Op Exchange β} {x : α} {w' : World Exchange}
    (quiet : Quiet a) (ran : a.runFrom w = (.ok x, w')) (later : Asks (f x) w' asked) :
    Asks (a >>= f) w asked := by
  obtain ⟨calls, made, is⟩ := later
  have same : w'.remote = w.remote := by
    have kept := quiet w
    rwa [ran] at kept
  refine ⟨calls, ?_, is⟩
  rw [Action.runFrom_bind_ok ran, made, same]

theorem asks_check {c : Check} {f : Unit → Op Exchange β} (passed : c = .ok ())
    (later : Asks (f ()) w asked) : Asks (BlobStorage.Store.check c >>= f) w asked :=
  asks_after (BlobStorage.Store.quiet_check c) (congrArg (·, w) passed) later

theorem asks_map {a : Op Exchange α} (f : α → β) (asks : Asks a w asked) : Asks (f <$> a) w asked := by
  rwa [Asks, Action.runFrom_map]

/-- An action that is cleaned up after when it fails asks as it does by itself. -/
theorem asks_onFailure {a : Op Exchange α} {cleanup : Op Exchange Unit} (asks : Asks a w asked)
    (quiet : Quiet cleanup) : Asks (a.onFailure cleanup) w asked := by
  have kept : Asks a.outcome w asked := by rwa [Asks, Action.runFrom_outcome]
  refine asks_bind kept fun r w' => ?_
  cases r with
  | ok x => exact asks_of_quiet (Action.Keeps.pure x) w'
  | error f =>
      exact asks_of_quiet (Action.Keeps.bind quiet fun _ => Action.Keeps.throw f) w'

end Exchange

namespace Store
open Exchange
variable {s : Store Exchange} {request : DownloadRequest} {w : World Exchange}

theorem not_ranged_place (method : Method) (bucket key : String) (version : Option String) :
    Call.ranged { method, named := Parameters.place bucket key version } = false := by
  cases version with
  | none => rfl
  | some id =>
      unfold Call.ranged Parameters.place Parameters.givenText
      dsimp only
      split <;> rfl

theorem ranged_rangeCall (s : Store Exchange) (request : DownloadRequest) (header : String) :
    (s.rangeCall request header).ranged = true := by
  unfold Call.ranged rangeCall Parameters.place Parameters.givenText
  cases request.version with
  | none => rfl
  | some id =>
      dsimp only
      split <;> rfl

section Recorded
variable (recording : s.client.send = Exchange.send)
include recording

/-- The call for an object asks for a part if the request does. -/
theorem asks_getObject : Asks (s.getObject request) w (s.rangeCalls request) := by
  rw [getObject_eq, recording, rangeCalls]
  cases request.rangeHeader with
  | none =>
      have bare := not_ranged_place .getObject s.bucket request.key request.version
      rw [rangeParameter, List.append_nil]
      exact asks_send_bare bare
  | some header => exact asks_send (ranged_rangeCall s request header)

theorem asks_closeBody : Asks s.closeBody w [] := by
  change Asks (s.client.send { method := .closeBody } >>= fun _ => pure ()) w []
  rw [recording]
  exact asks_bind (asks_send_bare rfl) fun _ w' => asks_of_quiet (Action.Keeps.pure ()) w'

theorem asks_fetch : Asks (s.fetch request) w (s.rangeCalls request) := by
  refine asks_bind (asks_getObject recording) fun reply w₁ => ?_
  refine asks_bind (asks_of_quiet (BlobStorage.Store.quiet_ambient _) w₁) fun body w₂ => ?_
  refine asks_bind (asks_closeBody recording) fun _ w₃ => ?_
  cases body.failure with
  | some f => exact asks_of_quiet (Action.Keeps.throw f) w₃
  | none =>
      refine asks_bind (asks_of_quiet (BlobStorage.Store.quiet_ambient _) w₃) fun metadata w₄ => ?_
      exact asks_of_quiet (Action.Keeps.pure _) w₄

theorem asks_getMetadata (i : Identifier) : Asks (s.getMetadata World.unguarded i) w [] := by
  have head : Asks (s.client.request .headObject (s.place i)) w [] := by
    rw [Client.request, recording]
    exact asks_send_bare (not_ranged_place .headObject s.bucket i.key i.version)
  refine asks_after (Action.Keeps.pure ()) rfl (asks_bind head fun reply w' => ?_)
  exact asks_of_quiet (BlobStorage.Store.quiet_ambient _) w'

/-- A managed download is for all of the bytes. -/
theorem asks_managedDownload (transfer : Transfer) :
    Asks (s.managedDownload World.unguarded transfer request) w [] := by
  refine asks_bind (asks_getMetadata recording _) fun metadata w₁ => ?_
  rw [recording]
  exact asks_bind (asks_send_bare rfl) fun reply w₂ => asks_of_quiet (Action.Keeps.pure _) w₂

theorem asks_downloadToStream :
    Asks (s.downloadToStream World.unguarded request) w (s.rangeCalls request) := by
  refine asks_after (Action.Keeps.pure ()) rfl ?_
  cases s.managedDownloads with
  | none => exact asks_fetch recording
  | some transfer =>
      dsimp only
      split
      · exact asks_fetch recording
      · rename_i whole
        rw [← request.isSome_rangeHeader, Option.not_isSome_iff_eq_none] at whole
        rw [rangeCalls, whole]
        exact asks_managedDownload recording transfer

/-- Wherever the bytes are to go, a download that is accepted asks for its range once. -/
theorem asks_download {destination : Destination} (named : request.key ≠ "")
    (checked : Check.range request = .ok ()) (ready : destination.Ready w.files) :
    Asks (BlobStorage.Store.download (s.adapter World.unguarded) request destination) w
      (s.rangeCalls request) := by
  refine asks_check ((Check.key_eq_ok_iff _).mpr named) (asks_check checked ?_)
  cases ready with
  | live =>
      have stream : Asks ((s.adapter World.unguarded).downloadStream request) w
          (s.rangeCalls request) :=
        asks_after (Action.Keeps.pure ()) rfl <| asks_bind (asks_getObject recording) fun _ w' =>
          asks_of_quiet (BlobStorage.Store.quiet_ambient _) w'
      exact asks_bind stream fun _ w' => asks_of_quiet (Action.Keeps.pure _) w'
  | buffer =>
      have bytes : Asks ((s.adapter World.unguarded).downloadBytes request) w
          (s.rangeCalls request) :=
        asks_after (Action.Keeps.pure ()) rfl (asks_fetch recording)
      exact asks_bind bytes fun _ w' => asks_of_quiet (Action.Keeps.pure _) w'
  | stream =>
      exact asks_bind (asks_downloadToStream recording) fun _ w' =>
        asks_of_quiet (Action.Keeps.pure _) w'
  | @file path name vacant =>
      have removal : Quiet (modify fun w => { w with files := w.files.remove name } :
          Op Exchange Unit) := Action.Keeps.modify fun _ => rfl
      unfold BlobStorage.Store.downloadToFile
      refine asks_after Action.Keeps.get (Action.runFrom_get w) ?_
      refine asks_after (BlobStorage.Store.quiet_ambient _)
        (Action.runFrom_ambient_ok_iff.mpr ⟨FileTree.exists?_of_vacant vacant, rfl⟩) ?_
      refine asks_after (BlobStorage.Store.quiet_ambient _)
        (Action.runFrom_ambient_ok_iff.mpr ⟨FileTree.create_of_vacant vacant, rfl⟩) ?_
      refine asks_after (Action.Keeps.modify fun _ => rfl) (Action.runFrom_modify _ _) ?_
      refine asks_bind (asks_onFailure (asks_downloadToStream recording) removal)
        fun ⟨content, reply⟩ w' => ?_
      refine asks_of_quiet ?_ w'
      exact Action.Keeps.bind (Action.Keeps.modify fun _ => rfl) fun _ => Action.Keeps.pure _

end Recorded

/-- Those who hold the store make the calls of the action that they call. -/
theorem asks_held {α : Type} {style : CallStyle} {categorizes : Bool} {key : Option String}
    {action : Op Exchange α} {asked : List Call} (asks : Asks action w asked) :
    Asks ((s.held style categorizes).call key action) w asked := by
  have same : (((s.held style categorizes).call key action).runFrom w).2 = (action.runFrom w).2 := by
    rcases ran : action.runFrom w with ⟨f | x, w'⟩
    · rw [runFrom_held_error ran]
    · rw [(BucketClient.runFrom_call_ok_iff ..).mpr ran]
  rwa [Asks, same]

end Store

theorem bound_inj {a b : Option Int} (first : ∀ n ∈ a, 0 ≤ n) (second : ∀ n ∈ b, 0 ≤ n)
    (same : a.map (·.toNat) = b.map (·.toNat)) : a = b := by
  cases a with
  | none =>
      cases b with
      | none => rfl
      | some n => cases same
  | some m =>
      cases b with
      | none => cases same
      | some n =>
          have positive := first m rfl
          have positive' := second n rfl
          have same : m.toNat = n.toNat := Option.some.inj same
          exact congrArg some (by omega)

/-- Equal headers of ranges that are accepted are about equal bounds. -/
theorem bounds_of_rangeHeader {first second : DownloadRequest}
    (checked : Check.range first = .ok ()) (checked' : Check.range second = .ok ())
    (same : first.rangeHeader = second.rangeHeader) :
    first.start = second.start ∧ first.stop = second.stop := by
  obtain ⟨starts, stops, -⟩ := Check.range_eq_ok_iff.mp checked
  obtain ⟨starts', stops', -⟩ := Check.range_eq_ok_iff.mp checked'
  cases sent : first.rangeHeader with
  | none =>
      obtain ⟨startless, stopless⟩ := DownloadRequest.unbounded sent
      obtain ⟨startless', stopless'⟩ := DownloadRequest.unbounded (same ▸ sent)
      exact ⟨startless.trans startless'.symm, stopless.trans stopless'.symm⟩
  | some header =>
      have read := ByteRange.bounds?_rangeHeader checked sent
      rw [ByteRange.bounds?_rangeHeader checked' (same ▸ sent)] at read
      obtain ⟨start, stop⟩ := Prod.mk.inj (Option.some.inj read)
      exact ⟨bound_inj starts starts' start.symm, bound_inj stops stops' stop.symm⟩

theorem headerLaws (s : Store Exchange) (closable : Bool) : HeaderLaws (s.scripted closable) where
  sent named checked ready :=
    Store.asks_held (Exchange.asks_map Answer.downloaded (Store.asks_download rfl named checked ready))
  into {request style categorizes w held} named checked := by
    rw [BucketClient.runFrom_downloadInto, Buffered.filled_world]
    exact Store.asks_held (Store.asks_download rfl named checked .buffer)
  present request := by
    rw [request.isSome_rangeHeader, DownloadRequest.hasRange, Bool.or_eq_true]
  told := bounds_of_rangeHeader

end S3

/-- Downloads of a part, from a memory store at any moment and from any store at the service. -/
theorem ranges_of_downloads (w : World Memory.Backend) (s : S3.Store S3.Exchange) (closable : Bool) :
    Memory.RangeLaws w ∧ S3.HeaderLaws (s.scripted closable) :=
  ⟨Memory.rangeLaws w, S3.headerLaws s closable⟩

end BlobStorage
