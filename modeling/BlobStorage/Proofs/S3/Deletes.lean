import BlobStorage.Proofs.S3.Existence

/-!
Deletes at the S3 service. A delete ends as the service answers it, so what the service reports as missing
is raised. A bulk delete sends its batches until one is answered with a failure or with errors about some of
its targets; the first of these errors stands for all, also where it only says that a target is missing.
-/
namespace BlobStorage.S3

/-- An error that a bulk delete reports about one of its targets. -/
structure TargetError where
  code : String
  key : String
  message : String

/-- How a reply tells it. -/
structure TargetError.Told (e : TargetError) (v : Value) : Prop where
  code : v.partOr "Code" (.text "") = .ok (.text e.code)
  key : v.partOr "Key" .null = .ok (.text e.key)
  message : v.partOr "Message" (.text "") = .ok (.text e.message)

/-- What a reply to a bulk delete reports: nothing, or errors about some of the targets. -/
inductive Reports (reply : Value) : List TargetError → Prop
  | nothing {v : Value} (listed : reply.partOr "Errors" .null = .ok v) (none : v.isGiven = false) :
      Reports reply []
  | errors {items : List Value} {first : TargetError} {others : List TargetError}
      (listed : reply.partOr "Errors" .null = .ok (.list items))
      (told : List.Forall₂ TargetError.Told (first :: others) items) :
      Reports reply (first :: others)

/-- The error that stands for so many, of which this is the first. -/
def standIn (metadata : List (Value × Value)) (first : TargetError) (count : Nat) : ErrorReply where
  operation := "DeleteObjects"
  code := some (.text first.code)
  message := some (.text (toString count ++ " objects failed to delete; first was " ++ first.key ++
    ": " ++ first.message))
  status := (Value.table metadata).at? "HTTPStatusCode"
  requestId := (Value.table metadata).at? "RequestId"
  retries :=
    if (((Value.table metadata).at? "MaxAttemptsReached").getD (.flag false)).isGiven then
      (Value.table metadata).at? "RetryAttempts"
    else none

/-- What comes of the answer to a batch. -/
def concluded : Except Failure Reply → Except Failure Unit
  | .error f => .error f
  | .ok reply =>
      match Store.leftBehind? reply.value with
      | .error e => .error (.ambient e)
      | .ok (some e) => .error (.reply e)
      | .ok none => .ok ()

section Replies
variable {reply : Reply} {metadata : List (Value × Value)} {first : TargetError}
  {others : List TargetError}

theorem retriesOf?_table (metadata : List (Value × Value)) :
    ErrorReply.retriesOf? (.table metadata) =
      .ok (if (((Value.table metadata).at? "MaxAttemptsReached").getD (.flag false)).isGiven then
        (Value.table metadata).at? "RetryAttempts" else none) := by
  cases tried : (((Value.table metadata).at? "MaxAttemptsReached").getD (.flag false)).isGiven <;>
    simp [ErrorReply.retriesOf?, Value.partOr, Value.part?, tried, bind, Except.bind, pure,
      Except.pure]

theorem leftBehind_eq {v reply : Value} (told : first.Told v)
    (given : reply.partOr "ResponseMetadata" (.map []) = .ok (.table metadata)) (count : Nat) :
    Store.leftBehind v count reply = .ok (standIn metadata first count) := by
  unfold Store.leftBehind
  rw [told.code, told.key, told.message, given]
  change ErrorReply.ofReply "DeleteObjects" (.map [
    ("Error", .map [("Code", .text first.code), ("Message", .text _)]),
    ("ResponseMetadata", .table metadata)]) = _
  unfold ErrorReply.ofReply
  change (ErrorReply.retriesOf? (.table metadata) >>= _) = _
  rw [retriesOf?_table]
  rfl

theorem concluded_nothing (clean : Reports reply.value []) : concluded (.ok reply) = .ok () := by
  obtain ⟨listed, none⟩ := clean
  rw [concluded, Store.leftBehind?, listed]
  simp only [bind, Except.bind, none]
  rfl

theorem concluded_errors (reports : Reports reply.value (first :: others))
    (given : reply.value.partOr "ResponseMetadata" (.map []) = .ok (.table metadata)) :
    concluded (.ok reply) = .error (.reply (standIn metadata first (others.length + 1))) := by
  cases reports with
  | @errors items _ _ listed told =>
      cases told with
      | @cons _ item _ rest told also =>
          have all : (Value.list (item :: rest)).count = others.length + 1 := by
            rw [Value.count, List.length_cons, also.length_eq]
          have left : Store.leftBehind? reply.value =
              .ok (some (standIn metadata first (others.length + 1))) := by
            rw [Store.leftBehind?, listed]
            change Except.map some (Store.leftBehind item (Value.list (item :: rest)).count reply.value) = _
            rw [all, leftBehind_eq told given]
            rfl
          rw [concluded, left]

end Replies

namespace Store
variable {ρ : Type}

def deleteCall (s : Store ρ) (i : Identifier) : Call where
  method := .deleteObject
  named := s.place i

def batchCall (s : Store ρ) (batch : List Target) : Call where
  method := .deleteObjects
  named := Parameters.text "Bucket" s.bucket ++ [("Delete", .map [
    ("Objects", .list (batch.map fun t =>
      .map (("Key", t.key.value) :: Parameters.givenText "VersionId" t.version))),
    ("Quiet", .flag true)])]

def batches (s : Store ρ) (targets : List Target) : List (List Target) :=
  Content.pieces s.deleteLimit.toNat targets

section Runs
variable (s : Store Exchange) (closable : Bool) {w : World Exchange}

open Exchange

theorem runFrom_deleteObject (i : Identifier) (w : World Exchange) :
    (((s.scripted closable).adapter World.unguarded).delete i).runFrom w =
      ((nth (w.remote.answers .deleteObject) 0).map fun _ => (), played w [s.deleteCall i]) := by
  refine (World.runFrom_unguarded _ _ _ w).trans ?_
  have asked := runFrom_request closable .deleteObject (s.place i) w
  rcases answered : nth (w.remote.answers .deleteObject) 0 with f | reply
  · rw [answered] at asked
    exact Action.runFrom_bind_error asked _
  · rw [answered] at asked
    exact Action.runFrom_bind_ok asked _

theorem runFrom_deleteBatch (batch : List Target) (w : World Exchange) :
    (((s.scripted closable).adapter World.unguarded).deleteMany batch).runFrom w =
      (concluded (nth (w.remote.answers .deleteObjects) 0), played w [s.batchCall batch]) := by
  refine (World.runFrom_unguarded _ _ _ w).trans ?_
  have asked := runFrom_request closable .deleteObjects (s.batchCall batch).named w
  rcases answered : nth (w.remote.answers .deleteObjects) 0 with f | reply
  · rw [answered] at asked
    exact Action.runFrom_bind_error asked _
  · rw [answered] at asked
    refine (Action.runFrom_bind_ok asked _).trans ?_
    rw [concluded]
    cases leftBehind? reply.value with
    | error e => rfl
    | ok reported => cases reported <;> rfl

/-- Batches that are answered without errors are all sent. -/
theorem runFrom_batches_clean (batches : List (List Target)) (w : World Exchange)
    (clean : ∀ n < batches.length,
      concluded (nth (w.remote.answers .deleteObjects) n) = .ok ()) :
    (batches.forM ((s.scripted closable).adapter World.unguarded).deleteMany).runFrom w =
      (.ok (), played w (batches.map s.batchCall)) := by
  induction batches generalizing w with
  | nil => rfl
  | cons batch rest ih =>
      have sent := s.runFrom_deleteBatch closable batch w
      rw [clean 0 (Nat.zero_lt_succ _)] at sent
      refine (Action.runFrom_bind_ok sent _).trans ?_
      refine ih (played w [s.batchCall batch]) fun n early => ?_
      rw [nth_played .deleteObjects w rfl n]
      exact clean (n + 1) (Nat.succ_lt_succ early)

/-- The first batch that is answered otherwise is the last that is sent. -/
theorem runFrom_batches_stopped (batches : List (List Target)) (w : World Exchange) {n : Nat}
    {f : Failure} (here : n < batches.length)
    (clean : ∀ m < n, concluded (nth (w.remote.answers .deleteObjects) m) = .ok ())
    (stopped : concluded (nth (w.remote.answers .deleteObjects) n) = .error f) :
    (batches.forM ((s.scripted closable).adapter World.unguarded).deleteMany).runFrom w =
      (.error f, played w ((batches.take (n + 1)).map s.batchCall)) := by
  induction batches generalizing w n with
  | nil => cases here
  | cons batch rest ih =>
      have sent := s.runFrom_deleteBatch closable batch w
      cases n with
      | zero =>
          rw [stopped] at sent
          exact Action.runFrom_bind_error sent _
      | succ n =>
          rw [clean 0 (Nat.zero_lt_succ _)] at sent
          refine (Action.runFrom_bind_ok sent _).trans ?_
          refine ih (played w [s.batchCall batch]) (Nat.lt_of_succ_lt_succ here) (fun m early => ?_) ?_
          · rw [nth_played .deleteObjects w rfl m]
            exact clean (m + 1) (Nat.succ_lt_succ early)
          · rw [nth_played .deleteObjects w rfl n]
            exact stopped

end Runs
end Store

open Exchange in
/-- What deletes come to, as the service answers them. -/
structure DeleteLaws (s : Store Exchange) : Prop where
  /-- A delete is one request and ends as the service answers it. -/
  single : ∀ {i : Identifier} {style categorizes} {w : World Exchange}, i.key ≠ "" →
    ((s.held style categorizes).perform (.delete i)).runFrom w =
      (match nth (w.remote.answers .deleteObject) 0 with
        | .ok _ => .ok .done
        | .error f => .error (Store.raised style categorizes (some i.key) f),
      played w [s.deleteCall i])
  /-- A bulk delete in which all batches are answered without errors sends them all. -/
  several : ∀ {targets style categorizes} {w : World Exchange}, 0 < s.deleteLimit →
    (∀ t ∈ targets, t.key.isGiven = true) →
    (∀ n < (s.batches targets).length,
      concluded (nth (w.remote.answers .deleteObjects) n) = .ok ()) →
    ((s.held style categorizes).perform (.deleteMany targets)).runFrom w =
      (.ok .done, played w ((s.batches targets).map s.batchCall))
  /-- Otherwise what the first other answer comes to is raised, and no batch is sent after it. -/
  stopped : ∀ {targets style categorizes n f} {w : World Exchange}, 0 < s.deleteLimit →
    (∀ t ∈ targets, t.key.isGiven = true) → n < (s.batches targets).length →
    (∀ m < n, concluded (nth (w.remote.answers .deleteObjects) m) = .ok ()) →
    concluded (nth (w.remote.answers .deleteObjects) n) = .error f →
    ((s.held style categorizes).perform (.deleteMany targets)).runFrom w =
      (.error (Store.raised style categorizes none f),
        played w (((s.batches targets).take (n + 1)).map s.batchCall))
  /-- An answer is without errors if it reports none. -/
  nothing : ∀ {reply : Reply}, Reports reply.value [] → concluded (.ok reply) = .ok ()
  /-- Of the errors that it reports, the first stands for all, whatever the others are. -/
  reported : ∀ {reply : Reply} {first others metadata}, Reports reply.value (first :: others) →
    reply.value.partOr "ResponseMetadata" (.map []) = .ok (.table metadata) →
    concluded (.ok reply) = .error (.reply (standIn metadata first (others.length + 1)))
  /-- Its category is that of its own code. -/
  classified : ∀ {metadata first count k}, ¬ (standIn metadata first count).Unhandled →
    ErrorReply.codeKind? first.code = some k → (standIn metadata first count).kind = k
  /-- So a delete of a key or version that the service reports as missing fails. -/
  missing : ∀ {i : Identifier} {style categorizes code} {e : ErrorReply} {w : World Exchange},
    i.key ≠ "" → nth (w.remote.answers .deleteObject) 0 = .error (.reply e) → ¬ e.Unhandled →
    e.codeText? = some code → code ∈ ["NoSuchKey", "NoSuchVersion"] →
    ((s.held style categorizes).perform (.delete i)).runFrom w =
      (.error (if categorizes then .categorized .notFound (some i.key) (.reply e) true
        else .reply e), played w [s.deleteCall i])
  /-- And so does a bulk delete, also if nothing else is reported, and as of something missing also if
  other errors are reported with it. The batches that come after are not sent. -/
  several_missing : ∀ {targets style categorizes n first others metadata} {reply : Reply}
    {w : World Exchange}, 0 < s.deleteLimit → (∀ t ∈ targets, t.key.isGiven = true) →
    n < (s.batches targets).length →
    (∀ m < n, concluded (nth (w.remote.answers .deleteObjects) m) = .ok ()) →
    nth (w.remote.answers .deleteObjects) n = .ok reply →
    Reports reply.value (first :: others) →
    reply.value.partOr "ResponseMetadata" (.map []) = .ok (.table metadata) →
    ¬ (standIn metadata first (others.length + 1)).Unhandled →
    first.code ∈ ["NoSuchKey", "NoSuchVersion"] →
    ((s.held style categorizes).perform (.deleteMany targets)).runFrom w =
      (.error (if categorizes then .categorized .notFound none
          (.reply (standIn metadata first (others.length + 1))) true
        else .reply (standIn metadata first (others.length + 1))),
        played w (((s.batches targets).take (n + 1)).map s.batchCall))

section Laws
variable {s : Store Exchange} {closable : Bool} {style : CallStyle} {categorizes : Bool}
  {w : World Exchange}

open Exchange

theorem perform_delete {i : Identifier} (named : i.key ≠ "") :
    (((s.scripted closable).held style categorizes).perform (.delete i)).runFrom w =
      (match nth (w.remote.answers .deleteObject) 0 with
        | .ok _ => .ok .done
        | .error f => .error (Store.raised style categorizes (some i.key) f),
      played w [s.deleteCall i]) := by
  have checked := (Check.key_eq_ok_iff _).mpr named
  have sent := s.runFrom_deleteObject closable i w
  have own := (BlobStorage.Store.runFrom_check_bind_ok checked
    (fun _ => ((s.scripted closable).adapter World.unguarded).delete i) w).trans sent
  rcases answered : nth (w.remote.answers .deleteObject) 0 with f | reply
  · rw [answered] at own
    exact Store.runFrom_held_error (Action.runFrom_bind_error own _)
  · rw [answered] at own
    exact (BucketClient.runFrom_call_ok_iff ..).mpr (Action.runFrom_bind_ok own _)

section Several
variable {targets : List Target} (positive : 0 < s.deleteLimit)
  (given : ∀ t ∈ targets, t.key.isGiven = true)
include positive given

theorem perform_deleteMany_clean (clean : ∀ n < (s.batches targets).length,
      concluded (nth (w.remote.answers .deleteObjects) n) = .ok ()) :
    (((s.scripted closable).held style categorizes).perform (.deleteMany targets)).runFrom w =
      (.ok .done, played w ((s.batches targets).map s.batchCall)) := by
  have own := (BlobStorage.Store.runFrom_deleteMany
    (a := (s.scripted closable).adapter World.unguarded) positive given w).trans
      (s.runFrom_batches_clean closable _ w clean)
  exact (BucketClient.runFrom_call_ok_iff ..).mpr (Action.runFrom_bind_ok own _)

theorem perform_deleteMany_stopped {n : Nat} {f : Failure} (here : n < (s.batches targets).length)
    (clean : ∀ m < n, concluded (nth (w.remote.answers .deleteObjects) m) = .ok ())
    (stopped : concluded (nth (w.remote.answers .deleteObjects) n) = .error f) :
    (((s.scripted closable).held style categorizes).perform (.deleteMany targets)).runFrom w =
      (.error (Store.raised style categorizes none f),
        played w (((s.batches targets).take (n + 1)).map s.batchCall)) := by
  have own := (BlobStorage.Store.runFrom_deleteMany
    (a := (s.scripted closable).adapter World.unguarded) positive given w).trans
      (s.runFrom_batches_stopped closable _ w here clean stopped)
  exact Store.runFrom_held_error (Action.runFrom_bind_error own _)

end Several

theorem codeKind?_missing {code : String} (missing : code ∈ ["NoSuchKey", "NoSuchVersion"]) :
    ErrorReply.codeKind? code = some .notFound := by
  refine (ErrorReply.codeKind?_eq_notFound_iff code).mpr ?_
  simp only [ErrorReply.missingCodes, List.mem_cons, List.not_mem_nil, or_false] at missing ⊢
  tauto

end Laws

/-- Deletes of any store, whatever the service answers. -/
theorem deletes_of_script (s : Store Exchange) (closable : Bool) :
    DeleteLaws (s.scripted closable) where
  single named := perform_delete named
  several positive given clean := perform_deleteMany_clean positive given clean
  stopped positive given here clean stopped :=
    perform_deleteMany_stopped positive given here clean stopped
  nothing := concluded_nothing
  reported := concluded_errors
  classified handled known := ErrorReply.kind_of_code handled rfl known
  missing {i style categorizes code e w} named answered handled text missing := by
    have kind := ErrorReply.kind_of_code handled text (codeKind?_missing missing)
    have about : Failure.pickKey (some i.key) none = some i.key := by
      simp [Failure.pickKey, named]
    refine (perform_delete named).trans ?_
    rw [answered]
    dsimp only
    rw [Store.raised_reply, kind, about]
    rfl
  several_missing {targets style categorizes n first others metadata reply w} positive given here clean
      answered reports told handled missing := by
    have kind : (standIn metadata first (others.length + 1)).kind = .notFound :=
      ErrorReply.kind_of_code handled rfl (codeKind?_missing missing)
    have stopped := (congrArg concluded answered).trans (concluded_errors reports told)
    refine (perform_deleteMany_stopped positive given here clean stopped).trans ?_
    rw [Store.raised_reply, kind]
    rfl

end BlobStorage.S3
