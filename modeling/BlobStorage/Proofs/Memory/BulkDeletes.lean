import BlobStorage.Proofs.Directory.Batcher
import BlobStorage.Proofs.Memory.Upload

/-!
Bulk deletes. A bulk delete of many objects does what single deletes of them do, one after the other, and
those that a lock keeps from deleting anything do not stop the others of their batch. It stops after the
first batch in which there were such, and tells how many there were.
-/
namespace BlobStorage.Memory

/-- The failures of calls that follow one another. -/
def failures (w : World Backend) : List Call → List Failure
  | [] => []
  | call :: rest =>
      match call.run.runFrom w with
      | (.ok _, w') => failures w' rest
      | (.error f, w') => f :: failures w' rest

namespace Caller
variable (c : Caller)

def oneByOne (is : List Identifier) : List Call := is.map fun i => .perform c (.delete i)

def bulkDelete (is : List Identifier) : Op Backend Answer :=
  (Call.perform c (.deleteMany (is.map Identifier.target))).run

/-- The batches are sent one after the other, until one fails. -/
def sendBatches (batches : List (List Identifier)) : Op Backend Answer :=
  c.client.call none do
    (batches.map (·.map Identifier.target)).forM c.adapter.deleteMany
    return .done

/-- What the caller is told where a lock keeps a key from being deleted. -/
def refused (key : String) : Failure := c.heard (some key) (.memory (.protectedObject key))

end Caller

/-- Several objects failed to delete, and the first of them had this key. -/
structure Fault.Tells (fault : Fault) (count : Nat) (key : String) : Prop where
  status : fault.status = (Fault.protectedObject key).status
  code : fault.code = (Fault.protectedObject key).code
  detail : fault.detail =
    toString count ++ " objects failed to delete; " ++ (Fault.protectedObject key).message

/-- What is left of batches that are deleted one after the other, and what is told of it: nothing if
every single delete succeeds. Otherwise the batches up to the first in which one fails are gone through,
and the others are left alone. -/
inductive Swept (c : Caller) (w : World Backend) (batches : List (List Identifier)) :
    Option Fault → World Backend → Prop
  | whole : failures w (c.oneByOne batches.flatten) = [] →
      Swept c w batches none (after w (c.oneByOne batches.flatten))
  | upTo (done : List (List Identifier)) {later : List (List Identifier)} {batch : List Identifier}
      {key : String} {more : List String} {fault : Fault} :
      batches = done ++ batch :: later → failures w (c.oneByOne done.flatten) = [] →
      failures (after w (c.oneByOne done.flatten)) (c.oneByOne batch) = (key :: more).map c.refused →
      fault.Tells (more.length + 1) key →
      Swept c w batches (some fault) (after w (c.oneByOne (done.flatten ++ batch)))

def Backend.Shields (s : Backend) (bucket : String) (i : Identifier) : Prop :=
  ∃ v ∈ s.versionsAt bucket i.key, v.isTarget i.version = true ∧ v.isLocked s.now = true

def Backend.Lacks (s : Backend) (bucket : String) (i : Identifier) : Prop :=
  ∀ v ∈ s.versionsAt bucket i.key, v.isTarget i.version = false

/-- How deletes end at a moment of a run, where no failure is planned and the bucket is there. -/
structure DeleteLaws (w : World Backend) : Prop where
  /-- A single delete fails if a version that it is for is locked, and changes nothing then. Otherwise
  the versions that it is for are gone. -/
  single : ∀ (c : Caller) (i : Identifier), c.Unhindered w →
    w.remote.hasBucket c.store.bucket = true → i.key ≠ "" →
    w.remote.Shields c.store.bucket i ∧
        (Call.perform c (.delete i)).run.runFrom w = (.error (c.refused i.key), w) ∨
      ¬ w.remote.Shields c.store.bucket i ∧
        ∃ t, (Call.perform c (.delete i)).run.runFrom w = (.ok .done, { w with remote := t }) ∧
          Backend.Rewritten w.remote t c.store.bucket i.key
            ((w.remote.versionsAt c.store.bucket i.key).filter fun v => !v.isTarget i.version) ∧
          Backend.SameUploads w.remote t
  /-- One that is for no version, since the key has none or none of that name, changes nothing. -/
  absent : ∀ (c : Caller) (i : Identifier), c.Unhindered w →
    w.remote.hasBucket c.store.bucket = true → i.key ≠ "" → w.remote.Lacks c.store.bucket i →
    (Call.perform c (.delete i)).run.runFrom w = (.ok .done, w)
  /-- With an empty key among them, nothing is deleted. -/
  invalid : ∀ (c : Caller) (is : List Identifier), c.Unhindered w → (∃ i ∈ is, i.key = "") →
    ∃ e, (c.bulkDelete is).runFrom w = (.error e, w) ∧ e.isExactly .invalidArgument = true
  /-- Otherwise the objects are deleted in batches, for as long as every single delete succeeds. -/
  folded : ∀ (c : Caller) (is : List Identifier), c.Unhindered w →
    w.remote.hasBucket c.store.bucket = true → 0 < c.store.deleteLimit → (∀ i ∈ is, i.key ≠ "") →
    ∃ batches fault w', Directory.Cut c.store.deleteLimit.toNat is batches ∧
      (c.bulkDelete is).runFrom w = (c.sendBatches batches).runFrom w ∧
      (c.bulkDelete is).runFrom w =
        (match fault with
          | none => .ok .done
          | some fault => .error (c.heard none (.memory fault)), w') ∧
      Swept c w batches fault w'
  /-- A bulk delete that succeeded does nothing when it is repeated. -/
  again : ∀ (c : Caller) (is : List Identifier) x w', c.Unhindered w →
    w.remote.hasBucket c.store.bucket = true →
    0 < c.store.deleteLimit → (∀ i ∈ is, i.key ≠ "") →
    (c.bulkDelete is).runFrom w = (.ok x, w') → (c.bulkDelete is).runFrom w' = (.ok .done, w')

section Calls

@[simp] theorem oneByOne_nil (c : Caller) : c.oneByOne [] = [] := rfl

@[simp] theorem oneByOne_cons (c : Caller) (i : Identifier) (is : List Identifier) :
    c.oneByOne (i :: is) = .perform c (.delete i) :: c.oneByOne is := rfl

@[simp] theorem oneByOne_append (c : Caller) (first second : List Identifier) :
    c.oneByOne (first ++ second) = c.oneByOne first ++ c.oneByOne second := List.map_append

theorem after_cons (w : World Backend) (call : Call) (rest : List Call) :
    after w (call :: rest) = after (call.run.runFrom w).2 rest := rfl

theorem failures_append (w : World Backend) (first second : List Call) :
    failures w (first ++ second) = failures w first ++ failures (after w first) second := by
  induction first generalizing w with
  | nil => rfl
  | cons call rest ih =>
      rcases ran : call.run.runFrom w with ⟨e | x, w'⟩
      · simp [failures, after, ran, ih]
      · simp [failures, after, ran, ih]

end Calls

/-- Deletes of the caller do what they are for. -/
structure Deleting (c : Caller) (w : World Backend) : Prop where
  free : c.Unhindered w
  there : w.remote.hasBucket c.store.bucket = true
  tidy : w.remote.Tidy

section Single
variable {c : Caller} {w : World Backend} {i : Identifier} {t : Backend} {fault : Fault}

theorem Backend.hasBucket_of_delete {s t : Backend} {bucket : String} {i : Identifier}
    (tidy : s.Tidy) (deleted : s.delete bucket i.key i.version = .ok t) :
    t.hasBucket bucket = true := by
  obtain ⟨b, found, _, rfl⟩ := (delete_eq_ok_iff ..).mp deleted
  have named := tidy.named bucket b found
  simp [hasBucket, Table.contains, get?_setBucket, named]

theorem Deleting.delete (ready : Deleting c w)
    (deleted : w.remote.delete c.store.bucket i.key i.version = .ok t) :
    Deleting c { w with remote := t } :=
  ⟨ready.free.congr rfl, Backend.hasBucket_of_delete ready.tidy deleted, ready.tidy.delete deleted⟩

/-- A delete is refused because of a lock, and for no other reason. -/
theorem Deleting.delete_cases (ready : Deleting c w) (i : Identifier) :
    w.remote.Shields c.store.bucket i ∧
        w.remote.delete c.store.bucket i.key i.version = .error (.protectedObject i.key) ∨
      ¬ w.remote.Shields c.store.bucket i ∧
        ∃ t, w.remote.delete c.store.bucket i.key i.version = .ok t := by
  obtain ⟨b, found⟩ := there_of_hasBucket ready.there
  by_cases shielded : w.remote.Shields c.store.bucket i
  · refine .inl ⟨shielded, ?_⟩
    obtain ⟨v, hv, target, locked⟩ := shielded
    rw [Backend.versionsAt_of_get? found] at hv
    simp only [Backend.delete, (Backend.bucket_eq_ok_iff ..).mpr found]
    refine if_pos (List.any_eq_true.mpr ⟨v, List.mem_filter.mpr ⟨hv, ?_⟩, locked⟩)
    exact target
  · refine .inr ⟨shielded, _, (Backend.delete_eq_ok_iff ..).mpr ⟨b, found, ?_, rfl⟩⟩
    intro v hv target
    rw [← Backend.versionsAt_of_get? found] at hv
    exact Bool.eq_false_iff.mpr fun locked => shielded ⟨v, hv, target, locked⟩

/-- A delete that is for no version changes nothing. -/
theorem Deleting.delete_absent (ready : Deleting c w)
    (absent : w.remote.Lacks c.store.bucket i) :
    w.remote.delete c.store.bucket i.key i.version = .ok w.remote := by
  obtain ⟨b, found⟩ := there_of_hasBucket ready.there
  unfold Backend.Lacks at absent
  rw [Backend.versionsAt_of_get? found] at absent
  refine (Backend.delete_eq_ok_iff ..).mpr ⟨b, found, fun v hv target => ?_, ?_⟩
  · rw [absent v hv] at target
    cases target
  · have all : (b.versions i.key).filter (fun v => !v.isTarget i.version) = b.versions i.key :=
      List.filter_eq_self.mpr fun v hv => by rw [absent v hv]; rfl
    rw [all, (ready.tidy.bucket _ b found).setVersions_self, ready.tidy.setBucket_self found]

/-- What the provider does with one of several objects. -/
theorem runFrom_deleteTarget (free : c.Unhindered w) :
    (Store.deleteTarget c.store (guardOf c.plans) i.target).runFrom w =
      (Store.update fun b => b.delete c.store.bucket i.key i.version).runFrom w :=
  Action.runFrom_bind_ok (runFrom_guardOf (free .delete) _) _

theorem runFrom_delete_call (free : c.Unhindered w) (named : i.key ≠ "") :
    (Call.perform c (.delete i)).run.runFrom w =
      (c.client.call (some i.key) do
        Store.update fun b => b.delete c.store.bucket i.key i.version
        return Answer.done).runFrom w := by
  refine BucketClient.runFrom_call_congr _ ?_
  have own : (BlobStorage.Store.delete c.adapter i).runFrom w =
      (Store.update fun b => b.delete c.store.bucket i.key i.version).runFrom w :=
    (BlobStorage.Store.runFrom_check_bind_ok ((Check.key_eq_ok_iff _).mpr named) _ w).trans
      (runFrom_deleteTarget free)
  change (BlobStorage.Store.delete c.adapter i >>= fun _ => pure Answer.done).runFrom w = _
  rw [Action.runFrom_bind, Action.runFrom_bind, own]

theorem runFrom_delete_ok (free : c.Unhindered w) (named : i.key ≠ "")
    (deleted : w.remote.delete c.store.bucket i.key i.version = .ok t) :
    (Call.perform c (.delete i)).run.runFrom w = (.ok .done, { w with remote := t }) := by
  rw [runFrom_delete_call free named]
  refine (BucketClient.runFrom_call_ok_iff ..).mpr ?_
  exact Action.runFrom_bind_ok (Store.runFrom_update_ok deleted) _

theorem runFrom_delete_error (free : c.Unhindered w) (named : i.key ≠ "")
    (kept : w.remote.delete c.store.bucket i.key i.version = .error fault) :
    (Call.perform c (.delete i)).run.runFrom w = (.error (c.heard (some i.key) (.memory fault)), w) := by
  rw [runFrom_delete_call free named]
  refine call_error_of_unhindered free ?_
  exact Action.runFrom_bind_error (Store.runFrom_update_error kept) _

end Single

section Batches
variable {c : Caller} {w : World Backend} {i : Identifier} {is : List Identifier}

theorem oneByOne_kept {f : Failure}
    (kept : (Call.perform c (.delete i)).run.runFrom w = (.error f, w)) (is : List Identifier) :
    failures w (c.oneByOne (i :: is)) = f :: failures w (c.oneByOne is) ∧
      after w (c.oneByOne (i :: is)) = after w (c.oneByOne is) := by
  simp [failures, after_cons, kept]

theorem oneByOne_deleted {x : Answer} {w' : World Backend}
    (deleted : (Call.perform c (.delete i)).run.runFrom w = (.ok x, w')) (is : List Identifier) :
    failures w (c.oneByOne (i :: is)) = failures w' (c.oneByOne is) ∧
      after w (c.oneByOne (i :: is)) = after w' (c.oneByOne is) := by
  simp [failures, after_cons, deleted]

/-- Trying to delete several objects does what the single deletes do, and finds the same failures. -/
theorem runFrom_deleteEach (ready : Deleting c w) (named : ∀ i ∈ is, i.key ≠ "") :
    ∃ keys : List String, failures w (c.oneByOne is) = keys.map c.refused ∧
      Deleting c (after w (c.oneByOne is)) ∧
      (Store.deleteEach c.store (guardOf c.plans) (is.map Identifier.target)).runFrom w =
        (.ok (keys.map .protectedObject), after w (c.oneByOne is)) := by
  induction is generalizing w with
  | nil => exact ⟨[], rfl, ready, rfl⟩
  | cons i rest ih =>
      obtain ⟨here, later⟩ := List.forall_mem_cons.mp named
      have target := runFrom_deleteTarget (i := i) ready.free
      obtain ⟨_, kept⟩ | ⟨_, t, deleted⟩ := ready.delete_cases i
      · obtain ⟨keys, failed, still, each⟩ := ih ready later
        obtain ⟨one, moved⟩ := oneByOne_kept (runFrom_delete_error ready.free here kept) rest
        have tried : (Store.deleteTarget c.store (guardOf c.plans) i.target).outcome.runFrom w =
            (.ok (.error (.memory (.protectedObject i.key))), w) := by
          rw [Action.runFrom_outcome, target, Store.runFrom_update_error kept]
        refine ⟨i.key :: keys, one.trans (congrArg _ failed), moved ▸ still, ?_⟩
        rw [moved]
        exact (Action.runFrom_bind_ok tried _).trans (Action.runFrom_bind_ok each _)
      · obtain ⟨keys, failed, still, each⟩ := ih (ready.delete deleted) later
        obtain ⟨one, moved⟩ := oneByOne_deleted (runFrom_delete_ok ready.free here deleted) rest
        have tried : (Store.deleteTarget c.store (guardOf c.plans) i.target).outcome.runFrom w =
            (.ok (.ok ()), { w with remote := t }) := by
          rw [Action.runFrom_outcome, target, Store.runFrom_update_ok deleted]
        refine ⟨keys, one.trans failed, moved ▸ still, ?_⟩
        rw [moved]
        exact (Action.runFrom_bind_ok tried _).trans each

theorem Swept.cons {batch : List Identifier} {rest : List (List Identifier)} {fault : Option Fault}
    {w' : World Backend} (clean : failures w (c.oneByOne batch) = [])
    (swept : Swept c (after w (c.oneByOne batch)) rest fault w') :
    Swept c w (batch :: rest) fault w' := by
  cases swept with
  | whole later =>
      have all : failures w (c.oneByOne (batch :: rest).flatten) = [] := by
        simp [failures_append, clean, later]
      have moved : after w (c.oneByOne (batch :: rest).flatten) =
          after (after w (c.oneByOne batch)) (c.oneByOne rest.flatten) := by
        simp [after_append]
      rw [← moved]
      exact .whole all
  | @upTo done later batch' key more fault split clean' failed tells =>
      have moved : after w (c.oneByOne ((batch :: done).flatten ++ batch')) =
          after (after w (c.oneByOne batch)) (c.oneByOne (done.flatten ++ batch')) := by
        simp [after_append]
      rw [← moved]
      refine .upTo (batch :: done) (congrArg _ split) ?_ ?_ tells
      · simp [failures_append, clean, clean']
      · simpa [after_append] using failed

theorem tells_severalDeletes (count : Nat) (key : String) :
    (Fault.severalDeletes count (.protectedObject key)).Tells count key := by
  refine ⟨rfl, rfl, ?_⟩
  generalize Fault.protectedObject key = first
  change toString count ++ " objects failed to delete; " ++ first.code ++ ": " ++ first.detail = _
  simp only [Fault.message, String.append_assoc]

/-- Batches that are sent one after the other are swept. -/
theorem runFrom_batches (ready : Deleting c w) {batches : List (List Identifier)}
    (named : ∀ i ∈ batches.flatten, i.key ≠ "") :
    ∃ fault w', Swept c w batches fault w' ∧ c.Unhindered w' ∧
      ((batches.map (·.map Identifier.target)).forM c.adapter.deleteMany).runFrom w =
        (match fault with
          | none => .ok ()
          | some fault => .error (.memory fault), w') := by
  induction batches generalizing w with
  | nil => exact ⟨none, w, .whole rfl, ready.free, rfl⟩
  | cons batch rest ih =>
      rw [List.flatten_cons, List.forall_mem_append] at named
      obtain ⟨keys, failed, still, each⟩ := runFrom_deleteEach ready named.1
      have passed := runFrom_guardOf (ready.free .deleteMany) none
      cases keys with
      | nil =>
          obtain ⟨fault, w', swept, free, ran⟩ := ih still named.2
          have sent : (c.adapter.deleteMany (batch.map Identifier.target)).runFrom w =
              (.ok (), after w (c.oneByOne batch)) :=
            (Action.runFrom_bind_ok passed _).trans (Action.runFrom_bind_ok each _)
          exact ⟨fault, w', swept.cons failed, free, (Action.runFrom_bind_ok sent _).trans ran⟩
      | cons key more =>
          have sent : (c.adapter.deleteMany (batch.map Identifier.target)).runFrom w =
              (.error (.memory (.severalDeletes ((more.map Fault.protectedObject).length + 1)
                (.protectedObject key))), after w (c.oneByOne batch)) :=
            (Action.runFrom_bind_ok passed _).trans (Action.runFrom_bind_ok each _)
          rw [List.length_map] at sent
          exact ⟨_, _, .upTo [] rfl rfl failed (tells_severalDeletes ..), still.free,
            Action.runFrom_bind_error sent _⟩

end Batches

section Bulk
variable {c : Caller} {w : World Backend} {is : List Identifier}

theorem given_target {i : Identifier} (named : i.key ≠ "") : i.target.key.isGiven = true := by
  simp [Identifier.target, Reported.isGiven, Reported.value, Sayable.value, Value.isGiven, named]

theorem runFrom_bulkDelete (ready : Deleting c w) (positive : 0 < c.store.deleteLimit)
    (named : ∀ i ∈ is, i.key ≠ "") :
    ∃ batches fault w', Directory.Cut c.store.deleteLimit.toNat is batches ∧
      (c.bulkDelete is).runFrom w = (c.sendBatches batches).runFrom w ∧
      (c.bulkDelete is).runFrom w =
        (match fault with
          | none => .ok .done
          | some fault => .error (c.heard none (.memory fault)), w') ∧
      Swept c w batches fault w' := by
  have some_size : 0 < c.store.deleteLimit.toNat := by omega
  have cut := Directory.cut_pieces some_size is
  obtain ⟨fault, w', swept, free, ran⟩ := runFrom_batches ready (cut.whole.symm ▸ named)
  have given : ∀ t ∈ is.map Identifier.target, t.key.isGiven = true :=
    List.forall_mem_map.mpr fun i hi => given_target (named i hi)
  have sent : (c.bulkDelete is).runFrom w =
      (c.sendBatches (Content.pieces c.store.deleteLimit.toNat is)).runFrom w := by
    refine BucketClient.runFrom_call_congr _ ?_
    rw [← BlobStorage.Store.pieces_map]
    change (BlobStorage.Store.deleteMany c.adapter _ >>= fun _ => pure Answer.done).runFrom w = _
    rw [Action.runFrom_bind, BlobStorage.Store.runFrom_deleteMany positive given,
      Action.runFrom_bind]
    rfl
  refine ⟨_, fault, w', cut, sent, ?_, swept⟩
  rw [sent]
  cases fault with
  | none => exact (BucketClient.runFrom_call_ok_iff ..).mpr (Action.runFrom_bind_ok ran _)
  | some fault => exact call_error_of_unhindered free (Action.runFrom_bind_error ran _)

theorem runFrom_bulkDelete_invalid (free : c.Unhindered w) (bare : ∃ i ∈ is, i.key = "") :
    ∃ e, (c.bulkDelete is).runFrom w = (.error e, w) ∧ e.isExactly .invalidArgument = true := by
  obtain ⟨i, hi, empty⟩ := bare
  have refused := BlobStorage.Store.runFrom_deleteMany_refused (a := c.adapter)
    ⟨i.target, List.mem_map_of_mem hi, by rw [Identifier.target, empty]; rfl⟩ w
  have told : (c.bulkDelete is).runFrom w = (.error (c.heard none (.refusal .emptyKey none)), w) :=
    call_error_of_unhindered free (Action.runFrom_bind_error refused _)
  rw [heard_refusal] at told
  exact ⟨_, told, rfl⟩

end Bulk

section Again
variable {c : Caller} {w : World Backend} {is : List Identifier}

/-- Deletes add no versions. -/
theorem mem_after_oneByOne (ready : Deleting c w) (named : ∀ i ∈ is, i.key ≠ "") {key : String}
    {v : Version} (hv : v ∈ (after w (c.oneByOne is)).remote.versionsAt c.store.bucket key) :
    v ∈ w.remote.versionsAt c.store.bucket key := by
  induction is generalizing w with
  | nil => exact hv
  | cons i rest ih =>
      obtain ⟨here, later⟩ := List.forall_mem_cons.mp named
      obtain ⟨_, kept⟩ | ⟨_, t, deleted⟩ := ready.delete_cases i
      · rw [(oneByOne_kept (runFrom_delete_error ready.free here kept) _).2] at hv
        exact ih ready later hv
      · rw [(oneByOne_deleted (runFrom_delete_ok ready.free here deleted) _).2] at hv
        have hv := ih (ready.delete deleted) later hv
        rw [Backend.rewritten_of_delete ready.tidy deleted] at hv
        split at hv
        · rename_i same
          rw [same.2]
          exact List.mem_of_mem_filter hv
        · exact hv

theorem lacks_of_clean (ready : Deleting c w) (named : ∀ i ∈ is, i.key ≠ "")
    (clean : failures w (c.oneByOne is) = []) :
    ∀ i ∈ is, (after w (c.oneByOne is)).remote.Lacks c.store.bucket i := by
  induction is generalizing w with
  | nil => exact nofun
  | cons i rest ih =>
      obtain ⟨here, later⟩ := List.forall_mem_cons.mp named
      obtain ⟨_, kept⟩ | ⟨_, t, deleted⟩ := ready.delete_cases i
      · rw [(oneByOne_kept (runFrom_delete_error ready.free here kept) _).1] at clean
        cases clean
      · obtain ⟨one, moved⟩ := oneByOne_deleted (runFrom_delete_ok ready.free here deleted) rest
        rw [one] at clean
        rw [moved]
        refine List.forall_mem_cons.mpr ⟨fun v hv => ?_, ih (ready.delete deleted) later clean⟩
        have hv := mem_after_oneByOne (ready.delete deleted) later hv
        rw [Backend.rewritten_of_delete ready.tidy deleted, if_pos ⟨rfl, rfl⟩] at hv
        simpa using (List.mem_filter.mp hv).2

theorem oneByOne_of_lacks (ready : Deleting c w) (named : ∀ i ∈ is, i.key ≠ "")
    (lacks : ∀ i ∈ is, w.remote.Lacks c.store.bucket i) :
    failures w (c.oneByOne is) = [] ∧ after w (c.oneByOne is) = w := by
  induction is with
  | nil => exact ⟨rfl, rfl⟩
  | cons i rest ih =>
      obtain ⟨here, later⟩ := List.forall_mem_cons.mp named
      obtain ⟨lack, others⟩ := List.forall_mem_cons.mp lacks
      obtain ⟨one, moved⟩ :=
        oneByOne_deleted (runFrom_delete_ok ready.free here (ready.delete_absent lack)) rest
      rw [one, moved]
      exact ih later others

section Whole
variable {batches : List (List Identifier)} {fault : Option Fault} {w' : World Backend}
  (whole : batches.flatten = is)
include whole

theorem Swept.of_clean (swept : Swept c w batches fault w') (clean : failures w (c.oneByOne is) = []) :
    fault = none ∧ w' = after w (c.oneByOne is) := by
  subst whole
  cases swept with
  | whole => exact ⟨rfl, rfl⟩
  | upTo done split _ failed =>
      rw [split] at clean
      simp [failures_append, failed] at clean

theorem Swept.clean_of_none (swept : Swept c w batches none w') :
    failures w (c.oneByOne is) = [] ∧ w' = after w (c.oneByOne is) := by
  subst whole
  cases swept with
  | whole clean => exact ⟨clean, rfl⟩

end Whole

theorem bulkDelete_again (ready : Deleting c w) (positive : 0 < c.store.deleteLimit)
    (named : ∀ i ∈ is, i.key ≠ "") {x : Answer} {w' : World Backend}
    (ran : (c.bulkDelete is).runFrom w = (.ok x, w')) :
    (c.bulkDelete is).runFrom w' = (.ok .done, w') := by
  obtain ⟨batches, fault, w₁, cut, _, told, swept⟩ := runFrom_bulkDelete ready positive named
  rw [ran] at told
  cases fault with
  | some fault => cases told
  | none =>
      cases told
      obtain ⟨clean, rfl⟩ := swept.clean_of_none cut.whole
      obtain ⟨_, _, still, _⟩ := runFrom_deleteEach ready named
      obtain ⟨quiet, stays⟩ := oneByOne_of_lacks still named (lacks_of_clean ready named clean)
      obtain ⟨_, _, _, cut', _, told, swept'⟩ := runFrom_bulkDelete still positive named
      obtain ⟨rfl, rfl⟩ := swept'.of_clean cut'.whole quiet
      rw [told, stays]

end Again

theorem deletes_of_run (signingKey : Content) (now : Moment) (files : FileTree)
    (interceptions : List Interception) (calls : List Call) :
    DeleteLaws (after { remote := Backend.fresh signingKey now, files, interceptions } calls) := by
  have sound := sound_after (Backend.sound_fresh signingKey now) calls
    (w := { remote := Backend.fresh signingKey now, files, interceptions })
  refine ⟨?_, ?_, ?_, ?_, ?_⟩
  · intro c i free there named
    have ready : Deleting c _ := ⟨free, there, sound.tidy⟩
    obtain ⟨shielded, kept⟩ | ⟨open_, t, deleted⟩ := ready.delete_cases i
    · exact .inl ⟨shielded, runFrom_delete_error free named kept⟩
    · exact .inr ⟨open_, t, runFrom_delete_ok free named deleted,
        Backend.rewritten_of_delete sound.tidy deleted,
        Backend.sameUploads_of_delete sound.tidy deleted⟩
  · intro c i free there named absent
    have ready : Deleting c _ := ⟨free, there, sound.tidy⟩
    exact runFrom_delete_ok free named (ready.delete_absent absent)
  · intro c is free bare
    exact runFrom_bulkDelete_invalid free bare
  · intro c is free there positive named
    exact runFrom_bulkDelete ⟨free, there, sound.tidy⟩ positive named
  · intro c is x w' free there positive named ran
    exact bulkDelete_again ⟨free, there, sound.tidy⟩ positive named ran

end BlobStorage.Memory
