import BlobStorage.Proofs.Memory.Endurance
import BlobStorage.Proofs.Memory.Presign
import BlobStorage.Proofs.Memory.Run

/-!
Addresses issued in runs. The backend signs with the same key throughout, so an address is good until
its time is over whatever is called meanwhile, provided that the key it was issued for is the key it
is read as. Slashes at the start of a key are lost in reading.
-/
namespace BlobStorage.Memory
open Presign

theorem signingKey_moment (w : World Backend) (calls : List Call) (i : Nat) :
    (moment w calls i).signingKey = w.remote.signingKey := by
  have chain := evolves_after w (calls.take i)
  rw [moment]
  generalize (after w (calls.take i)).remote = s at chain
  induction chain with
  | refl => rfl
  | tail chain made ih =>
      obtain ⟨c, _, applied⟩ := made
      exact (Backend.frame_of_apply applied).1.trans ih

namespace Presign

theorem Issue.signature_congr {s t : Backend} (same : s.signingKey = t.signingKey) (i : Issue) :
    i.signature s = i.signature t := by
  simp [Issue.signature, sign, same]

theorem Issue.address_congr {s t : Backend} (same : s.signingKey = t.signingKey) (i : Issue) :
    i.address s = i.address t := by
  simp [Issue.address, Issue.signature_congr same]

theorem Issue.isAscii_signature (i : Issue) (s : Backend) : isAscii (i.signature s) = true :=
  isAscii_signHex _ _

def stripped (key : String) : String := String.ofList (key.toList.dropWhile (· = '/'))

theorem stripped_eq (key : String) (h : key.toList.head? ≠ some '/') : stripped key = key := by
  cases chars : key.toList with
  | nil => rw [stripped, chars, List.dropWhile_nil, ← chars, String.ofList_toList]
  | cons c rest =>
      rw [chars, List.head?_cons, ne_eq, Option.some.injEq] at h
      rw [stripped, chars, List.dropWhile_cons_of_neg (by simpa using h), ← chars,
        String.ofList_toList]

theorem stripped_ne (key : String) (h : key.toList.head? = some '/') : stripped key ≠ key := by
  intro same
  have front := List.head?_dropWhile_not (· = '/') key.toList
  have whole := congrArg String.toList same
  rw [stripped, String.toList_ofList] at whole
  rw [whole, h] at front
  simp at front

section Written
variable (s : Backend) {operation bucket : String} (key : String) {second : Int}
  {signature : String} {now : Moment} (named : operation ≠ "")
  (plain : ∀ c ∈ bucket.toList, Text.Percent.unreserved c = true)
include named plain

theorem read_written :
    read (address operation bucket key (toString second) signature) =
      .ok ⟨some operation, bucket, stripped key, some (toString second), signature⟩ := by
  have dated : fieldOf (toString second) = some (toString second) :=
    if_neg fun none => Number.Numeral.toString_ne_nil second (by rw [none]; rfl)
  rw [read_address _ _ _ _ _ plain, dated, fieldOf, if_neg named, stripped]

/-- An address with any signature, until the second it names. -/
theorem verify_written (ascii : isAscii signature = true)
    (counted : second.natAbs < 10 ^ Number.Numeral.digitLimit) (aware : now.Aware)
    (early : Duration.wholeSeconds ⟨now.universal⟩ ≤ second) :
    verify s (address operation bucket key (toString second) signature) now =
      if signature = sign s operation bucket (stripped key) (toString second) then
        .ok ⟨operation, bucket, stripped key⟩
      else .error (.memory .signature) := by
  have number := (numeral_eq_ok_iff (toString second) second).mpr
    (Number.Numeral.int_toString second counted)
  have not_late : ¬ second < Duration.wholeSeconds ⟨now.universal⟩ := by omega
  rw [verify_eq, read_written key named plain]
  generalize reading : Reading.mk (some operation) bucket (stripped key) (some (toString second))
    signature = r
  have genuine_iff : r.IsGenuine s ↔
      signature = sign s operation bucket (stripped key) (toString second) := by
    simp only [← reading, Reading.IsGenuine, Reading.payload, Option.getD_some, sign]
  have carried : r.signature = signature := by rw [← reading]
  dsimp only
  split
  case isTrue genuine =>
    rw [Reading.check_of_genuine (genuine_iff.mpr genuine), Reading.granted_of_second
      (by rw [← reading]) (by rw [← reading]) number aware, if_neg not_late, ← reading]
  case isFalse forged =>
    rw [Reading.check_of_not_genuine (mt genuine_iff.mp forged), carried, ascii]
    simp

end Written

end Presign

theorem runFrom_presign {c : Caller} {request : PresignRequest} {w : World Backend}
    (spared : c.Spared .presign w) (named : request.key ≠ "")
    {operation : PresignedOperation} (supported : request.operation = .ok operation)
    {duration : Duration} (lasting : request.duration = some duration)
    (positive : 0 < duration.micros) {text : String}
    (made : create w.remote operation c.store.bucket request.key duration = .ok text) :
    (Call.perform c (.presign request)).run.runFrom w = (.ok (.address (.text text)), w) := by
  have lasts : Check.presignDuration request.duration = .ok () := by
    simp [Check.presignDuration, lasting, Duration.isPositive, positive]
  apply (BucketClient.runFrom_call_ok_iff ..).mpr
  rw [Command.run, Action.runFrom_map, BlobStorage.Store.presign,
    BlobStorage.Store.runFrom_check_bind_ok ((Check.key_eq_ok_iff _).mpr named),
    BlobStorage.Store.runFrom_check_bind_ok lasts, supported]
  have answered : (c.adapter.presign operation request).runFrom w = (.ok (.text text), w) := by
    refine (Action.runFrom_bind_ok (runFrom_guardOf spared _) _).trans ?_
    simp [Action.runFrom_bind, lasting, made, Except.map]
  dsimp only [Caller.client]
  rw [answered]
  rfl

/-- A call of a run was answered with an address that is good until a deadline. -/
structure Issued (w : World Backend) (calls : List Call) (n : Nat) (i : Issue) (deadline : Moment) :
    Prop where
  answered : ∃ c request duration w', calls[n]? = some (.perform c (.presign request)) ∧
    request.operation = .ok i.operation ∧ c.store.bucket = i.bucket ∧ request.key = i.key ∧
    request.duration = some duration ∧ (moment w calls n).now.add? duration = some deadline ∧
    (Call.perform c (.presign request)).run.runFrom (after w (calls.take n)) =
      (.ok (.address (.text (i.address (moment w calls n)))), w')
  counted : deadline.timestamp? = some i.second

/-- The clock of the backend knows its offset and is within the calendar. -/
def Clocked (w : World Backend) (calls : List Call) : Prop :=
  ∀ n, (moment w calls n).now.Aware

theorem Issued.second_eq {w : World Backend} {calls : List Call} {n : Nat} {i : Issue}
    {deadline : Moment} (issued : Issued w calls n i deadline)
    (aware : (moment w calls n).now.Aware) :
    deadline.Aware ∧ i.second = Duration.wholeSeconds ⟨deadline.universal⟩ := by
  obtain ⟨_, _, _, _, _, _, _, _, _, sum, _⟩ := issued.answered
  have later := (aware.add? sum).1
  have counted := issued.counted
  rw [later.timestamp?_eq, Option.some.injEq] at counted
  exact ⟨later, counted.symm⟩

theorem short_second {deadline : Moment} (aware : deadline.Aware) :
    (Duration.wholeSeconds ⟨deadline.universal⟩).natAbs < 10 ^ Number.Numeral.digitLimit := by
  have bound := Duration.natAbs_wholeSeconds_le deadline.universal aware.small
  have small := aware.small
  have large : 2 ^ 58 ≤ 10 ^ Number.Numeral.digitLimit :=
    Nat.le_trans (by decide : 2 ^ 58 ≤ 10 ^ 18) (Nat.pow_le_pow_right (by decide) (by decide))
  omega

/-- What holds of the addresses that are issued in a run. -/
structure AddressLaws (w : World Backend) (calls : List Call) : Prop where
  issues : ∀ n c request operation duration deadline,
    calls[n]? = some (.perform c (.presign request)) →
    c.Spared .presign (after w (calls.take n)) → request.key ≠ "" →
    request.operation = .ok operation → request.duration = some duration →
    0 < duration.micros → (moment w calls n).now.Aware →
    (moment w calls n).now.add? duration = some deadline →
    ∃ i, i.operation = operation ∧ i.bucket = c.store.bucket ∧ i.key = request.key ∧
      Issued w calls n i deadline
  /-- Whatever is called meanwhile, the address is good until the deadline. -/
  accepted : ∀ n i deadline, Issued w calls n i deadline → (moment w calls n).now.Aware →
    (∀ c ∈ i.bucket.toList, Text.Percent.unreserved c = true) →
    i.key.toList.head? ≠ some '/' →
    ∀ j now, now.Aware → now.universal ≤ deadline.universal →
      verify (moment w calls j) (i.address (moment w calls n)) now =
        .ok ⟨i.operation.name, i.bucket, i.key⟩
  /-- The address for a key with a slash before it never grants that key. Unless the key without
  the slash has the same signature it grants nothing. -/
  slashed : ∀ n i deadline, Issued w calls n i deadline → (moment w calls n).now.Aware →
    (∀ c ∈ i.bucket.toList, Text.Percent.unreserved c = true) →
    i.key.toList.head? = some '/' →
    ∀ j now, now.Aware → now.universal ≤ deadline.universal →
      stripped i.key ≠ i.key ∧
        verify (moment w calls j) (i.address (moment w calls n)) now =
          if i.signature w.remote =
              sign w.remote i.operation.name i.bucket (stripped i.key) (toString i.second) then
            .ok ⟨i.operation.name, i.bucket, stripped i.key⟩
          else .error (.memory .signature)

section Run
variable {w : World Backend} {calls : List Call} {n j : Nat} {i : Issue} {deadline now : Moment}

theorem Issued.verify_eq (issued : Issued w calls n i deadline)
    (clocked : (moment w calls n).now.Aware)
    (plain : ∀ c ∈ i.bucket.toList, Text.Percent.unreserved c = true) (aware : now.Aware)
    (early : now.universal ≤ deadline.universal) :
    verify (moment w calls j) (i.address (moment w calls n)) now =
      if i.signature w.remote =
          sign w.remote i.operation.name i.bucket (stripped i.key) (toString i.second) then
        .ok ⟨i.operation.name, i.bucket, stripped i.key⟩
      else .error (.memory .signature) := by
  have second := issued.second_eq clocked
  have same : (moment w calls n).signingKey = (moment w calls j).signingKey := by
    rw [signingKey_moment, signingKey_moment]
  have first : (moment w calls j).signingKey = w.remote.signingKey := signingKey_moment w calls j
  have in_time : Duration.wholeSeconds ⟨now.universal⟩ ≤ i.second := by
    rw [second.2]
    exact Duration.wholeSeconds_mono _ _ early aware.small second.1.small
  have short : i.second.natAbs < 10 ^ Number.Numeral.digitLimit := by
    rw [second.2]
    exact short_second second.1
  rw [i.address_congr same, Issue.address, verify_written _ i.key
    (Issue.whole_operation i.operation).1 plain (i.isAscii_signature _) short aware in_time,
    i.signature_congr first, sign, sign, first]

end Run

theorem addresses_of_run (signingKey : Content) (now : Moment) (files : FileTree)
    (interceptions : List Interception) (calls : List Call) :
    AddressLaws { remote := Backend.fresh signingKey now, files, interceptions } calls where
  issues n c request operation duration deadline called spared named supported lasting positive
      clocked sum := by
    have counted := (clocked.add? sum).1.timestamp?_eq
    have made := (create_eq_ok_iff (moment _ calls n) operation c.store.bucket request.key duration
      _).mpr ⟨deadline, _, sum, counted, rfl⟩
    exact ⟨_, rfl, rfl, rfl, ⟨c, request, duration, _, called, supported, rfl, rfl, lasting, sum,
      runFrom_presign spared named supported lasting positive made⟩, counted⟩
  accepted n i deadline issued clocked plain front j now aware early := by
    rw [issued.verify_eq clocked plain aware early, stripped_eq _ front]
    exact if_pos rfl
  slashed n i deadline issued clocked plain front j now aware early :=
    ⟨stripped_ne _ front, issued.verify_eq clocked plain aware early⟩

end BlobStorage.Memory
