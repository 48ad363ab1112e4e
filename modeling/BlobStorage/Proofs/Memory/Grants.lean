import BlobStorage.Proofs.Memory.Addresses

/-!
What verified addresses grant. Where every signature that fits was issued, and no two payloads share
one, an address that is accepted has the four lines of an address that was issued. If neither the
bucket nor the key of that address runs over a line end, the lines can be told apart and the grant is
the one that was asked for; else the lines may be divided among the four fields in other ways, and
whoever holds the address can make one for another bucket and another key.
-/
namespace BlobStorage.Memory
open Presign

/-- The signature of a reading, if it fits, was issued before a call of the run, and what was signed
with it is what is read. -/
structure Unforged (w : World Backend) (calls : List Call) (j : Nat) (r : Reading) : Prop where
  held : r.IsGenuine (moment w calls j) → ∃ n i deadline, n < j ∧ Issued w calls n i deadline ∧
    r.signature = i.signature (moment w calls n)
  injective : ∀ n i deadline, n < j → Issued w calls n i deadline →
    i.signature (moment w calls n) = Digest.Sha256.signHex w.remote.signingKey r.payload →
    payload i.operation.name i.bucket i.key (toString i.second) = r.payload

def Refused (f : Failure) : Prop := ∃ fault, f = .memory fault ∧ fault.status = 403

/-- How a moment of a grant lies to the deadline. The last second before 1970 counts as the first one
after, so a deadline in it is passed only when that one is over too. -/
def Timely (now deadline : Moment) : Prop :=
  now.universal < deadline.universal + 1000000 ∨
    (-1000000 < deadline.universal ∧ deadline.universal < 0 ∧ now.universal < 1000000)

section Run
variable {w : World Backend} {calls : List Call} {j : Nat} {r : Reading} {now : Moment}

theorem Unforged.issue (unforged : Unforged w calls j r)
    (genuine : r.IsGenuine (moment w calls j)) :
    ∃ n i deadline, n < j ∧ Issued w calls n i deadline ∧
      r.signature = i.signature (moment w calls n) ∧
      i.lines = lines (r.operation.getD "") r.bucket r.key (r.expires.getD "") := by
  obtain ⟨n, i, deadline, before, issued, carried⟩ := unforged.held genuine
  refine ⟨n, i, deadline, before, issued, carried, ?_⟩
  apply payload_inj.mp
  apply unforged.injective n i deadline before issued
  rw [← carried, genuine, signingKey_moment]

/-- What verification makes of an address that can be read. -/
theorem Unforged.outcome (unforged : Unforged w calls j r) (clocked : ∀ n, (moment w calls n).now.Aware)
    (aware : now.Aware) :
    (∃ n i deadline operation, n < j ∧ Issued w calls n i deadline ∧
      r.signature = i.signature (moment w calls n) ∧
      i.lines = lines (r.operation.getD "") r.bucket r.key (r.expires.getD "") ∧
      r.operation = some operation ∧ Timely now deadline ∧
      r.check (moment w calls j) now = .ok ⟨operation, r.bucket, r.key⟩) ∨
    (∃ f, r.check (moment w calls j) now = .error f ∧ (Refused f ∨
      isAscii r.signature = false ∧ f = .ambient .strangeSignature ∨
      ∃ n i deadline expires, n < j ∧ Issued w calls n i deadline ∧ ¬ i.IsWhole ∧
        r.expires = some expires ∧ numeral expires = .error f)) := by
  by_cases genuine : r.IsGenuine (moment w calls j)
  · rw [Reading.check_of_genuine genuine]
    obtain ⟨n, i, deadline, before, issued, carried, same⟩ := unforged.issue genuine
    have second := issued.second_eq (clocked n)
    have short : i.second.natAbs < 10 ^ Number.Numeral.digitLimit := by
      rw [second.2]
      exact short_second second.1
    cases granted_of_lines aware short same with
    | inl granted =>
        obtain ⟨operation, named, early, granted⟩ := granted
        rw [second.2] at early
        exact .inl ⟨n, i, deadline, operation, before, issued, carried, same, named,
          Duration.lt_of_wholeSeconds_le _ _ aware.small second.1.small early, granted⟩
    | inr rest =>
        right
        cases rest with
        | inl late => exact ⟨_, late.2, .inl ⟨.expired, rfl, rfl⟩⟩
        | inr divided =>
            obtain ⟨split, expires, f, dated, wrong, failed⟩ := divided
            exact ⟨f, failed, .inr (.inr ⟨n, i, deadline, expires, before, issued, split, dated,
              wrong⟩)⟩
  · right
    rw [Reading.check_of_not_genuine genuine]
    cases ascii : isAscii r.signature with
    | true => exact ⟨_, rfl, .inl ⟨.signature, rfl, rfl⟩⟩
    | false => exact ⟨_, rfl, .inr (.inl ⟨rfl, rfl⟩)⟩

end Run

/-- What holds of the addresses that are verified in a run. -/
structure GrantLaws (w : World Backend) (calls : List Call) : Prop where
  granted : Clocked w calls → ∀ j address now grant, now.Aware →
    (∀ r, read address = .ok r → Unforged w calls j r) →
    verify (moment w calls j) address now = .ok grant →
    ∃ r n i deadline, read address = .ok r ∧ n < j ∧ Issued w calls n i deadline ∧
      r.signature = i.signature (moment w calls n) ∧ Timely now deadline ∧
      i.lines = lines grant.operation grant.bucket grant.key (r.expires.getD "") ∧
      (i.IsWhole → grant = ⟨i.operation.name, i.bucket, i.key⟩)
  /-- Everything else is refused, if the address is one and its signature is plain text. Only where
  signed names have line ends in them there may be no number to read. -/
  refused : Clocked w calls → ∀ j address now f, now.Aware →
    (∀ r, read address = .ok r → Unforged w calls j r) →
    verify (moment w calls j) address now = .error f →
    Refused f ∨ (∃ a, read address = .error a ∧ f = .ambient a) ∨
      ∃ r, read address = .ok r ∧ (isAscii r.signature = false ∧ f = .ambient .strangeSignature ∨
        ∃ n i deadline expires, n < j ∧ Issued w calls n i deadline ∧ ¬ i.IsWhole ∧
          r.expires = some expires ∧ numeral expires = .error f)
  /-- An address that was issued is not a forged one, as long as no other payload that was signed
  has its signature. -/
  honest : ∀ n i deadline j, n < j → Issued w calls n i deadline →
    (∀ c ∈ i.bucket.toList, Text.Percent.unreserved c = true) → i.key.toList.head? ≠ some '/' →
    (∀ n' i' deadline', n' < j → Issued w calls n' i' deadline' →
      i'.signature w.remote = i.signature w.remote → i'.lines = i.lines) →
    ∃ r, read (i.address (moment w calls n)) = .ok r ∧ Unforged w calls j r
  /-- From an address for a key with a line end in it, one for another key of another bucket can be
  made, which is accepted as well. -/
  forged : Clocked w calls → ∀ n i deadline bucket key, Issued w calls n i deadline →
    i.key = bucket ++ "\n" ++ key →
    (∀ c ∈ bucket.toList, Text.Percent.unreserved c = true) → key.toList.head? ≠ some '/' →
    ∀ j now, now.Aware → now.universal ≤ deadline.universal →
      verify (moment w calls j) (address (i.operation.name ++ "\n" ++ i.bucket) bucket key
          (toString i.second) (i.signature (moment w calls n))) now =
        .ok ⟨i.operation.name ++ "\n" ++ i.bucket, bucket, key⟩

theorem grants_of_run (signingKey : Content) (now : Moment) (files : FileTree)
    (interceptions : List Interception) (calls : List Call) :
    GrantLaws { remote := Backend.fresh signingKey now, files, interceptions } calls where
  granted clocked j address now grant aware unforged verified := by
    rw [verify_eq] at verified
    cases reading : read address with
    | error a =>
        rw [reading] at verified
        cases verified
    | ok r =>
      rw [reading] at verified
      cases (unforged r reading).outcome clocked aware with
      | inl found =>
          obtain ⟨n, i, deadline, operation, before, issued, carried, same, named, timely, checked⟩ :=
            found
          cases checked.symm.trans verified
          rw [named, Option.getD_some] at same
          refine ⟨r, n, i, deadline, rfl, before, issued, carried, timely, same, fun whole => ?_⟩
          have own := lines_inj (i.whole_lines whole) same
          rw [own.1, own.2.1, own.2.2.1]
      | inr failed =>
          obtain ⟨f, failed, _⟩ := failed
          cases failed.symm.trans verified
  refused clocked j address now f aware unforged verified := by
    rw [verify_eq] at verified
    cases reading : read address with
    | error a =>
        rw [reading] at verified
        exact .inr (.inl ⟨a, rfl, (Except.error.inj verified).symm⟩)
    | ok r =>
      rw [reading] at verified
      cases (unforged r reading).outcome clocked aware with
      | inl found =>
          obtain ⟨_, _, _, _, _, _, _, _, _, _, checked⟩ := found
          cases checked.symm.trans verified
      | inr failed =>
          obtain ⟨f, failed, kind⟩ := failed
          cases failed.symm.trans verified
          exact kind.imp_right fun rest => .inr ⟨r, rfl, rest⟩
  honest n i deadline j later issued plain front distinct := by
    refine ⟨_, read_written i.key (Issue.whole_operation i.operation).1 plain, ?_, ?_⟩
    · exact fun _ => ⟨n, i, deadline, later, issued, rfl⟩
    · intro n' i' deadline' later' issued' same
      rw [stripped_eq _ front, Reading.payload]
      apply payload_inj.mpr
      apply distinct n' i' deadline' later' issued'
      rw [i'.signature_congr (signingKey_moment _ calls n').symm, same, stripped_eq _ front]
      rfl
  forged clocked n i deadline bucket key issued names plain front j now aware early := by
    have second := issued.second_eq (clocked n)
    have short : i.second.natAbs < 10 ^ Number.Numeral.digitLimit := by
      rw [second.2]
      exact short_second second.1
    have in_time : Duration.wholeSeconds ⟨now.universal⟩ ≤ i.second := by
      rw [second.2]
      exact Duration.wholeSeconds_mono _ _ early aware.small second.1.small
    have same : i.lines = lines (i.operation.name ++ "\n" ++ i.bucket) bucket key
        (toString i.second) := by
      simp [Issue.lines, lines, names, String.toList_append]
    have named : i.operation.name ++ "\n" ++ i.bucket ≠ "" := by
      simp [(Issue.whole_operation i.operation).1]
    have signed := payload_inj.mpr same
    rw [verify_written _ key named plain (i.isAscii_signature _) short aware in_time,
      stripped_eq _ front]
    apply if_pos
    rw [Issue.signature, sign, sign, signed, signingKey_moment, signingKey_moment]

end BlobStorage.Memory
