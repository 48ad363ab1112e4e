import BlobStorage.Validation
import Mathlib.Data.List.Duplicate

/-!
What the checks accept, and what they refuse with. The token and the parts that complete an upload are
refused for something that is wrong with them, and never otherwise.
-/
namespace BlobStorage.Check

theorem key_eq_ok_iff (name : String) : key name = .ok () ↔ name ≠ "" := by
  simp [key, refuse]

theorem keys_eq (targets : List Target) :
    keys targets = if targets.all (·.key.isGiven) then .ok () else refuse .emptyKey := by
  induction targets with
  | nil => rfl
  | cons t rest ih =>
      by_cases given : t.key.isGiven = true
      · rw [keys, reportedKey, if_pos given, List.all_cons, given, Bool.true_and]
        exact ih
      · rw [keys, reportedKey, if_neg given, List.all_cons, Bool.eq_false_iff.mpr given]
        rfl

theorem guarded_eq_ok_iff {p : Prop} [Decidable p] {e : Failure} {c : Check} :
    (if p then .error e else c) = .ok () ↔ ¬ p ∧ c = .ok () := by
  split <;> simp [*]

/-- The bounds of a range are accepted if they are not negative and not in reverse. -/
theorem range_eq_ok_iff {r : DownloadRequest} :
    range r = .ok () ↔ (∀ start ∈ r.start, 0 ≤ start) ∧ (∀ stop ∈ r.stop, 0 ≤ stop) ∧
      ∀ start ∈ r.start, ∀ stop ∈ r.stop, start ≤ stop := by
  obtain ⟨key, version, start, stop⟩ := r
  unfold range
  cases start <;> cases stop <;> unfold bounds <;>
    simp only [refuse, bind, Except.bind, pure, Except.pure, guarded_eq_ok_iff] <;> simp

theorem uploadToken_eq_ok_iff (token : UploadToken) (bucket : String) :
    uploadToken token (some bucket) = .ok () ↔
      token.id.isGiven = true ∧ token.bucket = bucket ∧ token.key ≠ "" := by
  unfold uploadToken
  by_cases given : token.id.isGiven = true
  · by_cases ours : token.bucket = bucket
    · simp [given, ours, key_eq_ok_iff]
    · simp [given, ours, refuse, bind, Except.bind]
  · simp [given, refuse, bind, Except.bind]

/-- What may be wrong with the token of an upload, by the refusal that tells it. -/
inductive TokenFlaw (token : UploadToken) (bucket : String) : Refusal → Prop
  | nameless (bare : token.id.isGiven = false) : TokenFlaw token bucket .emptyUploadId
  | foreign (other : token.bucket ≠ bucket) :
      TokenFlaw token bucket (.foreignUpload token.bucket bucket)
  | keyless (empty : token.key = "") : TokenFlaw token bucket .emptyKey

section Token
variable {token : UploadToken} {bucket : String}

theorem TokenFlaw.kind {reason : Refusal} (flaw : TokenFlaw token bucket reason) :
    reason.kind = .invalidArgument := by
  cases flaw <;> rfl

theorem uploadToken_flawless_iff :
    uploadToken token (some bucket) = .ok () ↔ ∀ reason, ¬ TokenFlaw token bucket reason := by
  rw [uploadToken_eq_ok_iff]
  constructor
  · intro accepted reason flaw
    cases flaw with
    | nameless bare => exact absurd (bare.symm.trans accepted.1) Bool.false_ne_true
    | foreign other => exact other accepted.2.1
    | keyless empty => exact accepted.2.2 empty
  · intro flawless
    refine ⟨?_, ?_, ?_⟩
    · exact Bool.of_not_eq_false fun bare => flawless _ (.nameless bare)
    · exact of_not_not fun other => flawless _ (.foreign other)
    · exact fun empty => flawless _ (.keyless empty)

theorem uploadToken_error {e : Failure} (h : uploadToken token (some bucket) = .error e) :
    ∃ reason about, e = .refusal reason about ∧ TokenFlaw token bucket reason := by
  cases given : token.id.isGiven with
  | false =>
      have told : .refusal .emptyUploadId (some token.key) = e := by
        simpa [uploadToken, given, refuse, bind, Except.bind] using h
      exact ⟨_, _, told.symm, .nameless given⟩
  | true =>
      by_cases ours : token.bucket = bucket
      · have keyed : key token.key = .error e := by simpa [uploadToken, given, ours] using h
        simp only [key, refuse] at keyed
        split at keyed
        · rename_i empty
          cases keyed
          exact ⟨_, _, rfl, .keyless (String.isEmpty_iff.mp empty)⟩
        · cases keyed
      · have told : .refusal (.foreignUpload token.bucket bucket) (some token.key) = e := by
          simpa [uploadToken, given, ours, refuse, bind, Except.bind] using h
        exact ⟨_, _, told.symm, .foreign ours⟩

end Token

theorem positive_whole {name : String} {n : Int} (h : 0 < n) : positive name (.whole n) = .ok () := by
  have large : ¬ n ≤ 0 := by omega
  simp [positive, incomparable?, large]

section Parts

/-- A part whose bytes can be read need only have a number that is allowed. -/
theorem part_eq_ok_iff {p : Part} {data : Content} (read : p.data = .ok data) (limit : Int) :
    part p limit = .ok () ↔ 1 ≤ p.number ∧ p.number ≤ limit := by
  unfold part
  split
  · exact iff_of_false nofun (by omega)
  · have within : 1 ≤ p.number ∧ p.number ≤ limit := by omega
    cases source : p.source with
    | bytes content => exact iff_of_true rfl within
    | stream content =>
        cases declared : p.contentLength with
        | none =>
            simp only [Part.data, source, Part.size, declared] at read
            cases read
        | some n => exact iff_of_true rfl within

theorem distinctParts_eq_ok_iff (seen : List Int) (ps : List PartReceipt) :
    distinctParts seen ps = .ok () ↔
      (ps.map (·.number)).Nodup ∧ (∀ p ∈ ps, p.number ∉ seen) ∧
        ∀ p ∈ ps, p.etag.isGiven = true := by
  induction ps generalizing seen with
  | nil => simp [distinctParts]
  | cons p rest ih =>
      by_cases again : p.number ∈ seen
      · simp [distinctParts, again, refuse]
      · by_cases given : p.etag.isGiven = true
        · simp only [distinctParts, List.contains_iff_mem, again, given, Bool.not_true,
            Bool.false_eq_true, if_false, ih, List.map_cons, List.nodup_cons, List.mem_map,
            List.mem_cons, not_or]
          constructor
          · rintro ⟨nodup, unseen, tagged⟩
            refine ⟨⟨fun ⟨q, hq, same⟩ => (unseen q hq).1 same, nodup⟩, ?_, ?_⟩
            · rintro q (rfl | hq)
              · exact again
              · exact (unseen q hq).2
            · rintro q (rfl | hq)
              · exact given
              · exact tagged q hq
          · rintro ⟨⟨other, nodup⟩, unseen, tagged⟩
            refine ⟨nodup, fun q hq => ⟨fun same => other ⟨q, hq, same⟩, unseen q (.inr hq)⟩, ?_⟩
            exact fun q hq => tagged q (.inr hq)
        · simp [distinctParts, again, given, refuse]

/-- The parts that complete an upload: at least one, each once, each with a tag. -/
theorem parts_eq_ok_iff (ps : List PartReceipt) :
    parts ps = .ok () ↔
      ps ≠ [] ∧ (ps.map (·.number)).Nodup ∧ ∀ p ∈ ps, p.etag.isGiven = true := by
  unfold parts
  rcases h : distinctParts [] ps with e | ⟨⟨⟩⟩
  · have failed : ¬ distinctParts [] ps = .ok () := by simp [h]
    rw [distinctParts_eq_ok_iff] at failed
    simp only [bind, Except.bind, reduceCtorEq, false_iff]
    exact fun accepted => failed ⟨accepted.2.1, by simp, accepted.2.2⟩
  · obtain ⟨nodup, _, tagged⟩ := (distinctParts_eq_ok_iff [] ps).mp h
    cases ps with
    | nil => simp [bind, Except.bind, refuse]
    | cons p rest => exact iff_of_true rfl ⟨List.cons_ne_nil p rest, nodup, tagged⟩

theorem parts_ok_of_perm {ps qs : List PartReceipt} (perm : ps.Perm qs) (h : parts ps = .ok ()) :
    parts qs = .ok () := by
  obtain ⟨nonempty, distinct, given⟩ := (parts_eq_ok_iff ps).mp h
  refine (parts_eq_ok_iff qs).mpr ⟨?_, (perm.map _).nodup_iff.mp distinct, ?_⟩
  · rintro rfl
    exact nonempty perm.eq_nil
  · exact fun p hp => given p (perm.mem_iff.mpr hp)

/-- What may be wrong with the parts that are to complete an upload, by the refusal that tells it. -/
inductive PartsFlaw (ps : List PartReceipt) : Refusal → Prop
  | nothing (none : ps = []) : PartsFlaw ps .noParts
  | repeated {n : Int} (again : List.Duplicate n (ps.map (·.number))) :
      PartsFlaw ps (.partRepeated n)
  | untagged {p : PartReceipt} (listed : p ∈ ps) (bare : p.etag.isGiven = false) :
      PartsFlaw ps (.partWithoutTag p.number)

section Flaws
variable {ps : List PartReceipt} {e : Failure}

theorem PartsFlaw.kind {reason : Refusal} (flaw : PartsFlaw ps reason) :
    reason.kind = .invalidArgument := by
  cases flaw <;> rfl

theorem parts_flawless_iff : parts ps = .ok () ↔ ∀ reason, ¬ PartsFlaw ps reason := by
  rw [parts_eq_ok_iff, List.nodup_iff_forall_not_duplicate]
  constructor
  · intro accepted reason flaw
    cases flaw with
    | nothing none => exact accepted.1 none
    | repeated again => exact accepted.2.1 _ again
    | untagged listed bare =>
        exact absurd (bare.symm.trans (accepted.2.2 _ listed)) Bool.false_ne_true
  · intro flawless
    refine ⟨?_, ?_, ?_⟩
    · exact fun none => flawless _ (.nothing none)
    · exact fun n again => flawless _ (.repeated again)
    · exact fun p listed => Bool.of_not_eq_false fun bare => flawless _ (.untagged listed bare)

/-- A number that was seen before the list counts as one that is in the list twice. -/
theorem distinctParts_error {seen : List Int} (h : distinctParts seen ps = .error e) :
    (∃ n, (n ∈ seen ∧ n ∈ ps.map (·.number) ∨ List.Duplicate n (ps.map (·.number))) ∧
        e = .refusal (.partRepeated n) none) ∨
      ∃ p ∈ ps, p.etag.isGiven = false ∧ e = .refusal (.partWithoutTag p.number) none := by
  induction ps generalizing seen with
  | nil => cases h
  | cons p rest ih =>
      simp only [distinctParts, refuse] at h
      split at h
      · rename_i again
        cases h
        have before : p.number ∈ seen := List.contains_iff_mem.mp again
        exact .inl ⟨p.number, .inl ⟨before, List.mem_cons_self ..⟩, rfl⟩
      · split at h
        · rename_i bare
          cases h
          exact .inr ⟨p, List.mem_cons_self .., Bool.not_eq_true' _ ▸ bare, rfl⟩
        · rcases ih h with ⟨n, again, told⟩ | ⟨q, listed, bare, told⟩
          · refine .inl ⟨n, ?_, told⟩
            rcases again with ⟨before, later⟩ | twice
            · cases before with
              | head => exact .inr later.duplicate_cons_self
              | tail _ before => exact .inl ⟨before, List.mem_cons_of_mem _ later⟩
            · exact .inr (twice.duplicate_cons _)
          · exact .inr ⟨q, List.mem_cons_of_mem _ listed, bare, told⟩

theorem parts_error (h : parts ps = .error e) :
    ∃ reason, e = .refusal reason none ∧ PartsFlaw ps reason := by
  cases own : distinctParts [] ps with
  | error f =>
      simp only [parts, own] at h
      cases h
      rcases distinctParts_error own with ⟨n, again, rfl⟩ | ⟨p, listed, bare, rfl⟩
      · exact ⟨_, rfl, .repeated (again.resolve_left fun seen => List.not_mem_nil seen.1)⟩
      · exact ⟨_, rfl, .untagged listed bare⟩
  | ok _ =>
      simp only [parts, own, bind, Except.bind, refuse] at h
      split at h
      · rename_i none
        cases h
        exact ⟨_, rfl, .nothing (List.isEmpty_iff.mp none)⟩
      · cases h

end Flaws
end Parts
end BlobStorage.Check
