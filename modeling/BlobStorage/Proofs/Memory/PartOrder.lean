import BlobStorage.Proofs.Memory.Completion
import BlobStorage.Proofs.Multipart.Submission

/-!
The order of the parts that complete an upload in a memory store. The backend refuses parts that are out
of order, but is never asked for such parts: what it refuses of a completion is that something is missing.
-/
namespace BlobStorage

def Failure.origin : Failure → Failure
  | .categorized _ _ cause _ => cause.origin
  | f => f

theorem Failure.origin_categorize (f : Failure) (k : ErrorKind) (key : Option String)
    (chained : Bool) : (f.categorize k key chained).origin = f.origin := by
  simp only [Failure.categorize]
  split <;> rfl

namespace Memory

/-- What a memory store makes of the order of parts. -/
structure OrderLaws (token : UploadToken) (parts : List PartReceipt) : Prop where
  /-- A backend refuses parts that are out of order, where there is an upload to complete. -/
  disordered : ∀ (s : Backend) bucket listed,
    (∃ fault, s.completeUpload bucket token listed = .error fault ∧ fault.code = "InvalidPartOrder") ↔
      (∃ found, s.upload bucket token = .ok found) ∧
        ¬ (listed.map (·.number)).Pairwise (· ≤ ·)
  /-- No completion that a store is asked for fails so. -/
  unreachable : ∀ (c : Caller) (w w' : World Backend) fault, c.Spared .completeUpload w →
    (BlobStorage.Store.completeUpload c.adapter token parts).runFrom w = (.error (.memory fault), w') →
    fault.code ≠ "InvalidPartOrder"
  /-- Nor is what a client raises in either style, by itself or at the end of an upload in parts, made of
  such a failure. -/
  unheard : ∀ (c : Caller) (w w' : World Backend) e fault, c.plans = none →
    (completing c token parts).runFrom w = (.error e, w') ∨
      (c.client.partClient.complete token parts).runFrom w = (.error e, w') →
    e.origin = .memory fault → fault.code ≠ "InvalidPartOrder"

/-- The failures that tell of something that is not there. -/
inductive Missing : Fault → Prop
  | bucket (name : String) : Missing (.noBucket name)
  | upload (id : String) : Missing (.noUpload id)
  | part (number : Int) : Missing (.partMissing number)

theorem Missing.code {fault : Fault} (missing : Missing fault) : fault.code ≠ "InvalidPartOrder" := by
  cases missing <;> simp [Fault.code]

section Faults
variable {s : Backend} {bucket : String} {token : UploadToken} {listed : List PartReceipt}
  {fault : Fault}

theorem missing_bucket (h : s.bucket bucket = .error fault) : Missing fault := by
  simp only [Backend.bucket] at h
  split at h <;> cases h
  exact .bucket bucket

theorem missing_upload (h : s.upload bucket token = .error fault) : Missing fault := by
  rcases bind_eq_error_iff.mp h with missing | ⟨b, -, h⟩
  · exact missing_bucket missing
  · rcases bind_eq_error_iff.mp h with missing | ⟨found, -, told⟩
    · simp only [Bucket.upload] at missing
      split at missing
      · split at missing
        · split at missing <;> cases missing
          exact .upload _
        · cases missing
          exact .upload _
      · cases missing
        exact .upload _
    · cases told

theorem missing_part {u : Upload} (h : Backend.chosenParts u listed = .error fault) :
    Missing fault := by
  induction listed with
  | nil => cases h
  | cons p rest ih =>
      simp only [Backend.chosenParts] at h
      split at h
      · split at h
        · rcases bind_eq_error_iff.mp h with later | ⟨more, -, told⟩
          · exact ih later
          · cases told
        · cases h
          exact .part _
      · cases h
        exact .part _

theorem missing_of_store {key : String} {draft : Draft}
    (h : s.store bucket key draft = .error fault) : Missing fault := by
  rcases bind_eq_error_iff.mp h with missing | ⟨b, -, told⟩
  · exact missing_bucket missing
  · cases told

/-- Parts in order are refused only where something is not there. -/
theorem missing_of_completeUpload (sorted : Backend.ascending (listed.map (·.number)) = true)
    (h : s.completeUpload bucket token listed = .error fault) : Missing fault := by
  rcases bind_eq_error_iff.mp h with missing | ⟨⟨b, id, u⟩, -, h⟩
  · exact missing_upload missing
  · simp only [sorted, Bool.not_true, Bool.false_eq_true, if_false] at h
    rcases bind_eq_error_iff.mp h with missing | ⟨chosen, -, h⟩
    · exact missing_part missing
    · rcases bind_eq_error_iff.mp h with missing | ⟨⟨v, t⟩, -, h⟩
      · exact missing_of_store missing
      · rcases bind_eq_error_iff.mp h with missing | ⟨_, -, told⟩
        · exact missing_bucket missing
        · cases told

theorem disordered_iff :
    (∃ fault, s.completeUpload bucket token listed = .error fault ∧ fault.code = "InvalidPartOrder") ↔
      (∃ found, s.upload bucket token = .ok found) ∧
        ¬ (listed.map (·.number)).Pairwise (· ≤ ·) := by
  rw [← ascending_iff]
  constructor
  · intro ⟨fault, failed, code⟩
    refine ⟨?_, fun sorted => (missing_of_completeUpload sorted failed).code code⟩
    rcases bind_eq_error_iff.mp failed with missing | ⟨found, there, -⟩
    · exact absurd code (missing_upload missing).code
    · exact ⟨found, there⟩
  · intro ⟨⟨found, there⟩, unsorted⟩
    refine ⟨.partOrder, ?_, rfl⟩
    rw [Backend.completeUpload, there]
    simp only [bind, Except.bind, Bool.eq_false_iff.mpr unsorted, Bool.not_false, if_true]

end Faults

section Completions
variable {c : Caller} {token : UploadToken} {parts : List PartReceipt} {w w' : World Backend}

/-- A completion fails as it is refused, or as the backend refuses parts that are in order. -/
theorem code_of_completion {f : Failure} {fault : Fault} (spared : c.Spared .completeUpload w)
    (run : (BlobStorage.Store.completeUpload c.adapter token parts).runFrom w = (.error f, w'))
    (origin : f.origin = .memory fault) : fault.code ≠ "InvalidPartOrder" := by
  by_cases flawed : ∃ reason, Flaw c.adapter.bucket token parts reason
  · obtain ⟨reason, -, about, refused⟩ := refused_of_flaw (w := w) flawed
    rw [← completeBy_self, refused] at run
    cases run
    cases origin
  · obtain ⟨ours, accepted⟩ := flawless_iff.mp (not_exists.mp flawed)
    rw [← completeBy_self, submitted_inOrder ours accepted,
      runFrom_completeUpload_of_spared _ _ spared] at run
    cases step : w.remote.completeUpload c.store.bucket token (BlobStorage.Store.inOrder parts) with
    | ok done =>
        rw [step] at run
        cases run
    | error fault' =>
        rw [step] at run
        cases run
        cases origin
        exact (missing_of_completeUpload (ascending_inOrder parts) step).code

theorem origin_hand {style : CallStyle} {f : Failure} {fault : Fault}
    (h : (style.hand f).origin = .memory fault) : f.origin = .memory fault := by
  cases style with
  | blocking => exact h
  | awaited =>
      cases f with
      | ambient a =>
          cases a with
          | described d =>
              simp only [CallStyle.hand, Failure.handed] at h
              split at h <;> cases h
          | _ => cases h
      | _ => exact h

theorem origin_heard {key : Option String} {f : Failure} {fault : Fault}
    (h : (c.heard key f).origin = .memory fault) : f.origin = .memory fault := by
  simp only [Caller.heard] at h
  split at h
  · rw [Failure.origin_categorize] at h
    exact origin_hand h
  · exact origin_hand h

/-- A client adds no failure of the backend to those of what it calls. -/
theorem error_of_call {α : Type} (plain : c.plans = none) {key : Option String}
    {action : Op Backend α} {e : Failure} {fault : Fault}
    (run : (c.client.call key action).runFrom w = (.error e, w')) (origin : e.origin = .memory fault) :
    ∃ f, action.runFrom w = (.error f, w') ∧ f.origin = .memory fault := by
  cases own : action.runFrom w with
  | mk result w₁ =>
      cases result with
      | ok x =>
          rw [(BucketClient.runFrom_call_ok_iff ..).mpr own] at run
          cases run
      | error f =>
          rw [call_of_error plain own] at run
          cases run
          exact ⟨f, rfl, origin_heard origin⟩

end Completions

theorem orderLaws (token : UploadToken) (parts : List PartReceipt) : OrderLaws token parts where
  disordered _ _ _ := disordered_iff
  unreachable _ _ _ _ spared run := code_of_completion spared run rfl
  unheard c w w' e fault plain run origin := by
    have spared := spared_of_plain plain .completeUpload w
    cases run with
    | inl run =>
        obtain ⟨f, own, origin⟩ := error_of_call plain run origin
        exact code_of_completion spared (Action.error_of_map_error own) origin
    | inr run =>
        obtain ⟨f, own, origin⟩ := error_of_call plain run origin
        exact code_of_completion spared own origin

end Memory
end BlobStorage
