import BlobStorage.Proofs.Memory.Parts

/-!
What a completion asks of its adapter. It is refused for something that is wrong with its token or its
list, before the adapter is asked at all; or the adapter is asked once, for the parts of the list with
their numbers ascending.
-/
namespace BlobStorage
variable {ρ : Type}

structure Arranged (parts listed : List PartReceipt) : Prop where
  same : listed.Perm parts
  ascending : listed.Pairwise fun p q => p.number < q.number

/-- What may be wrong with a completion, by the refusal that tells it. -/
def Flaw (bucket : String) (token : UploadToken) (parts : List PartReceipt)
    (reason : Refusal) : Prop :=
  Check.TokenFlaw token bucket reason ∨ Check.PartsFlaw parts reason

abbrev Joiner (ρ : Type) := UploadToken → List PartReceipt → Op ρ MultipartReceipt

/-- The primitive notes each call of it once, and changes no other note. -/
def Notes {β : Type} (joiner : Joiner ρ) (notes : ρ → List β)
    (entry : UploadToken → List PartReceipt → β) : Prop :=
  ∀ token listed w,
    notes ((joiner token listed).runFrom w).2.remote = notes w.remote ++ [entry token listed]

section Asking
variable (a : Adapter ρ) (token : UploadToken) (parts : List PartReceipt) (w : World ρ)

/-- The completion, with a primitive in the place of the adapter's own. -/
def completeBy (joiner : Joiner ρ) : Op ρ MultipartReceipt :=
  Store.completeUpload { a with completeUpload := joiner } token parts

/-- The completion is refused and nothing is done, whatever the primitive would do. -/
def Refused (reason : Refusal) : Prop :=
  ∃ about, ∀ joiner, (completeBy a token parts joiner).runFrom w = (.error (.refusal reason about), w)

/-- The completion is one call of the primitive, for the listed parts, whatever the primitive does. -/
def Submitted (listed : List PartReceipt) : Prop :=
  ∀ joiner, (completeBy a token parts joiner).runFrom w = (joiner token listed).runFrom w

/-- What a completion asks of an adapter. -/
structure SubmissionLaws : Prop where
  refused_iff : (∃ reason, Refused a token parts w reason) ↔ ∃ reason, Flaw a.bucket token parts reason
  /-- A refusal tells what is wrong. -/
  told : ∀ reason, Refused a token parts w reason →
    Flaw a.bucket token parts reason ∧ reason.kind = .invalidArgument
  submitted : (∀ reason, ¬ Flaw a.bucket token parts reason) →
    ∃ listed, Arranged parts listed ∧ Submitted a token parts w listed
  /-- In whatever order the parts were collected, the adapter is asked for the same list. -/
  collected : (∀ reason, ¬ Flaw a.bucket token parts reason) → ∀ parts', parts'.Perm parts →
    ∃ listed, Submitted a token parts w listed ∧ Submitted a token parts' w listed
  /-- An adapter that notes its calls has no new note after a refusal, and one otherwise. -/
  noted : ∀ {β : Type} {notes : ρ → List β} {entry : UploadToken → List PartReceipt → β},
    Notes a.completeUpload notes entry →
    (∃ reason, Flaw a.bucket token parts reason) ∧
        notes ((Store.completeUpload a token parts).runFrom w).2.remote = notes w.remote ∨
      (∀ reason, ¬ Flaw a.bucket token parts reason) ∧ ∃ listed, Arranged parts listed ∧
        notes ((Store.completeUpload a token parts).runFrom w).2.remote =
          notes w.remote ++ [entry token listed]

end Asking

section Flawless
variable {bucket : String} {token : UploadToken} {parts : List PartReceipt}

theorem Flaw.kind {reason : Refusal} (flaw : Flaw bucket token parts reason) :
    reason.kind = .invalidArgument := by
  cases flaw with
  | inl token => exact token.kind
  | inr parts => exact parts.kind

theorem flawless_iff : (∀ reason, ¬ Flaw bucket token parts reason) ↔
    Check.uploadToken token (some bucket) = .ok () ∧ Check.parts parts = .ok () := by
  rw [Check.uploadToken_flawless_iff, Check.parts_flawless_iff, ← forall_and]
  exact forall_congr' fun reason => not_or

theorem arranged_inOrder (accepted : Check.parts parts = .ok ()) :
    Arranged parts (Store.inOrder parts) where
  same := Memory.inOrder_perm parts
  ascending :=
    Sorting.pairwise_lt Memory.compares_number ((Check.parts_eq_ok_iff parts).mp accepted).2.1

example : (Store.inOrder [⟨2, .known "b", 5⟩, ⟨1, .known "a", 5⟩]).map (·.number) = [1, 2] := by
  cbv

end Flawless

section Laws
variable {a : Adapter ρ} {token : UploadToken} {parts : List PartReceipt} {w : World ρ}
  {reason : Refusal}

theorem completeBy_self : completeBy a token parts a.completeUpload =
    Store.completeUpload a token parts := rfl

theorem refused_of_flaw (flawed : ∃ reason, Flaw a.bucket token parts reason) :
    ∃ reason, Flaw a.bucket token parts reason ∧ Refused a token parts w reason := by
  have whole (joiner : Joiner ρ) := Store.runFrom_completeUpload
    (a := { a with completeUpload := joiner }) token parts w
  cases ours : Check.uploadToken token a.bucket with
  | error e =>
      obtain ⟨reason, about, rfl, flaw⟩ := Check.uploadToken_error ours
      refine ⟨reason, .inl flaw, about, fun joiner => ?_⟩
      exact (whole joiner).trans (by rw [ours])
  | ok _ =>
      cases accepted : Check.parts parts with
      | error e =>
          obtain ⟨reason, rfl, flaw⟩ := Check.parts_error accepted
          refine ⟨reason, .inr flaw, none, fun joiner => ?_⟩
          exact (whole joiner).trans (by rw [ours, accepted])
      | ok _ =>
          obtain ⟨reason, flaw⟩ := flawed
          exact absurd flaw (flawless_iff.mpr ⟨ours, accepted⟩ reason)

theorem submitted_inOrder (ours : Check.uploadToken token a.bucket = .ok ())
    (accepted : Check.parts parts = .ok ()) : Submitted a token parts w (Store.inOrder parts) := by
  intro joiner
  have whole := Store.runFrom_completeUpload (a := { a with completeUpload := joiner }) token parts w
  exact whole.trans (by rw [ours, accepted])

theorem submitted_of_flawless (flawless : ∀ reason, ¬ Flaw a.bucket token parts reason) :
    ∃ listed, Arranged parts listed ∧ Submitted a token parts w listed := by
  obtain ⟨ours, accepted⟩ := flawless_iff.mp flawless
  exact ⟨_, arranged_inOrder accepted, submitted_inOrder ours accepted⟩

theorem collected_of_flawless (flawless : ∀ reason, ¬ Flaw a.bucket token parts reason)
    {parts' : List PartReceipt} (perm : parts'.Perm parts) :
    ∃ listed, Submitted a token parts w listed ∧ Submitted a token parts' w listed := by
  obtain ⟨ours, accepted⟩ := flawless_iff.mp flawless
  have distinct := ((Check.parts_eq_ok_iff parts).mp accepted).2.1
  refine ⟨_, submitted_inOrder ours accepted, ?_⟩
  rw [Memory.inOrder_eq_of_perm perm.symm distinct]
  exact submitted_inOrder ours (Check.parts_ok_of_perm perm.symm accepted)

/-- What is refused whatever the primitive does is not what the primitive does: one that succeeds
shows it. -/
theorem not_submitted_of_refused {listed : List PartReceipt}
    (refused : Refused a token parts w reason) : ¬ Submitted a token parts w listed := by
  intro submitted
  obtain ⟨about, refused⟩ := refused
  have receipt : MultipartReceipt := ⟨none, none⟩
  have done := (refused fun _ _ => pure receipt).symm.trans (submitted fun _ _ => pure receipt)
  cases done

theorem flaw_of_refused (refused : Refused a token parts w reason) :
    Flaw a.bucket token parts reason := by
  by_cases flawed : ∃ reason, Flaw a.bucket token parts reason
  · obtain ⟨reason', flaw, about', refused'⟩ := refused_of_flaw (w := w) flawed
    obtain ⟨about, refused⟩ := refused
    cases (refused a.completeUpload).symm.trans (refused' a.completeUpload)
    exact flaw
  · obtain ⟨listed, -, submitted⟩ := submitted_of_flawless (w := w) (not_exists.mp flawed)
    exact absurd submitted (not_submitted_of_refused refused)

theorem submissionLaws (a : Adapter ρ) (token : UploadToken) (parts : List PartReceipt)
    (w : World ρ) : SubmissionLaws a token parts w where
  refused_iff := by
    constructor
    · intro ⟨reason, refused⟩
      exact ⟨reason, flaw_of_refused refused⟩
    · intro flawed
      obtain ⟨reason, -, refused⟩ := refused_of_flaw flawed
      exact ⟨reason, refused⟩
  told _ refused := ⟨flaw_of_refused refused, (flaw_of_refused refused).kind⟩
  submitted := submitted_of_flawless
  collected flawless _ := collected_of_flawless flawless
  noted {_ notes entry} noted := by
    by_cases flawed : ∃ reason, Flaw a.bucket token parts reason
    · obtain ⟨reason, -, about, refused⟩ := refused_of_flaw (w := w) flawed
      refine .inl ⟨flawed, ?_⟩
      rw [← completeBy_self, refused]
    · obtain ⟨listed, arranged, submitted⟩ := submitted_of_flawless (w := w) (not_exists.mp flawed)
      refine .inr ⟨not_exists.mp flawed, listed, arranged, ?_⟩
      rw [← completeBy_self, submitted]
      exact noted token listed w

end Laws
end BlobStorage
