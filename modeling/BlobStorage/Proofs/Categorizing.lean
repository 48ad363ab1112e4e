import BlobStorage.Proofs.Buffer

/-!
What a categorizing client raises in place of a failure of its adapter, whatever the adapter and the
failure, and whether or not the classification itself goes well. A failure that has come out of a client
is settled: no provider that classifies it again, and no key, changes it.
-/
namespace BlobStorage
variable {ρ α : Type}

namespace Failure
variable {f : Failure} {k : ErrorKind}

theorem isExactly_categorize (f : Failure) (k : ErrorKind) (key : Option String) (chained : Bool) :
    (f.categorize k key chained).isExactly k = true := by
  unfold categorize
  split
  · assumption
  · exact decide_eq_true rfl

theorem label_of_isExactly (own : f.isExactly k = true) : f.label = k.label := by
  cases f with
  | refusal reason _ => rw [← of_decide_eq_true own, label]
  | stated category _ _ => rw [of_decide_eq_true own, label]
  | categorized category _ _ _ => rw [← of_decide_eq_true own, label]
  | _ => cases own

/-- A failure of exactly a category's class is of this category for every provider. -/
theorem commonKind?_of_isExactly (own : f.isExactly k = true) : f.commonKind? = some k := by
  cases f with
  | refusal reason _ => exact congrArg some (of_decide_eq_true own)
  | stated category _ _ =>
      rw [of_decide_eq_true own]
      rfl
  | categorized category _ _ _ => exact congrArg some (of_decide_eq_true own)
  | _ => cases own

theorem classify_of_isExactly (own : f.isExactly k = true) :
    Memory.classify f = k ∧ S3.classify f = k := by
  have common := commonKind?_of_isExactly own
  cases f with
  | refusal | stated | categorized => exact ⟨congrArg (·.getD .unknown) common,
      congrArg (·.getD .unknown) common⟩
  | _ => cases own

end Failure

/-- A failure that was put into a category keeps the one it was made of, as its cause and as what was
being handled when it was raised. It says the same, or names the class of one that says nothing, and is
about the key of the call, or else about the key that its cause names. -/
structure Wrapped (k : ErrorKind) (key : Option String) (e r : Failure) : Prop where
  cause : ∃ about, r = .categorized k about e true
  said : e.text ≠ "" → r.text = e.text
  nothing_said : e.text = "" → r.text = e.label
  key_of_call : ∀ name, key = some name → name ≠ "" → r.key? = some name
  own_key : key = none ∨ key = some "" → r.key? = e.key?

/-- What comes out in place of a failure that was classified, of a call about a key. -/
structure Translated (k : ErrorKind) (key : Option String) (e r : Failure) : Prop where
  exactly : r.isExactly k = true
  label : r.label = k.label
  same : e.isExactly k = true → r = e
  wrapped : e.isExactly k = false → Wrapped k key e r
  /-- Put into a category by either provider, about whatever key, it stays as it is. -/
  settled : ∀ classify ∈ [Memory.classify, S3.classify], ∀ {ρ : Type} (about : Option String)
    (chained : Bool) (w : World ρ),
    (categorizeWith (fun f => return classify f) r about chained).runFrom w = (.ok r, w)

theorem wrapped_categorize {k : ErrorKind} {e : Failure} (other : e.isExactly k = false)
    (key : Option String) : Wrapped k key e (e.categorize k key true) := by
  have made : e.categorize k key true = .categorized k (Failure.pickKey key e.key?) e true := by
    simp [Failure.categorize, other]
  rw [made]
  refine ⟨⟨_, rfl⟩, fun said => ?_, fun silent => ?_, fun name given some_name => ?_, fun free => ?_⟩
  · simp [Failure.text, said]
  · simp [Failure.text, silent]
  · simp [Failure.key?, Failure.pickKey, given, some_name]
  · cases free with
    | inl none => simp [Failure.key?, Failure.pickKey, none]
    | inr empty => simp [Failure.key?, Failure.pickKey, empty]

theorem settled_of_isExactly {k : ErrorKind} {r : Failure} (own : r.isExactly k = true) :
    ∀ classify ∈ [Memory.classify, S3.classify], ∀ {ρ : Type} (about : Option String)
      (chained : Bool) (w : World ρ),
      (categorizeWith (fun f => return classify f) r about chained).runFrom w = (.ok r, w) := by
  intro classify provider ρ about chained w
  have classified : classify r = k := by
    have both := Failure.classify_of_isExactly own
    simp only [List.mem_cons, List.not_mem_nil, or_false] at provider
    cases provider with
    | inl memory => exact memory ▸ both.1
    | inr s3 => exact s3 ▸ both.2
  rw [runFrom_categorizeWith]
  change (Except.ok (r.categorize (classify r) about chained), w) = _
  rw [classified, Failure.categorize, if_pos own]

theorem translated_categorize (k : ErrorKind) (key : Option String) (e : Failure) :
    Translated k key e (e.categorize k key true) := by
  have own := e.isExactly_categorize k key true
  refine ⟨own, Failure.label_of_isExactly own, fun already => ?_,
    fun other => wrapped_categorize other key, settled_of_isExactly own⟩
  rw [Failure.categorize, if_pos already]

namespace BucketClient

section Contract
variable {c : BucketClient ρ} (categorizes : c.categorizes = true)
include categorizes

theorem runFrom_settle {β : Type} {run : Run β} {e : Failure} (failed : run.ending = .failed e)
    (w : World ρ) :
    ∃ r w₁, (c.settle run).runFrom w = (.ok ⟨run.delivered, .failed r⟩, w₁) ∧
      Translated (verdict c.adapter.classify e w) none e r := by
  refine ⟨_, ((c.adapter.classify e).runFrom w).2, ?_, translated_categorize _ none e⟩
  unfold settle
  rw [failed]
  dsimp only
  rw [if_pos categorizes]
  exact Action.runFrom_bind_ok (runFrom_categorizeWith c.adapter.classify e none true w) _

end Contract
end BucketClient

end BlobStorage
