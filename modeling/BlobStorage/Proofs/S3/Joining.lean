import BlobStorage.Proofs.Memory.PartOrder
import BlobStorage.Proofs.S3.Exchange

/-!
Requests to the S3 service that join the parts of an upload. A completion that is not refused makes one
such request, which lists the number and the tag of each part once, with the numbers ascending.
-/
namespace BlobStorage
namespace S3

/-- A part, as a request to join parts lists it. -/
def pairOf (p : PartReceipt) : Value :=
  .map [("PartNumber", .whole p.number), ("ETag", p.etag.value)]

/-- The number that a listed pair has. -/
def pairNumber? (v : Value) : Option Int :=
  match v.part "PartNumber" with
  | .ok (.whole n) => some n
  | _ => none

/-- The request that joins the listed parts. -/
def joiningCall (token : UploadToken) (listed : List PartReceipt) : Call where
  method := .completeUpload
  named := Parameters.multipart token ++
    [("MultipartUpload", .map [("Parts", .list (listed.map pairOf))])]

def receiptOf (reply : Reply) : Except Ambient MultipartReceipt := do
  return { etag := ← Document.said? reply.value "ETag",
           version := ← Document.said? reply.value "VersionId" }

/-- A request for the upload of a token that lists the number and the tag of each part once, with the
numbers ascending. -/
structure Joins (token : UploadToken) (parts : List PartReceipt) (call : Call) : Prop where
  method : call.method = .completeUpload
  listed : ∃ pairs, call.named = Parameters.multipart token ++
      [("MultipartUpload", .map [("Parts", .list pairs)])] ∧
    pairs.Perm (parts.map pairOf) ∧ pairs.Nodup ∧
    ∃ numbers : List Int, pairs.map pairNumber? = numbers.map some ∧ numbers.Pairwise (· < ·)

/-- What completions ask of the service. -/
structure RequestLaws (token : UploadToken) (parts : List PartReceipt) : Prop where
  /-- With any client of the service, a completion is one such request, and reading the reply. -/
  requested : ∀ {ρ : Type} (s : Store ρ) (w : World ρ),
    (∀ reason, ¬ Flaw s.bucket token parts reason) → ∃ call, Joins token parts call ∧
      (BlobStorage.Store.completeUpload (s.adapter World.unguarded) token parts).runFrom w =
        (do Action.ofAmbient (receiptOf (← s.client.send call))).runFrom w
  /-- No request is made after a refusal, and one otherwise, whatever the service replies. -/
  recorded : ∀ (s : Store Exchange) closable (w : World Exchange),
    (∃ reason, Flaw s.bucket token parts reason) ∧
        ((BlobStorage.Store.completeUpload ((s.scripted closable).adapter World.unguarded) token
          parts).runFrom w).2.remote.calls = w.remote.calls ∨
      (∀ reason, ¬ Flaw s.bucket token parts reason) ∧ ∃ call, Joins token parts call ∧
        ((BlobStorage.Store.completeUpload ((s.scripted closable).adapter World.unguarded) token
          parts).runFrom w).2.remote.calls = w.remote.calls ++ [call]

theorem pairNumber?_pairOf (p : PartReceipt) : pairNumber? (pairOf p) = some p.number := rfl

theorem joins_joiningCall (token : UploadToken) {parts listed : List PartReceipt}
    (arranged : Arranged parts listed) : Joins token parts (joiningCall token listed) where
  method := rfl
  listed := by
    have numbers : (listed.map (·.number)).Pairwise (· < ·) :=
      List.pairwise_map.mpr arranged.ascending
    have shown : (listed.map pairOf).map pairNumber? = (listed.map (·.number)).map some := by
      rw [List.map_map, List.map_map]
      exact List.map_congr_left fun p _ => pairNumber?_pairOf p
    -- The numbers tell the pairs apart, whatever the tags are.
    have distinct : ((listed.map pairOf).map pairNumber?).Nodup := by
      rw [shown]
      exact List.Nodup.map (fun _ _ same => Option.some.inj same) (numbers.imp ne_of_lt)
    exact ⟨_, rfl, arranged.same.map pairOf, distinct.of_map, _, shown, numbers⟩

theorem runFrom_completeUpload {ρ : Type} (s : Store ρ) (token : UploadToken)
    (listed : List PartReceipt) (w : World ρ) :
    ((s.adapter World.unguarded).completeUpload token listed).runFrom w =
      (do Action.ofAmbient (receiptOf (← s.client.send (joiningCall token listed)))).runFrom w :=
  World.runFrom_unguarded _ _ _ w

/-- An exchange records the request of each completion. -/
theorem notes_scripted (s : Store Exchange) (closable : Bool) :
    Notes ((s.scripted closable).adapter World.unguarded).completeUpload Exchange.calls
      joiningCall := by
  intro token listed w
  have asked : ((s.scripted closable).client.send (joiningCall token listed)).runFrom w = _ :=
    Exchange.runFrom_send (joiningCall token listed) w
  rw [runFrom_completeUpload, Action.runFrom_bind, asked]
  have recorded := Exchange.calls_played w [joiningCall token listed]
  cases Exchange.nth (w.remote.answers (joiningCall token listed).method) 0 with
  | error f => exact recorded
  | ok reply => exact recorded

theorem requestLaws (token : UploadToken) (parts : List PartReceipt) : RequestLaws token parts where
  requested s w flawless := by
    obtain ⟨listed, arranged, submitted⟩ :=
      submitted_of_flawless (a := s.adapter World.unguarded) (w := w) flawless
    refine ⟨joiningCall token listed, joins_joiningCall token arranged, ?_⟩
    rw [← completeBy_self, submitted, runFrom_completeUpload]
  recorded s closable w := by
    have laws := submissionLaws ((s.scripted closable).adapter World.unguarded) token parts w
    rcases laws.noted (notes_scripted s closable) with refused | ⟨flawless, listed, arranged, asked⟩
    · exact .inl refused
    · exact .inr ⟨flawless, _, joins_joiningCall token arranged, asked⟩

end S3

/-- Completions through any adapter, through clients of a memory store, and at the S3 service. -/
theorem submissions_of_completions (token : UploadToken) (parts : List PartReceipt) :
    (∀ {ρ : Type} (a : Adapter ρ) (w : World ρ), SubmissionLaws a token parts w) ∧
      Memory.OrderLaws token parts ∧ S3.RequestLaws token parts :=
  ⟨fun a w => submissionLaws a token parts w, Memory.orderLaws token parts, S3.requestLaws token parts⟩

end BlobStorage
