import BlobStorage.Client
import BlobStorage.Proofs.Directory.Transfer

/-!
What goes through a client: the client only puts failures into categories, so an operation succeeds
through it exactly when it succeeds by itself, and does the same to the remote side.
-/
namespace BlobStorage
variable {ρ α : Type}

section Categorizing
variable {classify : Failure → Op ρ ErrorKind} {key : Option String} {action : Op ρ α}

theorem runFrom_categorizing_ok_iff (w w' : World ρ) (x : α) :
    (categorizing classify key action).runFrom w = (.ok x, w') ↔ action.runFrom w = (.ok x, w') := by
  unfold categorizing
  rw [Action.runFrom_bind, Action.runFrom_outcome]
  rcases action.runFrom w with ⟨e | y, w₁⟩
  · constructor
    · intro h
      obtain ⟨f, w₂, _, thrown⟩ := Action.ok_of_bind_ok h
      cases thrown
    · intro h
      cases h
  · exact Iff.rfl

theorem keeps_categorizing {R : World ρ → World ρ → Prop} [Std.Refl R] [IsTrans (World ρ) R]
    (hc : ∀ f, (classify f).Keeps R) (h : action.Keeps R) :
    (categorizing classify key action).Keeps R := by
  refine Action.Keeps.bind h.outcome fun r => ?_
  cases r with
  | ok x => exact Action.Keeps.pure _
  | error f =>
      exact Action.Keeps.bind (Directory.keeps_categorizeWith (hc f) _ _) fun _ => Action.Keeps.throw _

/-- Categorizing a failure does nothing to the remote side. -/
theorem of_categorizing_error (hc : ∀ f, Quiet (classify f)) {w w' : World ρ} {e : Failure}
    (run : (categorizing classify key action).runFrom w = (.error e, w')) :
    ∃ f w₁, action.runFrom w = (.error f, w₁) ∧ w'.remote = w₁.remote := by
  unfold categorizing at run
  rw [Action.runFrom_bind, Action.runFrom_outcome] at run
  rcases own : action.runFrom w with ⟨f | x, w₁⟩
  · rw [own] at run
    have quiet : Quiet (do throw (← categorizeWith classify f key true) : Op ρ α) :=
      Action.Keeps.bind (Directory.keeps_categorizeWith (hc f) _ _) fun _ => Action.Keeps.throw _
    have later := quiet w₁
    rw [show Action.runFrom _ w₁ = (.error e, w') from run] at later
    exact ⟨f, w₁, rfl, later⟩
  · rw [own] at run
    cases run

end Categorizing

namespace BucketClient
variable {c : BucketClient ρ}

theorem runFrom_call_congr (key : Option String) {action action' : Op ρ α} {w : World ρ}
    (same : action.runFrom w = action'.runFrom w) :
    (c.call key action).runFrom w = (c.call key action').runFrom w := by
  have reached : (c.style.reach action).runFrom w = (c.style.reach action').runFrom w := by
    rw [CallStyle.runFrom_reach, CallStyle.runFrom_reach, same]
  unfold call
  split
  · unfold categorizing
    rw [Action.runFrom_bind, Action.runFrom_bind, Action.runFrom_outcome, Action.runFrom_outcome,
      reached]
  · exact reached

theorem runFrom_call_ok_iff (key : Option String) (action : Op ρ α) (w w' : World ρ) (x : α) :
    (c.call key action).runFrom w = (.ok x, w') ↔ action.runFrom w = (.ok x, w') := by
  refine Iff.trans ?_ (c.style.runFrom_reach_ok_iff)
  unfold call
  split
  · exact runFrom_categorizing_ok_iff w w' x
  · exact Iff.rfl

theorem runFrom_call_error {key : Option String} {action : Op ρ α} {w w' : World ρ} {f : Failure}
    (run : action.runFrom w = (.error f, w')) :
    (c.call key action).runFrom w =
      if c.categorizes then
        Action.runFrom (categorizeWith c.adapter.classify (c.style.hand f) key true >>= fun f =>
          throw f) w'
      else (.error (c.style.hand f), w') := by
  have reached := c.style.runFrom_reach_error run
  unfold call categorizing
  split
  · rw [Action.runFrom_bind, Action.runFrom_outcome, reached]
  · exact reached

theorem runFrom_call_classified {key : Option String} {action : Op ρ α} {w w' : World ρ}
    {f : Failure} {kind : ErrorKind} (run : action.runFrom w = (.error f, w'))
    (classified : (c.adapter.classify (c.style.hand f)).runFrom w' = (.ok kind, w')) :
    (c.call key action).runFrom w =
      (.error (if c.categorizes then (c.style.hand f).categorize kind key true
        else c.style.hand f), w') := by
  rw [runFrom_call_error run]
  split
  · refine Action.runFrom_bind_ok ((runFrom_categorizeWith ..).trans ?_) _
    rw [verdict, classified]
  · rfl

theorem keeps_call {R : World ρ → World ρ → Prop} [Std.Refl R] [IsTrans (World ρ) R]
    (hc : ∀ f, (c.adapter.classify f).Keeps R) (key : Option String) {action : Op ρ α}
    (h : action.Keeps R) : (c.call key action).Keeps R := by
  unfold call
  split
  · exact keeps_categorizing hc (c.style.keeps_reach h)
  · exact c.style.keeps_reach h

theorem of_call_error (hc : ∀ f, Quiet (c.adapter.classify f)) {key : Option String}
    {action : Op ρ α} {w w' : World ρ} {e : Failure}
    (run : (c.call key action).runFrom w = (.error e, w')) :
    ∃ f w₁, action.runFrom w = (.error f, w₁) ∧ w'.remote = w₁.remote := by
  unfold call at run
  split at run
  · obtain ⟨f, w₁, reached, same⟩ := of_categorizing_error hc run
    obtain ⟨own, ran, _⟩ := c.style.error_of_reach reached
    exact ⟨own, w₁, ran, same⟩
  · obtain ⟨own, ran, _⟩ := c.style.error_of_reach run
    exact ⟨own, w', ran, rfl⟩

theorem atomic_call {P : ρ → α → ρ → Prop} (hc : ∀ f, Quiet (c.adapter.classify f))
    (key : Option String) {action : Op ρ α} (h : Atomic P action) :
    Atomic P (c.call key action) := by
  intro w
  rcases run : (c.call key action).runFrom w with ⟨e | x, w'⟩
  · obtain ⟨f, w₁, own, same⟩ := of_call_error hc run
    exact same.trans (h.of_error own)
  · exact h.of_ok ((runFrom_call_ok_iff _ _ _ _ _).mp run)

end BucketClient

theorem ServiceClient.of_call_error {c : ServiceClient ρ} (hc : ∀ f, Quiet (c.adapter.classify f))
    {action : Op ρ α} {w w' : World ρ} {e : Failure}
    (run : (c.call action).runFrom w = (.error e, w')) :
    ∃ f w₁, action.runFrom w = (.error f, w₁) ∧ w'.remote = w₁.remote := by
  unfold call at run
  split at run
  · exact of_categorizing_error hc run
  · exact ⟨e, w', run, rfl⟩

theorem ServiceClient.keeps_call {c : ServiceClient ρ} {R : World ρ → World ρ → Prop} [Std.Refl R]
    [IsTrans (World ρ) R] (hc : ∀ f, (c.adapter.classify f).Keeps R) {action : Op ρ α}
    (h : action.Keeps R) : (c.call action).Keeps R := by
  unfold call
  split
  · exact keeps_categorizing hc h
  · exact h

section Listings
variable (style : CallStyle)

def Ending.hand : Ending → Ending
  | .failed f => .failed (style.hand f)
  | ending => ending

def Run.hand (r : Run α) : Run α := { r with ending := r.ending.hand style }

namespace Listing
variable (a : Adapter ρ)

theorem listPage_listingIn (request : PageRequest) :
    Store.listPage (a.listingIn style) request = style.reach (Store.listPage a request) := by
  have checked (n : Int) :
      style.reach (Store.check (Check.positive "max_results" (.whole n)) : Op ρ Unit) =
        Store.check (Check.positive "max_results" (.whole n)) := by
    have fine_or_refused : Check.positive "max_results" (.whole n) = .ok () ∨
        Check.positive "max_results" (.whole n) =
          Check.refuse (.notPositive "max_results" (.whole n)) := by
      unfold Check.positive Check.incomparable?
      by_cases small : n ≤ 0 <;> simp [small]
    cases fine_or_refused with
    | inl fine =>
        rw [fine]
        cases style <;> rfl
    | inr refused =>
        rw [refused]
        cases style <;> rfl
  unfold Store.listPage
  cases request.maxResults with
  | none => rfl
  | some n =>
      refine Eq.trans ?_ (style.reach_bind _ _).symm
      rw [checked]
      rfl

theorem fetch_listingIn (request : ListRequest) (token : Option PageToken) :
    fetch (a.listingIn style) request token =
      Except.mapError style.hand <$> fetch a request token := by
  refine Action.ext fun w => ?_
  rw [Action.runFrom_map]
  unfold fetch
  rw [listPage_listingIn, Action.runFrom_bind, Action.runFrom_bind, Action.runFrom_outcome,
    Action.runFrom_outcome, CallStyle.runFrom_reach]
  rcases (Store.listPage a { request with token }).runFrom w with ⟨e | page, w'⟩
  · simp [Except.mapError, Except.map, CallStyle.hand_within]
  · rfl

theorem pull_listingIn (request : ListRequest) (bound : Nat) (token : Option PageToken)
    (wanted : Option Nat) :
    pull (a.listingIn style) request bound token wanted =
      Run.hand style <$> pull a request bound token wanted := by
  induction bound generalizing token wanted with
  | zero =>
      cases wanted with
      | none => rfl
      | some n => cases n <;> rfl
  | succ bound ih =>
      have next (go : wanted ≠ some 0) : pull (a.listingIn style) request (bound + 1) token wanted =
          Run.hand style <$> pull a request (bound + 1) token wanted := by
        rw [pull, pull, fetch_listingIn, bind_map_left, map_bind]
        · congr 1
          funext answer
          cases answer with
          | error f => rfl
          | ok page =>
              dsimp only [Except.mapError]
              cases page.follow? with
              | none =>
                  have told (here : List BlobInfo) : (⟨here, if here.length < page.blobs.length
                      then .cut else .complete⟩ : Run BlobInfo).hand style = ⟨here,
                        if here.length < page.blobs.length then .cut else .complete⟩ := by
                    unfold Run.hand
                    congr 1
                    dsimp only
                    split <;> rfl
                  rw [map_pure, told]
              | some next =>
                  simp [ih]
                  rfl
        · exact go
        · exact go
      cases wanted with
      | none => exact next (by simp)
      | some n =>
          cases n with
          | zero => rfl
          | succ n => exact next (by simp)

theorem blobs_listingIn (request : ListRequest) (wanted : Option Nat) :
    blobs (a.listingIn style) request wanted = Run.hand style <$> blobs a request wanted := by
  unfold blobs
  rw [map_bind]
  exact bind_congr fun w => pull_listingIn style a request (a.pageBound w) none wanted

theorem walk_listingIn (request : ListRequest) (bound number : Nat) (token : Option PageToken) :
    walk (a.listingIn style) request (fun _ _ => none) bound number token =
      Run.hand style <$> walk a request (fun _ _ => none) bound number token := by
  induction bound generalizing number token with
  | zero => rfl
  | succ bound ih =>
      rw [walk, walk, fetch_listingIn, bind_map_left, map_bind]
      congr 1
      funext answer
      cases answer with
      | error f => rfl
      | ok page =>
          dsimp only [Except.mapError]
          cases page.follow? with
          | none => rfl
          | some next =>
              simp [ih]
              rfl

theorem pages_listingIn (request : ListRequest) :
    pages (a.listingIn style) request = Run.hand style <$> pages a request := by
  unfold pages
  rw [map_bind]
  exact bind_congr fun w => walk_listingIn style a request (a.pageBound w) 1 none

end Listing
end Listings
end BlobStorage
