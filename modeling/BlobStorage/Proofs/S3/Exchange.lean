import BlobStorage.Proofs.Client
import BlobStorage.S3.Adapter
import BlobStorage.S3.Exchange

/-!
What calls do to an exchange. Each method has its own line of replies: a call is answered by the first
reply in the line of its method, and is recorded. What the service reports is raised, to those who hold
the store, as it is or in its category.
-/
namespace BlobStorage.S3

namespace Exchange

/-- The replies to a method that are to come, in order. -/
def answers (e : Exchange) (method : Method) : List (Except Failure Reply) :=
  (e.replies.filter (·.1 = method)).map (·.2)

def nth (replies : List (Except Failure Reply)) (n : Nat) : Except Failure Reply :=
  replies[n]?.getD (.ok {})

theorem nth_zero (answer : Except Failure Reply) (more : List (Except Failure Reply)) :
    nth (answer :: more) 0 = answer := rfl

/-- The exchange after a call. -/
def after (e : Exchange) (call : Call) : Exchange where
  replies := (takeReply call.method e.replies).2
  calls := e.calls ++ [call]

/-- The world after calls in order. Nothing but the exchange has changed. -/
def played (w : World Exchange) (calls : List Call) : World Exchange :=
  { w with remote := calls.foldl after w.remote }

theorem played_cons (w : World Exchange) (call : Call) (rest : List Call) :
    played w (call :: rest) = played (played w [call]) rest := rfl

theorem takeReply_fst (method : Method) (replies : List (Method × Except Failure Reply)) :
    (takeReply method replies).1 = ((replies.filter (·.1 = method)).map (·.2)).head? := by
  induction replies with
  | nil => rfl
  | cons r rest ih =>
      by_cases here : r.1 = method
      · simp [takeReply, here]
      · simp [takeReply, here, ih]

theorem filter_takeReply (method : Method) (replies : List (Method × Except Failure Reply)) :
    (takeReply method replies).2.filter (·.1 = method) =
      (replies.filter (·.1 = method)).tail := by
  induction replies with
  | nil => rfl
  | cons r rest ih =>
      by_cases here : r.1 = method
      · simp [takeReply, here]
      · simp [takeReply, here, ih]

variable {e : Exchange} {call : Call} {method : Method} {calls : List Call}

theorem answers_after (own : call.method = method) :
    (e.after call).answers method = (e.answers method).tail := by
  subst own
  rw [answers, after, filter_takeReply, List.map_tail, answers]

/-- Calls of one method use up as many replies of its line. -/
theorem answers_played (w : World Exchange) (own : ∀ call ∈ calls, call.method = method) :
    (played w calls).remote.answers method = (w.remote.answers method).drop calls.length := by
  induction calls generalizing w with
  | nil => rfl
  | cons call rest ih =>
      obtain ⟨here, later⟩ := List.forall_mem_cons.mp own
      rw [played_cons, ih _ later]
      change List.drop _ ((w.remote.after call).answers method) = _
      rw [answers_after here, List.drop_tail, List.length_cons]

theorem answers_played_one (call : Call) {w : World Exchange} {answer : Except Failure Reply}
    {more : List (Except Failure Reply)} (own : call.method = method)
    (line : w.remote.answers method = answer :: more) :
    (played w [call]).remote.answers method = more := by
  rw [answers_played w (List.forall_mem_singleton.mpr own), line]
  rfl

theorem nth_played (method : Method) (w : World Exchange) (own : call.method = method) (n : Nat) :
    nth ((played w [call]).remote.answers method) n = nth (w.remote.answers method) (n + 1) := by
  rw [answers_played w (List.forall_mem_singleton.mpr own), nth, nth, List.getElem?_drop,
    List.length_singleton, Nat.add_comm]

theorem calls_played (w : World Exchange) (calls : List Call) :
    (played w calls).remote.calls = w.remote.calls ++ calls := by
  induction calls generalizing w with
  | nil => exact (List.append_nil _).symm
  | cons call rest ih =>
      rw [played_cons, ih]
      exact List.append_assoc ..

theorem pending_eq (e : Exchange) (method : Method) :
    e.pending method = (e.answers method).length := (List.length_map _).symm

/-- A call is answered by the first reply in the line of its method. -/
theorem runFrom_send (call : Call) (w : World Exchange) :
    (send call).runFrom w = (nth (w.remote.answers call.method) 0, played w [call]) := by
  have first : nth (w.remote.answers call.method) 0 =
      ((takeReply call.method w.remote.replies).1).getD (.ok {}) := by
    rw [takeReply_fst, nth, answers, List.head?_eq_getElem?]
  have left : played w [call] = { w with remote := w.remote.after call } := rfl
  rw [first, left, after]
  unfold send
  rw [Action.runFrom_bind_ok (Action.runFrom_get w)]
  rcases takeReply call.method w.remote.replies with ⟨reply, replies⟩
  rcases reply with _ | _ | _ <;> rfl

theorem runFrom_request (closable : Bool) (method : Method) (named : Parameters)
    (w : World Exchange) : ((client closable).request method named).runFrom w =
      (nth (w.remote.answers method) 0, played w [{ method, named }]) :=
  runFrom_send { method, named } w

end Exchange

namespace Store

/-- The store with a client that plays back an exchange. -/
def scripted (s : Store Exchange) (closable : Bool) : Store Exchange :=
  { s with client := Exchange.client closable }

variable {ρ : Type}

/-- The store as those hold it who call in a style, with or without categories for failures. -/
def held (s : Store ρ) (style : CallStyle) (categorizes : Bool) : BucketClient ρ where
  adapter := s.adapter World.unguarded
  style := style
  categorizes := categorizes

/-- What they get in place of a failure, of a call about a key. -/
def raised (style : CallStyle) (categorizes : Bool) (key : Option String) (f : Failure) : Failure :=
  if categorizes then (style.hand f).categorize (classify (style.hand f)) key true
  else style.hand f

section Held
variable {α : Type} {s : Store ρ} {style : CallStyle} {categorizes : Bool} {key : Option String}

theorem runFrom_held_error {action : Op ρ α} {w w' : World ρ} {f : Failure}
    (ran : action.runFrom w = (.error f, w')) :
    ((s.held style categorizes).call key action).runFrom w =
      (.error (raised style categorizes key f), w') :=
  BucketClient.runFrom_call_classified ran rfl

/-- A reply is handed on as it is, and is the cause of what is raised in its category. -/
theorem raised_reply (e : ErrorReply) : raised style categorizes key (.reply e) =
    if categorizes then .categorized e.kind (Failure.pickKey key none) (.reply e) true
    else .reply e := by
  have handed : style.hand (.reply e) = .reply e := by cases style <;> rfl
  rw [raised, handed]
  rfl

end Held
end Store
end BlobStorage.S3
