import BlobStorage.S3.Call

/-!
An exchange with the S3 service that is settled beforehand: the calls that were made, in order, and
the replies that are still to come. Each method has its own line of replies; a method whose line is
used up gets an empty reply.
-/
namespace BlobStorage.S3

structure Exchange where
  /-- The replies to come, each with the method it answers. -/
  replies : List (Method × Except Failure Reply) := []
  calls : List Call := []
  deriving Repr

namespace Exchange

def takeReply (method : Method) : List (Method × Except Failure Reply) →
    Option (Except Failure Reply) × List (Method × Except Failure Reply)
  | [] => (none, [])
  | (m, reply) :: rest =>
      if m = method then (some reply, rest)
      else
        let (found, rest) := takeReply method rest
        (found, (m, reply) :: rest)

/-- Makes a call, which is recorded whatever the reply is. -/
def send (call : Call) : Op Exchange Reply := do
  let w ← get
  let (reply, replies) := takeReply call.method w.remote.replies
  let remote : Exchange := { replies, calls := w.remote.calls ++ [call] }
  set { w with remote }
  match reply with
  | none => return ({} : Reply)
  | some (.ok r) => return r
  | some (.error f) => throw f

def pending (e : Exchange) (method : Method) : Nat :=
  (e.replies.filter (·.1 = method)).length

/-- The client whose replies are those of the exchange. What goes on from one request to the next
ends when the replies have run out, at the latest. -/
def client (closable : Bool := true) : Client Exchange where
  send := send
  bound w method := w.remote.pending method + 1
  closable := closable

def partNumber (c : Call) : Int :=
  match c.named.find? (·.1 = "PartNumber") with
  | some (_, .whole n) => n
  | _ => 0

/-- Calls that may have been made in any order, by their methods and parts. -/
def arranged (calls : List Call) : List Call :=
  calls.mergeSort fun a b =>
    decide (a.method.name < b.method.name)
      || (a.method.name = b.method.name && decide (partNumber a ≤ partNumber b))

def takeCalls : Op Exchange (List Call) := do
  let w ← get
  let remote : Exchange := { w.remote with calls := [] }
  set { w with remote }
  return w.remote.calls

end Exchange
end BlobStorage.S3
