import BlobStorage.Queue
import BlobStorage.Reply

/-!
Uploading one source in parts. The source is cut into numbered parts; the parts are sent, in any
order, and then joined. If anything fails after the upload was opened, it is aborted before the
failure comes out.
-/
namespace BlobStorage.Multipart

def defaultPartSize : Int := 8388608

def drain (size : Nat) (content : Content) : List Content :=
  let piece := content.take size
  if size = 0 ∨ content.length = 0 then []
  else piece :: drain size (content.drop size)
termination_by content.length
decreasing_by
  simp only [List.length_drop]
  omega

/-- The pieces of a source. That the first read of a stream can be asked for so many bytes at all
goes for every later one. -/
def chunks (source : Source) (size : Nat) : Except Ambient (List Content) :=
  match source with
  | .bytes content => .ok (Content.pieces size content)
  | .stream content => do
      let _ ← content.read (Int.ofNat size)
      return drain size content

def number : Int → List Content → List Part
  | _, [] => []
  | n, c :: rest =>
      let part : Part := { number := n, source := .bytes c, contentLength := Int.ofNat c.length }
      part :: number (n + 1) rest

/-- The parts of a source. The last may be shorter, and an empty source has one empty part. -/
def parts (source : Source) (size : Int) : Except Failure (List Part) :=
  if size < 1 then .error (.refused (.partSize size))
  else
    match chunks source size.toNat with
    | .error a => .error (.ambient a)
    | .ok [] => .ok (number 1 [[]])
    | .ok pieces => .ok (number 1 pieces)

structure Client (σ : Type) where
  initiate : MultipartRequest → Action σ UploadToken
  sendPart : UploadToken → Part → Action σ PartReceipt
  complete : UploadToken → List PartReceipt → Action σ MultipartReceipt
  abort : UploadToken → Action σ Unit

/-- How many parts may be on their way at once: a number of workers, which must be at least one
where it is set, or a limit that may be zero but not less. -/
inductive Concurrency where
  | workers (count : Option Int)
  | limit (count : Int)
  deriving DecidableEq, Repr

variable {σ : Type}

/-- How many parts may be submitted and not looked at, where that is bounded: two for every worker,
of whom there are four unless a number is set. -/
def Concurrency.window : Concurrency → Option Nat
  | .workers (some n) => some (2 * n.toNat)
  | .workers none => some 8
  | .limit _ => none

structure Schedule where
  /-- The parts that are sent in each round. A round is numbered by how many parts were sent before
  it. -/
  pace : Pace := .eager
  /-- Of the parts that still wait when an upload has been aborted, those that are sent even so. -/
  late : Turns := []

abbrev Sending := Queue Part (Except Failure PartReceipt)

namespace Sending

def failed (q : Sending) : Bool := q.done.any fun (r, _) => !r.isOk

/-- The receipts of the parts, or the first failure. What workers did is handed over part by
part. -/
def receipts (q : Sending) (concurrency : Concurrency) : Except Failure (List PartReceipt) :=
  let gathered := q.results.mapM id
  match concurrency with
  | .workers _ => gathered.mapError (·.within .generator)
  | .limit _ => gathered

end Sending

def sendPart (client : Client σ) (token : UploadToken) (p : Part) :
    Action σ (Except Failure PartReceipt) :=
  (client.sendPart token p).outcome

/-- Submits part after part. Once as many wait as the window allows, there is a round of sending,
of one part at least. After a round in which a part has failed, no more are submitted. -/
def submitWithin (client : Client σ) (token : UploadToken) (window : Nat) (pace : Pace) :
    Sending → List Part → Action σ Sending
  | q, [] => return q
  | q, p :: rest =>
      if q.waiting.length < window then
        submitWithin client token window pace (q.submit [p]) rest
      else do
        let turns := pace q.done.length q.waiting.length
        let q ← q.advance (sendPart client token) (if turns.isEmpty then [0] else turns)
        if Sending.failed q then return q
        else submitWithin client token window pace (q.submit [p]) rest

/-- Sends parts. Workers send all that was submitted, even after a failure. Where there is a limit
instead, all parts are submitted at once, and those that have not been sent by the end of the round
in which one fails are left waiting. -/
def sendParts (client : Client σ) (token : UploadToken) (concurrency : Concurrency) (pace : Pace)
    (ps : List Part) : Action σ Sending := do
  match concurrency.window with
  | some window => do
      let q ← submitWithin client token window pace {} ps
      q.finish (sendPart client token) (pace q.done.length q.waiting.length)
  | none => do
      let q : Sending := {}
      let q ← (q.submit ps).advance (sendPart client token) (pace 0 ps.length)
      if Sending.failed q then return q else q.finish (sendPart client token) []

/-- The workers' number is looked at once the upload is open. -/
def checkWorkers : Concurrency → Except Failure Unit
  | .workers (some n) => if n < 1 then .error (.ambient .workersRange) else .ok ()
  | _ => .ok ()

/-- A negative limit is refused before anything could be aborted. -/
def checkLimit : Concurrency → Except Failure Unit
  | .limit n => if n < 0 then .error (.ambient .semaphoreRange) else .ok ()
  | _ => .ok ()

def send (client : Client σ) (token : UploadToken) (source : Source) (size : Int)
    (concurrency : Concurrency) (pace : Pace) :
    Action σ (Except Failure MultipartReceipt × Sending) := do
  match checkWorkers concurrency, parts source size with
  | .error f, _ => return (.error f, {})
  | .ok _, .error f => return (.error f, {})
  | .ok _, .ok ps => do
      let q ← sendParts client token concurrency pace ps
      match Sending.receipts q concurrency with
      | .error f => return (.error f, q)
      | .ok receipts => return (← (client.complete token receipts).outcome, q)

def abortQuietly (client : Client σ) (token : UploadToken) : Action σ Unit := do
  let _ ← (client.abort token).outcome
  return ()

def upload (client : Client σ) (request : MultipartRequest) (source : Source) (size : Int)
    (concurrency : Concurrency) (schedule : Schedule := {}) : Action σ MultipartReceipt := do
  let token ← client.initiate request
  Action.ofExcept (checkLimit concurrency)
  match ← send client token source size concurrency schedule.pace with
  | (.ok receipt, _) => return receipt
  | (.error f, q) => do
      abortQuietly client token
      let _ ← q.advance (sendPart client token) schedule.late
      throw f

end BlobStorage.Multipart
