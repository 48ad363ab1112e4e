import BlobStorage.Failure
import BlobStorage.Settings.Config

/-!
Managed transfers: an object moved in concurrent pieces once it is large enough.
-/
namespace BlobStorage.S3

structure Transfer where
  /-- The size from which an object is moved in pieces. -/
  threshold : Int := 8388608
  chunk : Int := 8388608
  concurrency : Int := 10
  threads : Bool := true
  deriving DecidableEq, Repr

namespace Transfer

def value (t : Transfer) : Value :=
  .map [("threshold", .whole t.threshold), ("chunk", .whole t.chunk),
    ("concurrency", .whole t.concurrency), ("threads", .flag t.threads)]

def positive (name : String) (n : Int) : Except Failure Unit :=
  if n ≤ 0 then .error (.ambient (.parameterRange name n)) else .ok ()

def check (t : Transfer) : Except Failure Unit := do
  positive "multipart_threshold" t.threshold
  positive "multipart_chunksize" t.chunk
  positive "max_request_concurrency" t.concurrency

/-- How many requests at once: the limit for the client, or else the number of its threads. -/
def concurrencyOf (c : Config) : Option Int :=
  match c.maxConcurrency with
  | some n => if n = 0 then c.threadPoolSize else some n
  | none => c.threadPoolSize

/-- Managed transfers, if uploads or downloads are to be parallel. -/
def ofConfig? (c : Config) : Except Failure (Option Transfer) :=
  if !(c.parallelDownloads.getD false) && !(c.parallelUploads.getD false) then .ok none
  else do
    let standard : Transfer := {}
    let t : Transfer :=
      { threshold := c.thresholdBytes.getD standard.threshold
        chunk := c.partBufferSize.getD standard.chunk
        concurrency := (concurrencyOf c).getD standard.concurrency }
    t.check
    return some t

end Transfer
end BlobStorage.S3
