import BlobStorage.Memory.Fault
import BlobStorage.Request

/-!
The part of an object's bytes that a download asks for.
-/
namespace BlobStorage.Memory

/-- A start must lie inside the object; an end beyond it is moved to its last byte. An end alone
asks for the last so many bytes. -/
def slice (data : Content) (r : DownloadRequest) : Except Fault Content :=
  match r.start, r.stop with
  | none, none => .ok data
  | none, some stop => .ok (Content.suffix stop.toNat data)
  | some start, stop =>
      if Int.ofNat data.length ≤ start then .error (.rangeBeyond start data.length)
      else
        let beyond := (stop.map (·.toNat + 1)).getD data.length
        .ok ((data.take beyond).drop start.toNat)

end BlobStorage.Memory
