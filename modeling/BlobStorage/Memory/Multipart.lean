import BlobStorage.Memory.Backend
import BlobStorage.Reply
import BlobStorage.Text.Hex

/-!
Uploads in parts. The upload keeps the latest bytes of each part number; completing it joins the
parts that are listed, in their order, and removes the upload.
-/
namespace BlobStorage.Memory.Backend

def openUpload (s : Backend) (bucket id : String) (r : MultipartRequest) :
    Except Fault Backend := do
  let b ← s.bucket bucket
  let u : Upload :=
    { key := r.key, metadata := r.metadata, tags := r.tags, contentType := r.contentType }
  return s.setBucket { b with uploads := b.uploads.set id u }

def upload (s : Backend) (bucket : String) (token : UploadToken) :
    Except Fault (Bucket × String × Upload) := do
  let b ← s.bucket bucket
  return (b, ← b.upload token)

def putPart (s : Backend) (bucket : String) (token : UploadToken) (number : Int) (data : Content) :
    Except Fault Backend := do
  let (b, id, u) ← s.upload bucket token
  let u := { u with parts := u.parts.set number (data, etagOf data) }
  return s.setBucket { b with uploads := b.uploads.set id u }

def listParts (s : Backend) (bucket : String) (token : UploadToken) :
    Except Fault (List ListedPart) := do
  let (_, _, u) ← s.upload bucket token
  return u.parts.map fun (number, data, etag) =>
    { number := .known number, etag := .known etag, size := .known (Int.ofNat data.length) }

def chosenParts (u : Upload) : List PartReceipt → Except Fault (List (Content × String))
  | [] => .ok []
  | p :: rest =>
      match u.parts.get? p.number with
      | some (data, etag) =>
          if p.etag.known? = some etag then do return (data, etag) :: (← chosenParts u rest)
          else .error (.partMissing p.number)
      | none => .error (.partMissing p.number)

def ascending : List Int → Bool
  | [] => true
  | [_] => true
  | a :: b :: rest => a ≤ b && ascending (b :: rest)

/-- The tag of a completed upload: the digest of its parts' digests, and their number. -/
def joinedEtag (parts : List (Content × String)) : String :=
  let digests := parts.flatMap fun (data, _) => Digest.Md5.digest data
  "\"" ++ Digest.Md5.hex digests ++ "-" ++ toString parts.length ++ "\""

def removeUpload (s : Backend) (b : Bucket) (id : String) : Backend :=
  s.setBucket { b with uploads := b.uploads.erase id }

def completeUpload (s : Backend) (bucket : String) (token : UploadToken)
    (parts : List PartReceipt) : Except Fault (Version × Backend) := do
  let (_, id, u) ← s.upload bucket token
  if !ascending (parts.map (·.number)) then .error .partOrder
  else
    let chosen ← chosenParts u parts
    let (v, s) ← s.store bucket u.key
      { data := chosen.flatMap (·.1), etag := joinedEtag chosen, metadata := u.metadata,
        tags := u.tags, contentType := u.contentType }
    let b ← s.bucket bucket
    return (v, s.removeUpload b id)

def abortUpload (s : Backend) (bucket : String) (token : UploadToken) : Except Fault Backend := do
  let (b, id, _) ← s.upload bucket token
  return s.removeUpload b id

end BlobStorage.Memory.Backend
