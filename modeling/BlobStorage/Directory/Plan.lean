import BlobStorage.Directory.FileTree
import BlobStorage.Reply

/-!
Planning directory transfers: which local file goes to which key, and which key goes to which
local file. An upload takes its files in the order of their path segments. A download leaves out
excluded keys and keys that stand for folders, and refuses a key that would land outside the
destination.
-/
namespace BlobStorage

structure DirectoryUpload where
  source : Path
  stem : String := ""
  recursive : Bool := false
  tags : Attributes := []

structure DirectoryDownload where
  stem : Option String := none
  destination : Path
  exclude : List String := []

structure FailedDownload where
  destination : Path
  failure : Failure
  deriving Repr

namespace Directory

def trimSlashesRight (text : String) : String :=
  String.ofList (text.toList.reverse.dropWhile (· = '/')).reverse

def trimSlashesLeft (text : String) : String :=
  String.ofList (text.toList.dropWhile (· = '/'))

/-- A stem and a relative path joined by one slash; an empty stem adds nothing. -/
def joinKey (stem relative : String) : String :=
  if stem.isEmpty then relative else trimSlashesRight stem ++ "/" ++ relative

/-- Segment by segment, the first difference deciding; a path comes before what lies below it. -/
def segmentsLe : List String → List String → Bool
  | [], _ => true
  | _ :: _, [] => false
  | a :: as, b :: bs => if a = b then segmentsLe as bs else a < b

structure UploadItem where
  path : Path
  key : String
  deriving DecidableEq, Repr

def planUpload (files : FileTree) (r : DirectoryUpload) : Except Failure (List UploadItem) :=
  match files.directory? r.source with
  | .error a => .error (.ambient a)
  | .ok none => .error (.refused (.sourceNotDirectory r.source.text))
  | .ok (some directory) =>
      .ok <| ((files.filesBelow directory r.recursive).mergeSort segmentsLe).map fun relative =>
        { path := ⟨r.source.base, r.source.segments ++ relative⟩
          key := joinKey r.stem ("/".intercalate relative) }

structure DownloadItem where
  key : String
  target : Path
  deriving DecidableEq, Repr

/-- The path below the destination that a key names: the key without the stem and without leading
slashes, or its last segment when nothing is left. -/
def relativeName (stem key : String) : String :=
  let relative :=
    if stem.toList.isPrefixOf key.toList then
      trimSlashesLeft (String.ofList (key.toList.drop stem.length))
    else key
  if relative.isEmpty then
    String.ofList (key.toList.reverse.takeWhile (· ≠ '/')).reverse
  else relative

def isSkipped (exclude : List String) (key : String) : Bool :=
  exclude.any (fun e => e.toList.isPrefixOf key.toList) || key.toList.getLast? = some '/'

def target (root : Path) (stem key : String) : Except Ambient Path :=
  (root.join (relativeName stem key)).resolved

/-- The text that a listed key is; its start is looked at if anything is excluded, and its end
otherwise. -/
def textOf (exclude : List String) (key : Reported String) : Except Ambient String :=
  match key with
  | .known key => .ok key
  | .other v =>
      .error (.noAttribute v.fullTypeName (if exclude.isEmpty then "endswith" else "startswith"))

def placed? (r : DirectoryDownload) (root : Path) (key : Reported String) :
    Except Ambient (Option DownloadItem) := do
  let key ← textOf r.exclude key
  if isSkipped r.exclude key then return none
  return some ⟨key, ← target root (r.stem.getD "") key⟩

def planDownload (r : DirectoryDownload) (keys : List (Reported String)) :
    Except Ambient (List DownloadItem × List FailedDownload) := do
  let root ← r.destination.resolved
  let kept := (← keys.mapM (placed? r root)).filterMap id
  let (inside, outside) := kept.partition fun item => item.target.isWithin root
  return (inside, outside.map fun item =>
    ⟨item.target, .refusal (.keyOutside root.text) item.key⟩)

end Directory
end BlobStorage
