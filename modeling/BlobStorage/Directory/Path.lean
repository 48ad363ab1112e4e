import BlobStorage.Failure.Ambient

/-!
Paths as names of places: a base, below which the path's segments lead. An absolute path has the
empty base; a path inside a mounted tree has the tree's name as its base. Empty segments and
single dots lead nowhere and are dropped when a path is read. Double dots are kept until the path
is resolved, which treats them as steps back without looking at any file system.
-/
namespace BlobStorage

structure Path where
  base : String := ""
  segments : List String
  deriving DecidableEq, Repr

namespace Path

/-- The segments of a text with slashes, without those that lead nowhere. -/
def segmentsOf (text : String) : List String :=
  ((text.toList.splitOn '/').map String.ofList).filter fun s => s ≠ "" && s ≠ "."

def isAbsoluteText (text : String) : Bool := text.toList.head? = some '/'

def absolute (text : String) : Path := ⟨"", segmentsOf text⟩

/-- Goes on from a path along a text; a text that starts with a slash starts afresh. -/
def join (p : Path) (text : String) : Path :=
  if isAbsoluteText text then absolute text else ⟨p.base, p.segments ++ segmentsOf text⟩

def text (p : Path) : String :=
  match p.segments with
  | [] => if p.base.isEmpty then "/" else p.base
  | segments => p.base ++ String.join (segments.map ("/" ++ ·))

/-- One step: forward, or back to the parent. Going back from a mounted tree's base leaves the
tree. -/
def step (p : Path) (segment : String) : Path :=
  if segment = ".." then
    match p.segments with
    | [] => ⟨"", []⟩
    | _ => ⟨p.base, p.segments.dropLast⟩
  else ⟨p.base, p.segments ++ [segment]⟩

def resolve (p : Path) : Path :=
  p.segments.foldl step ⟨p.base, []⟩

/-- Whether a segment has a null character in it, which no name of a file can have. -/
def hasNull (p : Path) : Bool := p.segments.any fun s => s.toList.contains '\x00'

def resolved (p : Path) : Except Ambient Path :=
  if p.hasNull then .error .nullInPath else .ok p.resolve

def isWithin (p root : Path) : Bool :=
  p.base = root.base && root.segments.isPrefixOf p.segments
    || (root.base.isEmpty && root.segments.isEmpty)

def parent (p : Path) : Path := ⟨p.base, p.segments.dropLast⟩

def below (p root : Path) : String :=
  "/".intercalate (p.segments.drop root.segments.length)

end Path
end BlobStorage
