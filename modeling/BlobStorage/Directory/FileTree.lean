import BlobStorage.Content
import BlobStorage.Directory.Path
import BlobStorage.Failure.Ambient
import BlobStorage.Table

/-!
A tree of files and directories below one base. Its root is always a directory; every other entry
is listed under its full name, and its parent is a directory of the tree.
-/
namespace BlobStorage

inductive FileNode where
  | file (content : Content)
  | directory
  deriving DecidableEq, Repr

structure FileTree where
  base : String := ""
  entries : Table (List String) FileNode := []
  deriving Repr

namespace FileTree

def node? (t : FileTree) (name : List String) : Option FileNode :=
  if name.isEmpty then some .directory else t.entries.get? name

def nameLimit : Nat := 255

/-- The bytes that are too many for a path. -/
def pathLimit : Nat := 4096

/-- Follows segments from a directory. The place reached has a directory for a parent, but need
not exist itself. -/
def walk (t : FileTree) : List String → List String → Except FileProblem (List String)
  | here, [] => .ok here
  | here, segment :: rest =>
      match t.node? here with
      | some .directory =>
          if nameLimit < segment.utf8ByteSize then .error .nameTooLong
          else if segment = ".." then walk t here.dropLast rest
          else walk t (here ++ [segment]) rest
      | some (.file _) => .error .notDirectory
      | none => .error .missing

def locate (t : FileTree) (p : Path) : Except Ambient (List String) :=
  let found := if pathLimit ≤ p.text.utf8ByteSize then .error .nameTooLong
    else if p.base = t.base then t.walk [] p.segments
    else .error .missing
  if p.hasNull then .error .nullInPath else found.mapError (.file · p.text)

/-- What a path leads to. That it leads nowhere is no failure, but that it is too long is one. -/
def find? (t : FileTree) (p : Path) : Except Ambient (Option FileNode) :=
  match t.locate p with
  | .ok name => .ok (t.node? name)
  | .error (.file .nameTooLong path) => .error (.file .nameTooLong path)
  | .error _ => .ok none

def exists? (t : FileTree) (p : Path) : Except Ambient Bool := do
  return (← t.find? p).isSome

def directory? (t : FileTree) (p : Path) : Except Ambient (Option (List String)) := do
  match ← t.find? p with
  | some .directory => return (t.locate p).toOption
  | _ => return none

def read? (t : FileTree) (p : Path) : Except Ambient (Option Content) := do
  match ← t.find? p with
  | some (.file content) => return some content
  | _ => return none

def isFile (t : FileTree) (p : Path) : Except Ambient Bool := do
  return (← t.read? p).isSome

/-- The name of a place at which there is nothing yet. -/
def vacant (t : FileTree) (p : Path) : Except Ambient (List String) := do
  let name ← t.locate p
  if (t.node? name).isSome then .error (.file .occupied p.text) else .ok name

/-- Creates a file that must not exist yet, and gives its name in the tree. -/
def create (t : FileTree) (p : Path) : Except Ambient (FileTree × List String) := do
  let name ← t.vacant p
  return ({ t with entries := t.entries.set name (.file []) }, name)

def write (t : FileTree) (name : List String) (content : Content) : FileTree :=
  { t with entries := t.entries.set name (.file content) }

def remove (t : FileTree) (name : List String) : FileTree :=
  { t with entries := t.entries.erase name }

/-- Makes a directory, whose parent must be there. One that is there already is fine. -/
def makeDirectory (t : FileTree) (p : Path) : Except Ambient FileTree :=
  match t.vacant p with
  | .ok name => .ok { t with entries := t.entries.set name .directory }
  | .error a => if t.directory? p matches .ok (some _) then .ok t else .error a

/-- Makes the directory to which a path with these segments, the last one first, leads. The parents
are made if it turns out that one is missing, and stay if the directory cannot be made even so. -/
def makeDirectoriesBack (t : FileTree) (base : String) :
    List String → Except Ambient Unit × FileTree
  | [] => settled (t.makeDirectory ⟨base, []⟩) t
  | last :: lead =>
      let p : Path := ⟨base, (last :: lead).reverse⟩
      match t.makeDirectory p with
      | .error (.file .missing _) =>
          match makeDirectoriesBack t base lead with
          | (.ok _, t) => settled (t.makeDirectory p) t
          | failed => failed
      | made => settled made t
where
  settled (made : Except Ambient FileTree) (t : FileTree) : Except Ambient Unit × FileTree :=
    match made with
    | .ok t => (.ok (), t)
    | .error a => (.error a, t)

/-- Makes a directory and the parents it lacks. A directory that is there already is fine; a file
at the place or above it is not. Gives the outcome, and the tree with what was made. -/
def makeDirectories (t : FileTree) (p : Path) : Except Ambient Unit × FileTree :=
  t.makeDirectoriesBack p.base p.segments.reverse

/-- Puts a file or a directory into the tree, with the directories that lead to it. -/
def plant (t : FileTree) (segments : List String) (node : FileNode) : FileTree :=
  let lead := (List.range segments.length).filterMap fun i =>
    if i = 0 then none else some (segments.take i)
  let t := lead.foldl (fun t name =>
    if (t.node? name).isSome then t else { t with entries := t.entries.set name .directory }) t
  match node with
  | .directory =>
      if (t.node? segments).isSome then t else { t with entries := t.entries.set segments node }
  | .file _ => { t with entries := t.entries.set segments node }

/-- The names of the files below a directory, relative to it; only those directly in it unless
`deep`. -/
def filesBelow (t : FileTree) (directory : List String) (deep : Bool) : List (List String) :=
  t.entries.filterMap fun (name, node) =>
    match node with
    | .directory => none
    | .file _ =>
        let rest := name.drop directory.length
        if directory.isPrefixOf name && !rest.isEmpty && (deep || rest.length = 1) then some rest
        else none

end FileTree
end BlobStorage
