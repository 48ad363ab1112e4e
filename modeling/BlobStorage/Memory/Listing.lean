import BlobStorage.Memory.Backend
import BlobStorage.Reply

/-!
Listing a bucket. Every key that starts with the stem is an entry; a key that holds the delimiter
after the stem is rolled up into the common prefix that ends there. Entries are ordered by name,
and a page is the first entries after its token.
-/
namespace BlobStorage.Memory.Listing

/-- The first part of a text up to and including the first occurrence of the delimiter. -/
def throughFirst? (delimiter : List Char) : List Char → Option (List Char)
  | [] => if delimiter.isEmpty then some [] else none
  | c :: rest =>
      if delimiter.isPrefixOf (c :: rest) then some delimiter
      else (throughFirst? delimiter rest).map (c :: ·)

def commonPrefix? (stem delimiter key : List Char) : Option (List Char) :=
  if delimiter.isEmpty then none
  else (throughFirst? delimiter (key.drop stem.length)).map (stem ++ ·)

/-- A named line of a listing: a key with its newest version, or keys rolled up. -/
inductive Entry where
  | blob (key : String) (v : Version)
  | rolled (name : String)
  deriving DecidableEq, Repr

namespace Entry

def name : Entry → String
  | blob key _ => key
  | rolled name => name

end Entry

def infoOf (key : String) (v : Version) : BlobInfo :=
  { key := .known key, size := .known (Int.ofNat v.data.length),
    lastModified := some v.modified, version := some v.id, etag := some v.etag }

def newest (b : Bucket) : List (String × Version) :=
  b.objects.filterMap fun (key, versions) => versions.getLast?.map (key, ·)

def entryOf (stem delimiter : List Char) (key : String) (v : Version) : Option Entry :=
  if stem.isPrefixOf key.toList then
    match commonPrefix? stem delimiter key.toList with
    | some name => some (.rolled (String.ofList name))
    | none => some (.blob key v)
  else none

def withoutRepeats : List Entry → List Entry
  | [] => []
  | [e] => [e]
  | e :: f :: rest => if e = f then withoutRepeats (f :: rest) else e :: withoutRepeats (f :: rest)

def entries (b : Bucket) (stem delimiter : String) : List Entry :=
  let keys := (newest b).mergeSort fun a b => decide (a.1 ≤ b.1)
  let found := keys.filterMap fun (key, v) => entryOf stem.toList delimiter.toList key v
  (withoutRepeats found).mergeSort fun a b => decide (a.name ≤ b.name)

/-- A token that is no text cannot be compared with a name, if there is one to compare it with. -/
def checkToken (b : Bucket) (r : PageRequest) : Except Ambient Unit :=
  match r.token with
  | some (.other v) =>
      if (entries b (r.stem.getD "") (r.delimiter.getD "")).isEmpty then .ok ()
      else .error (.notComparable ">" "str" v.fullTypeName)
  | _ => .ok ()

def blobs (es : List Entry) : List BlobInfo :=
  es.filterMap fun | .blob key v => some (infoOf key v) | .rolled _ => none

def commonPrefixes (es : List Entry) : List (Reported String) :=
  es.filterMap fun | .blob _ _ => none | .rolled name => some (.known name)

def afterToken (token : Option PageToken) (es : List Entry) : List Entry :=
  match token.bind (·.known?) with
  | none => es
  | some t => es.filter fun e => decide (t < e.name)

/-- One page. Without a limit the page holds all entries and names the last of them as the place
to go on from. -/
def page (b : Bucket) (r : PageRequest) (pageSize : Option Nat) : Page :=
  let remaining := afterToken r.token (entries b (r.stem.getD "") (r.delimiter.getD ""))
  let asked := (r.maxResults.map Int.toNat).filter (· ≠ 0)
  let (here, more) := match asked <|> pageSize with
    | some limit => (remaining.take limit, decide (limit < remaining.length))
    | none => (remaining, !remaining.isEmpty)
  { blobs := blobs here
    commonPrefixes := commonPrefixes here
    isTruncated := more
    nextToken := if more then here.getLast?.map (.known ·.name) else none }

end BlobStorage.Memory.Listing
