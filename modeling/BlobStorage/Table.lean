/-!
Tables that keep the order in which their names first came. Setting a name that is present changes
its value in place; a new name goes to the end.
-/
namespace BlobStorage

abbrev Table (κ ν : Type) := List (κ × ν)

namespace Table

variable {κ ν : Type} [DecidableEq κ]

def get? : Table κ ν → κ → Option ν
  | [], _ => none
  | (k, v) :: rest, name => if k = name then some v else get? rest name

def contains (t : Table κ ν) (name : κ) : Bool :=
  (get? t name).isSome

def set : Table κ ν → κ → ν → Table κ ν
  | [], name, value => [(name, value)]
  | (k, v) :: rest, name, value =>
      if k = name then (k, value) :: rest else (k, v) :: set rest name value

def erase : Table κ ν → κ → Table κ ν
  | [], _ => []
  | (k, v) :: rest, name => if k = name then erase rest name else (k, v) :: erase rest name

/-- The pairs in order; a name that comes again overwrites its value. -/
def ofPairs (pairs : List (κ × ν)) : Table κ ν :=
  pairs.foldl (fun t (name, value) => set t name value) []

def merge (t : Table κ ν) (more : Table κ ν) : Table κ ν :=
  more.foldl (fun t (name, value) => set t name value) t

def names (t : Table κ ν) : List κ :=
  t.map (·.1)

end Table
end BlobStorage
