import BlobStorage.Failure.Ambient

/-!
Looking into values of unknown type: a part under a name, the items one after the other, all values
with their names. A value that has no such thing fails in a way that tells its type.
-/
namespace BlobStorage.Value

def part (v : Value) (name : String) : Except Ambient Value :=
  match v with
  | table entries =>
      match (table entries).at? name with
      | some part => .ok part
      | none => .error (.fieldMissing (text name))
  | v => .error (.notSubscriptable v)

def part? (v : Value) (name : String) : Except Ambient (Option Value) :=
  match v with
  | table entries => .ok ((table entries).at? name)
  | v => .error (.noAttribute v.fullTypeName "get")

def partOr (v : Value) (name : String) (fallback : Value) : Except Ambient Value := do
  return (← v.part? name).getD fallback

/-- What stands first in a value. A table has nothing but names to look under. -/
def first (v : Value) : Except Ambient Value :=
  match v with
  | list (item :: _) => .ok item
  | text s =>
      match s.toList with
      | c :: _ => .ok (text c.toString)
      | [] => .error .indexMissing
  | list [] => .error .indexMissing
  | table _ => .error (.fieldMissing (whole 0))
  | v => .error (.notSubscriptable v)

/-- How many items a value has; one without items counts as none. -/
def count : Value → Nat
  | list items => items.length
  | text s => s.length
  | table entries => entries.length
  | _ => 0

/-- The items of a value: a table has its names, a text its characters. -/
def items (v : Value) : Except Ambient (List Value) :=
  match v with
  | list items => .ok items
  | table entries => .ok (entries.map (·.1))
  | text s => .ok (s.toList.map fun c => text c.toString)
  | bytes content => .ok (content.map fun b => whole b.toNat)
  | record _ fields => .ok (fields.map fun (name, v) => list [text name, v])
  | v => .error (.notIterable v.fullTypeName)

/-- The number that a value counts as, as a quotient; truth values count as one and zero. -/
def quotient? : Value → Option (Int × Nat)
  | flag b => some (if b then 1 else 0, 1)
  | whole n => some (n, 1)
  | real (.finite negative m e) =>
      let (num, den) := Binary64.magnitude m e
      some (if negative then -(Int.ofNat num) else Int.ofNat num, den)
  | _ => none

/-- Whether two names are one and the same. Numbers are compared by their value. -/
def isSameName : Value → Value → Bool
  | null, null => true
  | text a, text b | choice _ a, choice _ b => a = b
  | moment a, moment b => a.universal = b.universal
  | duration a, duration b => a = b
  | bytes a, bytes b => a = b
  | a, b =>
      match a.quotient?, b.quotient? with
      | some (m, d), some (n, e) => m * Int.ofNat e = n * Int.ofNat d
      | _, _ => false

/-- Lists and tables can change, so they cannot be names. -/
def checkName (v : Value) : Except Ambient Unit :=
  match v with
  | list _ | table _ => .error (.notHashable v.typeName)
  | _ => .ok ()

def insert : List (Value × Value) → Value → Value → List (Value × Value)
  | [], name, v => [(name, v)]
  | (n, w) :: rest, name, v =>
      if isSameName n name then (n, v) :: rest else (n, w) :: insert rest name v

def insertPairs : Nat → List (Value × Value) → List Value → Except Ambient (List (Value × Value))
  | _, entries, [] => .ok entries
  | index, entries, item :: rest =>
      match item.items with
      | .error _ => .error (.pairType index)
      | .ok [name, v] => do
          checkName name
          insertPairs (index + 1) (insert entries name v) rest
      | .ok parts => .error (.pairLength index parts.length)

/-- The values with their names: those of a table, or those that a sequence of pairs gives. -/
def entries (v : Value) : Except Ambient (List (Value × Value)) :=
  match v with
  | table entries => .ok entries
  | v => do insertPairs 0 [] (← v.items)

def precedes? (a b : Value) : Option Bool :=
  match a, b with
  | text s, text t => some (s < t)
  | moment m, moment n => some (m.universal < n.universal)
  | duration d, duration e => some (d.micros < e.micros)
  | a, b =>
      match a.quotient?, b.quotient? with
      | some (m, d), some (n, e) => some (m * Int.ofNat e < n * Int.ofNat d)
      | _, _ => none

/-- Refuses values that have no order among them, told of the first two neighbours without one. -/
def checkOrdered : List Value → Except Ambient Unit
  | a :: b :: rest => do
      if (precedes? b a).isNone then throw (.notComparable "<" b.fullTypeName a.fullTypeName)
      checkOrdered (b :: rest)
  | _ => .ok ()

mutual

def checkDurations : Value → Except Ambient Unit
  | duration d => d.checked.map fun _ => ()
  | list items => checkDurationsOf items
  | table entries => checkDurationsUnder entries
  | _ => .ok ()

def checkDurationsOf : List Value → Except Ambient Unit
  | [] => .ok ()
  | v :: rest => do checkDurations v; checkDurationsOf rest

def checkDurationsUnder : List (Value × Value) → Except Ambient Unit
  | [] => .ok ()
  | (_, v) :: rest => do checkDurations v; checkDurationsUnder rest

end

end BlobStorage.Value
