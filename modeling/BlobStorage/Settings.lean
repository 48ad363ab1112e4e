import BlobStorage.Failure
import BlobStorage.Number.Numeral
import BlobStorage.Table

/-!
Settings as a caller gave them, and reading them as typed fields. Reading is generous where
nothing is lost: a whole number may come as an integral real number, as a truth value or as a
text, a duration as a number of seconds, a truth value as a word. A text is never made from
anything else.
-/
namespace BlobStorage.Settings

/-- Why a field could not be read: below the field itself, what was expected at which path. -/
structure Misfit where
  path : List String
  expected : Expectation
  given : Value
  deriving Repr

/-- Why a record could not be read: fields that do not fit, or a rule of a record inside it that
was broken, which ends the reading. -/
inductive Trouble where
  | misfits (ms : List Misfit)
  | broken (failure : Failure)
  deriving Repr

abbrev Read (α : Type) := Except Trouble α

def misfit {α : Type} (expected : Expectation) (given : Value) : Read α :=
  .error (.misfits [⟨[], expected, given⟩])

def under {α : Type} (name : String) : Read α → Read α
  | .error (.misfits ms) => .error (.misfits (ms.map fun m => { m with path := name :: m.path }))
  | .error (.broken f) => .error (.broken f)
  | .ok a => .ok a

def text (v : Value) : Read String :=
  match v with
  | .text s | .choice _ s => .ok s
  | v => misfit .text v

def isWord (n : Int) : Bool := -Int.pow 2 63 ≤ n && n < Int.pow 2 63

/-- Whether a number fits a word of 64 bits and is not the least of them. A real number counts as
whole only then. -/
def isInnerWord (n : Int) : Bool := -Int.pow 2 63 < n && n < Int.pow 2 63

def whole (v : Value) : Read Int :=
  match v with
  | .flag b => .ok (if b then 1 else 0)
  | .whole n => .ok n
  | .real .nan | .real (.infinite _) => misfit .finite v
  | .real x =>
      match x.toInt? with
      | some n => if isInnerWord n then .ok n else misfit .wholeSize v
      | none => misfit .wholeFraction v
  | .text s =>
      match Number.Numeral.wholeSetting s.toList with
      | .ok n => .ok n
      | .error .malformed => misfit .wholeText v
      | .error (.tooLong _) => misfit .wholeSize v
  | v => misfit .whole v

def real (v : Value) : Read Binary64 :=
  match v with
  | .flag b => .ok (.ofInt (if b then 1 else 0))
  | .whole n =>
      match Binary64.ofInt n with
      | .finite negative m e => .ok (.finite negative m e)
      | _ => misfit .real v
  | .real x => .ok x
  | .text s =>
      match Number.Numeral.real? s.toList with
      | some x => .ok x
      | none => misfit .realText v
  | v => misfit .real v

def trueWords : List String := ["1", "on", "t", "true", "y", "yes"]

def falseWords : List String := ["0", "off", "f", "false", "n", "no"]

/-- A whole number as a truth value. One that is neither zero nor one is told apart by whether it
is in reach of a word. -/
def wholeFlag (n : Int) (inReach : Bool) (v : Value) : Read Bool :=
  if n = 0 then .ok false
  else if n = 1 then .ok true
  else misfit (if inReach then .flagText else .flag) v

def flag (v : Value) : Read Bool :=
  match v with
  | .flag b => .ok b
  | .whole n => wholeFlag n (isWord n) v
  | .real x =>
      match x.toInt? with
      | some n => wholeFlag n (isInnerWord n) v
      | none => misfit .flag v
  | .text s =>
      let word := String.ofList (s.toList.map Char.toLower)
      if trueWords.contains word then .ok true
      else if falseWords.contains word then .ok false
      else misfit .flagText v
  | v => misfit .flag v

/-- A span of time as a duration. One that fits no duration ends the reading. -/
def spanned (v : Value) (span : Except Time.SpanFault Time.Span) : Read Duration :=
  match span with
  | .error fault => misfit (.durationText fault) v
  | .ok s => (s.toDuration.checked).mapError fun a => .broken (.ambient a)

def duration (v : Value) : Read Duration :=
  match v with
  | .duration d => .ok d
  | .flag b => spanned v (Time.Span.ofWhole (if b then 1 else 0))
  | .whole n =>
      if isWord n then spanned v (Time.Span.ofWhole n)
      else
        match Binary64.ofInt n with
        | .infinite _ => misfit .duration v
        | x => spanned v (Time.Span.ofReal x)
  | .real x => spanned v (Time.Span.ofReal x)
  | .text s => spanned v (Time.Span.ofText s)
  | v => misfit .duration v

def optional {α : Type} (read : Value → Read α) (v : Value) : Read (Option α) :=
  match v with
  | .null => .ok none
  | v => some <$> read v

/-- Reads two things and reports the misfits of both. A broken rule ends the reading. -/
def both {α β : Type} (a : Read α) (b : Read β) : Read (α × β) :=
  match a, b with
  | .ok x, .ok y => .ok (x, y)
  | .error (.misfits ms), .error (.misfits ns) => .error (.misfits (ms ++ ns))
  | .error (.misfits _), .error (.broken f) => .error (.broken f)
  | .error t, _ => .error t
  | .ok _, .error t => .error t

def placeOf (name : Value) : String :=
  match name with
  | .flag b => if b then "1" else "0"
  | name => name.shown

/-- Texts by name. A name that is no text is told in brackets below its own place. -/
def textEntries : List (Value × Value) → Read (List (String × String))
  | [] => .ok []
  | (name, v) :: rest => do
      let place := placeOf name
      let ((name, s), more) ←
        both (both (under place (under "[key]" (text name))) (under place (text v)))
          (textEntries rest)
      return (name, s) :: more

def texts (v : Value) : Read (Table String String) :=
  match v with
  | .table entries => Table.ofPairs <$> textEntries entries
  | v => misfit .map v

abbrev Fields := List (String × Value)

def given? (fields : Fields) (name : String) : Option Value :=
  (fields.find? (·.1 = name)).map (·.2)

def required {α : Type} (fields : Fields) (name : String) (read : Value → Read α) : Read α :=
  under name <|
    match given? fields name with
    | some v => read v
    | none => misfit .required (.map fields)

def defaulted {α : Type} (fields : Fields) (name : String) (fallback : α)
    (read : Value → Read α) : Read α :=
  under name <|
    match given? fields name with
    | some v => read v
    | none => .ok fallback

def fault (record : String) : Trouble → Failure
  | .misfits ms =>
      .settings ⟨record, ms.map fun m => ⟨m.path, m.expected, (m.given.literal, m.given.typeName)⟩⟩
  | .broken f => f

end BlobStorage.Settings
