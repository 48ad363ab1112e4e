import BlobStorage.Content
import BlobStorage.Number.Shortest
import BlobStorage.Text.Quoted
import BlobStorage.Time.Moment

/-!
Values whose type is only known when they are looked at: settings as a caller gave them, the
parameters and replies of a remote service, and what messages quote.
-/
namespace BlobStorage

inductive Value where
  | null
  | flag (b : Bool)
  | whole (n : Int)
  | real (x : Binary64)
  | text (s : String)
  | list (items : List Value)
  /-- Values by name, in order. Almost always the names are texts. -/
  | table (entries : List (Value × Value))
  | duration (d : Duration)
  | moment (m : Moment)
  | bytes (content : Content)
  /-- A stream that can be read once, with the bytes it still holds. -/
  | stream (content : Content)
  /-- One of a closed set of names. -/
  | choice (typeName name : String)
  /-- Settings that have been read already. -/
  | record (typeName : String) (fields : List (String × Value))
  /-- Something known only by the name of its type and the way it is written down. -/
  | object (typeName literal : String)
  deriving Repr

namespace Value

instance : Inhabited Value := ⟨null⟩

def map (entries : List (String × Value)) : Value :=
  table (entries.map fun (name, v) => (text name, v))

def ofText? : Option String → Value
  | some s => text s
  | none => null

def typeName : Value → String
  | null => "NoneType"
  | flag _ => "bool"
  | whole _ => "int"
  | real _ => "float"
  | text _ => "str"
  | list _ => "list"
  | table _ => "dict"
  | duration _ => "timedelta"
  | moment _ => "datetime"
  | bytes _ => "bytes"
  | stream _ => "BytesIO"
  | choice typeName _ | record typeName _ | object typeName _ => typeName

/-- The name of the value's type with the module it is from, where that is part of the name. -/
def fullTypeName (v : Value) : String :=
  match v with
  | duration _ | moment _ => "datetime." ++ v.typeName
  | stream _ => "_io." ++ v.typeName
  | v => v.typeName

/-- Whether the value counts as given: not null, false, zero or empty. -/
def isGiven : Value → Bool
  | null => false
  | flag b => b
  | whole n => n ≠ 0
  | real x => !x.isZero
  | text s | choice _ s => !s.isEmpty
  | list items => !items.isEmpty
  | table entries => !entries.isEmpty
  | duration d => d.micros ≠ 0
  | moment _ => true
  | bytes content => !content.isEmpty
  | stream _ | record _ _ | object _ _ => true

def texted (entries : List (Value × Value)) : List (String × Value) :=
  entries.filterMap fun
    | (text name, v) => some (name, v)
    | _ => none

def at? (v : Value) (name : String) : Option Value :=
  match v with
  | table entries => ((texted entries).find? (·.1 = name)).map (·.2)
  | _ => none

/-! Writing down -/

def call (name : String) (arguments : List String) : String :=
  name ++ "(" ++ ", ".intercalate arguments ++ ")"

def durationLiteral (d : Duration) : String :=
  let rest := d.micros - d.days * 86400000000
  let parts := [("days", d.days), ("seconds", rest / 1000000), ("microseconds", rest % 1000000)]
  let shown := (parts.filter (·.2 ≠ 0)).map fun (name, n) => name ++ "=" ++ toString n
  call "datetime.timedelta" (if shown.isEmpty then ["0"] else shown)

/-- A reading of a clock as its parts. Seconds and microseconds that are zero at the end are left
out. -/
def momentLiteral (m : Moment) : String :=
  let days := m.clock.fdiv Moment.microsPerDay
  let date := Time.Calendar.ofDays days
  let micros := (m.clock - days * Moment.microsPerDay).toNat
  let seconds := micros / 1000000
  let fine := if micros % 1000000 ≠ 0 then [seconds % 60, micros % 1000000]
    else if seconds % 60 ≠ 0 then [seconds % 60] else []
  let zone := match m.offset with
    | none => []
    | some 0 => ["tzinfo=datetime.timezone.utc"]
    | some n => ["tzinfo=" ++ call "datetime.timezone" [durationLiteral ⟨n * 1000000⟩]]
  call "datetime.datetime" <|
    toString date.year :: ([date.month, date.day, seconds / 3600, seconds / 60 % 60] ++ fine).map
      toString ++ zone

mutual

/-- The value as it would be written down: text is quoted, also inside lists and tables. -/
def literal : Value → String
  | null => "None"
  | flag b => if b then "True" else "False"
  | whole n => toString n
  | real x => Number.Shortest.text x
  | text s => quoted s
  | list items => "[" ++ ", ".intercalate (literals items) ++ "]"
  | table entries => "\x7b" ++ ", ".intercalate (entryLiterals entries) ++ "\x7d"
  | duration d => durationLiteral d
  | moment m => momentLiteral m
  | bytes content => "b" ++ quoted (String.ofList (content.map fun b => Char.ofNat b.toNat))
  | stream _ => "<stream>"
  | choice typeName name => "<" ++ typeName ++ "." ++ name ++ ": " ++ quoted name ++ ">"
  | record typeName fields => call typeName (fieldLiterals fields)
  | object _ literal => literal

def literals : List Value → List String
  | [] => []
  | v :: rest => literal v :: literals rest

def entryLiterals : List (Value × Value) → List String
  | [] => []
  | (name, v) :: rest => (literal name ++ ": " ++ literal v) :: entryLiterals rest

def fieldLiterals : List (String × Value) → List String
  | [] => []
  | (name, v) :: rest => (name ++ "=" ++ literal v) :: fieldLiterals rest

end

/-- The value inside a sentence: a text stands for itself, times are shown as on a clock, and all
else is written down. -/
def shown : Value → String
  | text s => s
  | duration d => d.text
  | moment m => m.textWith ' '
  | v => literal v

end Value
end BlobStorage
