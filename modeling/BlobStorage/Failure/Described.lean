import BlobStorage.Text.Hex
import BlobStorage.Value

/-!
Failures described from outside by a label and arguments. Most labels show their arguments as they
are. Those of the operating system read a number, a reason and up to two files out of them, those
about text encodings the characters that could not be encoded, and those about malformed source text
a file and a line; each of these accepts only certain arguments.
-/
namespace BlobStorage

structure Described where
  label : String
  arguments : List Value
  deriving Repr

namespace Described

/-- Why arguments do not describe a failure. -/
inductive Fault where
  | count (wanted given : Nat)
  | few (wanted given : Nat)
  | many (wanted given : Nat)
  | notText (position : Nat) (typeName : String)
  | notWhole (typeName : String)
  | notBytes (typeName : String)
  | notIterable (typeName : String)
  | endOffset
  | positionRange
  | writtenRange
  deriving DecidableEq, Repr

def Fault.label : Fault → String
  | positionRange => "OverflowError"
  | writtenRange => "ValueError"
  | _ => "TypeError"

def Fault.text : Fault → String
  | count wanted given =>
      "function takes exactly " ++ toString wanted ++ " arguments (" ++ toString given ++ " given)"
  | few wanted given =>
      "function takes at least " ++ toString wanted ++ " arguments (" ++ toString given ++ " given)"
  | many wanted given =>
      "function takes at most " ++ toString wanted ++ " arguments (" ++ toString given ++ " given)"
  | notText position typeName =>
      "argument " ++ toString position ++ " must be str, not " ++ typeName
  | notWhole typeName => "'" ++ typeName ++ "' object cannot be interpreted as an integer"
  | notBytes typeName => "a bytes-like object is required, not '" ++ typeName ++ "'"
  | notIterable typeName => "'" ++ typeName ++ "' object is not iterable"
  | endOffset => "end_offset must be provided when end_lineno is provided"
  | positionRange => "Python int too large to convert to C ssize_t"
  | writtenRange => "cannot fit 'int' into an index-sized integer"

/-! The operating system -/

def systemLabel? : Int → Option String
  | 1 | 13 => some "PermissionError"
  | 2 => some "FileNotFoundError"
  | 3 => some "ProcessLookupError"
  | 4 => some "InterruptedError"
  | 10 => some "ChildProcessError"
  | 11 | 114 | 115 => some "BlockingIOError"
  | 17 => some "FileExistsError"
  | 20 => some "NotADirectoryError"
  | 21 => some "IsADirectoryError"
  | 32 | 108 => some "BrokenPipeError"
  | 103 => some "ConnectionAbortedError"
  | 104 => some "ConnectionResetError"
  | 110 => some "TimeoutError"
  | 111 => some "ConnectionRefusedError"
  | _ => none

def connectionLabels : List String :=
  ["ConnectionError", "ConnectionResetError", "ConnectionRefusedError", "ConnectionAbortedError",
    "BrokenPipeError"]

def systemLabels : List String :=
  ["OSError", "FileNotFoundError", "FileExistsError", "PermissionError", "IsADirectoryError",
    "NotADirectoryError", "BlockingIOError", "InterruptedError", "ChildProcessError",
    "ProcessLookupError", "TimeoutError"] ++ connectionLabels

def isGeneral (label : String) : Bool :=
  label = "OSError" || label = "IOError" || label = "EnvironmentError"

/-- A general system error with a number takes that number's own label. -/
def systemLabelOf (label : String) (arguments : List Value) : String :=
  if !isGeneral label then label
  else
    let number? := match arguments with
      | [] | [_] => none
      | .whole n :: _ => some n
      | .flag b :: _ => some (if b then 1 else 0)
      | _ => none
    if 5 < arguments.length then "OSError" else (number?.bind systemLabel?).getD "OSError"

/-- What is read as a number of bytes where an operation would have had to wait. -/
def isNumber : Value → Bool
  | .whole _ | .flag _ | .real _ => true
  | _ => false

/-- The files that the arguments after number and reason name. Where an operation would have had to
wait, the first of them may be a number instead, of bytes that were written. -/
def files (label : String) (rest : List Value) : List Value :=
  match rest with
  | [] | .null :: _ => []
  | file :: more =>
      if label = "BlockingIOError" && isNumber file then []
      else
        match more with
        | [_, .null] => [file]
        | [_, other] => [file, other]
        | _ => [file]

/-! Text encodings -/

def escaped (c : Char) : String :=
  String.ofList (Text.Quoted.codePoint c.toNat)

/-- The characters that were not encoded: the one, or the positions from the first to the last. -/
def span (action object : String) (start stop : Int) (reason : String) : String :=
  let chars := object.toList
  let one := if stop = start + 1 ∧ 0 ≤ start then chars[start.toNat]? else none
  match one with
  | some c =>
      "can't " ++ action ++ " character '" ++ escaped c ++ "' in position " ++ toString start
        ++ ": " ++ reason
  | none =>
      "can't " ++ action ++ " characters in position " ++ toString start ++ "-"
        ++ toString (stop - 1) ++ ": " ++ reason

def fitsWord (n : Int) : Bool := -9223372036854775808 ≤ n && n ≤ 9223372036854775807

/-- A position, which a truth value can stand for. -/
def position : Value → Int
  | .whole n => n
  | .flag b => if b then 1 else 0
  | _ => 0

def requireText (position : Nat) : Value → Except Fault Unit
  | .text _ => .ok ()
  | .null => .error (.notText position "None")
  | v => .error (.notText position v.fullTypeName)

def requireWhole : Value → Except Fault Unit
  | .whole n => if fitsWord n then .ok () else .error .positionRange
  | .flag _ => .ok ()
  | v => .error (.notWhole v.fullTypeName)

/-! Malformed source text -/

def isSyntax (label : String) : Bool :=
  ["SyntaxError", "IndentationError", "TabError"].contains label

def place? : List Value → Option (List Value)
  | [_, .list place] => some place
  | [_, .table place] => some (place.map (·.1))
  | [_, .text place] => some (place.toList.map fun c => .text c.toString)
  | _ => none

/-- The number of a line; one beyond a word of 64 bits is not told. -/
def lineText (line : Int) : String := toString (if fitsWord line then line else -1)

def lastSegment (name : String) : String :=
  String.ofList (name.toList.reverse.takeWhile (· ≠ '/')).reverse

def syntaxText (arguments : List Value) : String :=
  let said := (arguments.headD .null).shown
  match place? arguments with
  | some (.text name :: .whole line :: _) =>
      said ++ " (" ++ lastSegment name ++ ", line " ++ lineText line ++ ")"
  | some (.text name :: _) => said ++ " (" ++ lastSegment name ++ ")"
  | some (_ :: .whole line :: _) => said ++ " (line " ++ lineText line ++ ")"
  | _ => said

/-! Reading a description -/

def checkPlace (arguments : List Value) : Except Fault Unit :=
  match place? arguments, arguments with
  | some place, _ =>
      if place.length < 4 then .error (.few 4 place.length)
      else if 6 < place.length then .error (.many 6 place.length)
      else if place.length = 5 then .error .endOffset
      else .ok ()
  | none, [_, v] => .error (.notIterable v.fullTypeName)
  | none, _ => .ok ()

def check (label : String) (arguments : List Value) : Except Fault Unit :=
  if label = "UnicodeEncodeError" || label = "UnicodeDecodeError" then
    match arguments with
    | [encoding, object, start, stop, reason] => do
        requireText 1 encoding
        if label = "UnicodeEncodeError" then requireText 2 object
        requireWhole start
        requireWhole stop
        requireText 5 reason
        if label = "UnicodeDecodeError" then throw (.notBytes object.fullTypeName)
    | _ => .error (.count 5 arguments.length)
  else if label = "UnicodeTranslateError" then
    match arguments with
    | [object, start, stop, reason] => do
        requireText 1 object
        requireWhole start
        requireWhole stop
        requireText 4 reason
    | _ => .error (.count 4 arguments.length)
  else if isSyntax label then checkPlace arguments
  else .ok ()

/-- A number of bytes that were written is a whole one that fits a word of 64 bits. -/
def checkWritten (label : String) (arguments : List Value) : Except Fault Unit :=
  if label ≠ "BlockingIOError" ∨ 5 < arguments.length then .ok ()
  else
    match arguments with
    | _ :: _ :: .real x :: _ => .error (.notWhole (Value.real x).typeName)
    | _ :: _ :: .whole n :: _ => if fitsWord n then .ok () else .error .writtenRange
    | _ => .ok ()

def ofCall (label : String) (arguments : List Value) : Except Fault Described := do
  check label arguments
  let label := systemLabelOf label arguments
  checkWritten label arguments
  return ⟨label, arguments⟩

/-! What it says -/

def tuple (arguments : List Value) : String :=
  "(" ++ ", ".intercalate (Value.literals arguments) ++ ")"

/-- The arguments as they are: a single one stands for itself. -/
def plainText : List Value → String
  | [] => ""
  | [v] => v.shown
  | arguments => tuple arguments

def systemText (label : String) (arguments : List Value) : String :=
  match arguments with
  | number :: reason :: rest =>
      if 5 < arguments.length then tuple arguments
      else
        let said := "[Errno " ++ number.shown ++ "] " ++ reason.shown
        match files label rest with
        | [] => said
        | named => said ++ ": " ++ " -> ".intercalate (named.map Value.literal)
  | _ => plainText arguments

def text (d : Described) : String :=
  if systemLabels.contains d.label then systemText d.label d.arguments
  else if isSyntax d.label then syntaxText d.arguments
  else
    match d.label, d.arguments with
    | "KeyError", [v] => v.literal
    | "UnicodeEncodeError", [encoding, .text object, start, stop, reason] =>
        "'" ++ encoding.shown ++ "' codec "
          ++ span "encode" object (position start) (position stop) reason.shown
    | "UnicodeTranslateError", [.text object, start, stop, reason] =>
        span "translate" object (position start) (position stop) reason.shown
    | _, arguments => plainText arguments

/-- The failure as its label makes it again from the arguments that it keeps: one of the operating
system keeps its number and its reason, and no files. -/
def rebuilt (d : Described) : Described :=
  match d.arguments with
  | number :: reason :: rest =>
      if 5 < d.arguments.length ∨ files d.label rest = [] then d
      else { d with arguments := [number, reason] }
  | _ => d

@[simp] theorem label_rebuilt (d : Described) : d.rebuilt.label = d.label := by
  unfold rebuilt
  split
  · split <;> rfl
  · rfl

def endsItems (d : Described) : Bool := d.label = "StopIteration"

end Described
end BlobStorage
