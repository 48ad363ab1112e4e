import BlobStorage.Number.Binary64
import BlobStorage.Text.Blank
import BlobStorage.Text.DecimalDigit

/-!
Reading numerals. A whole number may have white space around it, a sign, digits of any script, and
single underscores between digits. A real number has a sign, digits with an optional point, and an
optional power of ten; infinities and the undefined value are spelled out. Whole numbers of very
many digits are not read at all.
-/
namespace BlobStorage.Number.Numeral

/-- Why a whole number cannot be read: there is none, or it has too many digits. -/
inductive Fault where
  | malformed
  | tooLong (digits : Nat)
  deriving DecidableEq, Repr

def digitLimit : Nat := 4300

/-- The digits at the front of a text, with single underscores between them, and what follows. The
flag says whether the character before was a digit; an underscore needs one on both sides. -/
def leadingDigits? (value? : Char → Option Nat) : Bool → List Char → Option (List Nat × List Char)
  | afterDigit, [] => if afterDigit then some ([], []) else none
  | afterDigit, c :: rest =>
      match value? c with
      | some d => (leadingDigits? value? true rest).map fun (more, rest) => (d :: more, rest)
      | none =>
          if !afterDigit then none
          else if c = '_' then leadingDigits? value? false rest
          else some ([], c :: rest)

def spelled (digits : List Nat) : Nat :=
  digits.foldl (fun n d => 10 * n + d) 0

/-- A sign and the rest; no sign is a plus. -/
def sign : List Char → Bool × List Char
  | '-' :: rest => (true, rest)
  | '+' :: rest => (false, rest)
  | text => (false, text)

def signed (negative : Bool) (n : Nat) : Int :=
  if negative then -(Int.ofNat n) else Int.ofNat n

/-- A whole number written in any script. Its digits are counted before what follows them is looked
at. -/
def int (text : List Char) : Except Fault Int :=
  let (negative, rest) := sign (Text.Blank.trim text)
  match leadingDigits? Text.DecimalDigit.value? false rest with
  | none => .error .malformed
  | some (digits, rest) =>
      if digitLimit < digits.length then .error (.tooLong digits.length)
      else if rest.isEmpty then .ok (signed negative (spelled digits))
      else .error .malformed

def asciiDigit? (c : Char) : Option Nat :=
  if c.isDigit then some (c.toNat - 48) else none

/-- A whole number in plain digits, which may carry a fraction of zeros. -/
def wholeSetting (text : List Char) : Except Fault Int :=
  let text := Text.Blank.trim text
  if digitLimit < text.length then .error (.tooLong text.length)
  else
    let (negative, rest) := sign text
    match leadingDigits? asciiDigit? false rest with
    | some (digits, []) => .ok (signed negative (spelled digits))
    | some (digits, '.' :: fraction) =>
        if !fraction.isEmpty && fraction.all (· = '0') then
          .ok (signed negative (spelled digits))
        else .error .malformed
    | _ => .error .malformed

def smallLetters (text : List Char) : List Char := text.map Char.toLower

def plainDigits? (text : List Char) : Option (List Nat) := text.mapM asciiDigit?

/-- The power of ten after the letter `e`; none is the power zero. -/
def power? : List Char → Option Int
  | [] => some 0
  | _ :: text =>
      let (negative, digits) := sign text
      if digits.isEmpty then none
      else (plainDigits? digits).map fun ds => signed negative (spelled ds)

def plainReal? (text : List Char) : Option Binary64 :=
  let (negative, rest) := sign text
  let rest := smallLetters rest
  if rest = "inf".toList ∨ rest = "infinity".toList then some (.infinite negative)
  else if rest = "nan".toList then some .nan
  else do
    let (mantissa, power) := rest.span (· ≠ 'e')
    let (whole, fraction) := mantissa.span (· ≠ '.')
    let fraction := fraction.drop 1
    let digits ← plainDigits? (whole ++ fraction)
    if digits.isEmpty then none
    let power := (← power? power) - Int.ofNat fraction.length
    return Binary64.ofDecimal negative (spelled digits) power

def innerUnderscores (text : List Char) : Bool :=
  text.head? ≠ some '_' && text.getLast? ≠ some '_'
    && (text.zip (text.drop 1)).all fun (a, b) => !(a = '_' && b = '_')

/-- A real number with white space around it, or one with underscores anywhere inside. -/
def real? (text : List Char) : Option Binary64 :=
  (plainReal? (Text.Blank.trim text)).or <|
    if text.contains '_' && innerUnderscores text then plainReal? (text.filter (· ≠ '_')) else none

end BlobStorage.Number.Numeral
