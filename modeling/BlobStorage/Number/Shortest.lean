import BlobStorage.Number.Binary64

/-!
The shortest decimal text that reads back as a given floating-point number. For one digit, two
digits and so on the two neighbours of the value on that decimal grid are tried; the first grid
with a hit wins, and of two hits the nearer one, an even last digit deciding a tie. Seventeen
digits always suffice.
-/
namespace BlobStorage.Number.Shortest

/-- A positive decimal number: its digits as a whole number, and the power of ten of the last. -/
structure Decimal where
  digits : Nat
  power : Int

def width (n : Nat) : Nat := (Nat.toDigits 10 n).length

/-- The power of ten that a quotient reaches: the largest `k` with `10 ^ k` at most its value. -/
def magnitude (num den : Nat) : Int :=
  let guess := Int.ofNat (width num) - Int.ofNat (width den)
  let reaches (k : Int) : Bool :=
    match k with
    | .ofNat p => den * Nat.pow 10 p ≤ num
    | .negSucc p => den ≤ num * Nat.pow 10 (p + 1)
  if reaches guess then guess else guess - 1

def shift (num den : Nat) : Int → Nat × Nat
  | .ofNat k => (num, den * Nat.pow 10 k)
  | .negSucc k => (num * Nat.pow 10 (k + 1), den)

/-- The best decimal with `count` digits that reads back as `x`, whose magnitude is the
quotient. -/
def candidate? (x : Binary64) (num den count : Nat) : Option Decimal :=
  let power := magnitude num den - (Int.ofNat count - 1)
  let (n, d) := shift num den power
  let below := n / d
  let hits (c : Nat) : Bool := Binary64.ofDecimal false c power == x
  let lower := hits below
  let upper := hits (below + 1)
  let nearerLower := 2 * (n % d) < d || (2 * (n % d) = d && below % 2 = 0)
  if lower && (nearerLower || !upper) then some ⟨below, power⟩
  else if upper then some ⟨below + 1, power⟩
  else none

def shortest (mantissa : Nat) (exponent : Int) : Decimal :=
  let x := Binary64.finite false mantissa exponent
  let (num, den) := Binary64.magnitude mantissa exponent
  match (List.range 17).findSome? fun i => candidate? x num den (i + 1) with
  | some d => d
  | none => ⟨0, 0⟩

def strip : Nat → Decimal → Decimal
  | 0, d => d
  | fuel + 1, d =>
      if d.digits ≠ 0 ∧ d.digits % 10 = 0 then strip fuel ⟨d.digits / 10, d.power + 1⟩ else d

/-- Positional text for exponents from -4 to 15, with at least one digit on each side of the
point; otherwise one digit before the point and an exponent of at least two digits. -/
def layout (d : Decimal) : List Char :=
  let d := strip 20 d
  let digits := Nat.toDigits 10 d.digits
  let exponent := d.power + Int.ofNat digits.length - 1
  if -4 ≤ exponent ∧ exponent < 16 then
    if exponent < 0 then
      "0.".toList ++ List.replicate (exponent.natAbs - 1) '0' ++ digits
    else
      let places := exponent.toNat + 1
      let whole := digits.take places ++ List.replicate (places - digits.length) '0'
      let fraction := digits.drop places
      whole ++ '.' :: (if fraction.isEmpty then ['0'] else fraction)
  else
    let rest := digits.drop 1
    let power := Nat.toDigits 10 exponent.natAbs
    digits.take 1 ++ (if rest.isEmpty then [] else '.' :: rest)
      ++ 'e' :: (if exponent < 0 then '-' else '+')
      :: (List.replicate (2 - power.length) '0' ++ power)

def text : Binary64 → String
  | .nan => "nan"
  | .infinite negative => if negative then "-inf" else "inf"
  | .finite negative m e =>
      let body := if m = 0 then "0.0".toList else layout (shortest m e)
      String.ofList (if negative then '-' :: body else body)

end BlobStorage.Number.Shortest
