/-!
Binary floating-point numbers of 64 bits as exact values: a sign, a mantissa below 2 ^ 53 and a
power of two. Rounding a quotient of integers to the nearest such number, ties to an even
mantissa, is the only way finite numbers are made.
-/
namespace BlobStorage

inductive Binary64 where
  | nan
  | infinite (negative : Bool)
  | finite (negative : Bool) (mantissa : Nat) (exponent : Int)
  deriving DecidableEq, Repr

namespace Binary64

/-- Multiplies by a power of two, the quotient given as numerator and denominator. -/
def scale (num den : Nat) : Int → Nat × Nat
  | .ofNat k => (num * Nat.pow 2 k, den)
  | .negSucc k => (num, den * Nat.pow 2 (k + 1))

/-- The whole number nearest to a quotient; a half goes to the even neighbour. -/
def roundHalfEven (num den : Nat) : Nat :=
  let q := num / den
  let r := num % den
  if 2 * r < den then q else if den < 2 * r then q + 1 else q + q % 2

/-- The exponent at which the quotient has 53 binary digits before the point, but not below
-1074. -/
def exponentOf (num den : Nat) : Int :=
  let e : Int := Int.ofNat (Nat.log2 num) - Int.ofNat (Nat.log2 den) - 52
  let (n, d) := scale num den (-e)
  let e := if n < Nat.pow 2 52 * d then e - 1 else e
  max e (-1074)

/-- The number nearest to a quotient of a sign's magnitude, infinite when it is too large. -/
def nearest (negative : Bool) (num den : Nat) : Binary64 :=
  if num = 0 then finite negative 0 (-1074)
  else
    let e := exponentOf num den
    let (n, d) := scale num den (-e)
    let m := roundHalfEven n d
    let (m, e) := if m = Nat.pow 2 53 then (Nat.pow 2 52, e + 1) else (m, e)
    if 971 < e then infinite negative else finite negative m e

def ofInt (n : Int) : Binary64 :=
  nearest (n < 0) n.natAbs 1

/-- `digits · 10 ^ power`; powers far outside the range are decided without being computed. -/
def ofDecimal (negative : Bool) (digits : Nat) (power : Int) : Binary64 :=
  if digits = 0 then nearest negative 0 1
  else if 400 < power then infinite negative
  else if power + Int.ofNat (Nat.log2 digits) < -1500 then nearest negative 0 1
  else
    match power with
    | .ofNat k => nearest negative (digits * Nat.pow 10 k) 1
    | .negSucc k => nearest negative digits (Nat.pow 10 (k + 1))

def magnitude (mantissa : Nat) (exponent : Int) : Nat × Nat :=
  scale mantissa 1 exponent

/-- Less than a whole number; false for what is not a number. -/
def ltInt (x : Binary64) (n : Int) : Bool :=
  match x with
  | nan => false
  | infinite negative => negative
  | finite negative m e =>
      let (num, den) := magnitude m e
      let signed : Int := if negative then -(Int.ofNat num) else Int.ofNat num
      signed < n * Int.ofNat den

def leInt (x : Binary64) (n : Int) : Bool :=
  match x with
  | nan => false
  | infinite negative => negative
  | finite negative m e =>
      let (num, den) := magnitude m e
      let signed : Int := if negative then -(Int.ofNat num) else Int.ofNat num
      signed ≤ n * Int.ofNat den

def toInt? : Binary64 → Option Int
  | finite negative m e =>
      let (num, den) := magnitude m e
      if num % den = 0 then
        let n := Int.ofNat (num / den)
        some (if negative then -n else n)
      else none
  | _ => none

/-- The value times a quotient of whole numbers, rounded. -/
def scaled (x : Binary64) (num den : Nat) : Binary64 :=
  match x with
  | finite negative m e =>
      let (n, d) := magnitude m e
      nearest negative (n * num) (d * den)
  | x => x

def cut : Binary64 → Nat
  | finite _ m e =>
      let (num, den) := magnitude m e
      num / den
  | _ => 0

def beyondCut : Binary64 → Binary64
  | finite _ m e =>
      let (num, den) := magnitude m e
      nearest false (num % den) den
  | x => x

/-- The whole number nearest to the magnitude; a half goes up. -/
def roundHalfUp : Binary64 → Nat
  | finite _ m e =>
      let (num, den) := magnitude m e
      (2 * num + den) / (2 * den)
  | _ => 0

def isNegative : Binary64 → Bool
  | finite negative m _ => negative && m ≠ 0
  | infinite negative => negative
  | nan => false

def isZero : Binary64 → Bool
  | finite _ 0 _ => true
  | _ => false

end Binary64
end BlobStorage
