/-!
Bytes written as pairs of hexadecimal digits. Reading accepts both cases and lets blanks stand
between two bytes; writing uses small letters and no blanks.
-/
namespace BlobStorage.Text.Hex

def value? (c : Char) : Option Nat :=
  if '0' ≤ c ∧ c ≤ '9' then some (c.toNat - 48)
  else if 'a' ≤ c ∧ c ≤ 'f' then some (c.toNat - 87)
  else if 'A' ≤ c ∧ c ≤ 'F' then some (c.toNat - 55)
  else none

def encodeByte (b : UInt8) : List Char :=
  [Nat.digitChar (b.toNat / 16), Nat.digitChar (b.toNat % 16)]

def encode (bytes : List UInt8) : List Char :=
  bytes.flatMap encodeByte

def isBlank (c : Char) : Bool :=
  c = ' ' || (9 ≤ c.toNat && c.toNat ≤ 13)

/-- Refuses a digit without its partner and every other character. -/
def decode? : List Char → Option (List UInt8)
  | [] => some []
  | [c] => if isBlank c then some [] else none
  | a :: b :: rest =>
      if isBlank a then decode? (b :: rest)
      else do
        let high ← value? a
        let low ← value? b
        let bytes ← decode? rest
        pure (UInt8.ofNat (16 * high + low) :: bytes)

def padded (width n : Nat) : List Char :=
  let digits := Nat.toDigits 16 n
  List.replicate (width - digits.length) '0' ++ digits

end BlobStorage.Text.Hex
