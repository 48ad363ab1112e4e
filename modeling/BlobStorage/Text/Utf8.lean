import BlobStorage.Content

/-!
Reading UTF-8. Bytes that cannot start or continue a character are replaced, each maximal
ill-formed piece by one U+FFFD, so that reading never fails.
-/
namespace BlobStorage.Text.Utf8

def replacement : Char := Char.ofNat 0xFFFD

/-- What the first byte of a sequence announces: how many bytes follow, the payload bits of the
first byte, and the range of the second byte. -/
structure Lead where
  follow : Nat
  bits : Nat
  low : Nat := 0x80
  high : Nat := 0xBF

def lead? (b : UInt8) : Option Lead :=
  let n := b.toNat
  if 0xC2 ≤ n ∧ n ≤ 0xDF then some { follow := 1, bits := n % 32 }
  else if n = 0xE0 then some { follow := 2, bits := 0, low := 0xA0 }
  else if n = 0xED then some { follow := 2, bits := 13, high := 0x9F }
  else if 0xE1 ≤ n ∧ n ≤ 0xEF then some { follow := 2, bits := n % 16 }
  else if n = 0xF0 then some { follow := 3, bits := 0, low := 0x90 }
  else if n = 0xF4 then some { follow := 3, bits := 4, high := 0x8F }
  else if 0xF1 ≤ n ∧ n ≤ 0xF3 then some { follow := 3, bits := n % 8 }
  else none

/-- The remaining bytes of a character: its code point if the sequence is complete, and how many
bytes were used either way. -/
def continuation : Nat → Nat → Nat → Nat → List UInt8 → Option Nat × Nat
  | 0, bits, _, _, _ => (some bits, 0)
  | _ + 1, _, _, _, [] => (none, 0)
  | follow + 1, bits, low, high, b :: rest =>
      if low ≤ b.toNat ∧ b.toNat ≤ high then
        let (code, used) := continuation follow (64 * bits + b.toNat % 64) 0x80 0xBF rest
        (code, used + 1)
      else (none, 0)

def decode : List UInt8 → List Char
  | [] => []
  | b :: rest =>
      if b.toNat < 0x80 then Char.ofNat b.toNat :: decode rest
      else
        match lead? b with
        | none => replacement :: decode rest
        | some l =>
            match continuation l.follow l.bits l.low l.high rest with
            | (some code, used) => Char.ofNat code :: decode (rest.drop used)
            | (none, used) => replacement :: decode (rest.drop used)
termination_by bytes => bytes.length
decreasing_by all_goals simp only [List.length_drop, List.length_cons]; omega

end BlobStorage.Text.Utf8
