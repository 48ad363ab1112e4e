import BlobStorage.Digest.Block
import BlobStorage.Text.Hex

/-!
The SHA-256 digest and the keyed hash built from it, which signs presigned addresses.
-/
namespace BlobStorage.Digest.Sha256

/-- The first 32 fractional bits of the cube roots of the first 64 primes. -/
def roots : Array UInt32 := #[
  0x428a2f98, 0x71374491, 0xb5c0fbcf, 0xe9b5dba5, 0x3956c25b, 0x59f111f1, 0x923f82a4, 0xab1c5ed5,
  0xd807aa98, 0x12835b01, 0x243185be, 0x550c7dc3, 0x72be5d74, 0x80deb1fe, 0x9bdc06a7, 0xc19bf174,
  0xe49b69c1, 0xefbe4786, 0x0fc19dc6, 0x240ca1cc, 0x2de92c6f, 0x4a7484aa, 0x5cb0a9dc, 0x76f988da,
  0x983e5152, 0xa831c66d, 0xb00327c8, 0xbf597fc7, 0xc6e00bf3, 0xd5a79147, 0x06ca6351, 0x14292967,
  0x27b70a85, 0x2e1b2138, 0x4d2c6dfc, 0x53380d13, 0x650a7354, 0x766a0abb, 0x81c2c92e, 0x92722c85,
  0xa2bfe8a1, 0xa81a664b, 0xc24b8b70, 0xc76c51a3, 0xd192e819, 0xd6990624, 0xf40e3585, 0x106aa070,
  0x19a4c116, 0x1e376c08, 0x2748774c, 0x34b0bcb5, 0x391c0cb3, 0x4ed8aa4a, 0x5b9cca4f, 0x682e6ff3,
  0x748f82ee, 0x78a5636f, 0x84c87814, 0x8cc70208, 0x90befffa, 0xa4506ceb, 0xbef9a3f7, 0xc67178f2]

structure State where
  a : UInt32
  b : UInt32
  c : UInt32
  d : UInt32
  e : UInt32
  f : UInt32
  g : UInt32
  h : UInt32

/-- The first 32 fractional bits of the square roots of the first 8 primes. -/
def start : State :=
  ⟨0x6a09e667, 0xbb67ae85, 0x3c6ef372, 0xa54ff53a,
    0x510e527f, 0x9b05688c, 0x1f83d9ab, 0x5be0cd19⟩

/-- A block's sixteen words extended to sixty-four. -/
def schedule (block : Array UInt32) : Array UInt32 :=
  (List.range 48).foldl (fun w i =>
    let x := w.getD (i + 1) 0
    let y := w.getD (i + 14) 0
    let s := rotateRight x 7 ^^^ rotateRight x 18 ^^^ (x >>> 3)
    let t := rotateRight y 17 ^^^ rotateRight y 19 ^^^ (y >>> 10)
    w.push (w.getD i 0 + s + w.getD (i + 9) 0 + t)) block

def step (words : Array UInt32) (s : State) (i : Nat) : State :=
  let big := rotateRight s.e 6 ^^^ rotateRight s.e 11 ^^^ rotateRight s.e 25
  let choice := (s.e &&& s.f) ^^^ (~~~s.e &&& s.g)
  let t := s.h + big + choice + roots.getD i 0 + words.getD i 0
  let small := rotateRight s.a 2 ^^^ rotateRight s.a 13 ^^^ rotateRight s.a 22
  let majority := (s.a &&& s.b) ^^^ (s.a &&& s.c) ^^^ (s.b &&& s.c)
  ⟨t + small + majority, s.a, s.b, s.c, s.d + t, s.e, s.f, s.g⟩

def compress (s : State) (block : Array UInt32) : State :=
  let t := (List.range 64).foldl (step (schedule block)) s
  ⟨s.a + t.a, s.b + t.b, s.c + t.c, s.d + t.d, s.e + t.e, s.f + t.f, s.g + t.g, s.h + t.h⟩

def digest (message : Content) : Content :=
  let s := (blocks .mostFirst message).foldl compress start
  [s.a, s.b, s.c, s.d, s.e, s.f, s.g, s.h].flatMap fun w => ByteOrder.mostFirst.bytes 4 w.toNat

/-- A key as one block: a long key is digested first, a short one filled with zeros. -/
def keyBlock (key : Content) : Content :=
  let key := if 64 < key.length then digest key else key
  key ++ List.replicate (64 - key.length) 0

def sign (key message : Content) : Content :=
  let block := keyBlock key
  digest (block.map (· ^^^ 0x5c) ++ digest (block.map (· ^^^ 0x36) ++ message))

def signHex (key message : Content) : String :=
  String.ofList (Text.Hex.encode (sign key message))

end BlobStorage.Digest.Sha256
