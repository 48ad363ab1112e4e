import BlobStorage.Content

/-!
What block digests share: padding a message to whole blocks of 64 bytes, reading words from a
block, and writing words as bytes. The order of the bytes in a word is a parameter.
-/
namespace BlobStorage.Digest

inductive ByteOrder where
  | leastFirst
  | mostFirst

namespace ByteOrder

def arrange {α : Type} : ByteOrder → List α → List α
  | .leastFirst, bytes => bytes
  | .mostFirst, bytes => bytes.reverse

/-- The lowest `count` bytes of a number. -/
def bytes (order : ByteOrder) (count n : Nat) : Content :=
  order.arrange ((List.range count).map fun i => UInt8.ofNat (n / Nat.pow 256 i))

def word (order : ByteOrder) (bytes : Content) : UInt32 :=
  UInt32.ofNat ((order.arrange bytes).foldr (fun b n => b.toNat + 256 * n) 0)

end ByteOrder

/-- A one bit, then zeros up to eight bytes before the end of a block, then the length in bits. -/
def pad (order : ByteOrder) (message : Content) : Content :=
  let zeros := (119 - message.length % 64) % 64
  message ++ 0x80 :: List.replicate zeros 0 ++ order.bytes 8 (8 * message.length)

/-- The padded message as blocks of sixteen words. -/
def blocks (order : ByteOrder) (message : Content) : List (Array UInt32) :=
  (Content.pieces 64 (pad order message)).map fun block =>
    ((Content.pieces 4 block).map order.word).toArray

def rotateLeft (x : UInt32) (n : Nat) : UInt32 :=
  (x <<< UInt32.ofNat n) ||| (x >>> UInt32.ofNat (32 - n))

def rotateRight (x : UInt32) (n : Nat) : UInt32 :=
  rotateLeft x (32 - n)

end BlobStorage.Digest
