import BlobStorage.Text.Boundary

/-!
Blanks: the white space of every script together with the four separator controls. Around numbers
the separator controls are no blanks, and only white space proper is trimmed.
-/
namespace BlobStorage.Text.Blank

def boundaries : List Nat := [
  0x9, 0xE, 0x1C, 0x21, 0x85, 0x86, 0xA0, 0xA1, 0x1680, 0x1681, 0x2000, 0x200B, 0x2028, 0x202A,
  0x202F, 0x2030, 0x205F, 0x2060, 0x3000, 0x3001]

def isBlank (c : Char) : Bool :=
  Boundary.contains boundaries c.toNat

/-- White space proper, without the separator controls. -/
def isSpace (c : Char) : Bool :=
  isBlank c && !(0x1C ≤ c.toNat && c.toNat ≤ 0x1F)

def trim (text : List Char) : List Char :=
  ((text.dropWhile isSpace).reverse.dropWhile isSpace).reverse

end BlobStorage.Text.Blank
