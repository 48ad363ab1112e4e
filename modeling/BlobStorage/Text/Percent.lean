import BlobStorage.Text.Hex
import BlobStorage.Text.Utf8

/-!
Percent-encoding of text. Path encoding keeps letters, digits, `_.-~` and the slash; form encoding
keeps the same without the slash and writes a blank as a plus sign. Decoding leaves a percent sign
that is not followed by two hexadecimal digits as it stands.
-/
namespace BlobStorage.Text.Percent

def unreserved (c : Char) : Bool :=
  c.isAlphanum || c = '_' || c = '.' || c = '-' || c = '~'

def escapeByte (b : UInt8) : List Char :=
  '%' :: (Hex.encodeByte b).map Char.toUpper

def escape (c : Char) : List Char :=
  (String.utf8EncodeChar c).flatMap escapeByte

def encodePath (text : List Char) : List Char :=
  text.flatMap fun c => if unreserved c || c = '/' then [c] else escape c

def encodeForm (text : List Char) : List Char :=
  text.flatMap fun c => if unreserved c then [c] else if c = ' ' then ['+'] else escape c

/-- Name and value pairs joined as `name=value&name=value`. -/
def encodePairs (pairs : List (String × String)) : List Char :=
  List.intercalate ['&'] <| pairs.map fun (name, value) =>
    encodeForm name.toList ++ '=' :: encodeForm value.toList

/-- The bytes a text stands for: an escape is one byte, any other character its UTF-8 form. -/
def bytes : List Char → List UInt8
  | '%' :: a :: b :: rest =>
      match Hex.value? a, Hex.value? b with
      | some high, some low => UInt8.ofNat (16 * high + low) :: bytes rest
      | _, _ => 37 :: bytes (a :: b :: rest)
  | c :: rest => String.utf8EncodeChar c ++ bytes rest
  | [] => []

def decode (text : List Char) : List Char :=
  Utf8.decode (bytes text)

/-- Decoding of a form's name or value, where a plus sign is a blank. -/
def decodeForm (text : List Char) : List Char :=
  decode (text.map fun c => if c = '+' then ' ' else c)

end BlobStorage.Text.Percent
