import BlobStorage.Text.Hex
import BlobStorage.Text.Printable

/-!
Text in quotation marks, as messages show it. Apostrophes delimit unless the text holds an
apostrophe and no double quote. The delimiter, the backslash, line ends and tabs are escaped, and
so is every character that is not printable, by its code point.
-/
namespace BlobStorage.Text.Quoted

def apostrophe : Char := Char.ofNat 0x27

def doubleQuote : Char := Char.ofNat 0x22

def backslash : Char := Char.ofNat 0x5C

def delimiter (text : List Char) : Char :=
  if text.contains apostrophe && !text.contains doubleQuote then doubleQuote else apostrophe

def codePoint (n : Nat) : List Char :=
  if n < 0x100 then backslash :: 'x' :: Hex.padded 2 n
  else if n < 0x10000 then backslash :: 'u' :: Hex.padded 4 n
  else backslash :: 'U' :: Hex.padded 8 n

def escape (mark c : Char) : List Char :=
  if c = mark || c = backslash then [backslash, c]
  else if c = '\n' then [backslash, 'n']
  else if c = '\r' then [backslash, 'r']
  else if c = '\t' then [backslash, 't']
  else if Printable.isPrintable c then [c]
  else codePoint c.toNat

def encode (text : List Char) : List Char :=
  let mark := delimiter text
  mark :: text.flatMap (escape mark) ++ [mark]

end BlobStorage.Text.Quoted

namespace BlobStorage

def quoted (text : String) : String :=
  String.ofList (Text.Quoted.encode text.toList)

end BlobStorage
