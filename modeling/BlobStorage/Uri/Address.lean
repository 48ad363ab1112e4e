import BlobStorage.Text.Hex

/-!
Numeric host addresses. A four-part address has four decimal parts from 0 to 255 without leading
zeros. An eight-part address has eight hexadecimal parts of at most four digits; one run of zero
parts may be left out, the last two parts may be written as a four-part address, and a zone may
follow a percent sign.
-/
namespace BlobStorage.Uri.Address

def isDecimalPart (part : List Char) : Bool :=
  part.length ≤ 3 && !part.isEmpty && part.all Char.isDigit
    && (part = ['0'] || part.head? ≠ some '0')
    && part.foldl (fun n c => 10 * n + (c.toNat - 48)) 0 ≤ 255

def isFourPart (text : List Char) : Bool :=
  let parts := text.splitOn '.'
  parts.length = 4 && parts.all isDecimalPart

def isHexPart (part : List Char) : Bool :=
  !part.isEmpty && part.length ≤ 4 && part.all fun c => (Text.Hex.value? c).isSome

/-- The zone must be there after a percent sign and hold no other one. -/
def withoutZone? (text : List Char) : Option (List Char) :=
  let (address, zone) := text.span (· ≠ '%')
  match zone with
  | [] => some address
  | _ :: zone => if zone.isEmpty || zone.contains '%' then none else some address

/-- The parts of an eight-part address, a four-part end counted as two parts. -/
def parts? (text : List Char) : Option (List (List Char)) :=
  let parts := text.splitOn ':'
  match parts.getLast? with
  | some last =>
      if last.contains '.' then
        if isFourPart last then some (parts.dropLast ++ [['0'], ['0']]) else none
      else some parts
  | none => none

/-- The parts before and after the run that is left out, when an inner part is empty. -/
def aroundGap (before : List (List Char)) :
    List (List Char) → Option (List (List Char) × List (List Char))
  | [] => none
  | [_] => none
  | part :: rest =>
      if part.isEmpty then some (before.reverse, rest) else aroundGap (part :: before) rest

def isEightPart (text : List Char) : Bool :=
  if text.contains '/' then false
  else
    match withoutZone? text with
    | none => false
    | some address =>
        let given := address.splitOn ':'
        if given.length < 3 then false
        else
          match parts? address with
          | none => false
          | some [] => false
          | some (first :: rest) =>
              if 9 < rest.length + 1 then false
              else
                match aroundGap [first] rest with
                | none => rest.length + 1 = 8 && (first :: rest).all isHexPart
                | some (high, low) =>
                    let inner := low.dropLast
                    let high := if high = [[]] then [] else high
                    let low := if low = [[]] then [] else low
                    !inner.contains [] && high.length + low.length ≤ 7
                      && (high ++ low).all isHexPart

end BlobStorage.Uri.Address
