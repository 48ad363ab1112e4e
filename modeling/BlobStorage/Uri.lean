import BlobStorage.Failure.Ambient
import BlobStorage.Uri.Address

/-!
Uniform resource identifiers, cut into scheme, authority, path, parameters, query and fragment.
Leading controls and blanks are dropped first, and so are tabs and line ends anywhere. Brackets in
the authority must be balanced, and then the host must be a numeric address, which they enclose
unless they stand in the user information.
-/
namespace BlobStorage

structure Uri where
  scheme : List Char
  authority : List Char
  path : List Char
  parameters : List Char
  query : List Char
  fragment : List Char
  deriving DecidableEq, Repr

namespace Uri

def isSchemeChar (c : Char) : Bool :=
  c.isAlphanum || c = '+' || c = '-' || c = '.'

/-- The text without leading controls and blanks, and without tabs and line ends. -/
def cleaned (text : List Char) : List Char :=
  (text.dropWhile fun c => c.toNat ≤ 0x20).filter fun c => c ≠ '\t' && c ≠ '\r' && c ≠ '\n'

/-- A scheme starts with a letter and ends at the first colon. -/
def cutScheme (text : List Char) : List Char × List Char :=
  let (scheme, rest) := text.span (· ≠ ':')
  match scheme, rest with
  | c :: _, _ :: rest =>
      if c.isAlpha && scheme.all isSchemeChar then (scheme.map Char.toLower, rest) else ([], text)
  | _, _ => ([], text)

/-- The authority stands between two slashes and the next slash, question mark or number sign. -/
def cutAuthority : List Char → List Char × List Char
  | '/' :: '/' :: rest => rest.span fun c => c ≠ '/' && c ≠ '?' && c ≠ '#'
  | text => ([], text)

def cutAt (mark : Char) (text : List Char) : List Char × List Char :=
  let (before, after) := text.span (· ≠ mark)
  (before, after.drop 1)

/-- What stands after the last mark; the whole text if there is none. -/
def afterLast (mark : Char) (text : List Char) : List Char :=
  (text.reverse.takeWhile (· ≠ mark)).reverse

/-- An address of a future version: a `v`, hexadecimal digits, a point and more. -/
def isFuture : List Char → Bool
  | _ :: rest =>
      let (digits, more) := rest.span fun c => (Text.Hex.value? c).isSome
      match more with
      | '.' :: _ :: _ => !digits.isEmpty
      | _ => false
  | [] => false

/-- The host of an authority that has brackets. Nothing may stand before an opening bracket of the
host, and after the closing one only a colon may follow. -/
def bracketedHost (authority : List Char) : Except Ambient (List Char) :=
  let place := afterLast '@' authority
  let (before, rest) := place.span (· ≠ '[')
  match rest with
  | [] => .ok (cutAt ':' place).1
  | _ :: inside =>
      let (host, behind) := cutAt ']' inside
      if !before.isEmpty || !(behind.isEmpty || behind.head? = some ':') then
        .error .unbalancedBrackets
      else .ok host

def checkHost (host : List Char) : Except Ambient Unit :=
  if host.head? = some 'v' then
    if isFuture host then .ok () else .error .futureAddress
  else if Address.isFourPart host then .error .bracketedAddress
  else if Address.isEightPart host then .ok ()
  else .error (.notAddress (String.ofList host))

def checkBrackets (authority : List Char) : Except Ambient Unit := do
  let opened := authority.contains '['
  let closed := authority.contains ']'
  if opened != closed then throw .unbalancedBrackets
  if opened then checkHost (← bracketedHost authority)

/-- Characters whose compatibility form holds one of the marks that structure an identifier. -/
def disguised : List Nat :=
  [0x2047, 0x2048, 0x2049, 0x2100, 0x2101, 0x2105, 0x2106, 0x2A74, 0xFE13, 0xFE16, 0xFE55, 0xFE56,
    0xFE5F, 0xFE6B, 0xFF03, 0xFF0F, 0xFF1A, 0xFF1F, 0xFF20]

def checkDisguise (authority : List Char) : Except Ambient Unit :=
  if authority.any fun c => disguised.contains c.toNat then
    .error (.authorityNormalized (String.ofList authority))
  else .ok ()

def parameterSchemes : List String :=
  ["", "ftp", "hdl", "prospero", "http", "imap", "https", "shttp", "rtsp", "rtspu", "sip", "sips",
    "mms", "sftp", "tel"]

/-- Parameters start at the first semicolon of the last segment. -/
def cutParameters (path : List Char) : List Char × List Char :=
  let last := afterLast '/' path
  let (segment, parameters) := cutAt ';' last
  (path.take (path.length - last.length) ++ segment, parameters)

def parse (text : List Char) : Except Ambient Uri := do
  let (scheme, rest) := cutScheme (cleaned text)
  let (authority, rest) := cutAuthority rest
  checkBrackets authority
  let (rest, fragment) := cutAt '#' rest
  let (path, query) := cutAt '?' rest
  checkDisguise authority
  let (path, parameters) :=
    if parameterSchemes.contains (String.ofList scheme) then cutParameters path else (path, [])
  return { scheme, authority, path, parameters, query, fragment }

/-- The host: the authority without user information, without brackets and without the number that
may follow a colon. -/
def host (u : Uri) : List Char :=
  let place := afterLast '@' u.authority
  if place.contains '[' then (cutAt ']' (cutAt '[' place).2).1 else (cutAt ':' place).1

end Uri
end BlobStorage
