import DtoPress.Fault
import DtoPress.Text.Basic
import DtoPress.Text.Lines

/-!
# URLs

The two parts of a URL that say where a document is fetched from : the scheme before the colon
and the authority behind two slashes. Either may be missing. What a URL cannot hold is an
authority whose brackets are not those of an address, or one with a character that stands for
a delimiter of URLs.
-/

namespace DtoPress

/-- A URL by its first two parts, empty where they are missing. -/
structure Url where
  scheme : String
  authority : String
  deriving DecidableEq, Repr

namespace Url

/-- A URL that says where to go and how. -/
def isComplete (u : Url) : Bool :=
  u.scheme != "" && u.authority != ""

/-- A character of a scheme. -/
def isSchemeChar (c : Char) : Bool :=
  c.isAlphanum || c = '+' || c = '-' || c = '.'

/-- A text that is a scheme : a letter, then letters, digits and three signs. -/
def isScheme : List Char → Bool
  | [] => false
  | c :: cs => c.isAlpha && cs.all isSchemeChar

/-- The text without tabs and line ends, and without blanks and controls at its start. -/
def clean (cs : List Char) : List Char :=
  (cs.dropWhile fun c => c.toNat ≤ 0x20).filter fun c => c != '\t' && c != '\r' && c != '\n'

/-- The scheme and what follows its colon; no scheme if what stands before the first colon is
none. -/
def splitScheme (cs : List Char) : List Char × List Char :=
  match Text.cut ':' cs with
  | (scheme, some rest) => if isScheme scheme then (scheme, rest) else ([], cs)
  | (_, none) => ([], cs)

/-- A character that ends the authority. -/
def endsAuthority (c : Char) : Bool :=
  c = '/' || c = '?' || c = '#'

/-- The authority at the start of a text. -/
def authorityOf : List Char → List Char
  | '/' :: '/' :: cs => cs.takeWhile (!endsAuthority ·)
  | _ => []

/-! ## Addresses in brackets -/

/-- A digit of an address in hexadecimal. -/
def isHexDigit (c : Char) : Bool :=
  c.isDigit || ('a' ≤ c && c ≤ 'f') || ('A' ≤ c && c ≤ 'F')

/-- A group of an address : one to four hexadecimal digits. -/
def isGroup (cs : List Char) : Bool :=
  cs.all isHexDigit && 1 ≤ cs.length && cs.length ≤ 4

/-- A decimal number up to 255 without a leading zero. -/
def isOctet (cs : List Char) : Bool :=
  cs.all Char.isDigit && 1 ≤ cs.length && cs.length ≤ 3
    && (cs.length = 1 || cs.head? != some '0')
    && cs.foldl (fun n c => 10 * n + (c.toNat - '0'.toNat)) 0 ≤ 255

/-- Four octets with dots between them. -/
def isDotted (cs : List Char) : Bool :=
  let octets := Text.split '.' cs
  octets.length = 4 && octets.all isOctet

/-- The pieces of an address between colons, dotted octets at the end counted as two groups.
None if what holds a dot is not dotted octets. -/
def addressPieces? (cs : List Char) : Option (List (List Char)) :=
  let pieces := Text.split ':' cs
  match pieces.getLast? with
  | none => some pieces
  | some last =>
    if last.contains '.' then
      if isDotted last then some (pieces.dropLast ++ [['0'], ['0']]) else none
    else some pieces

/-- An empty piece at the outer end of the groups beside a gap belongs to the gap. -/
def besideGap (groups : List (List Char)) : List (List Char) :=
  if groups = [[]] then [] else groups

/-- The number of groups in an address. -/
def groupCount : Nat := 8

/-- The pieces are an address : eight groups, or fewer around one gap. -/
def isAddressOf (pieces : List (List Char)) : Bool :=
  let first := pieces.take 1
  let inner := (pieces.drop 1).dropLast
  let last := (pieces.drop 1).getLast?.toList
  let before := besideGap (first ++ inner.takeWhile (!·.isEmpty))
  match inner.dropWhile (!·.isEmpty) with
  | [] => pieces.length = groupCount && pieces.all isGroup
  | _ :: after =>
    let after := besideGap (after ++ last)
    before.all isGroup && after.all isGroup && before.length + after.length < groupCount

/-- The text is an address of version six, with or without a zone behind a percent sign. -/
def isAddress (cs : List Char) : Bool :=
  let (address, zone) := Text.cut '%' cs
  let zoned := match zone with
    | none => true
    | some zone => !zone.isEmpty && !zone.contains '%'
  zoned && match addressPieces? address with
    | some pieces => 3 ≤ (Text.split ':' address).length && isAddressOf pieces
    | none => false

/-- The text is an address of a version to come : `v`, hexadecimal digits, a dot and more. -/
def isFutureAddress : List Char → Bool
  | 'v' :: cs =>
    match Text.cut '.' cs with
    | (version, some rest) => version.all isHexDigit && !version.isEmpty && !rest.isEmpty
    | (_, none) => false
  | _ => false

/-- The text can stand in brackets. -/
def isBracketed (cs : List Char) : Bool :=
  if cs.head? = some 'v' then isFutureAddress cs else isAddress cs

/-- The host and the port of an authority : what stands behind its last at sign. -/
def hostAndPort (authority : List Char) : List Char :=
  (authority.reverse.takeWhile (· ≠ '@')).reverse

/-- The host of an authority with brackets is one that can stand in them. If it does, nothing
stands before the brackets and at most a port behind them. -/
def hostFits (place : List Char) : Bool :=
  match Text.cut '[' place with
  | (before, some inside) =>
    let (host, port) := Text.cut ']' inside
    before.isEmpty && (port.getD []).head?.all (· = ':') && isBracketed host
  | (_, none) => isBracketed (Text.cut ':' place).1

/-- The brackets of an authority are in order : there are none, or there are both kinds and the
host is one that can stand in them. -/
def bracketsFit (authority : List Char) : Bool :=
  match authority.contains '[', authority.contains ']' with
  | false, false => true
  | true, true => hostFits (hostAndPort authority)
  | _, _ => false

/-! ## Characters that stand for delimiters -/

/-- The characters beyond ASCII whose compatibility form holds a delimiter of URLs. -/
def delimiterForms : List Nat :=
  [0x2047, 0x2048, 0x2049, 0x2100, 0x2101, 0x2105, 0x2106, 0x2a74, 0xfe13, 0xfe16, 0xfe55,
   0xfe56, 0xfe5f, 0xfe6b, 0xff03, 0xff0f, 0xff1a, 0xff1f, 0xff20]

/-- No character of an authority stands for a delimiter. -/
def isPlain (authority : List Char) : Bool :=
  authority.all fun c => !delimiterForms.contains c.toNat

/-- The URL that a text writes. A lone half is like any character without a meaning. -/
def ofText (t : Text) : Except Fault Url :=
  let (scheme, rest) := splitScheme (clean t.toChars)
  let authority := authorityOf rest
  if bracketsFit authority && isPlain authority then
    .ok ⟨(String.ofList scheme).toLower, String.ofList authority⟩
  else .error .badValue

end Url

end DtoPress
