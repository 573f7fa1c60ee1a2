import Curation.Link.Address
import Curation.Text.Case
import Curation.Text.Hex

/-!
The parts of a link: scheme, authority and the rest. A link is malformed when its brackets do not
pair or hold no address, or when a character of its authority would, in its compatibility form, read
as a delimiter. The query of a link has pairs of names and values behind the first question mark, in
which a percent sign and two hexadecimal digits stand for a byte and a plus sign for a blank.
-/
namespace Curation.Link

/-- A link taken apart; what follows the authority is kept as it stands. -/
structure Parts where
  scheme : List Char
  authority : List Char
  tail : List Char
  deriving DecidableEq, Repr

def isSchemeChar (c : Char) : Bool :=
  c.isAlphanum || c == '+' || c == '-' || c == '.'

/-- Control characters and the space, which do not count in front of a link. -/
def isLeadingControl (c : Char) : Bool := c.toNat ≤ 0x20

/-- The scheme in lower case, when the text before the first colon can be one. -/
def takeScheme (text : List Char) : List Char × List Char :=
  match partition ':' text with
  | (name, true, rest) =>
    match name with
    | first :: _ =>
      if first.isAlpha && name.all isSchemeChar then (name.map Char.toLower, rest) else ([], text)
    | [] => ([], text)
  | _ => ([], text)

def isDelimiter (c : Char) : Bool := c == '/' || c == '?' || c == '#'

/-- Characters whose compatibility form holds one of the delimiters `/`, `?`, `#`, `@` and `:`. -/
def hiddenDelimiters : List Nat :=
  [0x2047, 0x2048, 0x2049, 0x2100, 0x2101, 0x2105, 0x2106, 0x2a74, 0xfe13, 0xfe16, 0xfe55, 0xfe56,
    0xfe5f, 0xfe6b, 0xff03, 0xff0f, 0xff1a, 0xff1f, 0xff20]

/-- Whether the brackets of an authority pair up and hold an address. -/
def bracketsFit (authority : List Char) : Bool :=
  let opens := authority.contains '['
  let closes := authority.contains ']'
  if opens != closes then false
  else if opens then isBracketedHost (partition ']' (partition '[' authority).2.2).1
  else true

/-- Takes a link apart; none when it is malformed. -/
def parts? (link : String) : Option Parts :=
  let text := (link.toList.dropWhile isLeadingControl).filter
    fun c => c != '\t' && c != '\r' && c != '\n'
  let (scheme, rest) := takeScheme text
  match rest with
  | '/' :: '/' :: rest =>
    let authority := rest.takeWhile (fun c => !isDelimiter c)
    if !bracketsFit authority then none
    else if authority.any (fun c => hiddenDelimiters.contains c.toNat) then none
    else some ⟨scheme, authority, rest.dropWhile (fun c => !isDelimiter c)⟩
  | _ => some ⟨scheme, [], rest⟩

/-- The host of an authority in lower case, without account and number; a zone keeps its case. -/
def Parts.host (parts : Parts) : String :=
  let place := behindLast '@' parts.authority
  let name := match partition '[' place with
    | (_, true, bracketed) => (partition ']' bracketed).1
    | _ => (partition ':' place).1
  let (host, zoned, zone) := partition '%' name
  String.ofList (Text.lowerFrom [] host ++ (if zoned then '%' :: zone else []))

/-! ## Queries -/

/-- The bytes that an escaped text stands for. -/
def unescapedBytes : List Char → List UInt8
  | '%' :: high :: low :: rest =>
    match Text.hexValue? high, Text.hexValue? low with
    | some high, some low => UInt8.ofNat (16 * high + low) :: unescapedBytes rest
    | _, _ => 0x25 :: unescapedBytes (high :: low :: rest)
  | '+' :: rest => 0x20 :: unescapedBytes rest
  | c :: rest => (String.singleton c).toUTF8.toList ++ unescapedBytes rest
  | [] => []
  termination_by text => text.length

/-- The text under the escapes, or the text as it stands when they do not spell one. -/
def unescape (text : List Char) : String :=
  (String.fromUTF8? ⟨(unescapedBytes text).toArray⟩).getD (String.ofList text)

/-- The pairs of a query. -/
def readQuery (text : List Char) : List (String × String) :=
  ((Text.splitAt '&' text).filter fun piece => !piece.isEmpty).map fun piece =>
    let (name, _, value) := partition '=' piece
    (unescape name, unescape value)

/-- A link without its query, and the query's pairs where it has one. -/
def splitQuery (link : String) : String × Option (List (String × String)) :=
  match partition '?' link.toList with
  | (before, true, query) => (String.ofList before, some (readQuery query))
  | _ => (link, none)

end Curation.Link
