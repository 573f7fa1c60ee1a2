import Curation.Text.Hex
import Curation.Text.Split

/-!
Host addresses that may stand in brackets in a link: the sixth version of the internet protocol,
with a tail of the fourth version and a zone allowed, and the form reserved for later versions.
-/
namespace Curation.Link

/-- The text before and the text behind the first occurrence of a separator, with whether there
was one. -/
def partition (separator : Char) (text : List Char) : List Char × Bool × List Char :=
  let before := text.takeWhile (· ≠ separator)
  match text.dropWhile (· ≠ separator) with
  | [] => (before, false, [])
  | _ :: behind => (before, true, behind)

/-- What stands behind the last occurrence of a separator, or the whole text. -/
def behindLast (separator : Char) (text : List Char) : List Char :=
  (text.reverse.takeWhile (· ≠ separator)).reverse

def isAsciiDigit (c : Char) : Bool := '0' ≤ c && c ≤ '9'

/-- One number of a dotted address: at most 255, without a leading zero. -/
def isOctet (part : List Char) : Bool :=
  !part.isEmpty && part.all isAsciiDigit && part.length ≤ 3
    && (part == ['0'] || part.head? != some '0')
    && part.foldl (fun n c => 10 * n + (c.toNat - '0'.toNat)) 0 ≤ 255

def isDottedAddress (text : List Char) : Bool :=
  let parts := Text.splitAt '.' text
  parts.length == 4 && parts.all isOctet

/-- One group of a colon address: one to four hexadecimal digits. -/
def isGroup (part : List Char) : Bool :=
  !part.isEmpty && part.length ≤ 4 && part.all Text.isHexDigit

/-- Groups between colons; one `::` may stand for one or more groups of zeros. -/
def isGroupList (parts : List (List Char)) : Bool :=
  let inner := (parts.drop 1).dropLast
  let gaps := (inner.filter (·.isEmpty)).length
  let count := parts.length
  if count < 3 || 9 < count || 1 < gaps then false
  else if gaps = 1 then
    let before := parts.takeWhile (fun p => !p.isEmpty)
    let startsEmpty := parts.head? == some []
    let gapAt := if startsEmpty then
        1 + ((parts.drop 1).takeWhile (fun p => !p.isEmpty)).length else before.length
    let high := parts.take gapAt
    let low := parts.drop (gapAt + 1)
    let high := if startsEmpty then high.drop 1 else high
    let endsEmpty := low.getLast? == some []
    let low := if endsEmpty then low.dropLast else low
    (!startsEmpty || high.isEmpty) && (!endsEmpty || low.isEmpty)
      && high.length + low.length < 8 && high.all isGroup && low.all isGroup
  else count == 8 && parts.all isGroup

/-- An address of the sixth version, whose last two groups may be written as a dotted address. -/
def isColonAddress (text : List Char) : Bool :=
  let (address, zoned, zone) := partition '%' text
  if text.contains '/' || (zoned && (zone.isEmpty || zone.contains '%')) then false
  else
    let parts := Text.splitAt ':' address
    match parts.getLast? with
    | some last =>
      if last.contains '.' then
        3 ≤ parts.length && isDottedAddress last
          && isGroupList (parts.dropLast ++ [['0'], ['0']])
      else isGroupList parts
    | none => false

/-- The form reserved for later versions: `v`, hexadecimal digits, a point, and anything. -/
def isFutureAddress (text : List Char) : Bool :=
  match text with
  | 'v' :: rest =>
    let digits := rest.takeWhile Text.isHexDigit
    match rest.dropWhile Text.isHexDigit with
    | '.' :: tail => !digits.isEmpty && !tail.isEmpty && !tail.contains '\n'
    | _ => false
  | _ => false

/-- Whether a text may stand in brackets as a host. -/
def isBracketedHost (text : List Char) : Bool :=
  if text.head? == some 'v' then isFutureAddress text else isColonAddress text

end Curation.Link
