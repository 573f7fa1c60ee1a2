import Curation.Json.Access
import Curation.Number.Decimal
import Curation.Text.Hex

/-!
Call data and answers of token contracts: addresses, the hexadecimal words that carry arguments, and
numbers read back from answers. An accepted address is `0x` with forty hexadecimal digits, up to one
line end behind it, and a word read back gives the number it was written for.
-/
namespace Curation.Chain

/-- A value that no call can be made with. -/
inductive WordFault where
  | invalidAddress (text : String)
  | invalidAmount (text : String)
  | tokenRequired
  | notHex (text : String)
  | notTokenId (cause : Misuse)
  | amount (fault : Decimal.UnitFault)
  deriving Repr

/-- `0x` and forty hexadecimal digits; one line end may follow. -/
def isAddress (text : List Char) : Bool :=
  match text with
  | '0' :: 'x' :: rest =>
    (rest.take 40).length == 40 && (rest.take 40).all Text.isHexDigit
      && (rest.drop 40 == [] || rest.drop 40 == ['\n'])
  | _ => false

/-- An address in lower case. -/
def normalizeAddress (text : String) : Except WordFault String :=
  if isAddress text.toList then .ok (String.ofList (text.toList.map Char.toLower))
  else .error (.invalidAddress text)

/-- An address shortened for display: its first six and last four characters. -/
def shortForm (text : String) : String :=
  let chars := text.toList
  if chars.length ≤ 10 then text
  else String.ofList (chars.take 6 ++ ['.', '.', '.'] ++ chars.drop (chars.length - 4))

/-- How many digits a word has. -/
def wordLength : Nat := 64

/-- Text filled up with zeros in front to the length of a word. -/
def padWord (digits : List Char) : List Char :=
  List.replicate (wordLength - digits.length) '0' ++ digits

/-- The word that carries an address. -/
def encodeAddress (address : String) : Except WordFault (List Char) := do
  let normal ← normalizeAddress address
  return padWord (normal.toList.drop 2)

/-- The word that carries a number. A minus sign counts as one of its digits. -/
def encodeNumber (n : Int) : List Char :=
  let digits := Nat.toDigits 16 n.natAbs
  if n < 0 then '-' :: (List.replicate (wordLength - 1 - digits.length) '0' ++ digits)
  else padWord digits

/-- The number that an answer writes in hexadecimal; an empty answer is zero. -/
def decodeNumber (answer : String) : Except WordFault Int :=
  if answer == "0x" || answer == "" then .ok 0
  else
    match Text.readWhole? 16 answer.toList with
    | some n => .ok n
    | none => .error (.notHex answer)

/-- The address in the last forty characters of an answer. -/
def decodeOwner (answer : String) : String :=
  let chars := answer.toList
  "0x" ++ Text.lower (String.ofList (chars.drop (chars.length - 40)))

/-- A minimum balance in base units; a blank one is zero. -/
def parseUnits (amount : Json) (decimals : Int) : Except WordFault Int :=
  let text := match amount with
    | .null | .str "" => "0"
    | amount => amount.display
  match Decimal.read? text with
  | none => .error (.invalidAmount amount.display)
  | some value =>
    match value.toUnits decimals with
    | .ok units => .ok units
    | .error fault => .error (.amount fault)

end Curation.Chain
