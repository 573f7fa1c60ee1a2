import Curation.Json.Basic
import Curation.Text.Classes
import Curation.Text.Hex

/-!
Writing values as texts. In JSON text, members keep their order. The layout chooses what stands
between items and behind names, and whether characters outside printable ASCII are escaped, through
a surrogate pair where one code unit is too narrow.

In messages, and where a text is searched for, a string stands for itself, other values are spelled
out, and strings inside lists and objects are quoted, with double quotes only where single ones occur
inside and double ones do not.
-/
namespace Curation.Json

/-- What stands between items, what between a name and its value, and whether the text is to be
ASCII. -/
structure Layout where
  item : List Char
  member : List Char
  ascii : Bool

/-- No blanks, as in audit entries. -/
def Layout.compact : Layout := ⟨[','], [':'], true⟩

/-- One blank behind each separator, as in stored columns. -/
def Layout.spaced : Layout := ⟨[',', ' '], [':', ' '], true⟩

/-- No blanks, and every character that can stand for itself does, as in answers of services. -/
def Layout.unescaped : Layout := ⟨[','], [':'], false⟩

/-- A code unit as an escape of four hexadecimal digits. -/
def writeUnit (unit : Nat) : List Char :=
  ['\\', 'u', Text.hexDigit (unit / 4096 % 16), Text.hexDigit (unit / 256 % 16),
    Text.hexDigit (unit / 16 % 16), Text.hexDigit (unit % 16)]

/-- A character inside a string. -/
def writeChar (ascii : Bool) (c : Char) : List Char :=
  match c with
  | '"' => ['\\', '"']
  | '\\' => ['\\', '\\']
  | '\n' => ['\\', 'n']
  | '\r' => ['\\', 'r']
  | '\t' => ['\\', 't']
  | '\x08' => ['\\', 'b']
  | '\x0c' => ['\\', 'f']
  | c =>
    let n := c.toNat
    if 0x20 ≤ n ∧ (n < 0x7f ∨ ascii = false) then [c]
    else if n < 0x10000 then writeUnit n
    else
      let m := n - 0x10000
      writeUnit (0xD800 + m / 1024) ++ writeUnit (0xDC00 + m % 1024)

def writeString (ascii : Bool) (s : String) : List Char :=
  '"' :: (s.toList.flatMap (writeChar ascii) ++ ['"'])

def writeNumber (n : Number) : List Char := (n.text "Infinity" "NaN").toList

mutual
def writeValue (layout : Layout) : Json → List Char
  | .null => ['n', 'u', 'l', 'l']
  | .bool true => ['t', 'r', 'u', 'e']
  | .bool false => ['f', 'a', 'l', 's', 'e']
  | .number n => writeNumber n
  | .str s => writeString layout.ascii s
  | .arr items => '[' :: (writeItems layout items ++ [']'])
  | .obj members => '\x7b' :: (writeMembers layout members ++ ['\x7d'])

def writeItems (layout : Layout) : List Json → List Char
  | [] => []
  | [item] => writeValue layout item
  | item :: rest => writeValue layout item ++ layout.item ++ writeItems layout rest

def writeMembers (layout : Layout) : List (String × Json) → List Char
  | [] => []
  | [(name, value)] => writeString layout.ascii name ++ layout.member ++ writeValue layout value
  | (name, value) :: rest =>
    writeString layout.ascii name ++ layout.member ++ writeValue layout value ++ layout.item ++
      writeMembers layout rest
end

/-- The text of a value without blanks. -/
def compact (value : Json) : String := String.ofList (writeValue .compact value)

/-- The text of a value without blanks or needless escapes. -/
def unescaped (value : Json) : String := String.ofList (writeValue .unescaped value)

/-- The text of a value with a blank behind each separator. -/
def spaced (value : Json) : String := String.ofList (writeValue .spaced value)

mutual
/-- The same value with the members of every object ordered by name. -/
def sortNames : Json → Json
  | .arr items => .arr (sortItems items)
  | .obj members => .obj ((sortMembers members).mergeSort (fun a b => decide (a.1 ≤ b.1)))
  | value => value

def sortItems : List Json → List Json
  | [] => []
  | item :: rest => sortNames item :: sortItems rest

def sortMembers : List (String × Json) → List (String × Json)
  | [] => []
  | (name, value) :: rest => (name, sortNames value) :: sortMembers rest
end

/-! ## Messages -/

/-- A character inside a quoted text. -/
def quoteChar (quote c : Char) : List Char :=
  if c = quote ∨ c = '\\' then ['\\', c]
  else match c with
    | '\n' => ['\\', 'n']
    | '\r' => ['\\', 'r']
    | '\t' => ['\\', 't']
    | c =>
      if Text.isVisible c then [c]
      else if c.toNat < 0x100 then '\\' :: 'x' :: Text.paddedHex 2 c.toNat
      else if c.toNat < 0x10000 then '\\' :: 'u' :: Text.paddedHex 4 c.toNat
      else '\\' :: 'U' :: Text.paddedHex 8 c.toNat

/-- A text between quotes. -/
def quoted (s : String) : List Char :=
  let text := s.toList
  let quote := if text.contains '\'' && !text.contains '"' then '"' else '\''
  quote :: (text.flatMap (quoteChar quote) ++ [quote])

mutual
/-- A value spelled out, as it stands inside a list or an object. -/
def spelled : Json → List Char
  | .null => "None".toList
  | .bool true => "True".toList
  | .bool false => "False".toList
  | .number n => (n.text "inf" "nan").toList
  | .str s => quoted s
  | .arr items => '[' :: (spelledItems items ++ [']'])
  | .obj members => '\x7b' :: (spelledMembers members ++ ['\x7d'])

def spelledItems : List Json → List Char
  | [] => []
  | [item] => spelled item
  | item :: rest => spelled item ++ [',', ' '] ++ spelledItems rest

def spelledMembers : List (String × Json) → List Char
  | [] => []
  | [(name, value)] => quoted name ++ [':', ' '] ++ spelled value
  | (name, value) :: rest =>
    quoted name ++ [':', ' '] ++ spelled value ++ [',', ' '] ++ spelledMembers rest
end

/-- The text that a value shows. -/
def display : Json → String
  | .str s => s
  | value => String.ofList (spelled value)

end Curation.Json
