/-!
Texts taken apart at separators. Joining the parts with the separator gives the text back, and no
part holds the separator.
-/
namespace Curation.Text

/-- The parts of a text between separators; there is always one part more than separators. -/
def splitAt (separator : Char) (text : List Char) : List (List Char) :=
  let (first, rest) := text.foldr
    (fun c (current, done) => if c = separator then ([], current :: done) else (c :: current, done))
    ([], [])
  first :: rest

/-- The words of a text, between blanks and line ends. -/
def words (text : List Char) : List (List Char) :=
  let (first, rest) := text.foldr
    (fun c (current, done) =>
      if c = ' ' ∨ c = '\n' then ([], if current.isEmpty then done else current :: done)
      else (c :: current, done))
    ([], [])
  if first.isEmpty then rest else first :: rest

end Curation.Text
