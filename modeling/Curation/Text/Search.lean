import Curation.Text.Case
import Curation.Text.Classes

/-!
Searching a text. Main statement: a part is found exactly when the text splits into something before
it, the part itself, and something after it. Mentions and links are counted: each occurrence is as
long as it can be, and the next is looked for behind it.
-/
namespace Curation.Text

/-- Whether a part occurs in a text, character by character. -/
def occursIn (part : List Char) : List Char → Bool
  | [] => part.isEmpty
  | c :: rest => part.isPrefixOf (c :: rest) || occursIn part rest

theorem occursIn_iff {part text : List Char} : occursIn part text = true ↔ part <:+: text := by
  induction text with
  | nil => simp [occursIn, List.isEmpty_iff]
  | cons c rest ih =>
    simp only [occursIn, Bool.or_eq_true, ih, List.isPrefixOf_iff_prefix]
    constructor
    · rintro (⟨after, whole⟩ | ⟨before, after, whole⟩)
      · exact ⟨[], after, by simpa using whole⟩
      · exact ⟨c :: before, after, by simp [← whole]⟩
    · rintro ⟨before, after, whole⟩
      cases before with
      | nil => exact .inl ⟨after, by simpa using whole⟩
      | cons b before =>
        simp only [List.cons_append, List.cons.injEq] at whole
        exact .inr ⟨before, after, whole.2⟩

/-- Whether a part occurs in a text, with or without regard to case. -/
def contains (text part : String) (caseSensitive : Bool) : Bool :=
  if caseSensitive then occursIn part.toList text.toList
  else occursIn (lower part).toList (lower text).toList

/-- The first characters of a text. -/
def take (count : Nat) (text : String) : String := String.ofList (text.toList.take count)

/-- Whether a text starts with another. -/
def startsWith (text start : String) : Bool := start.toList.isPrefixOf text.toList

/-- The texts with a separator between them. -/
def join (separator : String) (parts : List String) : String := separator.intercalate parts

/-! ## Mentions and links -/

/-- The text behind a mention that starts here: a sign and at least one word character. -/
def behindMention? : List Char → Option (List Char)
  | '@' :: c :: rest => if isWord c then some (rest.dropWhile isWord) else none
  | _ => none

/-- Whether a character counts as the given ASCII letter when case does not; a long s counts as an
s. -/
def isLetter (letter c : Char) : Bool := c.toLower == letter || (letter == 's' && c == 'ſ')

/-- The text behind a scheme of the web, with its colon and slashes. -/
def behindScheme? : List Char → Option (List Char)
  | h :: t :: u :: p :: rest =>
    if isLetter 'h' h && isLetter 't' t && isLetter 't' u && isLetter 'p' p then
      match rest with
      | ':' :: '/' :: '/' :: rest => some rest
      | s :: ':' :: '/' :: '/' :: rest => if isLetter 's' s then some rest else none
      | _ => none
    else none
  | _ => none

/-- The text behind a link that starts here: a scheme and at least one character that is no blank.
-/
def behindLink? (text : List Char) : Option (List Char) :=
  match behindScheme? text with
  | some (c :: rest) => if isBlank c then none else some (rest.dropWhile fun c => !isBlank c)
  | _ => none

/-- How many occurrences there are, one behind the other. A part that does not get shorter ends the
count. -/
def tally (behind? : List Char → Option (List Char)) : List Char → Nat
  | [] => 0
  | c :: rest =>
    match behind? (c :: rest) with
    | some tail =>
      if shorter : tail.length < (c :: rest).length then 1 + tally behind? tail else 0
    | none => tally behind? rest
  termination_by text => text.length
  decreasing_by
    · exact shorter
    · exact Nat.lt_succ_self rest.length

def countMentions (text : String) : Nat := tally behindMention? text.toList

def countLinks (text : String) : Nat := tally behindLink? text.toList

end Curation.Text
