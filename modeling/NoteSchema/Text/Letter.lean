import NoteSchema.Text.Alphabet

namespace NoteSchema.Text

/-- Whether `c` is the small letter `a` up to case, with the letters that fold to one of the first 128. -/
def isLetterOf (a c : Char) : Bool :=
  c.toLower == a || (a == 's' && c.toNat == 0x17F) || (a == 'k' && c.toNat == 0x212A) ||
    (a == 'i' && (c.toNat == 0x130 || c.toNat == 0x131))

/-- Reads a word given in small letters, in any case, and answers the text after it. -/
def afterWord? : List Char → List Char → Option (List Char)
  | [], cs => some cs
  | _ :: _, [] => none
  | a :: word, c :: cs => if isLetterOf a c then afterWord? word cs else none

def isLetter (c : Char) : Bool :=
  c.isAlpha || c.toNat == 0x17F || c.toNat == 0x212A || c.toNat == 0x130 || c.toNat == 0x131

def small (s : String) : String := String.ofList (s.toList.map Char.toLower)

def isWordChar (c : Char) : Bool := isAlphabetic c || isNumeral c || c == '_'

/-- Whether a word that ended just before `cs` ends there. -/
def atWordEnd : List Char → Bool
  | [] => true
  | c :: _ => !isWordChar c

end NoteSchema.Text
