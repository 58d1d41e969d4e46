import NoteSchema.Text.CodeSet

namespace NoteSchema.Text

/-- The code points that count as blank: the separators and the spacing controls. -/
def blanks : CodeSet :=
  ⟨[0x09, 0x0E, 0x1C, 0x21, 0x85, 0x86, 0xA0, 0xA1, 0x1680, 0x1681, 0x2000, 0x200B,
    0x2028, 0x202A, 0x202F, 0x2030, 0x205F, 0x2060, 0x3000, 0x3001]⟩

def isBlank (c : Char) : Bool := blanks.contains c.toNat

def dropBlanks (cs : List Char) : List Char := cs.dropWhile isBlank

/-- Blank characters removed from the end only. -/
def dropEndBlanks : List Char → List Char
  | [] => []
  | c :: cs =>
    match dropEndBlanks cs with
    | [] => if isBlank c then [] else [c]
    | rest => c :: rest

def trimChars (cs : List Char) : List Char := dropEndBlanks (dropBlanks cs)

def trim (s : String) : String := String.ofList (trimChars s.toList)

def allBlank (s : String) : Bool := s.toList.all isBlank

end NoteSchema.Text
