import NoteSchema.Hint.Line

namespace NoteSchema.Hint

/-- A hint note in the source of a diagram: the class it belongs to, its text and the line at which
the text starts. -/
structure Note where
  owner : String
  body : String
  line : Nat
deriving DecidableEq, Repr

namespace Note

def isGap (c : Char) : Bool := c == ' ' || c == '\t'

def afterBlanks? : List Char → Option (List Char)
  | [] => none
  | c :: cs => if Text.isBlank c then some (Text.dropBlanks cs) else none

/-- The text after a word and the blanks behind it. -/
def afterWordAndBlanks? (word : String) (cs : List Char) : Option (List Char) :=
  (Text.afterWord? word.toList cs).bind afterBlanks?

def sides : List String := ["left", "right", "top", "bottom", "over"]

def dropSide (cs : List Char) : List Char :=
  (sides.findSome? fun side => afterWordAndBlanks? side cs).getD cs

def afterLineEnd? : List Char → Option (List Char)
  | '\n' :: cs => some cs
  | '\r' :: '\n' :: cs => some cs
  | _ => none

def isOwnerChar (c : Char) : Bool := Text.isLetter c || c.isDigit || c == '_'

def header? (cs : List Char) : Option (String × List Char) := do
  let cs ← afterWordAndBlanks? "note" (cs.dropWhile isGap)
  let cs ← afterWordAndBlanks? "of" (dropSide cs)
  let owner := cs.takeWhile isOwnerChar
  match owner with
  | [] => none
  | c :: _ =>
    if c.isDigit then none
    else
      let rest ← afterLineEnd? ((cs.dropWhile isOwnerChar).dropWhile isGap)
      return (String.ofList owner, rest)

def afterEnd? (cs : List Char) : Option (List Char) := do
  let cs ← Text.afterWord? "end".toList (cs.dropWhile isGap)
  let cs ← Text.afterWord? "note".toList (Text.dropBlanks cs)
  if Text.atWordEnd cs then some cs else none

/-- The text up to the first line that closes the note, and the text after it. -/
def untilEnd? : Bool → List Char → Option (List Char × List Char)
  | _, [] => none
  | atStart, c :: cs =>
    match if atStart then afterEnd? (c :: cs) else none with
    | some rest => some ([], rest)
    | none => (untilEnd? (c == '\n') cs).map fun (body, rest) => (c :: body, rest)

/-- A note found in a text: the lengths of what is left after its header and after its end. -/
structure Found where
  owner : String
  body : List Char
  afterHeader : Nat
  afterEnd : Nat

/-- The note that starts here, at the start of a line. -/
def start? (cs : List Char) : Option Found := do
  let (owner, rest) ← header? cs
  let (body, after) ← untilEnd? true rest
  return ⟨owner, body, rest.length, after.length⟩

/-- Whether the first line of a body that is not blank starts with the marker. -/
def isMarked (body : List Char) : Bool :=
  match (Text.lineChars body).find? fun line => !line.all Text.isBlank with
  | some line => startsWithMarker line
  | none => false

/-- The notes from here on. `skip` characters still belong to the last note, `line` is the current
line, and `atStart` tells whether it starts here. -/
def scan (skip line : Nat) (atStart : Bool) : List Char → List Note
  | [] => []
  | c :: cs =>
    let next := if c = '\n' then line + 1 else line
    match skip with
    | skip + 1 => scan skip next (c == '\n') cs
    | 0 =>
      match if atStart then start? (c :: cs) else none with
      | none => scan 0 next (c == '\n') cs
      | some found =>
        let header := (c :: cs).take (cs.length + 1 - found.afterHeader)
        let notes := scan (cs.length - found.afterEnd) next (c == '\n') cs
        if isMarked found.body then
          ⟨found.owner, String.ofList found.body, line + header.count '\n'⟩ :: notes
        else notes

def extract (source : String) : List Note := scan 0 1 true source.toList

end Note

end NoteSchema.Hint
