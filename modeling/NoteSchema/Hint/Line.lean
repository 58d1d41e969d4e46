import NoteSchema.Text.Blank
import NoteSchema.Text.Letter
import NoteSchema.Text.Split

namespace NoteSchema.Hint

/-- A line of a block: its number in the source, its indentation and its text after that. -/
structure Line where
  number : Int
  indent : Nat
  content : List Char
deriving DecidableEq, Repr

def marker : String := "SCHEMAHINTS"

/-- Whether a text starts with the marker as a whole word. -/
def startsWithMarker (cs : List Char) : Bool :=
  match Text.afterWord? (Text.small marker).toList (Text.dropBlanks cs) with
  | some rest => Text.atWordEnd rest
  | none => false

namespace Line

def ofChars (number : Int) (cs : List Char) : Line :=
  ⟨number, (cs.takeWhile Text.isBlank).length, Text.dropBlanks cs⟩

def numbered (first : Int) : List (List Char) → List Line
  | [] => []
  | cs :: rest => ofChars first cs :: numbered (first + 1) rest

/-- The lines of a block with tabs expanded. -/
def ofBody (body : String) (first : Int) : List Line :=
  numbered first (Text.lineChars (Text.expandTabs body.toList))

def isBlank (l : Line) : Bool := l.content.isEmpty

def isComment (l : Line) : Bool := l.content.head? == some '\''

def isSkipped (l : Line) : Bool := l.isBlank || l.isComment

/-- The text of a line as it is shown in messages. -/
def shown (l : Line) : String := String.ofList (Text.dropEndBlanks l.content)

def isEnd (l : Line) : Bool :=
  match Text.afterWord? "end".toList l.content with
  | none => false
  | some rest =>
    match Text.afterWord? "note".toList (Text.dropBlanks rest) with
    | some rest => Text.atWordEnd rest
    | none => false

def isFieldChar (c : Char) : Bool := Text.isLetter c || c.isDigit || c == '_' || c == '-'

def fieldName? (l : Line) : Option String :=
  match Text.afterWord? "field".toList l.content with
  | none => none
  | some rest =>
    let body := Text.dropBlanks rest
    let name := body.takeWhile isFieldChar
    if body.length < rest.length ∧ name ≠ [] then
      match Text.dropBlanks (body.dropWhile isFieldChar) with
      | ':' :: more => if more.all Text.isBlank then some (String.ofList name) else none
      | _ => none
    else none

def isField (l : Line) : Bool := l.fieldName?.isSome

def isKeyStart (c : Char) : Bool := c.isAlpha || c == '$'

def isKeyChar (c : Char) : Bool := c.isAlphanum || c == '_' || c == '$' || c == '-'

/-- The key of a directive and its trimmed value. -/
def directive? (l : Line) : Option (String × List Char) :=
  match l.content with
  | [] => none
  | c :: cs =>
    if isKeyStart c then
      match Text.dropBlanks (cs.dropWhile isKeyChar) with
      | ':' :: value => some (String.ofList (c :: cs.takeWhile isKeyChar), Text.trimChars value)
      | _ => none
    else none

def bullet? (l : Line) : Option (List Char) :=
  match l.content with
  | mark :: gap :: rest =>
    if (mark = '-' ∨ mark = '*') ∧ Text.isBlank gap then some (Text.dropBlanks rest) else none
  | _ => none

/-- Whether a line cannot belong to a block below a key of the given indentation. -/
def stops (indent : Nat) (l : Line) : Bool := l.indent ≤ indent || l.isEnd || l.isField

/-- Whether a line belongs to a block below a key of the given indentation. -/
def inside (indent : Nat) (l : Line) : Bool := l.isSkipped || !l.stops indent

def block (indent : Nat) (lines : List Line) : List Line := lines.takeWhile (inside indent)

def afterBlock (indent : Nat) (lines : List Line) : List Line := lines.dropWhile (inside indent)

/-- The lines from the first one that says something. -/
def dropSkipped (lines : List Line) : List Line := lines.dropWhile isSkipped

/-- Whether the next line that is not blank belongs to the block. -/
def continues (indent : Nat) : List Line → Bool
  | [] => false
  | l :: rest => if l.isBlank then continues indent rest else indent < l.indent && !l.isField

end Line

end NoteSchema.Hint
