import NoteSchema.Json.Basic
import NoteSchema.Text.Quoted

namespace NoteSchema

namespace Json

/-- A character inside a string: only quotes, backslashes and controls are escaped. -/
def stringChar (c : Char) : List Char :=
  if c = '"' then ['\\', '"']
  else if c = '\\' then ['\\', '\\']
  else if c = '\n' then ['\\', 'n']
  else if c = '\r' then ['\\', 'r']
  else if c = '\t' then ['\\', 't']
  else if c = '\x0c' then ['\\', 'f']
  else if c = '\x08' then ['\\', 'b']
  else if c.toNat < 0x20 then '\\' :: 'u' :: Text.hexDigits 4 c.toNat
  else [c]

def stringChars (s : String) : List Char := '"' :: (s.toList.flatMap stringChar ++ ['"'])

def numberChars (n : Number) : List Char := n.chars "Infinity" "NaN"

def newLine (level : Nat) : List Char := '\n' :: List.replicate (2 * level) ' '

class Name (κ : Type) where
  text : κ → String

instance : Name String := ⟨id⟩

end Json

/-- The name of a member where names need not be texts: any single value. -/
inductive Key
  | text (s : String)
  | number (n : Number)
  | bool (b : Bool)
  | null
deriving Repr

namespace Key

def isText : Key → Bool
  | .text _ => true
  | _ => false

def number? : Key → Option Number
  | .number n => some n
  | .bool b => some (.int (if b then 1 else 0))
  | _ => none

/-- Equality of names; one is the same as true and zero the same as false. -/
def same : Key → Key → Bool
  | .text s, .text t => s == t
  | .null, .null => true
  | a, b =>
    match a.number?, b.number? with
    | some m, some n => m.same n
    | _, _ => false

instance : BEq Key := ⟨same⟩

instance : Json.Name Key where
  text
    | .text s => s
    | .number n => String.ofList (Json.numberChars n)
    | .bool true => "true"
    | .bool false => "false"
    | .null => "null"

/-- A single value as a name; lists and objects cannot be names. -/
def ofDocument? : Document → Option Key
  | .str s => some (.text s)
  | .number n => some (.number n)
  | .bool b => some (.bool b)
  | .null => some .null
  | _ => none

end Key

namespace Json

variable {κ : Type} [Name κ]

mutual
/-- A value at a level of nesting: one item or member a line. -/
def chars (level : Nat) : Json κ → List Char
  | .null => ['n', 'u', 'l', 'l']
  | .bool true => ['t', 'r', 'u', 'e']
  | .bool false => ['f', 'a', 'l', 's', 'e']
  | .number n => numberChars n
  | .str s => stringChars s
  | .arr [] => ['[', ']']
  | .arr (x :: xs) =>
    '[' :: (newLine (level + 1) ++ chars (level + 1) x ++ itemChars (level + 1) xs ++
      newLine level ++ [']'])
  | .obj [] => ['{', '}']
  | .obj ((k, v) :: ms) =>
    '{' :: (newLine (level + 1) ++ stringChars (Name.text k) ++ ':' :: ' ' :: chars (level + 1) v ++
      memberChars (level + 1) ms ++ newLine level ++ ['}'])

def itemChars (level : Nat) : List (Json κ) → List Char
  | [] => []
  | x :: xs => ',' :: (newLine level ++ chars level x ++ itemChars level xs)

def memberChars (level : Nat) : Members κ → List Char
  | [] => []
  | (k, v) :: ms =>
    ',' :: (newLine level ++ stringChars (Name.text k) ++ ':' :: ' ' :: chars level v ++
      memberChars level ms)
end

/-- The text of a document, with a line break at its end. -/
def text (v : Json κ) : String := String.ofList (chars 0 v ++ ['\n'])

/-- Texts between brackets, one a line. -/
def enclosed (opening closing : Char) (level : Nat) : List (List Char) → List Char
  | [] => [opening, closing]
  | t :: ts =>
    opening :: (newLine (level + 1) ++ t ++ (ts.flatMap fun t => ',' :: (newLine (level + 1) ++ t)) ++
      newLine level ++ [closing])

mutual
/-- A value at a level of nesting; the members of an object are put in the order of their names when it is printed. -/
def orderedChars (level : Nat) : Document → List Char
  | .arr items => enclosed '[' ']' level (orderedItems (level + 1) items)
  | .obj members =>
    enclosed '{' '}' level
      (((orderedMembers (level + 1) members).mergeSort fun a b => decide (a.1 ≤ b.1)).map (·.2))
  | v => chars level v

def orderedItems (level : Nat) : List Document → List (List Char)
  | [] => []
  | x :: xs => orderedChars level x :: orderedItems level xs

/-- The names of members, each with the text of its member. -/
def orderedMembers (level : Nat) : Members String → List (String × List Char)
  | [] => []
  | (k, v) :: ms => (k, stringChars k ++ ':' :: ' ' :: orderedChars level v) :: orderedMembers level ms
end

/-- The text of a document with the members of every object in the order of their names. -/
def sortedText (v : Document) : String := String.ofList (orderedChars 0 v ++ ['\n'])

end Json

end NoteSchema
