import NoteSchema.Number.Basic
import NoteSchema.Text.Quoted
import NoteSchema.Text.Split
import NoteSchema.Text.Blank
import NoteSchema.Text.Letter

namespace NoteSchema.Hint

mutual
/-- The value of a directive as written: a scalar, a list of texts or a nested mapping. -/
inductive Value
  | text (s : String)
  | flag (b : Bool)
  | number (n : Number)
  | list (items : List String)
  | mapping (entries : List Entry)

/-- A directive with its key as written and the line it stands on. -/
inductive Entry
  | mk (key : String) (value : Value) (line : Int)
end

instance : Inhabited Value := ⟨.text ""⟩

namespace Entry

def key : Entry → String
  | mk k _ _ => k

def value : Entry → Value
  | mk _ v _ => v

def line : Entry → Int
  | mk _ _ n => n

/-- Adds an entry: a key that is there keeps its place and takes the later value and line. -/
def put (e : Entry) : List Entry → List Entry
  | [] => [e]
  | e' :: es => if e'.key = e.key then e :: es else e' :: put e es

end Entry

namespace Value

def flagText (b : Bool) : String := if b then "True" else "False"

def listText (items : List String) : String :=
  "[" ++ Text.join ", " (items.map Text.literal) ++ "]"

mutual
/-- A value inside another one, where texts are quoted. -/
def literal : Value → String
  | text s => Text.literal s
  | flag b => flagText b
  | number n => n.text
  | list items => listText items
  | mapping entries => "\x7b" ++ Text.join ", " (entryLiterals entries) ++ "\x7d"

def entryLiterals : List Entry → List String
  | [] => []
  | .mk key value line :: es =>
    (Text.literal key ++ ": _Entry(key=" ++ Text.literal key ++ ", value=" ++ literal value ++
      ", line=" ++ Decimal.intText line ++ ")") :: entryLiterals es
end

/-- A value as it is shown in messages and kept in textual directives. -/
def display : Value → String
  | text s => s
  | v => literal v

def isMapping : Value → Bool
  | mapping _ => true
  | _ => false

end Value

/-- The tokens of a list between brackets, trimmed and unquoted; empty tokens keep their place but for
one at the end. -/
def inlineTokens (inside : List Char) : List String :=
  if inside.all Text.isBlank then []
  else
    let tokens := (Text.splitChars ',' inside).map fun cs =>
      Text.stripQuotes (String.ofList (Text.trimChars cs))
    if tokens.getLast? = some "" then tokens.dropLast else tokens

/-- The inside of a text in brackets. -/
def bracketed? : List Char → Option (List Char)
  | '[' :: cs => Text.beforeLast? ']' cs
  | _ => none

/-- Reads `true` or `false` in any case; a variant letter makes it false. -/
def flag? (cs : List Char) : Option Bool :=
  if Text.afterWord? "true".toList cs = some [] then some true
  else if Text.afterWord? "false".toList cs = some [] then some false
  else none

/-- The value that a text stands for: a list in brackets, a flag, a number, else the trimmed text. -/
def Value.ofText (s : String) : Except Decimal.TooLong Value :=
  let cs := Text.trimChars s.toList
  match bracketed? cs with
  | some inside => .ok (.list (inlineTokens inside))
  | none =>
    match flag? cs with
    | some b => .ok (.flag b)
    | none =>
      match Number.numeral? cs with
      | some (negative, whole, fraction) =>
        (Number.ofNumeral negative whole fraction).map .number
      | none => .ok (.text (String.ofList cs))

end NoteSchema.Hint
