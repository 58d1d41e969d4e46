import NoteSchema.Text.Printable

namespace NoteSchema.Text

def beforeLast? (q : Char) : List Char → Option (List Char)
  | [] => none
  | [c] => if c = q then some [] else none
  | c :: cs => (beforeLast? q cs).map (c :: ·)

def dropFinalBreak : List Char → List Char
  | [] => []
  | ['\n'] => []
  | c :: cs => c :: dropFinalBreak cs

/-- The inside of a text in matching single or double quotes; one line feed may follow the quote. -/
def unquoteChars? : List Char → Option (List Char)
  | [] => none
  | q :: cs =>
    if q = '"' ∨ q = '\'' then
      match beforeLast? q cs with
      | some inside => some inside
      | none => beforeLast? q (dropFinalBreak cs)
    else none

def unquote? (s : String) : Option String := (unquoteChars? s.toList).map String.ofList

def stripQuotes (s : String) : String := (unquote? s).getD s

def isQuoted (s : String) : Bool := (unquote? s).isSome

def hexDigit (n : Nat) : Char :=
  if n < 10 then Char.ofNat ('0'.toNat + n) else Char.ofNat ('a'.toNat + (n - 10))

/-- The last `width` hexadecimal digits of a number. -/
def hexDigits : Nat → Nat → List Char
  | 0, _ => []
  | width + 1, n => hexDigits width (n / 16) ++ [hexDigit (n % 16)]

def literalChar (quote c : Char) : List Char :=
  if c = quote ∨ c = '\\' then ['\\', c]
  else if c = '\n' then ['\\', 'n']
  else if c = '\r' then ['\\', 'r']
  else if c = '\t' then ['\\', 't']
  else if isPrintable c then [c]
  else if c.toNat < 0x100 then '\\' :: 'x' :: hexDigits 2 c.toNat
  else if c.toNat < 0x10000 then '\\' :: 'u' :: hexDigits 4 c.toNat
  else '\\' :: 'U' :: hexDigits 8 c.toNat

/-- Single quotes, unless the text holds a single quote and no double quote. -/
def literalQuote (cs : List Char) : Char :=
  if cs.contains '\'' && !cs.contains '"' then '"' else '\''

/-- A text as a literal: quoted, with everything that has no visible form escaped. -/
def literal (s : String) : String :=
  let q := literalQuote s.toList
  String.ofList (q :: (s.toList.flatMap (literalChar q) ++ [q]))

end NoteSchema.Text
