namespace NoteSchema.Text

/-- The pieces between the separators; there is always one more piece than separators. -/
def splitChars (sep : Char) : List Char → List (List Char)
  | [] => [[]]
  | c :: cs =>
    if c = sep then [] :: splitChars sep cs
    else
      match splitChars sep cs with
      | [] => [[c]]
      | piece :: pieces => (c :: piece) :: pieces

def split (sep : Char) (s : String) : List String :=
  (splitChars sep s.toList).map String.ofList

def join (sep : String) : List String → String
  | [] => ""
  | [s] => s
  | s :: rest => s ++ sep ++ join sep rest

/-- The text before the first separator and, if there is one, the text after it. -/
def cutChars (sep : Char) : List Char → List Char × Option (List Char)
  | [] => ([], none)
  | c :: cs =>
    if c = sep then ([], some cs)
    else
      let (head, tail) := cutChars sep cs
      (c :: head, tail)

/-- What is left of a text after an initial part of it. -/
def afterChars? : List Char → List Char → Option (List Char)
  | [], cs => some cs
  | _ :: _, [] => none
  | p :: part, c :: cs => if p = c then afterChars? part cs else none

def after? (part s : String) : Option String :=
  (afterChars? part.toList s.toList).map String.ofList

/-- What is left of a text before a final part of it. -/
def before? (part s : String) : Option String :=
  (afterChars? part.toList.reverse s.toList.reverse).map fun cs => String.ofList cs.reverse

def startsWith (part s : String) : Bool := (after? part s).isSome

def endsWith (part s : String) : Bool := (before? part s).isSome

def isLineEnd (c : Char) : Bool :=
  (0x0A ≤ c.toNat && c.toNat ≤ 0x0D) || (0x1C ≤ c.toNat && c.toNat ≤ 0x1E) ||
    c.toNat == 0x85 || c.toNat == 0x2028 || c.toNat == 0x2029

def consLine (c : Char) : List (List Char) → List (List Char)
  | [] => [[c]]
  | line :: lines => (c :: line) :: lines

/-- The lines without their ends; a carriage return and a line feed end one line together, and a
text that ends with a line end has no further line after it. -/
def lineChars : List Char → List (List Char)
  | [] => []
  | '\r' :: '\n' :: cs => [] :: lineChars cs
  | c :: cs => if isLineEnd c then [] :: lineChars cs else consLine c (lineChars cs)

def lines (s : String) : List String := (lineChars s.toList).map String.ofList

/-- Every kind of line break written as one line feed. -/
def plainBreaks : List Char → List Char
  | [] => []
  | '\r' :: '\n' :: cs => '\n' :: plainBreaks cs
  | '\r' :: cs => '\n' :: plainBreaks cs
  | c :: cs => c :: plainBreaks cs

def expandTabs : List Char → List Char
  | [] => []
  | '\t' :: cs => ' ' :: ' ' :: expandTabs cs
  | c :: cs => c :: expandTabs cs

end NoteSchema.Text
