import NoteSchema.Text.Split

namespace NoteSchema.Text.CharName

def hexDigit? (c : Char) : Option Nat :=
  if '0' ≤ c ∧ c ≤ '9' then some (c.toNat - '0'.toNat)
  else if 'A' ≤ c ∧ c ≤ 'F' then some (c.toNat - 'A'.toNat + 10)
  else none

/-- The number that hexadecimal digits continue. -/
def hexAfter? : Nat → List Char → Option Nat
  | n, [] => some n
  | n, c :: cs => (hexDigit? c).bind fun d => hexAfter? (16 * n + d) cs

def hex? (cs : List Char) : Option Nat := hexAfter? 0 cs

/-- Characters one after another whose names start alike: the first of them, what the names start with
and how each goes on. -/
structure Row where
  first : Nat
  stem : String
  endings : List String
deriving Repr

namespace Row

/-- A row as it is written: the first character, a blank, the stem, and the endings with a slash before
each. -/
def ofLine? (line : String) : Option Row :=
  match splitChars '/' line.toList with
  | [] => none
  | head :: endings =>
    match cutChars ' ' head with
    | (_, none) => none
    | (code, some stem) =>
      (hex? code).map fun first =>
        { first, stem := String.ofList stem, endings := endings.map String.ofList }

def ofTable (table : String) : List Row := (table.splitOn "\n").filterMap ofLine?

def find? (r : Row) (name : List Char) : Option Nat :=
  match afterChars? r.stem.toList name with
  | none => none
  | some ending => (r.endings.idxOf? (String.ofList ending)).map (r.first + ·)

end Row

end NoteSchema.Text.CharName
