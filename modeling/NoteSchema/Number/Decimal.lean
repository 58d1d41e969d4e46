import NoteSchema.Text.Digit
import NoteSchema.Text.Blank

namespace NoteSchema.Decimal

def digitChar (n : Nat) : Char := Char.ofNat ('0'.toNat + n)

/-- The decimal digits of a number, the most significant first. -/
def natChars (n : Nat) : List Char :=
  if n < 10 then [digitChar n] else natChars (n / 10) ++ [digitChar (n % 10)]

def intChars : Int → List Char
  | .ofNat n => natChars n
  | .negSucc n => '-' :: natChars (n + 1)

def natText (n : Nat) : String := String.ofList (natChars n)

def intText (n : Int) : String := String.ofList (intChars n)

/-- The number that digits of any script stand for; anything else counts as zero. -/
def natValue (cs : List Char) : Nat :=
  cs.foldl (fun n c => n * 10 + (Text.digitValue? c).getD 0) 0

/-- Longer numerals are refused. -/
def digitLimit : Nat := 4300

/-- A numeral with more digits than the limit. -/
structure TooLong where
  digits : Nat
deriving DecidableEq, Repr

def TooLong.message (e : TooLong) : String :=
  "Exceeds the limit (" ++ natText digitLimit ++ " digits) for integer string conversion: value has " ++
    natText e.digits ++ " digits; use sys.set_int_max_str_digits() to increase the limit"

/-- A number within the limit from its sign and digits. -/
def readInt (negative : Bool) (digits : List Char) : Except TooLong Int :=
  if digitLimit < digits.length then .error ⟨digits.length⟩
  else .ok (if negative then -(natValue digits : Int) else natValue digits)

/-- Blanks that may stand around a numeral: all but the separators among the controls. -/
def isAround (c : Char) : Bool := Text.isBlank c && !(0x1C ≤ c.toNat && c.toNat ≤ 0x1F)

/-- A numeral without the blanks around it. -/
def bare (cs : List Char) : List Char :=
  ((cs.dropWhile isAround).reverse.dropWhile isAround).reverse

/-- The digits of a numeral in which single underscores may stand between digits. -/
def ungrouped? : List Char → Option (List Char)
  | [] => none
  | [c] => if Text.isDigit c then some [c] else none
  | c :: '_' :: cs => if Text.isDigit c then (ungrouped? cs).map (c :: ·) else none
  | c :: cs => if Text.isDigit c then (ungrouped? cs).map (c :: ·) else none

/-- Reads a whole number with an optional sign; blanks around it are passed over. -/
def whole? (s : String) : Option Int :=
  let (negative, digits) :=
    match bare s.toList with
    | '-' :: cs => (true, cs)
    | '+' :: cs => (false, cs)
    | cs => (false, cs)
  (ungrouped? digits).bind fun digits => (readInt negative digits).toOption

end NoteSchema.Decimal
