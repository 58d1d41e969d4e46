import NoteSchema.Number.Shortest

namespace NoteSchema

/-- A number keeps whether it was written as a whole number or as a fraction. -/
inductive Number
  | int (n : Int)
  | float (x : Binary64)
deriving DecidableEq, Repr

namespace Number

instance : Inhabited Number := ⟨.int 0⟩

/-- Equality of values, so that `1` and `1.0` are the same. -/
def same : Number → Number → Bool
  | .int m, .int n => m == n
  | .int m, .float x => x.compareInt? m == some .eq
  | .float x, .int n => x.compareInt? n == some .eq
  | .float x, .float y => x.same y

def isZero : Number → Bool
  | .int n => n == 0
  | .float x => x.isZero

/-- The text of a number; infinities and the undefined number take the given names. -/
def chars (infinity undefined : String) : Number → List Char
  | .int n => Decimal.intChars n
  | .float (.finite negative m e) => Binary64.finiteChars negative m e
  | .float (.infinite negative) => (if negative then ['-'] else []) ++ infinity.toList
  | .float .nan => undefined.toList

def text (n : Number) : String := String.ofList (n.chars "inf" "nan")

/-- Reads a numeral of an optional sign, digits of any script and an optional fraction. -/
def ofNumeral (negative : Bool) (whole : List Char) :
    Option (List Char) → Except Decimal.TooLong Number
  | none => (Decimal.readInt negative whole).map .int
  | some fraction =>
    .ok (.float (Binary64.ofDecimal negative (Decimal.natValue (whole ++ fraction))
      (whole.length + fraction.length) (-(fraction.length : Int))))

def numeral? (cs : List Char) : Option (Bool × List Char × Option (List Char)) :=
  let (negative, body) :=
    match cs with
    | '-' :: rest => (true, rest)
    | '+' :: rest => (false, rest)
    | rest => (false, rest)
  let whole := body.takeWhile Text.isDigit
  if whole.isEmpty then none
  else
    match body.dropWhile Text.isDigit with
    | [] => some (negative, whole, none)
    | ['\n'] => some (negative, whole, none)
    | '.' :: rest =>
      let fraction := rest.takeWhile Text.isDigit
      let after := rest.dropWhile Text.isDigit
      if fraction.isEmpty then none
      else if after = [] ∨ after = ['\n'] then some (negative, whole, some fraction)
      else none
    | _ => none

end Number

end NoteSchema
