namespace NoteSchema

/-- A binary floating-point number of double precision: `mantissa * 2 ^ exponent` with a sign, where
the mantissa has 53 bits unless the exponent is the least one. -/
inductive Binary64
  | finite (negative : Bool) (mantissa : Nat) (exponent : Int)
  | infinite (negative : Bool)
  | nan
deriving DecidableEq, Repr

namespace Binary64

def leastExponent : Int := -1074

def greatestExponent : Int := 971

def zero (negative : Bool) : Binary64 := .finite negative 0 leastExponent

/-- A power of two; a negative exponent counts as zero. -/
def twoTo (e : Int) : Nat := Nat.pow 2 e.toNat

def tenTo (e : Int) : Nat := Nat.pow 10 e.toNat

/-- The nearest whole number to `n / d`; a half goes to the even neighbour. -/
def roundDiv (n d : Nat) : Nat :=
  let q := n / d
  let r := n % d
  if d < 2 * r ∨ (2 * r = d ∧ q % 2 = 1) then q + 1 else q

def log2Ratio (n d : Nat) : Int :=
  let k : Int := (n.log2 : Int) - (d.log2 : Int)
  if d * twoTo k ≤ n * twoTo (-k) then k else k - 1

/-- The nearest number to `n / d`, to even on a tie, infinite beyond the range. -/
def ofRatio (negative : Bool) (n d : Nat) : Binary64 :=
  if n = 0 then zero negative
  else
    let e := max (log2Ratio n d - 52) leastExponent
    let m := roundDiv (n * twoTo (-e)) (d * twoTo e)
    let (m, e) := if m = twoTo 53 then (twoTo 52, e + 1) else (m, e)
    if greatestExponent < e then .infinite negative else .finite negative m e

/-- The nearest number to `coefficient * 10 ^ exponent`, where the coefficient has at most `width`
digits; far outside the range no power is computed. -/
def ofDecimal (negative : Bool) (coefficient width : Nat) (exponent : Int) : Binary64 :=
  if coefficient = 0 then zero negative
  else if 400 < exponent then .infinite negative
  else if exponent + width < -400 then zero negative
  else ofRatio negative (coefficient * tenTo exponent) (tenTo (-exponent))

def truncate? : Binary64 → Option Int
  | .finite negative m e =>
    let n := m * twoTo e / twoTo (-e)
    some (if negative then -(n : Int) else n)
  | _ => none

/-- The greatest whole number that is not greater; there is none for infinities and the undefined
number. -/
def floor? : Binary64 → Option Int
  | .finite negative m e =>
    let n : Int := m * twoTo e
    some ((if negative then -n else n) / twoTo (-e))
  | _ => none

/-- The order of a number and a whole number; undefined for the undefined number. -/
def compareInt? : Binary64 → Int → Option Ordering
  | .finite negative m e, n =>
    let whole : Int := m * twoTo e
    let signed := if negative then -whole else whole
    some (compare signed (n * twoTo (-e)))
  | .infinite negative, _ => some (if negative then .lt else .gt)
  | .nan, _ => none

/-- Equality of values: the two zeros are equal, and the undefined number is the same as itself. -/
def same : Binary64 → Binary64 → Bool
  | .finite s m e, .finite t n f => (m == 0 && n == 0) || (s == t && m == n && e == f)
  | .infinite s, .infinite t => s == t
  | .nan, .nan => true
  | _, _ => false

def isZero : Binary64 → Bool
  | .finite _ m _ => m == 0
  | _ => false

end Binary64

end NoteSchema
