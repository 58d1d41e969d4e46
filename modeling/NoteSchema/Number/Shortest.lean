import NoteSchema.Number.Binary64
import NoteSchema.Number.Decimal

namespace NoteSchema.Binary64

def compareScaled (a : Nat) (g : Int) (b : Nat) (e : Int) : Ordering :=
  compare (a * tenTo g * twoTo (-e)) (b * twoTo e * tenTo (-g))

/-- Whether `a * 10 ^ g` reads back as `m * 2 ^ e`: the ends of the interval belong to it for an
even mantissa, and its lower half is narrow at a power of two. -/
def readsBack (m : Nat) (e : Int) (a : Nat) (g : Int) : Bool :=
  let below := if m = twoTo 52 ∧ leastExponent < e then 4 * m - 1 else 4 * m - 2
  let above := 4 * m + 2
  match compareScaled a g below (e - 2), compareScaled a g above (e - 2) with
  | .gt, .lt => true
  | .eq, _ => m % 2 == 0
  | _, .eq => m % 2 == 0
  | _, _ => false

/-- The number of digits before the decimal point of `m * 2 ^ e`; below one, the number of zeros
after the point is counted negatively. -/
def pointOf (m : Nat) (e : Int) : Int :=
  let n := m * twoTo e
  let d := twoTo (-e)
  if d ≤ n then (Decimal.natChars (n / d)).length
  else
    match (List.range 400).find? fun j : Nat => d ≤ n * tenTo (j + 1) with
    | some j => -(j : Int)
    | none => 0

/-- The neighbour of `m * 2 ^ e` on the grid of step `10 ^ g` that reads back, the nearer one if both
do, and the even one on a tie. -/
def onGrid? (m : Nat) (e g : Int) : Option Nat :=
  let n := m * twoTo e * tenTo (-g)
  let d := twoTo (-e) * tenTo g
  let low := n / d
  let near := roundDiv n d
  let far := if near = low then low + 1 else low
  if readsBack m e near g then some near
  else if readsBack m e far g then some far
  else none

def shortest (m : Nat) (e : Int) : Nat × Int :=
  let point := pointOf m e
  match (List.range 17).findSome? fun k =>
      let g := point - (k + 1 : Nat)
      (onGrid? m e g).map fun a => (a, g) with
  | some result => result
  | none => (m, 0)

def dropEndZeros : List Char → List Char
  | [] => []
  | c :: cs =>
    match dropEndZeros cs with
    | [] => if c = '0' then [] else [c]
    | rest => c :: rest

def exponentChars (e : Int) : List Char :=
  let ds := Decimal.natChars e.natAbs
  (if e < 0 then '-' else '+') :: (if ds.length < 2 then '0' :: ds else ds)

/-- Digits laid out with the decimal point after the first `point` of them: positional from `1e-4` up
to `1e16`, with an exponent elsewhere; a positional whole number keeps `.0`. -/
def layout (ds : List Char) (point : Int) : List Char :=
  if -4 < point ∧ point ≤ 16 then
    if point ≤ 0 then '0' :: '.' :: (List.replicate (-point).toNat '0' ++ ds)
    else
      let k := point.toNat
      if ds.length ≤ k then ds ++ List.replicate (k - ds.length) '0' ++ ['.', '0']
      else ds.take k ++ '.' :: ds.drop k
  else
    match ds with
    | [] => []
    | [d] => d :: 'e' :: exponentChars (point - 1)
    | d :: more => d :: '.' :: (more ++ 'e' :: exponentChars (point - 1))

def finiteChars (negative : Bool) (m : Nat) (e : Int) : List Char :=
  let sign := if negative then ['-'] else []
  if m = 0 then sign ++ ['0', '.', '0']
  else
    let (a, g) := shortest m e
    let all := Decimal.natChars a
    sign ++ layout (dropEndZeros all) (all.length + g)

end NoteSchema.Binary64
