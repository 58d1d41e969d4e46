import NoteSchema.Pattern.State
import NoteSchema.Text.CharName.Lookup

namespace NoteSchema.Pattern.Reader

def isOctal (c : Char) : Bool := '0' ≤ c && c ≤ '7'

def hexValue (cs : List Char) : Nat :=
  cs.foldl (fun n c =>
    n * 16 + (if c.isDigit then c.toNat - '0'.toNat else (c.toLower.toNat - 'a'.toNat) + 10)) 0

def octalValue (cs : List Char) : Nat :=
  cs.foldl (fun n c => n * 8 + (c.toNat - '0'.toNat)) 0

def isHex (c : Char) : Bool :=
  c.isDigit || ('a' ≤ c.toLower && c.toLower ≤ 'f')

/-- A character in a set: one code point, or a family of them. -/
inductive Member
  | code (n : Nat)
  | family
deriving DecidableEq, Repr

/-- Refuses an escape; all of it has been taken. -/
def refuseEscape {α : Type} (f : String → Flaw) (escape : List Char) : Reader α := do
  refuse (f (String.ofList escape)) ((← offset) - escape.length)

def lastCode : Nat := 0x10FFFF

/-- The greatest number that is looked at as a code point at all. -/
def codeLimit : Nat := 0x7FFFFFFF

def hexEscape (letter : Char) (digits : Nat) : Reader Nat := do
  let ds ← takeWhile isHex digits
  let escape := '\\' :: letter :: ds
  let code := hexValue ds
  if ds.length ≠ digits then refuseEscape .incompleteEscape escape
  else if codeLimit < code then throw (.fault .range)
  else if lastCode < code then refuseEscape .badEscape escape
  else return code

def namedEscape : Reader Nat := do
  if !(← takeIf '\x7b') then refuse (.missing "\x7b") (← offset)
  let name ← takeName '\x7d' "character name"
  match Text.CharName.find? name with
  | some code => return code
  | none => refuse (.unknownName name) ((← offset) - (name.length + 4))

def simpleEscape? : Char → Option Nat
  | 'a' => some 7
  | 'b' => some 8
  | 'f' => some 12
  | 'n' => some 10
  | 'r' => some 13
  | 't' => some 9
  | 'v' => some 11
  | '\\' => some 92
  | _ => none

def isClassLetter (c : Char) : Bool := "dDsSwW".toList.contains c

/-- An escape inside a set; its first token has been taken. -/
def setEscape (c : Char) : Reader Member := do
  match simpleEscape? c with
  | some n => return .code n
  | none =>
    if isClassLetter c then return .family
    else if c = 'x' then return .code (← hexEscape c 2)
    else if c = 'u' then return .code (← hexEscape c 4)
    else if c = 'U' then return .code (← hexEscape c 8)
    else if c = 'N' then return .code (← namedEscape)
    else if isOctal c then
      let ds := c :: (← takeWhile isOctal 2)
      if 0o377 < octalValue ds then refuseEscape .octalRange ('\\' :: ds)
      else return .code (octalValue ds)
    else if c.isDigit || c.isAlpha then refuseEscape .badEscape ['\\', c]
    else return .code c.toNat

def groupReference (escape : List Char) (group : Nat) : Reader Item := do
  let s ← get
  if group < s.groups.length then
    match closedGroup? s group with
    | none => refuseEscape (fun _ => .openGroupReference) escape
    | some w => do
      guardLookBehind group
      return .ofBody ⟨w, []⟩
  else refuse (.invalidReference group) ((← offset) - (escape.length - 1))

/-- An escape that starts with a digit other than zero: three octal digits are a code, anything else
refers to a group. -/
def numberEscape (c : Char) : Reader Item := do
  match ← takeWhile (·.isDigit) 1 with
  | [] => groupReference ['\\', c] (c.toNat - '0'.toNat)
  | d :: _ =>
    let third ←
      if isOctal c && isOctal d then takeWhile isOctal 1 else pure []
    match third with
    | [] => groupReference ['\\', c, d] (Decimal.natValue [c, d])
    | e :: _ =>
      if 0o377 < octalValue [c, d, e] then refuseEscape .octalRange ['\\', c, d, e]
      else return .one

/-- An escape outside a set; its first token has been taken. -/
def escapeItem (c : Char) : Reader Item := do
  if "AbBZ".toList.contains c then return .place
  else if isClassLetter c || (simpleEscape? c).isSome then return .one
  else if c = 'x' then
    let _ ← hexEscape c 2
    return .one
  else if c = 'u' then
    let _ ← hexEscape c 4
    return .one
  else if c = 'U' then
    let _ ← hexEscape c 8
    return .one
  else if c = 'N' then
    let _ ← namedEscape
    return .one
  else if c = '0' then
    let _ ← takeWhile isOctal 2
    return .one
  else if c.isDigit then numberEscape c
  else if c.isAlpha then refuseEscape .badEscape ['\\', c]
  else return .one

def memberOf (t : Token) : Reader Member :=
  if t.escaped then setEscape t.char else return .code t.char.toNat

/-- Takes the rest of a set that starts at `start`. -/
def setRest (start : Nat) (empty : Bool) : Nat → Reader Unit
  | 0 => refuse .openSet start
  | n + 1 => do
    match ← take with
    | none => refuse .openSet start
    | some this =>
      if this.isChar ']' && !empty then return
      let low ← memberOf this
      if ← takeIf '-' then
        match ← take with
        | none => refuse .openSet start
        | some that =>
          if that.isChar ']' then return
          let high ← memberOf that
          let bad : Reader Unit := do
            refuse (.badRange this.text that.text)
              ((← offset) - (this.length + 1 + that.length))
          match low, high with
          | .code a, .code b => if b < a then bad else setRest start false n
          | _, _ => bad
      else setRest start false n

end NoteSchema.Pattern.Reader
