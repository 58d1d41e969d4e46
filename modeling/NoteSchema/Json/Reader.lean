import NoteSchema.Json.Basic

namespace NoteSchema.Json

/-- What keeps a text from being a JSON document. -/
inductive Flaw
  | value
  | name
  | colon
  | comma
  | openString
  | control
  | escape
  | unicodeEscape
  | extra
  | byteOrderMark
deriving DecidableEq, Repr

/-- A flaw with the text left at it, or a numeral beyond the digit limit. -/
inductive Stop
  | flaw (f : Flaw) (left : Nat)
  | tooLong (e : Decimal.TooLong)
deriving DecidableEq, Repr

abbrev Reading (α : Type) := Except Stop (α × List Char)

def isSpace (c : Char) : Bool := c == ' ' || c == '\t' || c == '\n' || c == '\r'

def dropSpace (cs : List Char) : List Char := cs.dropWhile isSpace

def hexValue? (c : Char) : Option Nat :=
  if '0' ≤ c ∧ c ≤ '9' then some (c.toNat - '0'.toNat)
  else if 'a' ≤ c ∧ c ≤ 'f' then some (c.toNat - 'a'.toNat + 10)
  else if 'A' ≤ c ∧ c ≤ 'F' then some (c.toNat - 'A'.toNat + 10)
  else none

def hex4? (a b c d : Char) : Option Nat := do
  let a ← hexValue? a
  let b ← hexValue? b
  let c ← hexValue? c
  let d ← hexValue? d
  return ((a * 16 + b) * 16 + c) * 16 + d

def isHigh (n : Nat) : Bool := 0xD800 ≤ n && n ≤ 0xDBFF

def isLow (n : Nat) : Bool := 0xDC00 ≤ n && n ≤ 0xDFFF

/-- The character of a code unit; half of a pair that stands alone becomes the replacement
character. -/
def unitChar (n : Nat) : Char :=
  if isHigh n || isLow n then Char.ofNat 0xFFFD else Char.ofNat n

def pairChar (high low : Nat) : Char :=
  Char.ofNat (0x10000 + (high - 0xD800) * 0x400 + (low - 0xDC00))

/-- The character that a one-letter escape stands for. -/
def escaped? : Char → Option Char
  | '"' => some '"'
  | '\\' => some '\\'
  | '/' => some '/'
  | 'b' => some '\x08'
  | 'f' => some '\x0c'
  | 'n' => some '\n'
  | 'r' => some '\r'
  | 't' => some '\t'
  | _ => none

/-- Reads a string after its opening quote, at which `start` characters were left; `acc` holds the
characters read so far, the last one first. -/
def readString (start : Nat) (acc : List Char) : List Char → Reading String
  | [] => .error (.flaw .openString start)
  | '"' :: rest => .ok (String.ofList acc.reverse, rest)
  | ['\\'] => .error (.flaw .openString start)
  | '\\' :: 'u' :: a :: b :: c :: d :: '\\' :: 'u' :: a' :: b' :: c' :: d' :: next :: rest =>
    match hex4? a b c d with
    | none => .error (.flaw .unicodeEscape (rest.length + 12))
    | some n =>
      if isHigh n then
        match hex4? a' b' c' d' with
        | none => .error (.flaw .unicodeEscape (rest.length + 6))
        | some m =>
          if isLow m then readString start (pairChar n m :: acc) (next :: rest)
          else readString start (unitChar n :: acc) ('\\' :: 'u' :: a' :: b' :: c' :: d' :: next :: rest)
      else readString start (unitChar n :: acc) ('\\' :: 'u' :: a' :: b' :: c' :: d' :: next :: rest)
  | '\\' :: 'u' :: a :: b :: c :: d :: next :: rest =>
    match hex4? a b c d with
    | none => .error (.flaw .unicodeEscape (rest.length + 6))
    | some n => readString start (unitChar n :: acc) (next :: rest)
  | '\\' :: 'u' :: rest => .error (.flaw .unicodeEscape (rest.length + 1))
  | '\\' :: c :: rest =>
    match escaped? c with
    | some c => readString start (c :: acc) rest
    | none => .error (.flaw .escape (rest.length + 2))
  | c :: rest =>
    if c.toNat < 0x20 then .error (.flaw .control (rest.length + 1))
    else readString start (c :: acc) rest

def isPlainDigit (c : Char) : Bool := '0' ≤ c && c ≤ '9'

/-- The digits of the whole part: a zero stands alone. -/
def wholeDigits : List Char → List Char × List Char
  | '0' :: rest => (['0'], rest)
  | cs => (cs.takeWhile isPlainDigit, cs.dropWhile isPlainDigit)

/-- The digits after a point, if there is a point with a digit after it. -/
def fractionDigits : List Char → Option (List Char) × List Char
  | '.' :: rest =>
    match rest.takeWhile isPlainDigit with
    | [] => (none, '.' :: rest)
    | ds => (some ds, rest.dropWhile isPlainDigit)
  | cs => (none, cs)

/-- The exponent, if a mark for it is followed by digits. -/
def exponentPart (cs : List Char) : Option Int × List Char :=
  match cs with
  | [] => (none, cs)
  | mark :: rest =>
    if mark = 'e' ∨ mark = 'E' then
      let (negative, body) :=
        match rest with
        | '-' :: body => (true, body)
        | '+' :: body => (false, body)
        | body => (false, body)
      match body.takeWhile isPlainDigit with
      | [] => (none, cs)
      | ds =>
        let n : Int := Decimal.natValue ds
        (some (if negative then -n else n), body.dropWhile isPlainDigit)
    else (none, cs)

/-- Reads a numeral; `left` characters were left at its sign. -/
def readNumber (left : Nat) (negative : Bool) (cs : List Char) : Reading Number :=
  let (whole, rest) := wholeDigits cs
  if whole.isEmpty then .error (.flaw .value left)
  else
    let (fraction, rest) := fractionDigits rest
    let (exponent, rest) := exponentPart rest
    match fraction, exponent with
    | none, none =>
      match Decimal.readInt negative whole with
      | .ok n => .ok (.int n, rest)
      | .error e => .error (.tooLong e)
    | _, _ =>
      let fraction := fraction.getD []
      .ok (.float (Binary64.ofDecimal negative (Decimal.natValue (whole ++ fraction))
        (whole.length + fraction.length) (exponent.getD 0 - (fraction.length : Int))), rest)

/-- A constant or a number. -/
def readScalar (cs : List Char) : Reading Document :=
  match cs with
  | 'n' :: 'u' :: 'l' :: 'l' :: rest => .ok (.null, rest)
  | 't' :: 'r' :: 'u' :: 'e' :: rest => .ok (.bool true, rest)
  | 'f' :: 'a' :: 'l' :: 's' :: 'e' :: rest => .ok (.bool false, rest)
  | 'N' :: 'a' :: 'N' :: rest => .ok (.number (.float .nan), rest)
  | 'I' :: 'n' :: 'f' :: 'i' :: 'n' :: 'i' :: 't' :: 'y' :: rest =>
    .ok (.number (.float (.infinite false)), rest)
  | '-' :: 'I' :: 'n' :: 'f' :: 'i' :: 'n' :: 'i' :: 't' :: 'y' :: rest =>
    .ok (.number (.float (.infinite true)), rest)
  | '-' :: rest => (readNumber cs.length true rest).map fun (n, rest) => (.number n, rest)
  | rest => (readNumber cs.length false rest).map fun (n, rest) => (.number n, rest)

mutual
/-- Reads a value that starts at the first character; the budget covers two steps a character. -/
def readValue : Nat → List Char → Reading Document
  | 0, cs => .error (.flaw .value cs.length)
  | budget + 1, cs =>
    match cs with
    | '"' :: rest => (readString cs.length [] rest).map fun (s, rest) => (.str s, rest)
    | '[' :: rest =>
      match dropSpace rest with
      | ']' :: rest => .ok (.arr [], rest)
      | rest => readItems budget [] rest
    | '{' :: rest =>
      match dropSpace rest with
      | '}' :: rest => .ok (.obj [], rest)
      | rest => readMembers budget [] rest
    | _ => readScalar cs

/-- Reads the items of an array up to its end, after the items in `acc`, the last one first. -/
def readItems : Nat → List Document → List Char → Reading Document
  | 0, _, cs => .error (.flaw .value cs.length)
  | budget + 1, acc, cs =>
    match readValue budget cs with
    | .error e => .error e
    | .ok (v, rest) =>
      match dropSpace rest with
      | ']' :: rest => .ok (.arr (v :: acc).reverse, rest)
      | ',' :: rest => readItems budget (v :: acc) (dropSpace rest)
      | rest => .error (.flaw .comma rest.length)

/-- Reads the members of an object up to its end; a repeated name keeps its place and takes the later
value. -/
def readMembers : Nat → Members String → List Char → Reading Document
  | 0, _, cs => .error (.flaw .name cs.length)
  | budget + 1, acc, cs =>
    match cs with
    | '"' :: rest =>
      match readString cs.length [] rest with
      | .error e => .error e
      | .ok (k, rest) =>
        match dropSpace rest with
        | ':' :: rest =>
          match readValue budget (dropSpace rest) with
          | .error e => .error e
          | .ok (v, rest) =>
            match dropSpace rest with
            | '}' :: rest => .ok (.obj (acc.set k v), rest)
            | ',' :: rest => readMembers budget (acc.set k v) (dropSpace rest)
            | rest => .error (.flaw .comma rest.length)
        | rest => .error (.flaw .colon rest.length)
    | _ => .error (.flaw .name cs.length)
end

/-- Reads a whole text. -/
def readAll (cs : List Char) : Except Stop Document :=
  match cs with
  | '\uFEFF' :: _ => .error (.flaw .byteOrderMark cs.length)
  | _ =>
    match readValue (2 * cs.length + 2) (dropSpace cs) with
    | .error e => .error e
    | .ok (v, rest) =>
      match dropSpace rest with
      | [] => .ok v
      | rest => .error (.flaw .extra rest.length)

/-- Why a text could not be read: a flaw with its line, column and offset, or a numeral beyond the
digit limit. -/
inductive ReadError
  | malformed (flaw : Flaw) (line column offset : Nat)
  | tooLong (e : Decimal.TooLong)
deriving DecidableEq, Repr

/-- The place of an offset: lines and columns count from one. -/
def placeOf (cs : List Char) (offset : Nat) : Nat × Nat :=
  let before := cs.take offset
  (before.count '\n' + 1, (before.reverse.takeWhile (· ≠ '\n')).length + 1)

def read (s : String) : Except ReadError Document :=
  match readAll s.toList with
  | .ok v => .ok v
  | .error (.tooLong e) => .error (.tooLong e)
  | .error (.flaw f left) =>
    let offset := s.toList.length - left
    let (line, column) := placeOf s.toList offset
    .error (.malformed f line column offset)

def Flaw.message : Flaw → String
  | .value => "Expecting value"
  | .name => "Expecting property name enclosed in double quotes"
  | .colon => "Expecting ':' delimiter"
  | .comma => "Expecting ',' delimiter"
  | .openString => "Unterminated string starting at"
  | .control => "Invalid control character at"
  | .escape => "Invalid \\escape"
  | .unicodeEscape => "Invalid \\uXXXX escape"
  | .extra => "Extra data"
  | .byteOrderMark => "Unexpected UTF-8 BOM (decode using utf-8-sig)"

def ReadError.message : ReadError → String
  | .malformed f line column offset =>
    f.message ++ ": line " ++ Decimal.natText line ++ " column " ++ Decimal.natText column ++
      " (char " ++ Decimal.natText offset ++ ")"
  | .tooLong e => e.message

end NoteSchema.Json
