import NoteSchema.Text.Quoted

namespace NoteSchema.Text

abbrev Bytes := List UInt8

namespace Utf8

inductive Reason
  | start
  | continuation
  | ending
deriving DecidableEq, Repr

/-- The first bytes that encode no character: where they stand, how many they are and why. -/
structure Failure where
  reason : Reason
  first : UInt8
  position : Nat
  count : Nat
deriving DecidableEq, Repr

def encode (s : String) : Bytes := s.toList.flatMap String.utf8EncodeChar

/-- How many bytes a first byte asks for, and the bounds of the second one. -/
structure Lead where
  width : Nat
  low : Nat
  high : Nat

def lead? (b : Nat) : Option Lead :=
  if b < 0x80 then some ⟨1, 0, 0⟩
  else if b < 0xC2 then none
  else if b < 0xE0 then some ⟨2, 0x80, 0xC0⟩
  else if b < 0xF0 then
    some ⟨3, if b = 0xE0 then 0xA0 else 0x80, if b = 0xED then 0xA0 else 0xC0⟩
  else if b < 0xF5 then
    some ⟨4, if b = 0xF0 then 0x90 else 0x80, if b = 0xF4 then 0x90 else 0xC0⟩
  else none

/-- The payload of the bytes that follow the first one, or the reason why they are too few or wrong
together with the number of bytes spent. -/
def tail? : Nat → Nat → Nat → Nat → Nat → Bytes → Except (Reason × Nat) (Nat × Bytes)
  | 0, _, _, _, code, rest => .ok (code, rest)
  | _ + 1, _, _, used, _, [] => .error (.ending, used)
  | more + 1, low, high, used, code, b :: rest =>
    if low ≤ b.toNat ∧ b.toNat < high then
      tail? more 0x80 0xC0 (used + 1) (code * 64 + (b.toNat - 0x80)) rest
    else .error (.continuation, used)

/-- The bits of a first byte that belong to the code point. -/
def payload (b width : Nat) : Nat :=
  match width with
  | 1 => b
  | 2 => b - 0xC0
  | 3 => b - 0xE0
  | _ => b - 0xF0

inductive Step
  | char (c : Char) (width : Nat)
  | bad (reason : Reason) (count : Nat)

/-- What a nonempty run of bytes starts with. -/
def step (b : UInt8) (rest : Bytes) : Step :=
  match lead? b.toNat with
  | none => .bad .start 1
  | some l =>
    match tail? (l.width - 1) l.low l.high 1 (payload b.toNat l.width) rest with
    | .ok (code, _) => .char (Char.ofNat code) l.width
    | .error (reason, used) => .bad reason used

/-- Reads on while `skip` bytes still belong to the character read last. -/
def decodeFrom : Nat → Nat → Bytes → Except Failure (List Char)
  | _, _, [] => .ok []
  | position, skip + 1, _ :: rest => decodeFrom (position + 1) skip rest
  | position, 0, b :: rest =>
    match step b rest with
    | .char c width => (decodeFrom (position + 1) (width - 1) rest).map (c :: ·)
    | .bad reason count => .error ⟨reason, b, position, count⟩

def decode (bytes : Bytes) : Except Failure String :=
  (decodeFrom 0 0 bytes).map String.ofList

/-- The escaped form of a byte that belongs to no character. -/
def escapeByte (b : UInt8) : List Char := '\\' :: 'x' :: hexDigits 2 b.toNat

/-- Reads on with every byte of a bad run shown in escaped form; `skip` and `bad` count the bytes of
the last character and of the last bad run that are still to come. -/
def showFrom : Nat → Nat → Bytes → List Char
  | _, _, [] => []
  | skip + 1, bad, _ :: rest => showFrom skip bad rest
  | 0, bad + 1, b :: rest => escapeByte b ++ showFrom 0 bad rest
  | 0, 0, b :: rest =>
    match step b rest with
    | .char c width => c :: showFrom (width - 1) 0 rest
    | .bad _ count => escapeByte b ++ showFrom 0 (count - 1) rest

def display (bytes : Bytes) : String := String.ofList (showFrom 0 0 bytes)

def Reason.message : Reason → String
  | .start => "invalid start byte"
  | .continuation => "invalid continuation byte"
  | .ending => "unexpected end of data"

def Failure.message (f : Failure) : String :=
  if f.count = 1 then
    "'utf-8' codec can't decode byte 0x" ++ String.ofList (hexDigits 2 f.first.toNat) ++
      " in position " ++ toString f.position ++ ": " ++ f.reason.message
  else
    "'utf-8' codec can't decode bytes in position " ++ toString f.position ++ "-" ++
      toString (f.position + f.count - 1) ++ ": " ++ f.reason.message

end Utf8

end NoteSchema.Text
