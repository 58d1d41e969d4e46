import NoteSchema.Pattern.Token

namespace NoteSchema.Pattern

/-- The least and the greatest length of the texts that a piece of a pattern matches. -/
structure Width where
  low : Nat
  high : Nat
deriving DecidableEq, Repr

namespace Width

/-- A length that counts as without bound. -/
def unbounded : Nat := Nat.pow 2 64

/-- The count that a repeat without upper bound stands for. -/
def endless : Nat := Nat.pow 2 32 - 1

def zero : Width := ⟨0, 0⟩

def one : Width := ⟨1, 1⟩

def add (a b : Width) : Width := ⟨a.low + b.low, a.high + b.high⟩

def either (a b : Width) : Width := ⟨min a.low b.low, max a.high b.high⟩

def capped (a : Width) : Width := ⟨min a.low unbounded, min a.high unbounded⟩

def times (a : Width) (least most : Nat) : Width :=
  ⟨a.low * least, if most = endless ∧ a.high ≠ 0 then unbounded else a.high * most⟩

end Width

inductive ItemKind
  | place
  | repetition
  | other
deriving DecidableEq, Repr

/-- What is looked at once all of a pattern has been read: a repetition, or a look-behind with the width of
what it looks for. -/
inductive Step
  | repetition (r : Repetition)
  | lookBehind (w : Width)
deriving DecidableEq, Repr

/-- A part of a pattern: its width, and its steps in the order in which they are looked at. -/
structure Body where
  width : Width
  steps : List Step

namespace Body

def empty : Body := ⟨.zero, []⟩

def either (a b : Body) : Body := ⟨a.width.either b.width, a.steps ++ b.steps⟩

end Body

/-- A piece of a pattern; places match no text and repetitions cannot be repeated. -/
structure Item where
  kind : ItemKind
  width : Width
  steps : List Step := []

namespace Item

def one : Item := { kind := .other, width := .one }

def place : Item := { kind := .place, width := .zero }

def ofBody (b : Body) : Item := { kind := .other, width := b.width, steps := b.steps }

def ahead (b : Body) : Item := { kind := .other, width := .zero, steps := b.steps }

def behind (b : Body) : Item :=
  { kind := .other, width := .zero, steps := .lookBehind b.width :: b.steps }

def repeated (i : Item) (r : Repetition) (least most : Nat) : Item :=
  { kind := .repetition, width := i.width.times least most, steps := .repetition r :: i.steps }

end Item

/-- Pieces one after another, given from the last to the first. -/
def Body.ofItems (items : List Item) : Body where
  width := (items.foldl (fun (w : Width) i => w.add i.width) .zero).capped
  steps := items.reverse.flatMap (·.steps)

/-- What is known while a pattern is read: what is left of it, the groups with their widths once they
are closed, the names, and the flags set for the whole. -/
structure State where
  rest : List Token
  broken : Bool
  size : Nat
  groups : List (Option Width)
  names : List (String × Nat)
  lookBehind : Option Nat
  references : List (Nat × Nat)
  verbose : Bool
  ascii : Bool
  wide : Bool
  plain : Bool

abbrev Reader := StateT State (Except Refusal)

namespace Reader

def refuse {α : Type} (f : Flaw) (offset : Nat) : Reader α := throw (.flaw f (some offset))

def peek : Reader (Option Token) := return (← get).rest.head?

def offset : Reader Nat := do
  let s ← get
  return match s.rest with
    | [] => if s.broken then s.size - 1 else s.size
    | t :: _ => t.offset

/-- A lone backslash is refused as soon as it is next. -/
def guardEnd : Reader Unit := do
  let s ← get
  if s.rest.isEmpty && s.broken then refuse .brokenEscape (s.size - 1)

def take : Reader (Option Token) := do
  let s ← get
  match s.rest with
  | [] => return none
  | t :: rest =>
    set { s with rest }
    guardEnd
    return some t

/-- Takes the next token if it is the given character. -/
def takeIf (c : Char) : Reader Bool := do
  match ← peek with
  | some t =>
    if t.isChar c then
      let _ ← take
      return true
    else return false
  | none => return false

/-- Takes up to a number of characters of a set. -/
def takeWhile (p : Char → Bool) : Nat → Reader (List Char)
  | 0 => return []
  | n + 1 => do
    match ← peek with
    | some t =>
      if !t.escaped && p t.char then
        let _ ← take
        return t.char :: (← takeWhile p n)
      else return []
    | none => return []

/-- Takes the text up to a terminator; `before` is the text so far. -/
def takeUntil (terminator : Char) (what : String) (before : String) : Nat → Reader String
  | 0 => do refuse (.missing what) (← get).size
  | n + 1 => do
    let here ← offset
    match ← take with
    | none =>
      if before = "" then refuse (.missing what) here
      else refuse (.missingEnd terminator) (here - before.length)
    | some t =>
      if t.isChar terminator then
        if before = "" then refuse (.missing what) here
        else return before
      else takeUntil terminator what (before ++ t.text) n

def takeName (terminator : Char) (what : String) : Reader String := do
  takeUntil terminator what "" ((← get).rest.length + 1)

def closedGroup? (s : State) (group : Nat) : Option Width := (s.groups[group]?).getD none

/-- Inside a look-behind only groups closed before it may be referred to. -/
def guardLookBehind (group : Nat) : Reader Unit := do
  let s ← get
  match s.lookBehind with
  | none => return
  | some limit =>
    if (closedGroup? s group).isNone then refuse .openGroupReference (← offset)
    else if limit ≤ group then refuse .lookBehindReference (← offset)

end Reader

end NoteSchema.Pattern
