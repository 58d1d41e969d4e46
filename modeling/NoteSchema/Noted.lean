namespace NoteSchema

/-- How an operation fails on a value that it was not made for. -/
inductive Fault
  /-- The operation takes no value of this kind. -/
  | kind
  /-- Values of this kind have no such operation. -/
  | operation
  /-- There is no member of this name. -/
  | key
  /-- The kind is right and the value is not. -/
  | value
  /-- The value is beyond the range of its kind. -/
  | range
deriving DecidableEq, Repr

/-- A result with the remarks made on the way to it. A fault ends the work and keeps the remarks made
before it. -/
structure Noted (ω α : Type) where
  remarks : List ω
  outcome : Except Fault α

namespace Noted

variable {ω α β : Type}

def pure (a : α) : Noted ω α := ⟨[], .ok a⟩

def bind (x : Noted ω α) (f : α → Noted ω β) : Noted ω β :=
  match x.outcome with
  | .ok a => ⟨x.remarks ++ (f a).remarks, (f a).outcome⟩
  | .error e => ⟨x.remarks, .error e⟩

instance : Monad (Noted ω) where
  pure := pure
  bind := bind

def note (r : ω) : Noted ω Unit := ⟨[r], .ok ()⟩

def when (b : Bool) (x : Noted ω Unit) : Noted ω Unit := if b then x else pure ()

def lift (r : Except Fault α) : Noted ω α := ⟨[], r⟩

end Noted

end NoteSchema
