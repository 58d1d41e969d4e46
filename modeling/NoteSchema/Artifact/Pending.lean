import NoteSchema.Artifact.Enumeration
import NoteSchema.File.Store

namespace NoteSchema

/-- The enumerations requested so far, by destination; once flushed, no more are taken. -/
structure Pending where
  enabled : Bool
  flushed : Bool := false
  entries : List (FilePath × Enumeration) := []

namespace Pending

inductive Closed
  | closed
deriving DecidableEq, Repr

def Closed.message : Closed → String
  | .closed => "Enum registry already flushed for this run"

def find? (destination : FilePath) : List (FilePath × Enumeration) → Option Enumeration
  | [] => none
  | (d, e) :: rest => if d = destination then some e else find? destination rest

def get? (p : Pending) (destination : FilePath) : Option Enumeration :=
  find? destination p.entries

def add (destination : FilePath) (e : Enumeration) :
    List (FilePath × Enumeration) → List (FilePath × Enumeration)
  | [] => [(destination, e)]
  | (d, prior) :: rest =>
    if d = destination then (d, prior.merge e) :: rest else (d, prior) :: add destination e rest

/-- Takes a request, and tells whether it was recorded. -/
def request (p : Pending) (emission : Emission) : Except Closed (Bool × Pending) :=
  if !p.enabled then .ok (false, p)
  else if p.flushed then .error .closed
  else .ok (true, { p with entries := add emission.destination emission.enumeration p.entries })

def inOrder (p : Pending) : List (FilePath × Enumeration) :=
  p.entries.mergeSort fun a b => a.1.le b.1

def flush (p : Pending) : Except Closed (List (FilePath × Enumeration) × Pending) :=
  if p.flushed then .error .closed
  else .ok (if p.enabled then p.inOrder else [], { p with flushed := true })

end Pending

/-- What became of each enumeration that was to be written: a destination and what kept it from being
written, if anything did. -/
abbrev Released := List (FilePath × Option StorageError)

/-- Whatever writes documents to paths: the answer to one write, and the state after it. -/
abbrev Writer (σ : Type) := σ → FilePath → Document → Except WriteFailure Unit × σ

/-- Writes enumerations to their destinations; a refusal at one does not keep the others from being
written. -/
def Writer.release {σ : Type} (w : Writer σ) (base : String) :
    σ → List (FilePath × Enumeration) → Except WriteFailure Released × σ
  | s, [] => (.ok [], s)
  | s, (destination, e) :: rest =>
    match w s destination (e.toDocument base) with
    | (.ok (), s) =>
      let (released, s) := release w base s rest
      (released.map ((destination, none) :: ·), s)
    | (.error (.storage problem), s) =>
      let (released, s) := release w base s rest
      (released.map ((destination, some problem) :: ·), s)
    | (.error failure, s) => (.error failure, s)

def Store.writeEnumerations (base : String) (s : Store) (todo : List (FilePath × Enumeration)) :
    Except WriteFailure Released × Store :=
  Writer.release Store.writeDocument base s todo

end NoteSchema
