import NoteSchema.Number.Decimal
import NoteSchema.Text.Quoted
import NoteSchema.Text.Split

namespace NoteSchema

/-- Why the file system refuses an operation. -/
inductive Cause
  | missing
  | taken
  | noFreeName
  | busy
  | notFolder
  | folder
  | nameTooLong
deriving DecidableEq, Repr

namespace Cause

def number : Cause → Nat
  | missing => 2
  | busy => 16
  | taken => 17
  | noFreeName => 17
  | notFolder => 20
  | folder => 21
  | nameTooLong => 36

def text : Cause → String
  | missing => "No such file or directory"
  | busy => "Device or resource busy"
  | taken => "File exists"
  | noFreeName => "No usable temporary file name found"
  | notFolder => "Not a directory"
  | folder => "Is a directory"
  | nameTooLong => "File name too long"

end Cause

/-- A refused operation on the named paths. -/
structure Refusal where
  cause : Cause
  paths : List String
deriving DecidableEq, Repr

def Refusal.message (r : Refusal) : String :=
  let what := "[Errno " ++ Decimal.natText r.cause.number ++ "] " ++ r.cause.text
  if r.paths = [] then what
  else what ++ ": " ++ Text.join " -> " (r.paths.map Text.literal)

/-- A document that could not be read or written, and the refusal behind it if there is one. -/
structure StorageError where
  place : String
  reason : String
  refusal : Option Refusal := none
deriving DecidableEq, Repr

namespace StorageError

def message (e : StorageError) : String := e.place ++ ": " ++ e.reason

def ofRefusal (place : String) (r : Refusal) : StorageError := ⟨place, r.message, some r⟩

end StorageError

end NoteSchema
