import NoteSchema.Number.Decimal

namespace NoteSchema

inductive Severity
  | error
  | warning
deriving DecidableEq, Repr

def Severity.text : Severity → String
  | .error => "error"
  | .warning => "warning"

/-- A problem in one hint block; the line is one of the source text, where it is known. -/
structure Diagnostic where
  severity : Severity
  message : String
  line : Option Int
  owner : String
  field : String
deriving DecidableEq, Repr

namespace Diagnostic

/-- The class and the field that a problem belongs to. -/
def scope (d : Diagnostic) : String :=
  let name := if d.field = "" then d.owner else d.owner ++ "." ++ d.field
  if name = "" then "" else "[" ++ name ++ "] "

def toString (d : Diagnostic) : String :=
  let place :=
    match d.line with
    | some n => "line " ++ Decimal.intText n ++ ": "
    | none => ""
  place ++ d.scope ++ d.message

def isError (d : Diagnostic) : Bool := d.severity == .error

def isWarning (d : Diagnostic) : Bool := d.severity == .warning

end Diagnostic

end NoteSchema
