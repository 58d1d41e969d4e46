import NoteSchema.Hint.Diagnostic
import NoteSchema.Pattern.Check
import NoteSchema.Settings

namespace NoteSchema.Hint

/-- A problem noticed while a block is read. -/
structure Finding where
  severity : Severity
  message : String
  line : Int
  field : String
deriving DecidableEq, Repr

def Finding.diagnostic (owner : String) (f : Finding) : Diagnostic :=
  ⟨f.severity, f.message, some f.line, owner, f.field⟩

/-- Something read from a block, with the findings on the way. -/
abbrev Reading := Noted Finding

namespace Reading

variable (mode : Strictness)

/-- Leaves a finding; tolerant reading leaves none. -/
def report (severity : Severity) (message : String) (line : Int) (field : String) : Reading Unit :=
  Noted.when mode.isStrict (Noted.note ⟨severity, message, line, field⟩)

def error (message : String) (line : Int) (field : String) : Reading Unit :=
  report mode .error message line field

def warning (message : String) (line : Int) (field : String) : Reading Unit :=
  report mode .warning message line field

/-- Checks a pattern; tolerant reading does not look into it. A flaw is reported, and a pattern that asks for
more than can be held ends the reading. -/
def checkPattern (text : String) (line : Int) (field : String) : Reading Unit :=
  Noted.when mode.isStrict
    (match Pattern.check text with
    | .ok () => Noted.pure ()
    | .error (.flaw f offset) =>
      error mode ("Pattern is not a valid regex: " ++ text ++ " (" ++ Pattern.flawText f offset ++ ")") line
        field
    | .error (.fault e) => Noted.lift (.error e))

end Reading

end NoteSchema.Hint
