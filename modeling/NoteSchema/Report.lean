import NoteSchema.Hint.Diagnostic
import NoteSchema.Json.Printer
import NoteSchema.Text.Split

namespace NoteSchema

/-- What became of one unit of work. -/
inductive Outcome
  | wrote
  | pass
  | skip
  | fail
deriving DecidableEq, Repr

namespace Outcome

def text : Outcome → String
  | wrote => "WROTE"
  | pass => "PASS"
  | skip => "SKIP"
  | fail => "FAIL"

/-- The name of an outcome in counts. -/
def countName : Outcome → String
  | wrote => "wrote"
  | pass => "pass"
  | skip => "skip"
  | fail => "fail"

def all : List Outcome := [wrote, pass, skip, fail]

/-- The name in a column that is five characters wide. -/
def column (o : Outcome) : String :=
  String.ofList (o.text.toList ++ List.replicate (5 - o.text.toList.length) ' ')

end Outcome

/-- One unit of work: what it was about, what became of it and the problems that came up. -/
structure Report.Item where
  outcome : Outcome
  unit : String
  detail : String := ""
  diagnostics : List Diagnostic := []

/-- The units of one run of a command. -/
structure Report where
  command : String
  results : List Report.Item := []

namespace Report.Item

def headline (i : Report.Item) : String :=
  let line := i.outcome.column ++ " " ++ i.unit
  if i.detail = "" then line else line ++ "  " ++ i.detail

/-- The lines of a unit; its problems are listed where it failed, or on request. -/
def lines (expanded : Bool) (i : Report.Item) : List String :=
  i.headline ::
    if expanded || i.outcome == .fail then
      i.diagnostics.map fun d => "      - " ++ d.severity.text ++ ": " ++ d.toString
    else []

def diagnosticDocument (d : Diagnostic) : Document :=
  .obj [("severity", .str d.severity.text),
    ("message", .str d.message),
    ("line", match d.line with
      | some n => .int n
      | none => .null),
    ("owner", .str d.owner),
    ("field", .str d.field)]

def toDocument (i : Report.Item) : Document :=
  .obj [("outcome", .str i.outcome.text),
    ("unit", .str i.unit),
    ("detail", .str i.detail),
    ("diagnostics", .arr (i.diagnostics.map diagnosticDocument))]

end Report.Item

namespace Report

def add (r : Report) (i : Report.Item) : Report := { r with results := r.results ++ [i] }

def count (r : Report) (o : Outcome) : Nat := (r.results.filter (·.outcome == o)).length

def failed (r : Report) : Bool := r.results.any (·.outcome == .fail)

def diagnostics (r : Report) : List Diagnostic := r.results.flatMap (·.diagnostics)

def errors (r : Report) : Nat := (r.diagnostics.filter (·.isError)).length

def warnings (r : Report) : Nat := (r.diagnostics.filter (·.isWarning)).length

def summary (r : Report) : String :=
  "Summary: " ++ Text.join ", "
    (Outcome.all.map fun o => o.countName ++ " " ++ Decimal.natText (r.count o))

/-- The report as lines of text, an empty one before the summary. -/
def text (expanded : Bool) (r : Report) : String :=
  Text.join "\n" (r.results.flatMap (·.lines expanded) ++ ["", r.summary])

def toDocument (r : Report) : Document :=
  .obj [("command", .str r.command),
    ("results", .arr (r.results.map Report.Item.toDocument)),
    ("summary", .obj (Outcome.all.map (fun o => (o.countName, .int (r.count o))) ++
      [("errors", .int r.errors), ("warnings", .int r.warnings)]))]

end Report

end NoteSchema
