import NoteSchema.Command.Compile

namespace NoteSchema.Command.Lint

/-- How a report is written. -/
inductive Format
  | text
  | json
deriving DecidableEq, Repr

namespace Format

def ofText? : String → Option Format
  | "text" => some .text
  | "json" => some .json
  | _ => none

def render (r : Report) : Format → String
  | text => r.text true ++ "\n"
  | json => Json.text r.toDocument

/-- What the rendered report must pass before it is written. -/
def check : Format → Check
  | text => Check.none
  | json => Check.json

end Format

/-- The problems of notes read strictly; a note without the marker has none. -/
def problems : List Hint.Note → Except Fault (List Diagnostic)
  | [] => .ok []
  | n :: rest =>
    match Hint.Block.ofNote .strict n with
    | .error (.fault f) => .error f
    | .error (.noMarker _) => problems rest
    | .ok (_, found) => (problems rest).map (found ++ ·)

/-- Checks the notes of a source. -/
def source (l : Layout) (p : FilePath) : Work Unit := do
  let unit := l.display p
  match (← Work.tree).readText p with
  | .error reason => Work.report .fail unit ("read error: " ++ reason)
  | .ok text =>
    match Hint.Note.extract text with
    | [] => Work.report .skip unit "no SCHEMAHINTS notes"
    | notes =>
      let found ← Work.orFault (problems notes)
      Work.report (if found.any (·.isError) then .fail else .pass) unit
        (Decimal.natText notes.length ++ " notes") found

/-- Failures and errors count always, warnings only on request. -/
def exitCode (strict : Bool) (r : Report) : Nat :=
  if 0 < r.errors ∨ r.failed then 2 else if strict ∧ 0 < r.warnings then 1 else 0

/-- Checks every source and puts the report into a file, if one is named, else on the output. -/
def work (l : Layout) (format : Format) (out : Option String) : Work String := do
  Work.guardRoot l
  (l.sources (← Work.tree)).forM (source l)
  let rendered := format.render (← get).report
  match out with
  | none => return rendered
  | some path =>
    match ← Work.write format.check (FilePath.ofString path) rendered with
    | some e => Work.abort (.storage e)
    | none => return "Report written to " ++ path ++ "\n"

def run (root : String) (format : Format) (out : Option String) (strict : Bool) (t : FileTree)
    (stamps : List String) : Answer :=
  match work ⟨FilePath.ofString root, t.home⟩ format out (Run.start "lint" false t stamps) with
  | .ok output run => { exit := exitCode strict run.report, output, tree := run.store.tree }
  | .error a run => { exit := 1, output := "", tree := run.store.tree, abort := some a }

end NoteSchema.Command.Lint
