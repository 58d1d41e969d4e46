import NoteSchema.Artifact.Pending
import NoteSchema.Command.Basic
import NoteSchema.Command.Option
import NoteSchema.Corpus.Load
import NoteSchema.Hint.Note
import NoteSchema.Hint.Block
import NoteSchema.Schema.Shared

namespace NoteSchema

namespace Hint.Block

def ofNote (strictness : Strictness) (n : Note) : Except Hint.Failure (Block × List Diagnostic) :=
  Block.parse strictness n.owner n.body n.line

end Hint.Block

namespace Command.Compile

def request : List Emission → Work Unit
  | [] => return ()
  | e :: rest => do
    let run ← get
    match run.pending.request e with
    | .ok (_, pending) => set { run with pending }
    | .error .closed => return ()
    request rest

/-- Writes the schema of a compiled class unless this run has written one to its destination. -/
def writeSchema (s : Settings) (l : Layout) (unit : String) (found : List Diagnostic)
    (c : Schema.Compiled) : Work Unit := do
  let diagnostics := found ++ c.diagnostics
  let destination := l.artifactPath c.schema.id
  let run ← get
  if run.store.written.contains destination then
    Work.report .fail unit (l.display destination ++ " already written in this run") diagnostics
  else
    let document ← Work.orFault (c.schema.toDocument s.base s.dialect)
    match ← Work.write Check.json destination (Json.text document) with
    | some e => Work.report .fail unit e.message diagnostics
    | none =>
      request c.emissions
      if diagnostics.any (·.isError) then
        Work.report .fail (l.display destination) unit diagnostics
      else Work.report .wrote (l.display destination) "" diagnostics

def note (s : Settings) (l : Layout) (source : FilePath) (here : Location) (n : Hint.Note) :
    Work Unit := do
  let unit := l.display source ++ "#" ++ n.owner
  match Hint.Block.ofNote s.strictness n with
  | .error (.fault f) => Work.abort (.fault f)
  | .error e => Work.report .fail unit (e.message?.getD "")
  | .ok (block, found) =>
    let compiled ← Work.orFault (Schema.Shared.compile (Schema.Setup.ofSettings s l) here block)
    writeSchema s l unit found compiled

def source (s : Settings) (l : Layout) (p : FilePath) : Work Unit := do
  match l.locationOf p with
  | .error e => Work.report .fail (l.display p) e.message
  | .ok here =>
    match (← Work.tree).readText p with
    | .error reason => Work.report .fail (l.display p) reason
    | .ok text =>
      match Hint.Note.extract text with
      | [] => Work.report .skip (l.display p) "no SCHEMAHINTS notes"
      | notes => notes.forM (note s l p here)

def reportReleased (l : Layout) : Released → Work Unit
  | [] => return ()
  | (destination, none) :: rest => do
    Work.report .wrote (l.display destination)
    reportReleased l rest
  | (destination, some e) :: rest => do
    Work.report .fail (l.display destination) e.reason
    reportReleased l rest

def release (s : Settings) (l : Layout) : Work Unit := do
  let run ← get
  match run.pending.flush with
  | .error .closed => return ()
  | .ok (todo, pending) =>
    let (released, store) := run.store.writeEnumerations s.base todo
    set { run with store, pending }
    match released with
    | .error e => Work.abort (.ofWrite e)
    | .ok released => reportReleased l released

/-- The sources that are named, or those of the corpus if none are. -/
def chosen (l : Layout) : List String → Work (List FilePath)
  | [] => do
    Work.guardRoot l
    return l.sources (← Work.tree)
  | files => return (files.map FilePath.ofString).mergeSort FilePath.le

def work (s : Settings) (l : Layout) (files : List String) : Work Unit := do
  (← chosen l files).forM (source s l)
  release s l

def run (s : Settings) (files : List String) (t : FileTree) (stamps : List String) : Answer :=
  let start := Run.start "compile" s.emitEnums.truthy t stamps
  match s.layout t.home with
  | .error f => start.finish (Work.abort (.fault f))
  | .ok l => start.finish (work s l files)

end Command.Compile

end NoteSchema
