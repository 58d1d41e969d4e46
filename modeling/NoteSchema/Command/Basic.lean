import NoteSchema.Artifact.Pending
import NoteSchema.Corpus.Load
import NoteSchema.File.Store
import NoteSchema.Report
import NoteSchema.Settings
import NoteSchema.Text.Split

namespace NoteSchema

/-- What ends a command before it can report. -/
inductive Abort
  | fault (f : Fault)
  | storage (e : StorageError)
  | refused (r : Refusal)
  | unreadable (e : Json.ReadError)
  | undecodable (e : Text.Utf8.Failure)
  | exhausted

namespace Abort

def message : Abort → String
  | .fault .kind => "a value is not of the kind that is asked for"
  | .fault .operation => "a value of its kind cannot be used in its place"
  | .fault .key => "a member is missing"
  | .fault .value => "a value is not one of those that are asked for"
  | .fault .range => "a number is out of range"
  | .storage e => e.message
  | .refused r => r.message
  | .unreadable e => e.message
  | .undecodable e => e.message
  | .exhausted => "references are nested too deep"

def ofWrite : WriteFailure → Abort
  | .storage e => .storage e
  | .unreadable e => .unreadable e
  | .fault f => .fault f

end Abort

/-- How far a command has come: the files, the enumerations still to be written, and the report. -/
structure Run where
  store : Store
  pending : Pending
  report : Report

/-- Work on a run. What was done before an abort stays done. -/
abbrev Work := EStateM Abort Run

namespace Work

def abort {α : Type} (a : Abort) : Work α := throw a

def orFault {α : Type} : Except Fault α → Work α
  | .ok a => return a
  | .error f => abort (.fault f)

def tree : Work FileTree := return (← get).store.tree

/-- Goes on if what is below the root of a layout can be listed. -/
def guardRoot (l : Layout) : Work Unit := do
  match l.barred? (← tree) with
  | some r => abort (.refused r)
  | none => return ()

def report (outcome : Outcome) (unit : String) (detail : String := "")
    (diagnostics : List Diagnostic := []) : Work Unit :=
  modify fun r => { r with report := r.report.add { outcome, unit, detail, diagnostics } }

def write (check : Check) (p : FilePath) (content : String) : Work (Option StorageError) := do
  let run ← get
  let (result, store) := run.store.write check p content
  set { run with store }
  match result with
  | .ok () => return none
  | .error (.storage e) => return some e
  | .error e => abort (.ofWrite e)

end Work

/-- What a command leaves: its exit code, what it printed, the files, and what ended it early. -/
structure Answer where
  exit : Nat
  output : String
  tree : FileTree
  abort : Option Abort := none

namespace Answer

def misused (t : FileTree) : Answer := { exit := 2, output := "", tree := t }

end Answer

def Run.start (command : String) (emitEnums : Bool) (t : FileTree) (stamps : List String) : Run :=
  { store := { tree := t, stamps }
    pending := { enabled := emitEnums }
    report := { command } }

def Run.finish (run : Run) (work : Work Unit) : Answer :=
  match work run with
  | .ok _ run =>
    { exit := if run.report.failed then 1 else 0
      output := run.report.text false ++ "\n"
      tree := run.store.tree }
  | .error a run => { exit := 1, output := "", tree := run.store.tree, abort := some a }

namespace FileTree

/-- What a path as it was typed leads to: an empty one leads nowhere, and one that ends with a slash
or a single dot leads to a folder. -/
def status (t : FileTree) (path : String) : Except Cause Entry :=
  if path = "" then .error .missing
  else
    match t.locate (FilePath.ofString path), (Text.split '/' path).getLast?.getD "" with
    | .error c, _ => .error c
    | .ok (_, .file _), "" | .ok (_, .file _), "." => .error .notFolder
    | .ok (_, e), _ => .ok e

def isFileAt (t : FileTree) (path : String) : Bool :=
  match t.status path with
  | .ok (.file _) => true
  | _ => false

def isFolderAt (t : FileTree) (path : String) : Bool :=
  match t.status path with
  | .ok .folder => true
  | _ => false

end FileTree

namespace Settings

def readFile (t : FileTree) (path : String) : Except Abort (Members String) :=
  match t.read (FilePath.ofString path) with
  | .error r => .error (.refused r)
  | .ok bytes =>
    match Text.Utf8.decode bytes with
    | .error e => .error (.undecodable e)
    | .ok s =>
      match Json.read (String.ofList (Text.plainBreaks s.toList)) with
      | .error e => .error (.unreadable e)
      | .ok d => ((Settings.ofDocument d).map Settings.toMembers).mapError .fault

/-- The settings of a run: the standard ones, those of a file, and those that were given. -/
def load (t : FileTree) (file : Option String) (given : Members String) : Except Abort Settings := do
  let values ←
    match file with
    | none => pure []
    | some path => readFile t path
  (Settings.ofMembers (Members.update values given)).mapError .fault

def layout (s : Settings) (home : List String) : Except Fault Layout :=
  match s.root with
  | .str root => .ok ⟨FilePath.ofString root, home⟩
  | _ => .error .kind

end Settings

end NoteSchema

namespace NoteSchema.Command

/-- Loads the documents of a corpus and reports those that cannot be read. -/
def gather (s : Settings) (l : Layout) : Work Corpus := do
  Work.guardRoot l
  let c := Corpus.load s.base l (← Work.tree)
  c.failures.forM fun (p, reason) => Work.report .fail (l.display p) reason
  return c

end NoteSchema.Command
