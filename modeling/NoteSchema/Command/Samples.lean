import NoteSchema.Command.Basic
import NoteSchema.Sample.Keyword

namespace NoteSchema.Command.Samples

/-- How a document is called in the report. -/
def unitOf (l : Layout) (d : Loaded) : String :=
  match d.source with
  | some p => l.display p
  | none => d.identifier

/-- Writes a sample of a schema. -/
def schema (s : Settings) (l : Layout) (strict : Bool) (c : Corpus) (d : Loaded) : Work Unit := do
  let unit := unitOf l d
  match Sample.synthesize c s.maxDepth d.document with
  | .error (.fault f) => Work.abort (.fault f)
  | .error e => Work.report .fail unit ("sample error: " ++ e.message?.getD "")
  | .ok none =>
    Work.report (if strict then .fail else .skip) unit "no sample (pattern or depth limit)"
  | .ok (some v) =>
    let destination := l.samplePath d.id
    match ← Work.write Check.json destination (Json.text v) with
    | some e => Work.report .fail unit ("write error: " ++ e.reason)
    | none => Work.report .wrote (l.display destination)

/-- Writes a sample of every schema of a corpus. -/
def work (s : Settings) (l : Layout) (strict : Bool) : Work Unit := do
  let c ← gather s l
  (c.documents.filter (·.id.kind == .schema)).forM (schema s l strict c)

def run (s : Settings) (strict : Bool) (t : FileTree) (stamps : List String) : Answer :=
  let start := Run.start "samples" false t stamps
  match s.layout t.home with
  | .error f => start.finish (Work.abort (.fault f))
  | .ok l => start.finish (work s l strict)

end NoteSchema.Command.Samples
