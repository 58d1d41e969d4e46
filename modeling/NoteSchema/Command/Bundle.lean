import NoteSchema.Command.Basic
import NoteSchema.Corpus.Bundle
import NoteSchema.Corpus.Inline

namespace NoteSchema.Command

/-- Whether a bundle keeps references, as pointers, or replaces them. -/
inductive Mode
  | bundle
  | dereference
deriving DecidableEq, Repr

namespace Mode

def text : Mode → String
  | bundle => "bundle"
  | dereference => "deref"

def ofText? (s : String) : Option Mode :=
  if s = bundle.text then some .bundle
  else if s = dereference.text then some .dereference
  else none

end Mode

namespace Bundle

def document (s : Settings) (c : Corpus) (mode : Mode) (top : String) :
    Except Corpus.BundleFailure Document :=
  match mode with
  | .bundle => c.bundle s.dialect top
  | .dereference => c.dereference top

/-- Writes the documents of a corpus as one. -/
def work (s : Settings) (l : Layout) (mode : Mode) (top : String) (out : FilePath) : Work Unit := do
  let c ← gather s l
  match document s c mode top with
  | .error (.fault f) => Work.abort (.fault f)
  | .error .exhausted => Work.abort .exhausted
  | .error e => Work.report .fail out.toString (e.message?.getD "")
  | .ok d =>
    match ← Work.write Check.json out (Json.sortedText d) with
    | some e => Work.report .fail out.toString e.message
    | none =>
      Work.report .wrote out.toString
        (mode.text ++ " of " ++ Decimal.natText c.documents.length ++ " documents")

def run (s : Settings) (mode : Mode) (top : String) (out : FilePath) (t : FileTree)
    (stamps : List String) : Answer :=
  let start := Run.start "bundle" false t stamps
  match s.layout t.home with
  | .error f => start.finish (Work.abort (.fault f))
  | .ok l => start.finish (work s l mode top out)

end Bundle

end NoteSchema.Command
