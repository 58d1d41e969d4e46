import NoteSchema.Noted
import NoteSchema.File.Tree
import NoteSchema.Json.Printer
import NoteSchema.Json.Reader

namespace NoteSchema

/-- Why nothing was written: it was refused, a check could not read the content, or the path names no
file at all. -/
inductive WriteFailure
  | storage (e : StorageError)
  | unreadable (e : Json.ReadError)
  | fault (f : Fault)

/-- What content must pass before it takes its place. -/
abbrev Check := String → Except WriteFailure Unit

namespace Check

def none : Check := fun _ => .ok ()

def contentPlace : String := "<content>"

def json : Check := fun content =>
  match Json.read content with
  | .ok _ => .ok ()
  | .error e => .error (.storage { place := contentPlace, reason := "not valid JSON: " ++ e.message })

/-- Content must be JSON that says something. -/
def nonempty : Check := fun content =>
  match Json.read content with
  | .ok d =>
    if d.truthy then .ok ()
    else .error (.storage { place := contentPlace, reason := "empty document" })
  | .error e => .error (.unreadable e)

end Check

/-- A file tree and the paths written to it so far. Content is staged in a file of a temporary name;
`stamps` are the parts that tell such names apart, in the order in which they are tried. -/
structure Store where
  tree : FileTree
  stamps : List String
  written : List FilePath := []

namespace Store

def temporaryName (p : FilePath) (stamp : String) : String :=
  "." ++ p.name ++ "." ++ stamp ++ ".tmp"

def stage (t : FileTree) (folder p : FilePath) (content : Text.Bytes) :
    List String → Except Refusal (FilePath × FileTree)
  | [] => .error ⟨.noFreeName, []⟩
  | stamp :: stamps =>
    let temporary : FilePath := ⟨folder.anchor, folder.names ++ [temporaryName p stamp]⟩
    match t.create temporary content with
    | .ok t => .ok (temporary, t)
    | .error .taken => stage t folder p content stamps
    | .error c => .error ⟨c, [temporary.toString]⟩

def refuse (p : FilePath) (r : Refusal) : WriteFailure := .storage (.ofRefusal p.toString r)

/-- Writes content to a path: either it takes the place of what was there, or every file stays as it
was. Folders made on the way stay. -/
def write (s : Store) (check : Check) (p : FilePath) (content : String) :
    Except WriteFailure Unit × Store :=
  if p.parent.hasNul then (.error (.fault .value), s)
  else
    match s.tree.makeFolders p.parent with
    | (.error r, t) => (.error (refuse p r), { s with tree := t })
    | (.ok (), t) =>
      if p.hasNul then (.error (.fault .value), { s with tree := t })
      else
        match stage t (p.parent.inFull t.home) p (Text.Utf8.encode content) s.stamps with
        | .error r => (.error (refuse p r), { s with tree := t })
        | .ok (temporary, staged) =>
          match check content with
          | .error e => (.error e, { s with tree := staged.remove temporary })
          | .ok () =>
            match staged.move temporary p with
            | .error c =>
              (.error (refuse p ⟨c, [temporary.toString, p.toString]⟩),
                { s with tree := staged.remove temporary })
            | .ok t => (.ok (), { s with tree := t, written := s.written ++ [p] })

def writeDocument (s : Store) (p : FilePath) (d : Document) : Except WriteFailure Unit × Store :=
  s.write Check.json p (Json.text d)

end Store

end NoteSchema
