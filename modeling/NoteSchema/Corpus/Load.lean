import NoteSchema.Corpus.Layout
import NoteSchema.File.Tree
import NoteSchema.Text.Letter
import NoteSchema.Corpus.Basic
import NoteSchema.Json.Reader
import NoteSchema.Text.Split

namespace NoteSchema.Layout

/-- Why nothing below the root can be listed: a name in its path is too long for any file. A root that is
merely missing has nothing below it. -/
def barred? (l : Layout) (t : FileTree) : Option Refusal :=
  match t.locate l.root with
  | .error .nameTooLong => some ⟨.nameTooLong, [l.root.toString]⟩
  | _ => none

/-- What lies in a folder of the given name below any segment, at any depth, in the order of paths. -/
def listing (l : Layout) (t : FileTree) (folder : String) (keep : String → Entry → Bool) :
    List FilePath :=
  let found := (t.below l.root).filterMap fun (names, e) =>
    match names with
    | _ :: second :: _ :: _ =>
      if second = folder && keep (names.getLast?.getD "") e then some (l.root ++ ⟨.relative, names⟩)
      else none
    | _ => none
  found.mergeSort FilePath.le

def sourceSuffix : String := ".puml"

def sources (l : Layout) (t : FileTree) : List FilePath :=
  l.listing t sourceFolder fun name e =>
    e.isFile && Text.small (FilePath.suffix ⟨.relative, [name]⟩) == sourceSuffix

def schemas (l : Layout) (t : FileTree) : List FilePath :=
  l.listing t ArtifactKind.schema.folder fun name _ => Text.endsWith ".schema.json" name

def enumerations (l : Layout) (t : FileTree) : List FilePath :=
  l.listing t ArtifactKind.enumeration.folder fun name _ => Text.endsWith ".json" name

end NoteSchema.Layout

namespace NoteSchema.FileTree

/-- The text of a file, with plain line breaks, or why it has none. -/
def readText (t : FileTree) (p : FilePath) : Except String String :=
  match t.read p with
  | .error r => .error r.message
  | .ok bytes =>
    match Text.Utf8.decode bytes with
    | .error e => .error e.message
    | .ok s => .ok (String.ofList (Text.plainBreaks s.toList))

def readDocument (t : FileTree) (p : FilePath) : Except String Document :=
  match t.readText p with
  | .error reason => .error reason
  | .ok s => (Json.read s).mapError Json.ReadError.message

end NoteSchema.FileTree

namespace NoteSchema.Corpus

/-- Takes what a file holds: a document under the base that is the first with its identifier is added,
a file that cannot be read is noted, anything else is passed over. -/
def take (base : String) (t : FileTree) (c : Corpus) (p : FilePath) : Corpus :=
  match t.readDocument p with
  | .error reason => { c with failures := c.failures ++ [(p, reason)] }
  | .ok body =>
    match ofBody base body with
    | .error _ => c
    | .ok d =>
      if (c.find? d.identifier).isSome then c
      else { c with documents := c.documents ++ [{ d with source := some p }] }

/-- The corpus of the schemas and enumerations below the root of a layout. -/
def load (base : String) (l : Layout) (t : FileTree) : Corpus :=
  let paths := (l.schemas t ++ l.enumerations t).mergeSort FilePath.le
  let c := paths.foldl (take base t) { documents := [] }
  { c with documents := inOrder c.documents }

end NoteSchema.Corpus
