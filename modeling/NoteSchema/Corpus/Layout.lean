import NoteSchema.Artifact.Id
import NoteSchema.Reference.Resolve

namespace NoteSchema

/-- Where the sources and artifacts of a corpus lie: below a root, and for paths that are not anchored
below a working directory. -/
structure Layout where
  root : FilePath
  cwd : List String

namespace Layout

def sourceFolder : String := "puml"

def samplesFolder : String := "samples"

def artifactPath (l : Layout) (c : ArtifactId) : FilePath := c.storagePath l.root

def samplePath (l : Layout) (c : ArtifactId) : FilePath :=
  l.root ++ FilePath.ofStrings
    (c.segment :: samplesFolder :: (c.subpath ++ [c.name ++ ".sample.json"]))

def emptyTarget : String := "empty targetPath"

/-- The destination that a path from the root names, without its suffix. -/
def enumTarget? (l : Layout) (target : String) : Option FilePath :=
  let parts := (Text.split '/' target).filter (· ≠ "")
  parts.getLast?.map fun name =>
    l.root ++ FilePath.ofStrings (parts.dropLast ++ [name ++ ".json"])

/-- A path as it is shown: from the root where it lies below it. -/
def display (l : Layout) (p : FilePath) : String :=
  match FilePath.relativeTo? l.cwd l.root p with
  | some [] => "."
  | some names => Text.join "/" names
  | none => p.toString

/-- Why a source has no location. -/
inductive Misplaced
  | outside (source : FilePath) (root : FilePath)
  | unexpected (source : FilePath)
deriving DecidableEq, Repr

def Misplaced.message : Misplaced → String
  | .outside source root => source.toString ++ ": not below corpus root " ++ root.toString
  | .unexpected source =>
    source.toString ++ ": expected <segment>/" ++ sourceFolder ++ "/.../<file>.puml"

/-- The location of a source: its segment and the folders below the source folder. -/
def locationOf (l : Layout) (source : FilePath) : Except Misplaced Location :=
  match FilePath.relativeTo? l.cwd l.root source with
  | none => .error (.outside source l.root)
  | some (segment :: folder :: more) =>
    if folder = sourceFolder ∧ more ≠ [] then .ok ⟨segment, more.dropLast⟩
    else .error (.unexpected source)
  | some _ => .error (.unexpected source)

end Layout

end NoteSchema
