import NoteSchema.File.Path

namespace NoteSchema

inductive ArtifactKind
  | schema
  | enumeration
deriving DecidableEq, Repr

namespace ArtifactKind

def suffix : ArtifactKind → String
  | schema => "schema.json"
  | enumeration => "json"

/-- The folder below a segment that holds the artifacts of a kind. -/
def folder : ArtifactKind → String
  | schema => "schemas"
  | enumeration => "enums"

end ArtifactKind

/-- The address of one artifact. -/
structure ArtifactId where
  segment : String
  subpath : List String
  name : String
  kind : ArtifactKind
deriving DecidableEq, Repr

namespace ArtifactId

/-- The segment, the folders and the name. -/
def namespaceParts (c : ArtifactId) : List String := c.segment :: (c.subpath ++ [c.name])

def toString (c : ArtifactId) : String :=
  Text.join "/" c.namespaceParts ++ "." ++ c.kind.suffix

/-- The identifier of an artifact under a base. -/
def identifier (c : ArtifactId) (base : String) : String := base ++ c.toString

def fileName (c : ArtifactId) : String := c.name ++ "." ++ c.kind.suffix

/-- Where an artifact is stored below a root. -/
def storagePath (c : ArtifactId) (root : FilePath) : FilePath :=
  root ++ FilePath.ofStrings (c.segment :: c.kind.folder :: (c.subpath ++ [c.fileName]))

def withKind (c : ArtifactId) (kind : ArtifactKind) : ArtifactId := { c with kind }

/-- A list that has no room for both a segment and a name. -/
structure TooFewParts where
  parts : List String
deriving DecidableEq, Repr

def TooFewParts.message (e : TooFewParts) : String :=
  "Need at least a segment and a name: " ++ Text.join "/" e.parts

def ofParts (kind : ArtifactKind) : List String → Except TooFewParts ArtifactId
  | segment :: second :: rest =>
    let more := second :: rest
    .ok ⟨segment, more.dropLast, more.getLast?.getD "", kind⟩
  | parts => .error ⟨parts⟩

/-- The address of a kind that a text below the base names. -/
def ofRest? (kind : ArtifactKind) (rest : String) : Option (Option ArtifactId) :=
  (Text.before? ("." ++ kind.suffix) rest).map fun stem =>
    (ofParts kind ((Text.split '/' stem).filter (· ≠ ""))).toOption

/-- The address that an identifier under a base names. -/
def ofIdentifier? (base identifier : String) : Option ArtifactId := do
  let rest ← Text.after? base identifier
  match ofRest? .schema rest with
  | some found => found
  | none => (ofRest? .enumeration rest).getD none

end ArtifactId

end NoteSchema
