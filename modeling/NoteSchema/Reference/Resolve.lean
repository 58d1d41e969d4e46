import NoteSchema.Text.Split
import NoteSchema.Artifact.Id
import NoteSchema.Reference.Kind
import NoteSchema.Text.Blank

namespace NoteSchema.Reference

/-- One part of a relative path taken on top of the parts so far, the last one first; there is none
when it climbs above the start. -/
def climb? (stack : List String) (part : String) : Option (List String) :=
  if part = "" ∨ part = "." then some stack
  else if part = ".." then
    match stack with
    | [] => none
    | _ :: rest => some rest
  else some (part :: stack)

def climbAll? : List String → List String → Option (List String)
  | stack, [] => some stack
  | stack, part :: parts =>
    match climb? stack part with
    | some stack => climbAll? stack parts
    | none => none

structure Escape where
  path : String
deriving DecidableEq, Repr

def Escape.message (e : Escape) : String := "Path escapes its root: " ++ e.path

/-- The parts of a relative path without empty parts, `.` and `..`. -/
def normalize (path : String) : Except Escape (List String) :=
  match climbAll? [] (Text.split '/' path) with
  | some stack => .ok stack.reverse
  | none => .error ⟨path⟩

end NoteSchema.Reference

namespace NoteSchema

/-- Where a document lives: its segment and the folders below it. -/
structure Location where
  segment : String
  subpath : List String
deriving DecidableEq, Repr

namespace Reference

structure Failure where
  path : String
  reason : String
deriving DecidableEq, Repr

def Failure.message (e : Failure) : String :=
  "Cannot resolve reference '" ++ e.path ++ "': " ++ e.reason

/-- A resolved path: the reference to write, and the artifact that it names unless it is local to the
document or external. -/
structure Target where
  ref : String
  artifact : Option ArtifactId
  kind : PathKind
  isExternal : Bool
deriving DecidableEq, Repr

def isSegmentChar (c : Char) : Bool := c.isAlphanum || c == '_' || c == '.' || c == '-'

/-- A part of letters, digits, `_`, `.` and `-`; one line feed may end it. -/
def isSegment (part : String) : Bool :=
  let cs := part.toList
  let body := if cs.getLast? = some '\n' then cs.dropLast else cs
  !body.isEmpty && body.all isSegmentChar

def artifactOf (path : String) (kind : ArtifactKind) (parts : List String) :
    Except Failure ArtifactId :=
  match ArtifactId.ofParts kind parts with
  | .error _ => .error ⟨path, "needs at least a segment and a name"⟩
  | .ok artifact =>
    match parts.find? fun part => !isSegment part with
    | some part => .error ⟨path, "invalid path segment '" ++ part ++ "'"⟩
    | none => .ok artifact

def localTarget (base : String) (kind : PathKind) (fragment : String) (artifact : ArtifactId) : Target :=
  let ref := artifact.identifier base
  ⟨if fragment = "" then ref else ref ++ "#" ++ fragment, some artifact, kind, false⟩

/-- The stem and the kind of an identifier below the base; the suffix decides the kind if there is
one. -/
def stemOf (kind : ArtifactKind) (rest : String) : String × ArtifactKind :=
  match Text.before? ("." ++ ArtifactKind.schema.suffix) rest with
  | some stem => (stem, .schema)
  | none =>
    match Text.before? ("." ++ ArtifactKind.enumeration.suffix) rest with
    | some stem => (stem, .enumeration)
    | none => (rest, kind)

def resolveUrl (base path : String) (kind : ArtifactKind) : Except Failure Target :=
  let (document, fragment) := cut path
  match Text.after? base document with
  | none => .ok ⟨path, none, .absoluteUrl, true⟩
  | some rest =>
    let (stem, kind) := stemOf kind rest
    (artifactOf path kind ((Text.split '/' stem).filter (· ≠ ""))).map
      (localTarget base .absoluteUrl fragment)

/-- The parts that a path means in a document at a location, by the form of the path. -/
def partsOf (here : Location) (form : PathKind) (path : String) : Except Failure (List String) :=
  match form with
  | .documentRelative =>
    match normalize (Text.join "/" here.subpath ++ "/" ++ path) with
    | .ok parts => .ok (here.segment :: parts)
    | .error _ => .error ⟨path, "climbs above segment '" ++ here.segment ++ "'"⟩
  | .bare => .ok (here.segment :: (here.subpath ++ Text.split '/' path))
  | _ => .ok (Text.split '/' (String.ofList (path.toList.drop 1)))

def resolveTrimmed (base : String) (here : Location) (path : String) (kind : ArtifactKind) :
    Except Failure Target :=
  match PathKind.ofPath path with
  | .fragment => .ok ⟨path, none, .fragment, false⟩
  | .absoluteUrl => resolveUrl base path kind
  | form => do
    let parts ← partsOf here form path
    (artifactOf path kind parts).map (localTarget base form "")

/-- Resolves the path of a hint in a document at a location. -/
def resolve (base : String) (here : Location) (path : String) (kind : ArtifactKind) :
    Except Failure Target :=
  let path := Text.trim path
  if path = "" then .error ⟨path, "empty path"⟩ else resolveTrimmed base here path kind

end Reference

end NoteSchema

namespace NoteSchema.Reference

/-- Resolves the paths in one document at a location; `known` are the targets found so far. -/
structure Resolver where
  base : String
  here : Location
  known : List ((String × ArtifactKind) × Target) := []

namespace Resolver

/-- Resolves the path of a hint. A target is looked for once; a path that names none is tried anew each time. -/
def resolve (r : Resolver) (path : String) (kind : ArtifactKind) : Except Failure Target × Resolver :=
  let path := Text.trim path
  if path = "" then (.error ⟨path, "empty path"⟩, r)
  else
    match r.known.lookup (path, kind) with
    | some target => (.ok target, r)
    | none =>
      match resolveTrimmed r.base r.here path kind with
      | .ok target => (.ok target, { r with known := ((path, kind), target) :: r.known })
      | .error e => (.error e, r)

def resolveAll (r : Resolver) : List (String × ArtifactKind) → List (Except Failure Target) × Resolver
  | [] => ([], r)
  | (path, kind) :: rest =>
    let (answer, r) := r.resolve path kind
    let (answers, r) := resolveAll r rest
    (answer :: answers, r)

end Resolver

end NoteSchema.Reference
