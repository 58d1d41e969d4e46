import NoteSchema.Artifact.Id
import NoteSchema.Noted
import NoteSchema.Json.Basic
import NoteSchema.Reference.Kind
import NoteSchema.Text.Quoted

namespace NoteSchema

/-- A document of a corpus: its identifier, the address that this names, its members, and the file that
it came from. -/
structure Loaded where
  identifier : String
  id : ArtifactId
  body : Members String
  source : Option FilePath := none

def Loaded.document (d : Loaded) : Document := .obj d.body

/-- The title of a document, empty unless it is a text. -/
def Loaded.title (d : Loaded) : String :=
  match Members.find? "title" d.body with
  | some (.str s) => s
  | _ => ""

/-- The documents of a corpus in the order of their identifiers, and the files that could not be
read. -/
structure Corpus where
  documents : List Loaded
  failures : List (FilePath × String) := []

namespace Corpus

/-- Adds a document; one with the same identifier gives way to it. -/
def put (d : Loaded) : List Loaded → List Loaded
  | [] => [d]
  | e :: rest => if e.identifier = d.identifier then d :: rest else e :: put d rest

def inOrder (ds : List Loaded) : List Loaded :=
  ds.mergeSort fun a b => decide (a.identifier ≤ b.identifier)

/-- Why a body is no document of a corpus: it is no object with a text as its identifier, or the
identifier names nothing under the base. -/
inductive BodyFailure
  | fault (f : Fault)
  | foreign (identifier : Option String) (base : String)
deriving DecidableEq, Repr

def BodyFailure.message? : BodyFailure → Option String
  | .fault _ => none
  | .foreign identifier base =>
    some ("$id " ++ (identifier.map Text.literal).getD "None" ++ " is not under " ++ base)

/-- A document from a body that carries its identifier. -/
def ofBody (base : String) : Document → Except BodyFailure Loaded
  | .obj body =>
    match Members.find? "$id" body with
    | none => .error (.foreign none base)
    | some (.str identifier) =>
      match ArtifactId.ofIdentifier? base identifier with
      | some id => .ok { identifier, id, body }
      | none => .error (.foreign (some identifier) base)
    | some _ => .error (.fault .operation)
  | _ => .error (.fault .operation)

def addBodies (base : String) : List Loaded → List Document → Except BodyFailure (List Loaded)
  | ds, [] => .ok ds
  | ds, body :: rest =>
    match ofBody base body with
    | .ok d => addBodies base (put d ds) rest
    | .error e => .error e

/-- The corpus of bodies that carry their identifiers. -/
def ofBodies (base : String) (bodies : List Document) : Except BodyFailure Corpus :=
  (addBodies base [] bodies).map fun ds => { documents := inOrder ds }

def find? (c : Corpus) (identifier : String) : Option Loaded :=
  c.documents.find? fun d => d.identifier == identifier

/-- The document and the fragment that a reference addresses; one without a document part stays in the
current document. -/
def resolve (c : Corpus) (current : Option Loaded) (ref : String) : Option (Loaded × String) :=
  let (document, fragment) := Reference.cut ref
  if document = "" then current.map fun d => (d, fragment)
  else (c.find? document).map fun d => (d, fragment)

/-- The document with a title, else the one of a name, else the first. -/
def top? (c : Corpus) (name : String) : Option Loaded :=
  match c.documents.find? fun d => d.title == name with
  | some d => some d
  | none =>
    match c.documents.find? fun d => d.id.name == name with
    | some d => some d
    | none => c.documents.head?

/-- Why there is no bundle: the corpus is empty, the top document is no object once its references are
replaced, or its documents do not fit together. -/
inductive BundleFailure
  | empty
  | notObject (identifier : String)
  | fault (f : Fault)
  | exhausted
deriving DecidableEq, Repr

def BundleFailure.message? : BundleFailure → Option String
  | .empty => some "No schema or enum documents loaded"
  | .notObject identifier => some ("Top document " ++ identifier ++ " is not an object")
  | .fault _ => none
  | .exhausted => none

def top (c : Corpus) (name : String) : Except BundleFailure Loaded :=
  match c.top? name with
  | some d => .ok d
  | none => .error .empty

end Corpus

end NoteSchema
