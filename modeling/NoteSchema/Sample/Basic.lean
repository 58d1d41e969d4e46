import NoteSchema.Corpus.Basic
import NoteSchema.Json.Pointer
import NoteSchema.Sample.Value

namespace NoteSchema.Sample

/-- What comes of sampling a schema: an instance; nothing, because a pattern or the ceiling of depth
stands in the way; or nothing usable, because the schema has no shape. -/
inductive Outcome
  | value (v : Instance)
  | blocked
  | shapeless

inductive Failure
  | unresolved (ref : String)
  | fault (f : Fault)
deriving DecidableEq, Repr

def Failure.message? : Failure → Option String
  | .unresolved ref => some ("Unresolved $ref: " ++ ref)
  | .fault _ => none

abbrev Result := Except Failure Outcome

def document (d : Document) : Result := .ok (.value (.ofDocument d))

def fault (f : Fault) : Result := .error (.fault f)

/-- What a reference in a document addresses, and the document that this is in. -/
def resolve (c : Corpus) (here : Document) (ref : String) : Except Failure (Document × Document) :=
  let (base, fragment) := Reference.cut ref
  let home :=
    if base = "" then some here else (c.find? base).map Loaded.document
  match home with
  | none => .error (.unresolved ref)
  | some d =>
    match Json.Pointer.resolve d fragment with
    | .ok v => .ok (v, d)
    | .error (.nowhere _) => .error (.unresolved ref)
    | .error (.badIndex _) => .error (.fault .value)

/-- The values that a value consists of, one after another. -/
def parts : Document → Except Failure (List Document)
  | .arr items => .ok items
  | .str s => .ok (s.toList.map fun c => .str (String.singleton c))
  | .obj members => .ok (members.map fun m => .str m.1)
  | _ => .error (.fault .kind)

/-- The first part of a value that is not empty. -/
def first : Document → Except Failure Document
  | .arr (v :: _) => .ok v
  | .str s =>
    match s.toList with
    | c :: _ => .ok (.str (String.singleton c))
    | [] => .error (.fault .kind)
  | .obj _ => .error (.fault .key)
  | _ => .error (.fault .kind)

/-- The type that a schema declares, the first one of a list, or the one that its keywords imply. -/
def typeOf (schema : Members String) : Document :=
  let declared :=
    match schema.find? "type" with
    | some (.arr (t :: _)) => t
    | some d => d
    | none => .null
  match declared with
  | .null =>
    if schema.has "properties" || schema.has "required" then .str "object"
    else if schema.has "items" then .str "array"
    else .null
  | d => d

/-- What stands in for a part without a shape. -/
def standIn : Document → Instance
  | .obj schema =>
    match Members.find? "type" schema with
    | some (.str "string") => .str ""
    | _ => .int 0
  | _ => .int 0

/-- The instance of a part of an instance. -/
def filled (schema : Document) : Outcome → Option Instance
  | .value v => some v
  | .shapeless => some (standIn schema)
  | .blocked => none

end NoteSchema.Sample
