import NoteSchema.Reference.Resolve
import NoteSchema.Schema.OfBlock

/-! Compiling a block with one resolver for all its references, so that each target is looked for once. -/

namespace NoteSchema.Schema

/-- Compiling that hands the resolver of a block on. -/
abbrev Sharing := StateT Reference.Resolver Compiling

namespace Shared

def resolve (path : String) (kind : ArtifactKind) : Sharing (Except Reference.Failure Reference.Target) :=
  fun r => pure (r.resolve path kind)

def refShape (s : Site) (path : String) (kind : ArtifactKind) : Sharing Shape := do
  match ← resolve path kind with
  | .ok target => return .ref target.ref
  | .error e => do
    s.report .error e.message
    return .open

/-- The shape of an enumeration defined in a field, which may have to be written too. -/
def enumShape (s : Site) (d : Hint.EnumDefinition) : Sharing Shape := do
  match ← resolve d.path .enumeration with
  | .error e => do
    s.report .error e.message
    return .open
  | .ok target => do
    if s.setup.emitEnums && d.generate.getD s.setup.generateEnums then
      match target.artifact with
      | none => s.report .warning ("Cannot emit enum for non-local path '" ++ d.path ++ "'")
      | some id => do
        let emission ← emissionOf s d id
        (Noted.note (.emission emission) : Compiling Unit)
    return .ref target.ref

def plainShape (s : Site) : Decider → Sharing Shape
  | .enumFrom path => refShape s path .enumeration
  | .enumDefine d => enumShape s d
  | .ref path => refShape s path .schema
  | .type name =>
    match TypeName.of name with
    | .short type format => return .typed type (some format)
    | .primitive type => return .typed type none
    | .className name => refShape s name .schema
  | .const v => return match v.literalType? with | some type => .typed type none | none => .open
  | .nothing => return .open

mutual
def compileField (s : Site) : Hint.Field → Sharing Node
  | f@{ items, properties, .. } => do
    let shape ←
      if isPrimitive f "array" && f.items.isSome then compileItems s items
      else if isPrimitive f "object" && !f.properties.isEmpty then do
        let nodes ← compileProperties s properties
        pure (Shape.object nodes (requiredNames f.properties))
      else plainShape s (Decider.of f)
    match f.enum with
    | none => return .mk shape (facetsOf f none)
    | some values => do
      let values ← typedValues s shape.type? values
      return .mk shape (facetsOf f (some values))

def compileItems (s : Site) : Option Hint.Field → Sharing Shape
  | none => return .typed "array" none
  | some f => do
    let node ← compileField s f
    return .array node

def compileProperties (s : Site) : List (String × Hint.Field) → Sharing (List (String × Node))
  | [] => return []
  | (name, f) :: rest => do
    let node ← compileField s f
    let nodes ← compileProperties s rest
    return (name, node) :: nodes
end

def compileFields (s : Site) : List (String × Hint.Field) → Sharing (List (String × Node))
  | [] => return []
  | (name, f) :: rest => do
    let node ← compileField { s with field := name } f
    let nodes ← compileFields s rest
    return (name, node) :: nodes

def alternatives (s : Site) : List Document → Sharing (List Document)
  | [] => return []
  | .str name :: rest => do
    match ← resolve name .schema with
    | .ok target => do
      let others ← alternatives s rest
      return .obj [("$ref", .str target.ref)] :: others
    | .error e => do
      s.report .error e.message
      alternatives s rest
  | d :: rest => do
    let others ← alternatives s rest
    return d :: others

/-- The schema of a class whose fields have been compiled. -/
def ofProperties (s : Site) (b : Hint.Block) (properties : List (String × Node)) : Sharing Class := do
  let required := distinctNames (b.required ++ requiredNames b.fields)
  noteUndeclared s b required
  let oneOf ← alternatives s b.oneOf
  let anyOf ← alternatives s b.anyOf
  let allOf ← alternatives s b.allOf
  noteUnknownChoice s b b.xor
  let (oneOf, allOf) := withChoice b.xor oneOf allOf
  return {
    id := ⟨s.location.segment, s.location.subpath, b.name, .schema⟩
    title := b.name
    description := b.description
    additionalProperties := b.additionalProperties
    properties, required, oneOf, anyOf, allOf }

/-- The schema of the class that a block belongs to. -/
def ofBlock (setup : Setup) (location : Location) (b : Hint.Block) : Sharing Class := do
  let s : Site := ⟨setup, location, b.owner, ""⟩
  let properties ← compileFields s b.fields
  ofProperties s b properties

def compile (setup : Setup) (location : Location) (b : Hint.Block) : Except Fault Compiled :=
  let noted := (ofBlock setup location b).run ⟨setup.base, location, []⟩
  noted.outcome.map fun (schema, _) =>
    ⟨schema, noted.remarks.filterMap Remark.problem?, noted.remarks.filterMap Remark.emission?⟩

end Shared

end NoteSchema.Schema
