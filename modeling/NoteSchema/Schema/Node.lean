import NoteSchema.Artifact.Id
import NoteSchema.Hint.Block

namespace NoteSchema

namespace Hint.Value

/-- The literal that a value stands for: a quoted text without its quotes, the bare word `null` as
null. -/
def literal? : Value → Except Fault Document
  | .text s => .ok (if Text.isQuoted s then .str (Text.stripQuotes s)
      else if s = "null" then .null else .str s)
  | .mapping (_ :: _) => .error .kind
  | v => .ok v.toDocument

/-- The type of the literal that a value stands for. -/
def literalType? : Value → Option String
  | .text s => if !Text.isQuoted s ∧ s = "null" then some "null" else some "string"
  | .flag _ => some "boolean"
  | .number _ => some "number"
  | .list _ => none
  | .mapping _ => none

/-- A value of an enumeration; a nested mapping with entries cannot be written. -/
def written? : Value → Except Fault Document
  | .mapping (_ :: _) => .error .kind
  | v => .ok v.toDocument

end Hint.Value

namespace Schema

/-- What a schema says besides its shape. -/
structure Facets where
  description : Option String
  enum : Option (List Hint.Value)
  const : Option Hint.Value
  format : Option String
  pattern : Option String
  minimum : Option Number
  maximum : Option Number
  minLength : Option Int
  maxLength : Option Int
  minItems : Option Int
  maxItems : Option Int
  default : Option Hint.Value

mutual
/-- What decides the kind of value: nothing, a reference, or a type with what belongs to it. -/
inductive Shape
  | open
  | ref (target : String)
  | typed (type : String) (format : Option String)
  | array (items : Node)
  | object (properties : List (String × Node)) (required : List String)

/-- The schema of a field. -/
inductive Node
  | mk (shape : Shape) (facets : Facets)
end

namespace Node

def shape : Node → Shape
  | mk s _ => s

def facets : Node → Facets
  | mk _ f => f

end Node

/-- The type that a shape declares. -/
def Shape.type? : Shape → Option String
  | .open => none
  | .ref _ => none
  | .typed type _ => some type
  | .array _ => some "array"
  | .object _ _ => some "object"

/-- A text member, unless it is missing or empty. -/
def textMember (name : String) : Option String → Members String
  | none | some "" => []
  | some s => [(name, .str s)]

def numberMember (name : String) (n : Option Number) : Members String :=
  match n with
  | none => []
  | some n => [(name, .number n)]

def namesOf (names : List String) : Document := .arr (names.map .str)

def writtenAll : List Hint.Value → Except Fault (List Document)
  | [] => .ok []
  | v :: vs => do
    let d ← v.written?
    let ds ← writtenAll vs
    return d :: ds

namespace Facets

def enumMember (f : Facets) : Except Fault (Members String) :=
  match f.enum with
  | none => .ok []
  | some values => (writtenAll values).map fun ds => [("enum", .arr ds)]

def literalMember (name : String) : Option Hint.Value → Except Fault (Members String)
  | none => .ok []
  | some v => v.literal?.map fun d => [(name, d)]

def bounds (f : Facets) : Members String :=
  numberMember "minimum" f.minimum ++ numberMember "maximum" f.maximum ++
    numberMember "minLength" (f.minLength.map .int) ++
    numberMember "maxLength" (f.maxLength.map .int) ++
    numberMember "minItems" (f.minItems.map .int) ++ numberMember "maxItems" (f.maxItems.map .int)

/-- The members around those of a shape; a format that the shape has set is replaced in its place. -/
def around (f : Facets) (shape : Members String) : Except Fault (Members String) := do
  let enum ← f.enumMember
  let const ← literalMember "const" f.const
  let default ← literalMember "default" f.default
  let upTo := textMember "description" f.description ++ shape ++ enum ++ const
  let upTo :=
    match f.format with
    | none | some "" => upTo
    | some s => Members.set "format" (.str s) upTo
  return upTo ++ textMember "pattern" f.pattern ++ f.bounds ++ default

end Facets

def requiredMember (names : List String) : Members String :=
  if names.isEmpty then [] else [("required", namesOf names)]

mutual
/-- The document of a node; nested mappings kept as values cannot be written. -/
def Node.toDocument : Node → Except Fault Document
  | .mk shape facets => do
    let members ← shape.toMembers
    return .obj (← facets.around members)

def Shape.toMembers : Shape → Except Fault (Members String)
  | .open => .ok []
  | .ref target => .ok [("$ref", .str target)]
  | .typed type format =>
    .ok (("type", .str type) :: (match format with | some s => [("format", .str s)] | none => []))
  | .array items => do
    let d ← items.toDocument
    return [("type", .str "array"), ("items", d)]
  | .object properties required => do
    let ds ← propertyMembers properties
    return ("type", .str "object") :: ("properties", .obj ds) :: requiredMember required

def propertyMembers : List (String × Node) → Except Fault (Members String)
  | [] => .ok []
  | (name, node) :: rest => do
    let d ← node.toDocument
    let ds ← propertyMembers rest
    return (name, d) :: ds
end

/-- The schema of a class. -/
structure Class where
  id : ArtifactId
  title : String
  description : Option String
  additionalProperties : Option Bool
  properties : List (String × Node)
  required : List String
  oneOf : List Document
  anyOf : List Document
  allOf : List Document

namespace Class

def listMember (name : String) (items : List Document) : Members String :=
  if items.isEmpty then [] else [(name, .arr items)]

def toDocument (c : Class) (base : String) (dialect : Document) : Except Fault Document := do
  let properties ← propertyMembers c.properties
  return .obj ([("$schema", dialect), ("$id", .str (c.id.identifier base)),
      ("title", .str c.title), ("type", .str "object")] ++
    textMember "description" c.description ++
    (match c.additionalProperties with
      | some b => [("additionalProperties", .bool b)]
      | none => []) ++
    ("properties", .obj properties) :: requiredMember c.required ++
    listMember "oneOf" c.oneOf ++ listMember "anyOf" c.anyOf ++ listMember "allOf" c.allOf)

end Class

end Schema

end NoteSchema
