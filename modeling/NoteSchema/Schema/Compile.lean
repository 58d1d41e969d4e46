import NoteSchema.Artifact.Enumeration
import NoteSchema.Corpus.Layout
import NoteSchema.Noted
import NoteSchema.Schema.Node
import NoteSchema.Settings

namespace NoteSchema.Schema

/-- Something that compiling leaves beside the schema. -/
inductive Remark
  | problem (d : Diagnostic)
  | emission (e : Emission)

abbrev Compiling := Noted Remark

/-- What compiling depends on besides the hints: the base of identifiers, whether enumerations are
emitted, whether they are where a hint does not say, and the layout of the corpus. -/
structure Setup where
  base : String
  emitEnums : Bool
  generateEnums : Bool
  layout : Layout

def Setup.ofSettings (s : Settings) (layout : Layout) : Setup :=
  ⟨s.base, s.emitEnums.truthy, s.generateEnums.truthy, layout⟩

/-- Where a hint stands: in a document at a location, in the block of an owner, in one of its
fields. -/
structure Site where
  setup : Setup
  location : Location
  owner : String
  field : String

namespace Site

def report (s : Site) (severity : Severity) (message : String) : Compiling Unit :=
  Noted.note (.problem ⟨severity, message, none, s.owner, s.field⟩)

def resolve (s : Site) (path : String) (kind : ArtifactKind) :
    Except Reference.Failure Reference.Target :=
  Reference.resolve s.setup.base s.location path kind

end Site

/-- Values of a declared number type are numbers or texts of numbers. -/
def numberOf? (integer : Bool) : Hint.Value → Except Fault (Option Number)
  | .number n => .ok (some n)
  | .text s =>
    match Number.numeral? s.toList with
    | some (negative, whole, fraction) =>
      if integer && fraction.isSome then .ok none
      else ((Number.ofNumeral negative whole fraction).map some).mapError fun _ => .value
    | none => .ok none
  | _ => .ok none

def numbersOf (s : Site) (type : String) : List Hint.Value → Compiling (List Hint.Value)
  | [] => return []
  | v :: vs => do
    match ← Noted.lift (numberOf? (type == "integer") v) with
    | some n => do
      let rest ← numbersOf s type vs
      return .number n :: rest
    | none => do
      s.report .error ("Enum value '" ++ v.display ++ "' is not of type " ++ type)
      numbersOf s type vs

/-- The values of an enumeration under a declared type; values that are no numbers where numbers are
asked for are reported and left out. -/
def typedValues (s : Site) (type : Option String) (values : List Hint.Value) :
    Compiling (List Hint.Value) :=
  match type with
  | some "integer" => numbersOf s "integer" values
  | some "number" => numbersOf s "number" values
  | _ => return values

/-- The documents of scalar values; nested mappings cannot be told apart as values. -/
def scalars : List Hint.Value → Except Fault (List Document)
  | [] => .ok []
  | .mapping _ :: _ => .error .kind
  | v :: vs => do
    let ds ← scalars vs
    return v.toDocument :: ds

/-- The destination of an enumeration: the one its definition asks for, else the usual place. -/
def destinationOf (s : Site) (d : Hint.EnumDefinition) (id : ArtifactId) : Compiling FilePath :=
  let usual := s.setup.layout.artifactPath id
  match d.targetPath with
  | none | some "" => return usual
  | some target =>
    match s.setup.layout.enumTarget? target with
    | some path => return path
    | none => do
      s.report .warning (Layout.emptyTarget ++ ", using the default enum location")
      return usual

/-- The request to write an enumeration. -/
def emissionOf (s : Site) (d : Hint.EnumDefinition) (id : ArtifactId) : Compiling Emission := do
  let destination ← destinationOf s d id
  let values ← typedValues s (some d.type.text) d.values
  let values ← Noted.lift (scalars values)
  let title := match d.title with | none | some "" => id.name | some t => t
  return {
    destination
    enumeration := {
      id, title
      valueType := d.type.text
      values := Json.distinct values
      names := d.names
      descriptions := d.descriptions
      description := d.description
      sourcePath := d.sourcePath } }

/-- The shape of a resolved reference; one that does not resolve is reported and leaves no shape. -/
def refShape (s : Site) (path : String) (kind : ArtifactKind) : Compiling Shape :=
  match s.resolve path kind with
  | .ok target => return .ref target.ref
  | .error e => do
    s.report .error e.message
    return .open

/-- The shape of an enumeration defined in a field, which may have to be written too. -/
def enumShape (s : Site) (d : Hint.EnumDefinition) : Compiling Shape :=
  match s.resolve d.path .enumeration with
  | .error e => do
    s.report .error e.message
    return .open
  | .ok target => do
    if s.setup.emitEnums && d.generate.getD s.setup.generateEnums then
      match target.artifact with
      | none => s.report .warning ("Cannot emit enum for non-local path '" ++ d.path ++ "'")
      | some id => do
        let emission ← emissionOf s d id
        Noted.note (.emission emission)
    return .ref target.ref

def primitives : List String :=
  ["string", "number", "integer", "boolean", "object", "array", "null"]

/-- The type and format that a type name in small letters is short for. -/
def alias? : String → Option (String × String)
  | "datetime" => some ("string", "date-time")
  | "date" => some ("string", "date")
  | _ => none

/-- A text that is there and not empty. -/
def given? : Option String → Option String
  | none | some "" => none
  | some s => some s

/-- The directive that decides the shape of a field: the first one present in this order. -/
inductive Decider
  | enumFrom (path : String)
  | enumDefine (d : Hint.EnumDefinition)
  | ref (path : String)
  | type (name : String)
  | const (v : Hint.Value)
  | nothing

def Decider.of (f : Hint.Field) : Decider :=
  match given? f.enumFrom, f.enumDefine, given? f.ref, given? f.type, f.const with
  | some path, _, _, _, _ => .enumFrom path
  | none, some d, _, _, _ => .enumDefine d
  | none, none, some path, _, _ => .ref path
  | none, none, none, some name, _ => .type name
  | none, none, none, none, some v => .const v
  | none, none, none, none, none => .nothing

/-- What a type name means: a primitive type, maybe with a format, or the name of a class. -/
inductive TypeName
  | short (type format : String)
  | primitive (name : String)
  | className (name : String)

def TypeName.of (name : String) : TypeName :=
  let name := Text.trim name
  match alias? (Text.small name) with
  | some (type, format) => .short type format
  | none => if primitives.contains name then .primitive name else .className name

def facetsOf (f : Hint.Field) (enum : Option (List Hint.Value)) : Facets where
  description := f.description
  enum := enum
  const := f.const
  format := f.format
  pattern := f.pattern
  minimum := f.minimum
  maximum := f.maximum
  minLength := f.minLength
  maxLength := f.maxLength
  minItems := f.minItems
  maxItems := f.maxItems
  default := f.default

/-- The shape of a field that holds no field of its own. -/
def plainShape (s : Site) : Decider → Compiling Shape
  | .enumFrom path => refShape s path .enumeration
  | .enumDefine d => enumShape s d
  | .ref path => refShape s path .schema
  | .type name =>
    match TypeName.of name with
    | .short type format => return .typed type (some format)
    | .primitive type => return .typed type none
    | .className name => refShape s name .schema
  | .const v => return match v.literalType? with | some type => .typed type none | none => .open
  | .nothing => return .open

/-- Whether a field is decided to be of the given primitive type. -/
def isPrimitive (f : Hint.Field) (type : String) : Bool :=
  match Decider.of f with
  | .type name =>
    match TypeName.of name with
    | .primitive t => t == type
    | _ => false
  | _ => false

def requiredNames (properties : List (String × Hint.Field)) : List String :=
  (properties.filter (·.2.required)).map (·.1)

mutual
/-- The schema of a field: its shape, then its values under the type of the shape. -/
def compileField (s : Site) : Hint.Field → Compiling Node
  | f@{ items, properties, .. } => do
    let shape ←
      if isPrimitive f "array" && f.items.isSome then compileItems s items
      else if isPrimitive f "object" && !f.properties.isEmpty then do
        let nodes ← compileProperties s properties
        pure (Shape.object nodes (requiredNames f.properties))
      else plainShape s (Decider.of f)
    match f.enum with
    | none => return .mk shape (facetsOf f none)
    | some values => do
      let values ← typedValues s shape.type? values
      return .mk shape (facetsOf f (some values))

def compileItems (s : Site) : Option Hint.Field → Compiling Shape
  | none => return .typed "array" none
  | some f => do
    let node ← compileField s f
    return .array node

def compileProperties (s : Site) : List (String × Hint.Field) → Compiling (List (String × Node))
  | [] => return []
  | (name, f) :: rest => do
    let node ← compileField s f
    let nodes ← compileProperties s rest
    return (name, node) :: nodes
end

end NoteSchema.Schema
