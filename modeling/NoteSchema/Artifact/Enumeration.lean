import NoteSchema.Artifact.Id
import NoteSchema.Json.Basic

namespace NoteSchema

/-- A list of documents without those equal to an earlier one. -/
def Json.distinct (values : List Document) : List Document :=
  values.foldl (fun seen v => if seen.any (Json.same · v) then seen else seen ++ [v]) []

/-- A standalone enumeration. -/
structure Enumeration where
  id : ArtifactId
  title : String := ""
  valueType : String := "string"
  values : List Document := []
  names : Option (List String) := none
  descriptions : Option (List String) := none
  description : Option String := none
  sourcePath : Option String := none

namespace Enumeration

/-- The values of both in the order in which they were seen first. -/
def mergeValues (values more : List Document) : List Document :=
  more.foldl (fun seen v => if seen.any (Json.same · v) then seen else seen ++ [v]) values

/-- Two requests for one enumeration: values are united, and what the later one states counts. -/
def merge (e later : Enumeration) : Enumeration where
  id := e.id
  title := if later.title = "" then e.title else later.title
  valueType := later.valueType
  values := mergeValues e.values later.values
  names := later.names <|> e.names
  descriptions := later.descriptions <|> e.descriptions
  description := later.description <|> e.description
  sourcePath := later.sourcePath <|> e.sourcePath

def texts (items : List String) : Document := .arr (items.map .str)

/-- A member that is there when its text is not empty. -/
def textMember (name : String) : Option String → Members String
  | none | some "" => []
  | some s => [(name, .str s)]

def listMember (name : String) : Option (List String) → Members String
  | none => []
  | some items => [(name, texts items)]

def toDocument (e : Enumeration) (base : String) : Document :=
  .obj ([("$id", .str (e.id.identifier base)),
      ("title", .str (if e.title = "" then e.id.name else e.title)),
      ("type", .str e.valueType),
      ("enum", .arr e.values)] ++
    textMember "description" e.description ++ listMember "x-enumNames" e.names ++
    listMember "x-enumDescriptions" e.descriptions ++ textMember "x-sourcePath" e.sourcePath)

end Enumeration

/-- A request to write an enumeration to a destination. -/
structure Emission where
  destination : FilePath
  enumeration : Enumeration

end NoteSchema
