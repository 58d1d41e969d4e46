import NoteSchema.Json.Printer

namespace NoteSchema

/-- An instance of a schema. -/
abbrev Instance := Json Key

namespace Instance

mutual
/-- A document taken as it is. -/
def ofDocument : Document → Instance
  | .null => .null
  | .bool b => .bool b
  | .number n => .number n
  | .str s => .str s
  | .arr items => .arr (ofItems items)
  | .obj members => .obj (ofMembers members)

def ofItems : List Document → List Instance
  | [] => []
  | v :: vs => ofDocument v :: ofItems vs

def ofMembers : Members String → Members Key
  | [] => []
  | (k, v) :: ms => (.text k, ofDocument v) :: ofMembers ms
end

end Instance

end NoteSchema
