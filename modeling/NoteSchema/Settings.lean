import NoteSchema.Noted
import NoteSchema.Json.Basic
import NoteSchema.Text.Split

namespace NoteSchema

/-- How a hint block treats what it does not recognise: skipped silently or reported. -/
inductive Strictness
  | tolerant
  | strict
deriving DecidableEq, Repr

/-- The settings of a run. Values that are only passed on or tested are kept as they were given. -/
structure Settings where
  base : String
  root : Document
  dialect : Document
  emitEnums : Document
  generateEnums : Document
  strictness : Strictness
  maxDepth : Document

namespace Strictness

def isStrict : Strictness → Bool
  | .tolerant => false
  | .strict => true

def text : Strictness → String
  | .tolerant => "tolerant"
  | .strict => "strict"

def ofDocument : Document → Except Fault Strictness
  | .str "tolerant" => .ok .tolerant
  | .str "strict" => .ok .strict
  | _ => .error .value

end Strictness

namespace Settings

def defaultBase : String := "https://example.org/schemas/"

def defaultDialect : String := "https://json-schema.org/draft/2020-12/schema"

/-- A base ends with a slash. -/
def baseOf : Document → Except Fault String
  | .str s => .ok (if Text.endsWith "/" s then s else s ++ "/")
  | _ => .error .operation

/-- Settings from named values; what is not named keeps its default and unknown names are ignored. -/
def ofMembers (values : Members String) : Except Fault Settings := do
  let value (name : String) (standard : Document) : Document :=
    (Members.find? name values).getD standard
  let base ← baseOf (value "base_id" (.str defaultBase))
  let strictness ← Strictness.ofDocument (value "parse_mode" (.str "tolerant"))
  return {
    base, strictness
    root := value "root" (.str "packages")
    dialect := value "dialect" (.str defaultDialect)
    emitEnums := value "emit_enums" (.bool false)
    generateEnums := value "enum_generate_default" (.bool true)
    maxDepth := value "max_depth" (.int 6) }

def ofDocument : Document → Except Fault Settings
  | .obj values => ofMembers values
  | _ => .error .operation

def toMembers (s : Settings) : Members String :=
  [("base_id", .str s.base),
   ("root", s.root),
   ("dialect", s.dialect),
   ("emit_enums", s.emitEnums),
   ("enum_generate_default", s.generateEnums),
   ("parse_mode", .str (Strictness.text s.strictness)),
   ("max_depth", s.maxDepth)]

end Settings

end NoteSchema
