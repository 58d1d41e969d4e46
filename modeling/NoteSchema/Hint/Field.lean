import NoteSchema.Hint.Value

namespace NoteSchema.Hint

inductive EnumType
  | string
  | integer
deriving DecidableEq, Repr

def EnumType.text : EnumType → String
  | .string => "string"
  | .integer => "integer"

structure EnumDefinition where
  path : String := ""
  title : Option String := none
  type : EnumType := .string
  generate : Option Bool := none
  values : List Value := []
  names : Option (List String) := none
  descriptions : Option (List String) := none
  description : Option String := none
  targetPath : Option String := none
  sourcePath : Option String := none
  valuePattern : Option String := none

structure Field where
  type : Option String := none
  ref : Option String := none
  enumFrom : Option String := none
  enumDefine : Option EnumDefinition := none
  const : Option Value := none
  default : Option Value := none
  format : Option String := none
  pattern : Option String := none
  minimum : Option Number := none
  maximum : Option Number := none
  minLength : Option Int := none
  maxLength : Option Int := none
  minItems : Option Int := none
  maxItems : Option Int := none
  enum : Option (List Value) := none
  description : Option String := none
  required : Bool := false
  items : Option Field := none
  properties : List (String × Field) := []

instance : Inhabited Field := ⟨{}⟩

def Field.isEmpty (f : Field) : Bool :=
  f.type.isNone && f.ref.isNone && f.enumFrom.isNone && f.enumDefine.isNone && f.const.isNone &&
    f.default.isNone && f.format.isNone && f.pattern.isNone && f.minimum.isNone &&
    f.maximum.isNone && f.minLength.isNone && f.maxLength.isNone && f.minItems.isNone &&
    f.maxItems.isNone && f.enum.isNone && f.description.isNone && !f.required &&
    f.items.isNone && f.properties.isEmpty

/-- The directives that a field may hold. -/
inductive Directive
  | type
  | ref
  | enumFrom
  | enumDefine
  | const
  | default
  | format
  | pattern
  | range
  | minimum
  | maximum
  | minLength
  | maxLength
  | minItems
  | maxItems
  | enum
  | description
  | required
  | items
  | properties
  | itemsRef
  | itemsType
  | itemsEnumFrom
deriving DecidableEq, Repr

/-- The directive of a key in small letters. -/
def Directive.ofKey? : String → Option Directive
  | "type" => some .type
  | "$ref" => some .ref
  | "ref" => some .ref
  | "refid" => some .ref
  | "enumfrom" => some .enumFrom
  | "enumref" => some .enumFrom
  | "enumdefine" => some .enumDefine
  | "const" => some .const
  | "default" => some .default
  | "format" => some .format
  | "pattern" => some .pattern
  | "range" => some .range
  | "minimum" => some .minimum
  | "maximum" => some .maximum
  | "minlength" => some .minLength
  | "maxlength" => some .maxLength
  | "minitems" => some .minItems
  | "maxitems" => some .maxItems
  | "enum" => some .enum
  | "desc" => some .description
  | "description" => some .description
  | "required" => some .required
  | "items" => some .items
  | "properties" => some .properties
  | "itemsref" => some .itemsRef
  | "itemstype" => some .itemsType
  | "itemsenumref" => some .itemsEnumFrom
  | _ => none

inductive EnumDirective
  | path
  | targetPath
  | sourcePath
  | title
  | type
  | generate
  | values
  | names
  | descriptions
  | description
  | valuePattern
  /-- Accepted and not used. -/
  | reserved
deriving DecidableEq, Repr

def EnumDirective.ofKey? : String → Option EnumDirective
  | "enumid" => some .path
  | "path" => some .path
  | "id" => some .path
  | "ref" => some .path
  | "targetpath" => some .targetPath
  | "sourcepath" => some .sourcePath
  | "title" => some .title
  | "type" => some .type
  | "generate" => some .generate
  | "enum" => some .values
  | "x-enumnames" => some .names
  | "x-enumdescriptions" => some .descriptions
  | "description" => some .description
  | "valuepattern" => some .valuePattern
  | "x-order" => some .reserved
  | "x-deprecated" => some .reserved
  | "x-aliases" => some .reserved
  | "x-standard" => some .reserved
  | "x-standardref" => some .reserved
  | _ => none

/-- The keys that may name an enumeration, the strongest first. -/
def EnumDirective.pathKeys : List String := ["enumid", "path", "id", "ref"]

inductive RootDirective
  | title
  | description
  | required
  | additionalProperties
  | oneOf
  | anyOf
  | allOf
  | xor
deriving DecidableEq, Repr

def RootDirective.ofKey? : String → Option RootDirective
  | "title" => some .title
  | "description" => some .description
  | "required" => some .required
  | "additionalproperties" => some .additionalProperties
  | "oneof" => some .oneOf
  | "anyof" => some .anyOf
  | "allof" => some .allOf
  | "xor" => some .xor
  | _ => none

end NoteSchema.Hint
