import NoteSchema.Hint.Field
import NoteSchema.Hint.Reading
import NoteSchema.Hint.Value

namespace NoteSchema.Hint

namespace Value

/-- A value as text without quotes. -/
def plain (v : Value) : String := Text.stripQuotes v.display

def isTrue : Value → Bool
  | flag b => b
  | _ => false

def pieces (sep : Char) (s : String) : List String :=
  ((Text.split sep s).map Text.trim).filter (· ≠ "")

/-- The values of a list, in brackets, as bullets, or separated by commas. -/
def toList : Value → List Value
  | list items => items.map text
  | text s => (pieces ',' s).map fun piece => text (Text.stripQuotes piece)
  | v => [v]

def toNames : Value → List String
  | list items => (items.map Text.trim).filter (· ≠ "")
  | v => pieces ',' v.display

def toTexts (v : Value) : List String := v.toList.map display

end Value

/-- One bound of a range; an open one is empty, a star, an underscore or `null`. -/
def readBound (mode : Strictness) (token : String) (line : Int) (field : String) :
    Reading (Option Number) :=
  if token = "" ∨ token = "*" ∨ token = "null" ∨ token = "_" then return none
  else
    match Number.numeral? token.toList with
    | some (negative, whole, fraction) =>
      Noted.lift (((Number.ofNumeral negative whole fraction).map some).mapError fun _ => .value)
    | none => do
      Reading.error mode ("range bound is not a number: '" ++ token ++ "'") line field
      return none

/-- Both bounds of a range; one token alone is the lower one. -/
def bounds? : Value → Option (String × String)
  | .list [low] => some (low, "")
  | .list [low, high] => some (low, high)
  | _ => none

def applyRange (mode : Strictness) (f : Field) (value : Value) (line : Int) (field : String) :
    Reading Field :=
  match bounds? value with
  | none => do
    Reading.error mode ("range must be [min, max] (got '" ++ value.display ++ "')") line field
    return f
  | some (low, high) => do
    let low ← readBound mode low line field
    let high ← readBound mode high line field
    return { f with minimum := low, maximum := high }

def readNumber (mode : Strictness) (key : String) (value : Value) (line : Int) (field : String) :
    Reading (Option Number) :=
  match value with
  | .number n => return some n
  | v => do
    Reading.error mode (key ++ " must be a number (got '" ++ v.display ++ "')") line field
    return none

def wholePart : Number → Except Fault Int
  | .int n => .ok n
  | .float x =>
    match x.truncate? with
    | some n => .ok n
    | none => .error .range

def readWhole (mode : Strictness) (key : String) (value : Value) (line : Int) (field : String) :
    Reading (Option Int) := do
  match ← readNumber mode key value line field with
  | some n => Noted.lift ((wholePart n).map some)
  | none => return none

/-- The entries of an enumeration by their keys in small letters; of two keys that differ in case the
place of the first and the entry of the second remain. -/
def putLowered (key : String) (e : Entry) : List (String × Entry) → List (String × Entry)
  | [] => [(key, e)]
  | (k, e') :: rest => if k = key then (k, e) :: rest else (k, e') :: putLowered key e rest

def lowered (entries : List Entry) : List (String × Entry) :=
  entries.foldl (fun acc e => putLowered (Text.small e.key) e acc) []

def lookLowered (key : String) : List (String × Entry) → Option Entry
  | [] => none
  | (k, e) :: rest => if k = key then some e else lookLowered key rest

def applyEnumDirective (mode : Strictness) (field : String) (d : EnumDefinition) (key : String)
    (e : Entry) : Reading EnumDefinition :=
  if key = "enumfrom" then do
    Reading.error mode ("enumFrom is not allowed inside enumDefine; " ++
      "use enumId or move enumFrom directly under field") e.line field
    return d
  else
    match EnumDirective.ofKey? key with
    | none => do
      Reading.warning mode ("Unknown enumDefine key '" ++ e.key ++ "'") e.line field
      return d
    | some .path | some .reserved => return d
    | some .generate =>
      return { d with generate := match e.value with | .flag b => some b | _ => none }
    | some .values => return { d with values := e.value.toList }
    | some .names => return { d with names := some e.value.toTexts }
    | some .descriptions => return { d with descriptions := some e.value.toTexts }
    | some .type =>
      return { d with
        type := if Text.small e.value.display = "integer" then .integer else .string }
    | some .valuePattern => do
      Reading.checkPattern mode e.value.display e.line field
      return { d with valuePattern := some e.value.display }
    | some .title => return { d with title := some e.value.display }
    | some .description => return { d with description := some e.value.display }
    | some .targetPath => return { d with targetPath := some e.value.display }
    | some .sourcePath => return { d with sourcePath := some e.value.display }

def applyEnumDirectives (mode : Strictness) (field : String) (d : EnumDefinition) :
    List (String × Entry) → Reading EnumDefinition
  | [] => return d
  | (key, e) :: rest => do
    let d ← applyEnumDirective mode field d key e
    applyEnumDirectives mode field d rest

/-- An enumeration from its entries; its path comes from the strongest key that is there. -/
def EnumDefinition.ofEntries (mode : Strictness) (field : String) (line : Int) (entries : List Entry) :
    Reading EnumDefinition := do
  let all := lowered entries
  match EnumDirective.pathKeys.findSome? fun key => lookLowered key all with
  | none => do
    Reading.error mode "enumDefine is missing \"enumId:\"" line field
    applyEnumDirectives mode field {} all
  | some e => applyEnumDirectives mode field { path := e.value.plain } all

/-- A field and the short forms for its items. -/
structure Draft where
  field : Field := {}
  items : Field := {}

def applyDirective (mode : Strictness) (name key : String) (value : Value) (line : Int) (d : Draft) :
    Directive → Reading Draft
  | .type => return { d with field.type := some value.plain }
  | .format => return { d with field.format := some value.plain }
  | .description => return { d with field.description := some value.plain }
  | .ref => return { d with field.ref := some value.plain }
  | .enumFrom => return { d with field.enumFrom := some value.plain }
  | .const => return { d with field.const := some value }
  | .default => return { d with field.default := some value }
  | .pattern => do
    Reading.checkPattern mode value.plain line name
    return { d with field.pattern := some value.plain }
  | .range => do
    let f ← applyRange mode d.field value line name
    return { d with field := f }
  | .minimum => do
    let n ← readNumber mode key value line name
    return { d with field.minimum := n }
  | .maximum => do
    let n ← readNumber mode key value line name
    return { d with field.maximum := n }
  | .minLength => do
    let n ← readWhole mode key value line name
    return { d with field.minLength := n }
  | .maxLength => do
    let n ← readWhole mode key value line name
    return { d with field.maxLength := n }
  | .minItems => do
    let n ← readWhole mode key value line name
    return { d with field.minItems := n }
  | .maxItems => do
    let n ← readWhole mode key value line name
    return { d with field.maxItems := n }
  | .enum => return { d with field.enum := some value.toList }
  | .required => return { d with field.required := value.isTrue }
  | .enumDefine =>
    match value with
    | .mapping entries => do
      let e ← EnumDefinition.ofEntries mode name line entries
      return { d with field.enumDefine := some e }
    | _ => do
      Reading.error mode "enumDefine must be a nested block" line name
      return d
  | .items =>
    match value with
    | .text "" => return d
    | v => return { d with field.items := some { type := some v.display } }
  | .properties => do
    Reading.error mode "properties must be a nested block" line name
    return d
  | .itemsRef => return { d with items.ref := some value.plain }
  | .itemsType => return { d with items.type := some value.display }
  | .itemsEnumFrom => return { d with items.enumFrom := some value.plain }

/-- The field of a draft: the short forms count where no items are given, and make the field an
array. -/
def Draft.finish (mode : Strictness) (name : String) (line : Int) (d : Draft) : Reading Field := do
  let f :=
    if d.field.items.isNone && !d.items.isEmpty then
      let type := match d.field.type with | none | some "" => "array" | some t => t
      { d.field with items := some d.items, type := some type }
    else d.field
  Noted.when f.isEmpty
    (Reading.error mode ("No directives found under \"field " ++ name ++ ":\"") line name)
  return f

def putField (name : String) (f : Field) : List (String × Field) → List (String × Field)
  | [] => [(name, f)]
  | (n, g) :: rest => if n = name then (n, f) :: rest else (n, g) :: putField name f rest

mutual
def applyEntries (mode : Strictness) (name : String) : List Entry → Draft → Reading Draft
  | [], d => return d
  | e :: rest, d => do
    let d ← applyEntry mode name e d
    applyEntries mode name rest d

def applyEntry (mode : Strictness) (name : String) : Entry → Draft → Reading Draft
  | .mk key value line, d =>
    match Directive.ofKey? (Text.small key) with
    | none => do
      Reading.error mode ("Unknown field key '" ++ key ++ "'") line name
      return d
    | some .items =>
      match value with
      | .mapping entries => do
        let inner ← applyEntries mode name entries {}
        let f ← inner.finish mode name line
        return { d with field.items := some f }
      | v => applyDirective mode name key v line d .items
    | some .properties =>
      match value with
      | .mapping entries => do
        let properties ← projectProperties mode name entries
        return { d with field.properties := properties }
      | v => applyDirective mode name key v line d .properties
    | some directive => applyDirective mode name key value line d directive

/-- The nested properties of a field: a mapping is a field of its own, anything else a type. -/
def projectProperties (mode : Strictness) (name : String) : List Entry → Reading (List (String × Field))
  | [] => return []
  | .mk key value line :: rest =>
    match value with
    | .mapping entries => do
      let inner ← applyEntries mode (name ++ "." ++ key) entries {}
      let f ← inner.finish mode (name ++ "." ++ key) line
      let others ← projectProperties mode name rest
      return (key, f) :: others
    | v => do
      let others ← projectProperties mode name rest
      return (key, { type := some v.plain }) :: others
end

def Field.ofEntries (mode : Strictness) (name : String) (line : Int) (entries : List Entry) :
    Reading Field := do
  let d ← applyEntries mode name entries {}
  d.finish mode name line

end NoteSchema.Hint
