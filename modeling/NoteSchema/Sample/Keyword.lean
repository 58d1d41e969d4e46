import NoteSchema.Sample.Basic

namespace NoteSchema.Sample

def formats : List (String × String) :=
  [("date-time", "2025-01-01T00:00:00Z"),
   ("date", "2025-01-01"),
   ("time", "00:00:00"),
   ("email", "user@example.org"),
   ("uri", "https://example.org"),
   ("url", "https://example.org"),
   ("uuid", "00000000-0000-4000-8000-000000000000")]

def formatText : Document → Except Failure (Option String)
  | .str s => .ok (formats.lookup s)
  | .arr _ | .obj _ => .error (.fault .kind)
  | _ => .ok none

/-- The greatest length that a text can be asked to have. -/
def lengthLimit : Int := Nat.pow 2 63

def filler (least : Document) : Except Failure String :=
  if !least.truthy then .ok ""
  else
    match least with
    | .number (.int n) =>
      if n ≤ 0 then .ok ""
      else if n < lengthLimit then .ok (String.ofList (List.replicate n.toNat 'x'))
      else .error (.fault .range)
    | .bool _ => .ok "x"
    | .number (.float x) =>
      if x.compareInt? 0 = some .gt then .error (.fault .kind) else .ok ""
    | _ => .error (.fault .kind)

/-- A text: a pattern stands in its way, a known format decides it, else its least length does. -/
def ofString (schema : Members String) : Result :=
  if ((schema.find? "pattern").getD .null).truthy then .ok .blocked
  else
    match formatText ((schema.find? "format").getD .null) with
    | .error e => .error e
    | .ok (some s) => document (.str s)
    | .ok none => (filler ((schema.find? "minLength").getD .null)).map fun s => .value (.str s)

def ofNumber (schema : Members String) : Result :=
  match schema.find? "minimum" with
  | some d => document d
  | none => document ((schema.find? "exclusiveMinimum").getD (.int 0))

/-- The number of items of an array: the least one, and at least one. -/
def itemCount (least : Document) : Except Failure Nat :=
  if !least.truthy then .ok 1
  else
    match least with
    | .number (.int n) => .ok (max n 1).toNat
    | .bool _ => .ok 1
    | .number (.float x) =>
      if x.compareInt? 1 = some .lt then .ok 1 else .error (.fault .kind)
    | _ => .error (.fault .kind)

def ofArray (sample : Document → Result) (schema : Members String) : Result := do
  let items := (schema.find? "items").getD (.obj [])
  let count ← itemCount ((schema.find? "minItems").getD .null)
  match filled items (← sample items) with
  | none => return .blocked
  | some v => return .value (.arr (List.replicate count v))

def propertySchema (properties : Document) (name : Document) :
    Except Failure (Key × Document) :=
  match properties with
  | .obj members =>
    match Key.ofDocument? name with
    | none => .error (.fault .kind)
    | some (.text s) => .ok (.text s, (Members.find? s members).getD (.obj []))
    | some k => .ok (k, .obj [])
  | _ => .error (.fault .operation)

def requiredMembers (sample : Document → Result) (properties : Document) :
    Members Key → List Document → Result
  | members, [] => .ok (.value (.obj members))
  | members, name :: names => do
    let (key, schema) ← propertySchema properties name
    match filled schema (← sample schema) with
    | none => return .blocked
    | some v => requiredMembers sample properties (members.set key v) names

def ofObject (sample : Document → Result) (schema : Members String) : Result := do
  let names ← parts ((schema.find? "required").getD (.arr []))
  requiredMembers sample ((schema.find? "properties").getD (.obj [])) [] names

/-- The members of all branches; of members with one name the last one counts. -/
def merged (sample : Document → Result) : Members Key → List Document → Result
  | members, [] => .ok (.value (.obj members))
  | members, branch :: branches => do
    match ← sample branch with
    | .blocked => return .blocked
    | .value (.obj more) => merged sample (members.update more) branches
    | _ => merged sample members branches

def ofType (sample : Document → Result) (schema : Members String) : Result :=
  match typeOf schema with
  | .str "object" => ofObject sample schema
  | .str "array" => ofArray sample schema
  | .str "number" | .str "integer" => ofNumber schema
  | .str "boolean" => document (.bool false)
  | .str "null" => document .null
  | .str "string" => ofString schema
  | _ => .ok .shapeless

def present? (schema : Members String) (keyword : String) : Option Document :=
  (schema.find? keyword).filter Json.truthy

def branch (schema : Members String) : Document :=
  match schema.find? "then" with
  | some d => d
  | none => (schema.find? "else").getD .null

/-- A schema without a reference, by the first keyword that decides it. -/
def ofKeywords (sample : Document → Result) (schema : Members String) : Result :=
  match schema.find? "allOf" with
  | some branches => do merged sample [] (← parts branches)
  | none =>
    match present? schema "oneOf" <|> present? schema "anyOf" with
    | some branches => do sample (← first branches)
    | none =>
      if schema.has "if" then
        match branch schema with
        | .null => .ok (.value (.obj []))
        | d => sample d
      else
        match schema.find? "const" with
        | some d => document d
        | none =>
          match present? schema "enum" with
          | some values => do document (← first values)
          | none => ofType sample schema

/-- Samples a schema in a document; each step down uses up one of the budget. -/
def sample (c : Corpus) : Nat → Document → Document → Result
  | 0, _, _ => .ok .blocked
  | budget + 1, here, .obj (m :: ms) =>
    match Members.find? "$ref" (m :: ms) with
    | some (.str ref) =>
      match resolve c here ref with
      | .error e => .error e
      | .ok (target, here) => sample c budget here target
    | _ => ofKeywords (sample c budget here) (m :: ms)
  | _ + 1, _, _ => .ok .shapeless

/-- The depth that stands for a ceiling that no depth exceeds, an infinite one or `NaN`: calls are not nested as deep as
this, so that it cuts no sample off. -/
def deepest : Int := 1000

def ceiling : Document → Except Failure Int
  | .number (.int n) => .ok n
  | .bool b => .ok (if b then 1 else 0)
  | .number (.float (.infinite true)) => .ok (-1)
  | .number (.float x) => .ok (x.floor?.getD deepest)
  | _ => .error (.fault .kind)

def synthesize (c : Corpus) (maxDepth schema : Document) : Except Failure (Option Instance) := do
  let deepest ← ceiling maxDepth
  match ← sample c (deepest + 1).toNat schema schema with
  | .value v => return some v
  | _ => return none

end NoteSchema.Sample
