import NoteSchema.Hint.Entries
import NoteSchema.Hint.Projection
import NoteSchema.Json.Basic

namespace NoteSchema.Hint

mutual
def Value.toDocument : Value → Document
  | .text s => .str s
  | .flag b => .bool b
  | .number n => .number n
  | .list items => .arr (items.map .str)
  | .mapping entries => .obj (Value.toMembers entries)

def Value.toMembers : List Entry → Members String
  | [] => []
  | .mk key value _ :: rest => (key, Value.toDocument value) :: Value.toMembers rest
end

structure Block where
  owner : String
  title : Option String := none
  description : Option String := none
  required : List String := []
  additionalProperties : Option Bool := none
  oneOf : List Document := []
  anyOf : List Document := []
  allOf : List Document := []
  xor : List String := []
  fields : List (String × Field) := []

namespace Block

/-- The title of a block, or its owner where the title is missing or empty. -/
def name (b : Block) : String :=
  match b.title with
  | none | some "" => b.owner
  | some title => title

def field? (name : String) : List (String × Field) → Option Field
  | [] => none
  | (n, f) :: rest => if n = name then some f else field? name rest

def hasField (b : Block) (name : String) : Bool := (field? name b.fields).isSome

end Block

/-- The alternatives of a composition: a mapping is one, a list holds several. -/
def Value.toAlternatives : Value → List Document
  | .mapping entries => [(Value.mapping entries).toDocument]
  | .list items => (items.filter (· ≠ "")).map .str
  | v => [v.toDocument]

def dropParentheses (cs : List Char) : List Char :=
  match cs with
  | '(' :: rest => (Text.beforeLast? ')' rest).getD cs
  | _ => cs

/-- The names of an exclusive choice, as a list or separated by bars. -/
def Value.toChoice : Value → List String
  | .list items => items.filter (· ≠ "")
  | v => Value.pieces '|' (String.ofList (dropParentheses (Text.trimChars v.display.toList)))

def applyRoot (mode : Strictness) (b : Block) (key : String) (value : Value) (line : Int) : Reading Block :=
  match RootDirective.ofKey? (Text.small key) with
  | none => do
    Reading.error mode ("Unknown root key '" ++ key ++ "'") line ""
    return b
  | some .title => return { b with title := some value.plain }
  | some .description => return { b with description := some value.plain }
  | some .required => return { b with required := b.required ++ value.toNames }
  | some .additionalProperties =>
    match value with
    | .flag allowed => return { b with additionalProperties := some allowed }
    | v => do
      Reading.error mode ("additionalProperties must be true or false (got '" ++ v.display ++ "')") line ""
      return b
  | some .oneOf => return { b with oneOf := b.oneOf ++ value.toAlternatives }
  | some .anyOf => return { b with anyOf := b.anyOf ++ value.toAlternatives }
  | some .allOf => return { b with allOf := b.allOf ++ value.toAlternatives }
  | some .xor => return { b with xor := b.xor ++ value.toChoice }

def noteGap (mode : Strictness) (name : String) : List Line → Reading Unit
  | [] => Noted.pure ()
  | l :: _ =>
    Noted.when l.isBlank
      (Reading.error mode ("Blank line directly after \"field " ++ name ++ ":\"") l.number name)

/-- Reads the section of a field onto a block; of two sections with one name the later wins. -/
def readField (mode : Strictness) (b : Block) (name : String) (header : Line) (rest : List Line) :
    Reading Block := do
  noteGap mode name rest
  let entries ← readEntries mode false header.indent (Line.afterBlock header.indent rest)
    (Line.block header.indent rest) []
  Noted.when (b.hasField name)
    (Reading.warning mode ("Field '" ++ name ++ "' declared twice; later block wins") header.number name)
  let f ← Field.ofEntries mode name header.number entries
  return { b with fields := putField name f b.fields }

/-- Reads the sections of a block one after another, up to the end of the note. -/
def readSections (mode : Strictness) (b : Block) : List Line → Reading Block
  | [] => Noted.pure b
  | l :: rest =>
    if l.isSkipped then readSections mode b rest
    else if l.isEnd then Noted.pure b
    else
      match l.fieldName? with
      | some name => do
        let b ← readField mode b name l rest
        readSections mode b (Line.afterBlock l.indent rest)
      | none =>
        match l.directive? with
        | none => do
          unrecognized mode l
          readSections mode b rest
        | some (key, []) => do
          let value ← readBelow mode false l.indent rest
          let b ← applyRoot mode b key value l.number
          readSections mode b (afterBelow l.indent rest)
        | some (key, value) => do
          let value ← readScalar value
          let b ← applyRoot mode b key value l.number
          readSections mode b rest
termination_by lines => lines.length
decreasing_by
  all_goals simp only [List.length_cons]
  all_goals have ha := length_afterBlock l.indent rest
  all_goals have hb := length_afterBelow l.indent rest
  all_goals omega

/-- The lines after the marker; there are none to read if the first line that is not blank does not
start with it. -/
def afterMarker? (lines : List Line) : Option (List Line) :=
  match lines.dropWhile Line.isBlank with
  | [] => none
  | l :: rest => if startsWithMarker l.content then some rest else none

/-- Reads a block from the text of a note, whose first line has the given number; there is nothing
to read without the marker. -/
def Block.read? (mode : Strictness) (owner body : String) (first : Int) : Option (Reading Block) :=
  (afterMarker? (Line.ofBody body first)).map (readSections mode { owner })

/-- Why a note gives no block: it lacks the marker, or a value cannot be held. -/
inductive Failure
  | noMarker (owner : String)
  | fault (f : Fault)
deriving DecidableEq, Repr

def Failure.message? : Failure → Option String
  | .noMarker owner => some ("Annotation for " ++ owner ++ " does not start with " ++ marker)
  | .fault _ => none

/-- The block of a note, with what was found on the way to it. -/
def Block.parse (mode : Strictness) (owner body : String) (first : Int) :
    Except Failure (Block × List Diagnostic) :=
  match Block.read? mode owner body first with
  | none => .error (.noMarker owner)
  | some ⟨findings, .ok b⟩ => .ok (b, findings.map (Finding.diagnostic owner))
  | some ⟨_, .error f⟩ => .error (.fault f)

end NoteSchema.Hint
