import NoteSchema.Corpus.Basic
import NoteSchema.Json.Pointer
import NoteSchema.Json.Printer

namespace NoteSchema.Corpus

def defs : String := "$defs"

/-- The path of a document among those taken: its namespace, told apart by the suffix of its kind when
a schema and an enumeration share one. -/
def leafAmong (taken : List (List String)) (d : Loaded) : List String :=
  let path := d.id.namespaceParts
  if taken.contains path then
    path.dropLast ++ [path.getLast?.getD "" ++ "." ++ d.id.kind.suffix]
  else path

def assignLeaves : List (List String) → List Loaded → List (String × List String)
  | _, [] => []
  | taken, d :: rest =>
    let path := leafAmong taken d
    (d.identifier, path) :: assignLeaves (path :: taken) rest

def leaves (c : Corpus) : List (String × List String) := assignLeaves [] c.documents

def leafPath (c : Corpus) (d : Loaded) : List String :=
  (c.leaves.lookup d.identifier).getD d.id.namespaceParts

def pointerTo (path : List String) : String :=
  String.join (path.map fun part => "/" ++ defs ++ "/" ++ Json.Pointer.escape part)

def leafPointer (c : Corpus) (d : Loaded) : String := pointerTo (c.leafPath d)

def membersOf : Document → Except Fault (Members String)
  | .obj ms => .ok ms
  | _ => .error .operation

/-- The name and the value in a pair: a list of two, a text of two characters or the names of an object
of two members. -/
def pairOf : Document → Except Fault (NoteSchema.Key × Document)
  | .arr [k, v] =>
    match NoteSchema.Key.ofDocument? k with
    | some name => .ok (name, v)
    | none => .error .kind
  | .arr _ => .error .value
  | .str s =>
    match s.toList with
    | [k, v] => .ok (.text (String.singleton k), .str (String.singleton v))
    | _ => .error .value
  | .obj [(k, _), (v, _)] => .ok (.text k, .str v)
  | .obj _ => .error .value
  | _ => .error .kind

/-- Sets the members of pairs, each under the text of its name, and collects these names. A name that is the
same as an earlier one stands for that one. -/
def pairsOf : Members String → List NoteSchema.Key → List Document →
    Except Fault (Members String × List NoteSchema.Key)
  | ms, names, [] => .ok (ms, names)
  | ms, names, d :: rest => do
    let (k, v) ← pairOf d
    let name := (names.find? (· == k)).getD k
    pairsOf (ms.set (Json.Name.text name) v) (name :: names) rest

/-- A value taken as an object: an object, or a list of pairs with their names. -/
def asMembers : Document → Except Fault (Members String × List NoteSchema.Key)
  | .obj ms => .ok (ms, [])
  | .arr items => pairsOf [] [] items
  | .str s => if s = "" then .ok ([], []) else .error .value
  | _ => .error .kind

/-- Whether names can be put in order, alone or beside names that are texts: numbers and `null` can only be
compared with their like. -/
def comparable (names : List NoteSchema.Key) (alone : Bool) : Bool :=
  names.all NoteSchema.Key.isText || alone && (names.all (·.number?.isSome) || names.all (· == .null))

/-- An object with those members of another one whose names it lacks. -/
def addMissing (own others : Members String) : Members String :=
  others.foldl (fun acc m => if acc.has m.1 then acc else acc.set m.1 m.2) own

/-- A document whose definitions are joined by those already at its place; its own ones come first. All names
have to be comparable, as the members of the result are put in their order. Numbers stand under their texts from
here on, in the order of these and beside whatever is put there later. -/
def join (value : Members String) (present : Document) : Except Fault (Members String) := do
  let (own, names) ← asMembers ((value.find? defs).getD (.obj []))
  let others ← membersOf ((← membersOf present).find? defs |>.getD (.obj []))
  if comparable names others.isEmpty then
    let nested := addMissing own others
    return if nested = [] then value else value.set defs (.obj nested)
  else .error .kind

/-- Puts a document at a path of names in a tree of definitions. What is there already is joined to
it. -/
def place (value : Members String) : List String → Document → Except Fault Document
  | [], node => .ok node
  | [name], node => do
    let members ← membersOf node
    let present ← membersOf ((members.find? defs).getD (.obj []))
    let leaf ←
      match present.find? name with
      | none | some .null => pure value
      | some other => join value other
    return .obj (members.set defs (.obj (present.set name (.obj leaf))))
  | name :: rest, node => do
    let members ← membersOf node
    let present ← membersOf ((members.find? defs).getD (.obj []))
    let child ← place value rest ((present.find? name).getD (.obj []))
    return .obj (members.set defs (.obj (present.set name child)))

end NoteSchema.Corpus
