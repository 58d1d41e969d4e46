import NoteSchema.File.Path
import NoteSchema.File.Refusal
import NoteSchema.Text.Utf8

namespace NoteSchema

open Text (Bytes)

/-- What stands at a place. -/
inductive Entry
  | folder
  | file (content : Bytes)
deriving DecidableEq, Repr

def Entry.isFile : Entry → Bool
  | folder => false
  | file _ => true

/-- The files and folders below the root, by the components that lead to them, and the folder in which
relative paths start. -/
structure FileTree where
  home : List String
  entries : List (List String × Entry)

namespace FileTree

/-- A path has been followed to a place and to the entry there. -/
abbrev Found := List String × Entry

def lookup (place : List String) : List (List String × Entry) → Option Entry
  | [] => none
  | (p, e) :: rest => if p = place then some e else lookup place rest

/-- The entry at a place; the root is always a folder. -/
def find? (t : FileTree) (place : List String) : Option Entry :=
  if place = [] then some .folder else lookup place t.entries

def put (place : List String) (e : Entry) : List (List String × Entry) → List (List String × Entry)
  | [] => [(place, e)]
  | (p, old) :: rest => if p = place then (p, e) :: rest else (p, old) :: put place e rest

def set (t : FileTree) (place : List String) (e : Entry) : FileTree :=
  { t with entries := put place e t.entries }

def erase (t : FileTree) (place : List String) : FileTree :=
  { t with entries := t.entries.filter fun entry => entry.1 ≠ place }

/-- The most bytes that one component of a path may have. -/
def nameLimit : Nat := 255

def fits (name : String) : Bool := (Text.Utf8.encode name).length ≤ nameLimit

/-- Follows components from an entry at a place; `..` leads to the folder above. -/
def follow (t : FileTree) (place : List String) (e : Entry) : List String → Except Cause Found
  | [] => .ok (place, e)
  | name :: names =>
    if e.isFile then .error .notFolder
    else if name = ".." then follow t place.dropLast .folder names
    else if !fits name then .error .nameTooLong
    else
      match t.find? (place ++ [name]) with
      | none => .error .missing
      | some next => follow t (place ++ [name]) next names

/-- The place at which a path starts. -/
def start (t : FileTree) (p : FilePath) : List String :=
  if p.anchor = .relative then t.home else []

/-- The place and the entry that a path leads to. -/
def locate (t : FileTree) (p : FilePath) : Except Cause Found :=
  t.follow (t.start p) .folder p.names

def isFolder (t : FileTree) (p : FilePath) : Bool :=
  match t.locate p with
  | .ok (_, .folder) => true
  | _ => false

def isFile (t : FileTree) (p : FilePath) : Bool :=
  match t.locate p with
  | .ok (_, .file _) => true
  | _ => false

/-- The place that the last name of a path has in a folder that is there, whether or not something
stands at it; `none` if the path does not end in a name. -/
def slot (t : FileTree) (p : FilePath) : Except Cause (Option (List String)) :=
  match p.names.getLast? with
  | none => .ok none
  | some name =>
    match t.locate p.parent with
    | .error c => .error c
    | .ok (_, .file _) => .error .notFolder
    | .ok (place, .folder) =>
      if name = ".." then .ok none
      else if fits name then .ok (some (place ++ [name]))
      else .error .nameTooLong

def makeFolder (t : FileTree) (p : FilePath) : Except Cause FileTree :=
  match t.slot p with
  | .error c => .error c
  | .ok none => .error .taken
  | .ok (some place) =>
    match t.find? place with
    | some _ => .error .taken
    | none => .ok (t.set place .folder)

/-- A new folder, unless there is one already. -/
def ensureFolder (t : FileTree) (p : FilePath) : Except Cause FileTree :=
  match t.makeFolder p with
  | .ok t => .ok t
  | .error c => if t.isFolder p then .ok t else .error c

/-- Makes a folder and those above it that are missing, given its components from the last to the
first. The folders made before a refusal stay. -/
def ensureFolders (t : FileTree) (anchor : Anchor) : List String → Except Refusal Unit × FileTree
  | [] => (.ok (), t)
  | name :: above =>
    let p : FilePath := ⟨anchor, (name :: above).reverse⟩
    let finish (t : FileTree) : Except Refusal Unit × FileTree :=
      match t.ensureFolder p with
      | .ok t => (.ok (), t)
      | .error c => (.error ⟨c, [p.toString]⟩, t)
    if t.makeFolder p matches .error .missing then
      match t.ensureFolders anchor above with
      | (.ok (), t) => finish t
      | refused => refused
    else finish t

/-- Makes the folder that a path means, with those above it. -/
def makeFolders (t : FileTree) (p : FilePath) : Except Refusal Unit × FileTree :=
  t.ensureFolders p.anchor p.names.reverse

/-- Puts content into a new file; nothing may stand in its place. -/
def create (t : FileTree) (p : FilePath) (content : Bytes) : Except Cause FileTree :=
  match t.slot p with
  | .error c => .error c
  | .ok none => .error .taken
  | .ok (some place) =>
    match t.find? place with
    | some _ => .error .taken
    | none => .ok (t.set place (.file content))

def remove (t : FileTree) (p : FilePath) : FileTree :=
  match t.locate p with
  | .ok (place, .file _) => t.erase place
  | _ => t

/-- Moves a file to a path, in place of a file that stands there. -/
def move (t : FileTree) (source destination : FilePath) : Except Cause FileTree :=
  match t.locate source with
  | .error c => .error c
  | .ok (_, .folder) => .error .folder
  | .ok (origin, .file content) =>
    match t.slot destination with
    | .error c => .error c
    | .ok none => .error .busy
    | .ok (some place) =>
      match t.find? place with
      | some .folder => .error .folder
      | _ => .ok ((t.erase origin).set place (.file content))

/-- The bytes of a file. -/
def read (t : FileTree) (p : FilePath) : Except Refusal Bytes :=
  match t.locate p with
  | .ok (_, .file content) => .ok content
  | .ok (_, .folder) => .error ⟨.folder, [p.toString]⟩
  | .error c => .error ⟨c, [p.toString]⟩

/-- The components below a folder of everything in it, at any depth, with the entries there. -/
def below (t : FileTree) (p : FilePath) : List Found :=
  match t.locate p with
  | .ok (place, .folder) =>
    t.entries.filterMap fun (at_, e) =>
      match FilePath.below? place at_ with
      | some [] | none => none
      | some names => some (names, e)
  | _ => []

end FileTree

end NoteSchema
