import NoteSchema.Text.Split

namespace NoteSchema

/-- Where a path starts: at the working directory, at the root, or at the root written twice. -/
inductive Anchor
  | relative
  | root
  | doubleRoot
deriving DecidableEq, Repr

def Anchor.text : Anchor → String
  | .relative => ""
  | .root => "/"
  | .doubleRoot => "//"

/-- A file path: its anchor and its components, none of them empty or a single dot. -/
structure FilePath where
  anchor : Anchor
  names : List String
deriving DecidableEq, Repr

namespace FilePath

def anchorOf (cs : List Char) : Anchor :=
  match (cs.takeWhile (· == '/')).length with
  | 0 => .relative
  | 2 => .doubleRoot
  | _ => .root

def ofString (s : String) : FilePath where
  anchor := anchorOf s.toList
  names := (Text.split '/' s).filter fun name => name != "" && name != "."

/-- A path taken from another one; an anchored path starts anew. -/
def append (p q : FilePath) : FilePath :=
  if q.anchor = .relative then ⟨p.anchor, p.names ++ q.names⟩ else q

instance : Append FilePath := ⟨append⟩

/-- A path from texts taken one after another. -/
def ofStrings (parts : List String) : FilePath :=
  parts.foldl (fun p s => p ++ ofString s) ⟨.relative, []⟩

def parts (p : FilePath) : List String :=
  match p.anchor with
  | .relative => p.names
  | anchor => anchor.text :: p.names

def toString (p : FilePath) : String :=
  if p.anchor = .relative ∧ p.names = [] then "."
  else p.anchor.text ++ Text.join "/" p.names

def name (p : FilePath) : String := p.names.getLast?.getD ""

def parent (p : FilePath) : FilePath := ⟨p.anchor, p.names.dropLast⟩

/-- The order of lists of components: the first difference decides, and a list comes before the longer
ones that start with it. -/
def partsLe : List String → List String → Bool
  | [], _ => true
  | _ :: _, [] => false
  | a :: as, b :: bs => if a = b then partsLe as bs else decide (a ≤ b)

def le (p q : FilePath) : Bool := partsLe p.parts q.parts

def hasNul (p : FilePath) : Bool := p.names.any fun n => n.toList.contains '\x00'

/-- The components below the root after `..` has taken away the component before it. -/
def collapse (names : List String) : List String :=
  (names.foldl (fun acc n => if n = ".." then acc.tail else n :: acc) []).reverse

/-- The components of the place that a path means in a working directory. -/
def absolute (cwd : List String) (p : FilePath) : List String :=
  if p.anchor = .relative then collapse (cwd ++ p.names) else collapse p.names

/-- The path from the root to the place that a path means in a working directory. -/
def inFull (cwd : List String) (p : FilePath) : FilePath :=
  ⟨if p.anchor = .relative then .root else p.anchor, p.absolute cwd⟩

def straight (cwd : List String) (p : FilePath) : FilePath := ⟨.root, p.absolute cwd⟩

def below? : List String → List String → Option (List String)
  | [], names => some names
  | _ :: _, [] => none
  | r :: root, n :: names => if r = n then below? root names else none

/-- The components of a path below a root, both taken as places. -/
def relativeTo? (cwd : List String) (root p : FilePath) : Option (List String) :=
  if p.hasNul || root.hasNul then none else below? (root.absolute cwd) (p.absolute cwd)

/-- The ending of a file name from its last point, unless the point is at either end. -/
def suffix (p : FilePath) : String :=
  let cs := p.name.toList
  let ending := (cs.reverse.takeWhile (· ≠ '.')).reverse
  if ending.length + 1 < cs.length ∧ ending ≠ [] then String.ofList ('.' :: ending) else ""

end FilePath

end NoteSchema
