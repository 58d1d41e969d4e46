import NoteSchema.Number.Basic

namespace NoteSchema

/-- A JSON value whose objects keep their members in order; `κ` is the type of member names. -/
inductive Json (κ : Type)
  | null
  | bool (b : Bool)
  | number (n : Number)
  | str (s : String)
  | arr (items : List (Json κ))
  | obj (members : List (κ × Json κ))
deriving Repr

/-- A JSON document. -/
abbrev Document := Json String

/-- The members of an object in order. -/
abbrev Members (κ : Type) := List (κ × Json κ)

namespace Members

variable {κ : Type} [BEq κ]

def find? (k : κ) : Members κ → Option (Json κ)
  | [] => none
  | (k', v) :: ms => if k' == k then some v else find? k ms

def has (k : κ) (ms : Members κ) : Bool := (ms.find? k).isSome

/-- Sets a member: a name that is there keeps its place, a new one goes to the end. -/
def set (k : κ) (v : Json κ) : Members κ → Members κ
  | [] => [(k, v)]
  | (k', v') :: ms => if k' == k then (k', v) :: ms else (k', v') :: set k v ms

def erase (k : κ) : Members κ → Members κ
  | [] => []
  | (k', v') :: ms => if k' == k then ms else (k', v') :: erase k ms

/-- Sets all members of the second object in the first. -/
def update (ms : Members κ) (more : Members κ) : Members κ :=
  more.foldl (fun acc m => acc.set m.1 m.2) ms

def keys (ms : Members κ) : List κ := ms.map (·.1)

end Members

namespace Json

variable {κ : Type}

instance : Inhabited (Json κ) := ⟨.null⟩

def int (n : Int) : Json κ := .number (.int n)

def isNull : Json κ → Bool
  | .null => true
  | _ => false

def isObject : Json κ → Bool
  | .obj _ => true
  | _ => false

/-- Whether a value counts as present: null, false, zero and what is empty do not. -/
def truthy : Json κ → Bool
  | .null => false
  | .bool b => b
  | .number n => !n.isZero
  | .str s => s != ""
  | .arr items => !items.isEmpty
  | .obj members => !members.isEmpty

/-- The number that a value counts as in comparisons; booleans count as zero and one. -/
def number? : Json κ → Option Number
  | .bool b => some (.int (if b then 1 else 0))
  | .number n => some n
  | _ => none

mutual
/-- Equality of values: numbers by value, booleans as zero and one, objects without their order. -/
def same [BEq κ] : Json κ → Json κ → Bool
  | .null, .null => true
  | .bool a, .bool b => a == b
  | .bool a, .number n => Number.same (.int (if a then 1 else 0)) n
  | .number m, .bool b => Number.same m (.int (if b then 1 else 0))
  | .number m, .number n => m.same n
  | .str s, .str t => s == t
  | .arr xs, .arr ys => sameItems xs ys
  | .obj ms, .obj ns => ms.length == ns.length && sameMembers ms ns
  | _, _ => false

def sameItems [BEq κ] : List (Json κ) → List (Json κ) → Bool
  | [], [] => true
  | x :: xs, y :: ys => same x y && sameItems xs ys
  | _, _ => false

/-- Whether each member of the first object has an equal one in the second. -/
def sameMembers [BEq κ] : Members κ → Members κ → Bool
  | [], _ => true
  | (k, v) :: ms, ns =>
    (match Members.find? k ns with
      | some w => same v w
      | none => false) && sameMembers ms ns
end

/-- The member names of every object in a value, and below it, are distinct. -/
inductive Distinct : Json κ → Prop
  | null : Distinct .null
  | bool (b : Bool) : Distinct (.bool b)
  | number (n : Number) : Distinct (.number n)
  | str (s : String) : Distinct (.str s)
  | arr {items : List (Json κ)} (h : ∀ x ∈ items, Distinct x) : Distinct (.arr items)
  | obj {members : Members κ} (names : (members.map (·.1)).Nodup)
      (h : ∀ m ∈ members, Distinct m.2) : Distinct (.obj members)

end Json

end NoteSchema

namespace NoteSchema.Json

/-- Members in the order of their names. -/
def sortMembers (ms : Members String) : Members String :=
  ms.mergeSort fun a b => decide (a.1 ≤ b.1)

mutual
/-- The same value with the members of every object in the order of their names. -/
def sorted : Document → Document
  | .arr items => .arr (sortedItems items)
  | .obj members => .obj (sortMembers (sortedValues members))
  | v => v

def sortedItems : List Document → List Document
  | [] => []
  | x :: xs => sorted x :: sortedItems xs

def sortedValues : Members String → Members String
  | [] => []
  | (k, v) :: ms => (k, sorted v) :: sortedValues ms
end

end NoteSchema.Json
