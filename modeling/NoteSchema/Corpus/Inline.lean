import NoteSchema.Corpus.Definitions
import NoteSchema.Json.Basic

namespace NoteSchema.Corpus

/-- A document and a fragment in it. -/
abbrev Key := String × String

/-- A value with the identifiers of the documents that its references lead back into, or the reason
why there is none. -/
def Inlining (α : Type) := Except BundleFailure (α × List String)

namespace Inlining

variable {α β : Type}

def pure (a : α) : Inlining α := Except.ok (a, [])

def bind (x : Inlining α) (f : α → Inlining β) : Inlining β :=
  match x with
  | .error e => .error e
  | .ok (a, found) =>
    match f a with
    | .error e => .error e
    | .ok (b, more) => .ok (b, found ++ more)

instance : Monad Inlining where
  pure := pure
  bind := bind

def lift (r : Except BundleFailure α) : Inlining α :=
  match r with
  | .ok a => pure a
  | .error e => .error e

def back (found : List String) (a : α) : Inlining α := Except.ok (a, found)

end Inlining

/-- What a reference comes to: it stays, it leads back to a key that is being inlined, or a value takes
its place. -/
inductive Turn
  | stay
  | back (target : Loaded) (fragment : String)
  | inline (target : Loaded) (fragment : String) (value : Document)

/-- What a reference in a document comes to while the keys of a trail are being inlined. -/
def turn (c : Corpus) (trail : List Key) (here : Loaded) (ref : String) :
    Except BundleFailure Turn :=
  match c.resolve (some here) ref with
  | none => .ok .stay
  | some (d, fragment) =>
    match Json.Pointer.resolve d.document fragment with
    | .error (.nowhere _) => .ok .stay
    | .error (.badIndex _) => .error (.fault .value)
    | .ok v => .ok (if trail.contains (d.identifier, fragment) then .back d fragment
        else .inline d fragment v)

/-- The pointer back to a key: into the top document itself, else into its tree of definitions. -/
def backPointer (c : Corpus) (top target : Loaded) (fragment : String) : String :=
  if target.identifier = top.identifier then "#" ++ fragment
  else "#" ++ c.leafPointer target ++ fragment

/-- The documents besides the top one that must be kept because a key leads back into them. -/
def backTargets (top target : Loaded) : List String :=
  if target.identifier = top.identifier then [] else [target.identifier]

/-- The value that takes the place of a reference, with the members written beside the reference. -/
def withSiblings (siblings : Members String) : Document → Document
  | .obj ms => .obj (Members.update (Members.erase "$id" ms) siblings)
  | v => v

def refOf? (members : Members String) : Option String :=
  match members.find? "$ref" with
  | some (.str ref) => some ref
  | _ => none

def keep (ref : String) (siblings : Members String) : Document :=
  .obj (("$ref", .str ref) :: siblings)

def replaced (c : Corpus) (top : Loaded) (trail : List Key) (here : Loaded)
    (inline : Loaded → String → Document → Inlining Document) (ref : String)
    (siblings : Members String) : Inlining Document := do
  match ← Inlining.lift (c.turn trail here ref) with
  | .stay => return keep ref siblings
  | .back d fragment =>
    Inlining.back (backTargets top d) (keep (c.backPointer top d fragment) siblings)
  | .inline d fragment v => return withSiblings siblings (← inline d fragment v)

mutual
/-- A value with its references replaced; `visit` answers what takes the place of a reference and the
members beside it. -/
def expand (visit : String → Members String → Inlining Document) : Document → Inlining Document
  | .arr items => do
    let items ← expandItems visit items
    return .arr items
  | .obj members => do
    let siblings ← expandMembers visit members
    match refOf? members with
    | none => return .obj siblings
    | some ref => visit ref siblings
  | v => return v

def expandItems (visit : String → Members String → Inlining Document) :
    List Document → Inlining (List Document)
  | [] => return []
  | v :: vs => do
    let v ← expand visit v
    let vs ← expandItems visit vs
    return v :: vs

def expandMembers (visit : String → Members String → Inlining Document) :
    Members String → Inlining (Members String)
  | [] => return []
  | (k, v) :: ms =>
    if k = "$ref" then expandMembers visit ms
    else do
      let v ← expand visit v
      let ms ← expandMembers visit ms
      return (k, v) :: ms
end

/-- A value at a key with its references replaced, the key being added to the trail. Each step into a
reference uses up one of the budget. -/
def inlined (c : Corpus) (top : Loaded) :
    Nat → List Key → Loaded → String → Document → Inlining Document
  | 0, _, _, _, _ => Inlining.lift (.error .exhausted)
  | budget + 1, trail, d, fragment, v =>
    let trail := (d.identifier, fragment) :: trail
    expand (c.replaced top trail d (inlined c top budget trail)) v

mutual
/-- The references in a value, those under a reference that is no text among them: a fragment may lead
there. -/
def refsIn : Document → List String
  | .arr items => refsInItems items
  | .obj members => (refOf? members).toList ++ refsInMembers members
  | _ => []

def refsInItems : List Document → List String
  | [] => []
  | v :: vs => refsIn v ++ refsInItems vs

def refsInMembers : Members String → List String
  | [] => []
  | (_, v) :: ms => refsIn v ++ refsInMembers ms
end

/-- A trail holds its first key and, of the others, each is named by a reference and comes once. -/
def budget (c : Corpus) : Nat :=
  (c.documents.flatMap fun d => refsIn d.document).length + 1

def inlinedDocument (c : Corpus) (top d : Loaded) : Inlining Document :=
  c.inlined top c.budget [] d "" d.document

/-- The members that a document contributes as a definition, without its identifier. -/
def withoutId : Document → Except BundleFailure (Members String)
  | .obj ms => .ok (Members.erase "$id" ms)
  | .arr _ => .error (.fault .kind)
  | _ => .error (.fault .operation)

/-- Puts the given documents, with their references replaced, into a tree of definitions. -/
def defineAll (c : Corpus) (top : Loaded) : Document → List Loaded → Inlining Document
  | tree, [] => return tree
  | tree, d :: rest => do
    let v ← c.inlinedDocument top d
    let body ← Inlining.lift (withoutId v)
    let tree ← Inlining.lift ((place body (c.leafPath d) tree).mapError .fault)
    defineAll c top tree rest

/-- The definitions of the documents that references lead back into, and of those that the references
in these lead back into, and so on. Each round defines at least one document more, so there are at most
as many rounds as documents. -/
def rounds (c : Corpus) (top : Loaded) :
    Nat → List String → List String → Document → Except BundleFailure Document
  | 0, _, _, tree => .ok tree
  | n + 1, done, wanted, tree =>
    match c.documents.filter fun d => wanted.contains d.identifier && !done.contains d.identifier with
    | [] => .ok tree
    | todo => do
      let (tree, found) ← c.defineAll top tree todo
      rounds c top n (done ++ todo.map (·.identifier)) (wanted ++ found) tree

def occursIn (part : List Char) : List Char → Bool
  | [] => part.isEmpty
  | c :: cs => (Text.afterChars? part (c :: cs)).isSome || occursIn part cs

/-- Definitions beside those that a document has; the document's own ones count. Where its definitions
are no object, every name must be found in them. -/
def addDefinitions (definitions : Members String) : Document → Except BundleFailure Document
  | .obj own =>
    .ok (.obj (addMissing own definitions))
  | .arr items =>
    if definitions.all fun m => items.any (Json.same (.str m.1)) then .ok (.arr items)
    else .error (.fault .kind)
  | .str s =>
    if definitions.all fun m => occursIn m.1.toList s.toList then .ok (.str s)
    else .error (.fault .kind)
  | _ => .error (.fault .kind)

def withDefinitions (members : Members String) (tree : Document) :
    Except BundleFailure (Members String) :=
  match tree with
  | .obj [] => .ok members
  | .obj ms =>
    match Members.find? defs ms with
    | some (.obj definitions) => do
      let own ← addDefinitions definitions ((members.find? defs).getD (.obj []))
      return members.set defs own
    | _ => .ok members
  | _ => .ok members

/-- A document with every reference to a document of the corpus replaced by what it addresses. A
reference that leads back into what is being replaced becomes a pointer. -/
def dereferenced (c : Corpus) (top : Loaded) : Except BundleFailure Document := do
  let (v, found) ← c.inlinedDocument top top
  match v with
  | .obj members =>
    let tree ← c.rounds top c.documents.length [] found (.obj [])
    let members ← withDefinitions members tree
    return Json.sorted (.obj members)
  | _ => .error (.notObject top.identifier)

/-- The top document of a corpus with its references replaced. -/
def dereference (c : Corpus) (name : String) : Except BundleFailure Document := do
  let top ← c.top name
  c.dereferenced top

end NoteSchema.Corpus
