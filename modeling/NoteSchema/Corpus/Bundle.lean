import NoteSchema.Corpus.Definitions
import NoteSchema.Json.Basic

namespace NoteSchema.Corpus

/-- The text of a reference in a document, once every document is a definition of one bundle. Only
references to documents of the corpus change. -/
def bundledRef (c : Corpus) (here : Loaded) (ref : String) : String :=
  match c.resolve (some here) ref with
  | some (d, fragment) => "#" ++ c.leafPointer d ++ fragment
  | none => ref

def bundledTarget (c : Corpus) (here : Loaded) : Document → Document
  | .str ref => .str (c.bundledRef here ref)
  | v => v

mutual
/-- A value in a document with its references made local to the bundle. -/
def bundled (c : Corpus) (here : Loaded) : Document → Document
  | .arr items => .arr (bundledItems c here items)
  | .obj members => .obj (bundledMembers c here members)
  | v => v

def bundledItems (c : Corpus) (here : Loaded) : List Document → List Document
  | [] => []
  | v :: vs => bundled c here v :: bundledItems c here vs

def bundledMembers (c : Corpus) (here : Loaded) : Members String → Members String
  | [] => []
  | (k, v) :: ms =>
    (k, if k = "$ref" then bundledTarget c here v else bundled c here v) ::
      bundledMembers c here ms
end

def definition (c : Corpus) (d : Loaded) : Members String :=
  c.bundledMembers d (d.body.erase "$id")

def placeAll (c : Corpus) : Document → List Loaded → Except Fault Document
  | tree, [] => .ok tree
  | tree, d :: rest => do
    let tree ← place (c.definition d) (c.leafPath d) tree
    placeAll c tree rest

/-- The identifier of a bundle: beside its top document, under the name of the bundle. -/
def bundleIdentifier (top : Loaded) (name : String) : String :=
  let folder := ((Text.split '/' top.identifier).dropLast)
  (if folder = [] then top.identifier else Text.join "/" folder) ++ "/" ++ name ++ "." ++
    top.id.kind.suffix

/-- All documents of a corpus as definitions of one, with every reference between them local. -/
def bundle (c : Corpus) (dialect : Document) (name : String) : Except BundleFailure Document :=
  match c.top name with
  | .error e => .error e
  | .ok top =>
    match c.placeAll (.obj []) c.documents with
    | .error f => .error (.fault f)
    | .ok tree =>
      let definitions :=
        match tree with
        | .obj ms => (Members.find? defs ms).getD (.obj [])
        | _ => .obj []
      .ok (Json.sorted (.obj [
        ("$schema", dialect),
        ("$id", .str (bundleIdentifier top name)),
        ("title", .str name),
        ("$ref", .str ("#" ++ c.leafPointer top)),
        (defs, definitions)]))

end NoteSchema.Corpus
