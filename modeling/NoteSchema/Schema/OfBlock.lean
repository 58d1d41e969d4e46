import NoteSchema.Schema.Compile

namespace NoteSchema.Schema

def compileFields (s : Site) : List (String × Hint.Field) → Compiling (List (String × Node))
  | [] => return []
  | (name, f) :: rest => do
    let node ← compileField { s with field := name } f
    let nodes ← compileFields s rest
    return (name, node) :: nodes

def distinctNames (names : List String) : List String :=
  names.foldl (fun seen name => if seen.contains name then seen else seen ++ [name]) []

/-- Reports required names that no field block declares. -/
def noteUndeclared (s : Site) (b : Hint.Block) : List String → Compiling Unit
  | [] => return ()
  | name :: rest => do
    Noted.when (!b.hasField name)
      ({ s with field := name }.report .warning
        ("Required field '" ++ name ++ "' has no field block"))
    noteUndeclared s b rest

/-- The alternatives of a composition: class names become references, anything else stays. -/
def alternatives (s : Site) : List Document → Compiling (List Document)
  | [] => return []
  | .str name :: rest =>
    match s.resolve name .schema with
    | .ok target => do
      let others ← alternatives s rest
      return .obj [("$ref", .str target.ref)] :: others
    | .error e => do
      s.report .error e.message
      alternatives s rest
  | d :: rest => do
    let others ← alternatives s rest
    return d :: others

/-- Reports names of an exclusive choice that no field block declares. -/
def noteUnknownChoice (s : Site) (b : Hint.Block) : List String → Compiling Unit
  | [] => return ()
  | name :: rest => do
    Noted.when (!b.hasField name)
      (s.report .warning ("xor names undeclared field '" ++ name ++ "'"))
    noteUnknownChoice s b rest

/-- One alternative for each name: the one in which it is required. -/
def choice (names : List String) : List Document :=
  names.map fun name => .obj [("required", .arr [.str name])]

/-- The alternatives of a class with its exclusive choice, which comes second to given ones. -/
def withChoice (names : List String) (oneOf allOf : List Document) :
    List Document × List Document :=
  if names.isEmpty then (oneOf, allOf)
  else if oneOf.isEmpty then (choice names, allOf)
  else (oneOf, allOf ++ [.obj [("oneOf", .arr (choice names))]])

def Class.ofBlock (setup : Setup) (location : Location) (b : Hint.Block) : Compiling Class := do
  let s : Site := ⟨setup, location, b.owner, ""⟩
  let properties ← compileFields s b.fields
  let required := distinctNames (b.required ++ requiredNames b.fields)
  noteUndeclared s b required
  let oneOf ← alternatives s b.oneOf
  let anyOf ← alternatives s b.anyOf
  let allOf ← alternatives s b.allOf
  noteUnknownChoice s b b.xor
  let (oneOf, allOf) := withChoice b.xor oneOf allOf
  return {
    id := ⟨location.segment, location.subpath, b.name, .schema⟩
    title := b.name
    description := b.description
    additionalProperties := b.additionalProperties
    properties, required, oneOf, anyOf, allOf }

structure Compiled where
  schema : Class
  diagnostics : List Diagnostic
  emissions : List Emission

def Remark.problem? : Remark → Option Diagnostic
  | .problem d => some d
  | .emission _ => none

def Remark.emission? : Remark → Option Emission
  | .problem _ => none
  | .emission e => some e

def compile (setup : Setup) (location : Location) (b : Hint.Block) : Except Fault Compiled :=
  let noted := Class.ofBlock setup location b
  noted.outcome.map fun schema =>
    ⟨schema, noted.remarks.filterMap Remark.problem?, noted.remarks.filterMap Remark.emission?⟩

def Compiled.ok (c : Compiled) : Bool := !c.diagnostics.any (·.isError)

end NoteSchema.Schema
