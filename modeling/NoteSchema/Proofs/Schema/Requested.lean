import NoteSchema.Proofs.Artifact.Values
import NoteSchema.Proofs.Noted
import NoteSchema.Schema.OfBlock
import Mathlib.Data.List.Forall2

namespace NoteSchema.Schema

open Hint (EnumDefinition)

def Decider.definitions : Decider → List EnumDefinition
  | .enumDefine d => [d]
  | _ => []

mutual
/-- The enumerations that a field defines, itself or in the fields inside it. -/
def definitionsOf : Hint.Field → List EnumDefinition
  | f@{ items, properties, .. } =>
    if isPrimitive f "array" && f.items.isSome then definitionsOfItems items
    else if isPrimitive f "object" && !f.properties.isEmpty then definitionsOfFields properties
    else (Decider.of f).definitions

def definitionsOfItems : Option Hint.Field → List EnumDefinition
  | none => []
  | some f => definitionsOf f

def definitionsOfFields : List (String × Hint.Field) → List EnumDefinition
  | [] => []
  | (_, f) :: rest => definitionsOf f ++ definitionsOfFields rest
end

/-- Where the enumeration of a definition is written. -/
def destination (setup : Setup) (d : EnumDefinition) (id : ArtifactId) : FilePath :=
  ((given? d.targetPath).bind setup.layout.enumTarget?).getD (setup.layout.artifactPath id)

/-- A definition whose enumeration is to be written, with where and as what. -/
structure Placed where
  destination : FilePath
  id : ArtifactId
  definition : EnumDefinition

/-- The place of a definition; there is none if its enumeration is not to be written, or if its path names no
artifact. -/
def placed? (setup : Setup) (here : Location) (d : EnumDefinition) : Option Placed :=
  if setup.emitEnums && d.generate.getD setup.generateEnums then
    match Reference.resolve setup.base here d.path .enumeration with
    | .ok target => target.artifact.map fun id => ⟨destination setup d id, id, d⟩
    | .error _ => none
  else none

/-- A request is that of a definition. A title that is left out is filled in, and the definition has a type in any
case. -/
structure Stems (m : Placed) (r : Emission) : Prop where
  destination : r.destination = m.destination
  id : r.enumeration.id = m.id
  title : r.enumeration.title = (given? m.definition.title).getD m.id.name
  valueType : r.enumeration.valueType = m.definition.type.text
  values : Json.Apart r.enumeration.values
  names : r.enumeration.names = m.definition.names
  descriptions : r.enumeration.descriptions = m.definition.descriptions
  description : r.enumeration.description = m.definition.description
  sourcePath : r.enumeration.sourcePath = m.definition.sourcePath

/-- Compiling leaves the requests of some definitions, one after another, if it goes through. -/
def Emits {α : Type} (setup : Setup) (here : Location) (x : Compiling α) (ds : List EnumDefinition) : Prop :=
  ∀ a, x.outcome = .ok a → List.Forall₂ Stems (ds.filterMap (placed? setup here)) (x.remarks.filterMap Remark.emission?)

section Steps

variable {α β : Type} {setup : Setup} {here : Location} {ds es : List EnumDefinition}

theorem emits_pure (a : α) : Emits setup here (pure a) [] := fun _ _ => .nil

theorem emits_lift (r : Except Fault α) : Emits setup here (Noted.lift r) [] := fun _ _ => .nil

theorem emits_report (s : Site) (severity : Severity) (message : String) :
    Emits setup here (s.report severity message) [] := fun _ _ => .nil

theorem Emits.bind {x : Compiling α} {f : α → Compiling β} (hx : Emits setup here x ds)
    (hf : ∀ a, x.outcome = .ok a → Emits setup here (f a) es) : Emits setup here (x >>= f) (ds ++ es) := by
  intro b hb
  obtain ⟨rs, _ | a⟩ := x
  · cases hb
  · rw [Noted.bind_of_ok] at hb ⊢
    rw [List.filterMap_append, List.filterMap_append]
    exact List.rel_append (hx a rfl) (hf a rfl b hb)

theorem Emits.then {x : Compiling α} {f : α → Compiling β} (hx : Emits setup here x [])
    (hf : ∀ a, x.outcome = .ok a → Emits setup here (f a) es) : Emits setup here (x >>= f) es :=
  hx.bind hf

theorem Emits.ends {x : Compiling α} {f : α → Compiling β} (hx : Emits setup here x ds)
    (hf : ∀ a, x.outcome = .ok a → Emits setup here (f a) []) : Emits setup here (x >>= f) ds := by
  rw [← List.append_nil ds]
  exact hx.bind hf

theorem emits_numbersOf (s : Site) (type : String) (values : List Hint.Value) :
    Emits setup here (numbersOf s type values) [] := by
  induction values with
  | nil => exact emits_pure _
  | cons v vs ih =>
    refine (emits_lift _).then fun n _ => ?_
    cases n with
    | none => exact (emits_report s _ _).then fun _ _ => ih
    | some n => exact ih.then fun rest _ => emits_pure _

theorem emits_typedValues (s : Site) (type : Option String) (values : List Hint.Value) :
    Emits setup here (typedValues s type values) [] := by
  unfold typedValues
  split
  · exact emits_numbersOf s _ _
  · exact emits_numbersOf s _ _
  · exact emits_pure _

theorem emits_refShape (s : Site) (path : String) (kind : ArtifactKind) :
    Emits setup here (refShape s path kind) [] := by
  unfold refShape
  split
  · exact emits_pure _
  · exact (emits_report s _ _).then fun _ _ => emits_pure _

theorem given?_eq_some {t : String} (h : t ≠ "") : given? (some t) = some t := by
  unfold given?
  split
  next h' => cases h'
  next h' => exact absurd (Option.some.inj h') h
  next h' => exact h'.symm

theorem ne_of_given? {o : Option String} {t : String} (h : given? o = some t) : t ≠ "" := by
  unfold given? at h
  split at h
  next => cases h
  next => cases h
  next hne =>
    obtain rfl := Option.some.inj h
    exact hne

theorem outcome_destinationOf (s : Site) (d : EnumDefinition) (id : ArtifactId) :
    (destinationOf s d id).outcome = .ok (destination s.setup d id) := by
  unfold destinationOf destination
  split
  next h =>
    rw [h]
    rfl
  next h =>
    rw [h]
    rfl
  next target hne h =>
    rw [h, given?_eq_some hne, Option.bind_some]
    cases s.setup.layout.enumTarget? target <;> rfl

theorem emits_destinationOf (s : Site) (d : EnumDefinition) (id : ArtifactId) :
    Emits setup here (destinationOf s d id) [] := by
  unfold destinationOf
  split
  next => exact emits_pure _
  next => exact emits_pure _
  next =>
    split
    next => exact emits_pure _
    next => exact (emits_report s _ _).then fun _ _ => emits_pure _

theorem emits_emissionOf (s : Site) (d : EnumDefinition) (id : ArtifactId) :
    Emits setup here (emissionOf s d id) [] := by
  unfold emissionOf
  refine (emits_destinationOf s d id).then fun destination _ => ?_
  refine (emits_typedValues s _ _).then fun values _ => ?_
  exact (emits_lift _).then fun values _ => emits_pure _

theorem apart_distinct (values : List Document) : Json.Apart (Json.distinct values) :=
  Enumeration.apart_mergeValues List.Pairwise.nil

theorem title_eq (title : Option String) (name : String) :
    (match title with | none | some "" => name | some t => t) = (given? title).getD name := by
  split
  next => rfl
  next => rfl
  next t h => rw [given?_eq_some h, Option.getD_some]

/-- The request for an enumeration is that of its definition. -/
theorem stems_of_emissionOf {s : Site} {d : EnumDefinition} {id : ArtifactId} {r : Emission}
    (h : (emissionOf s d id).outcome = .ok r) : Stems ⟨destination s.setup d id, id, d⟩ r := by
  obtain ⟨path, hpath, h⟩ := Noted.outcome_bind_eq_ok.mp h
  obtain ⟨values, _, h⟩ := Noted.outcome_bind_eq_ok.mp h
  obtain ⟨documents, _, h⟩ := Noted.outcome_bind_eq_ok.mp h
  obtain rfl := Except.ok.inj (hpath.symm.trans (outcome_destinationOf s d id))
  cases h
  exact
    { destination := rfl
      id := rfl
      title := title_eq d.title id.name
      valueType := rfl
      values := apart_distinct documents
      names := rfl
      descriptions := rfl
      description := rfl
      sourcePath := rfl }

theorem Emits.of_unplaced {x : Compiling α} {d : EnumDefinition} (h : Emits setup here x [])
    (hd : placed? setup here d = none) : Emits setup here x [d] := by
  intro a ha
  rw [List.filterMap_cons_none hd]
  exact h a ha

theorem emits_emission {m : Placed} {d : EnumDefinition} {r : Emission} (hd : placed? setup here d = some m)
    (h : Stems m r) : Emits setup here (Noted.note (.emission r)) [d] := by
  intro _ _
  rw [List.filterMap_cons_some hd]
  exact .cons h .nil

/-- A definition in a field leaves its request, if its enumeration is to be written. -/
theorem emits_enumShape (s : Site) (d : EnumDefinition) : Emits s.setup s.location (enumShape s d) [d] := by
  unfold enumShape
  split
  next e h =>
    have hnone : placed? s.setup s.location d = none := by
      rw [placed?]
      split
      · rw [show Reference.resolve _ _ _ _ = _ from h]
      · rfl
    exact ((emits_report s _ _).then fun _ _ => emits_pure _).of_unplaced hnone
  next target h =>
    have hplaced : placed? s.setup s.location d =
        if s.setup.emitEnums && d.generate.getD s.setup.generateEnums then
          target.artifact.map fun id => ⟨destination s.setup d id, id, d⟩
        else none := by
      rw [placed?, show Reference.resolve _ _ _ _ = _ from h]
    dsimp only
    split at hplaced
    next hon =>
      rw [if_pos hon]
      cases hid : target.artifact with
      | none =>
        rw [hid] at hplaced
        exact ((emits_report s _ _).then fun _ _ => emits_pure _).of_unplaced hplaced
      | some id =>
        rw [hid] at hplaced
        refine (emits_emissionOf s d id).then fun r hr => ?_
        exact (emits_emission hplaced (stems_of_emissionOf hr)).ends fun _ _ => emits_pure _
    next hoff =>
      rw [if_neg hoff]
      exact (emits_pure _).of_unplaced hplaced

theorem emits_plainShape (s : Site) (r : Decider) : Emits s.setup s.location (plainShape s r) r.definitions := by
  cases r with
  | enumFrom path => exact emits_refShape s path _
  | enumDefine d => exact emits_enumShape s d
  | ref path => exact emits_refShape s path _
  | type name =>
    rw [plainShape]
    split
    · exact emits_pure _
    · exact emits_pure _
    · exact emits_refShape s _ _
  | const v => exact emits_pure _
  | nothing => exact emits_pure _

theorem emits_values (s : Site) (f : Hint.Field) (shape : Shape) :
    Emits setup here
      (match f.enum with
        | none => return Node.mk shape (facetsOf f none)
        | some values => do
          let values ← typedValues s shape.type? values
          return Node.mk shape (facetsOf f (some values))) [] := by
  split
  next => exact emits_pure _
  next => exact (emits_typedValues s _ _).then fun _ _ => emits_pure _

mutual
/-- A field leaves the requests of the definitions in it, in order. -/
theorem emits_compileField (s : Site) : (f : Hint.Field) →
    Emits s.setup s.location (compileField s f) (definitionsOf f)
  | f@{ items, properties, .. } => by
    rw [compileField, definitionsOf]
    split
    next => exact (emits_compileItems s items).ends fun shape _ => emits_values s _ shape
    next =>
      split
      next =>
        exact (emits_compileProperties s properties).ends fun nodes _ =>
          (emits_pure _).then fun shape _ => emits_values s _ shape
      next => exact (emits_plainShape s _).ends fun shape _ => emits_values s _ shape

theorem emits_compileItems (s : Site) : (o : Option Hint.Field) →
    Emits s.setup s.location (compileItems s o) (definitionsOfItems o)
  | none => by
    rw [compileItems, definitionsOfItems]
    exact emits_pure _
  | some f => by
    rw [compileItems, definitionsOfItems]
    exact (emits_compileField s f).ends fun _ _ => emits_pure _

theorem emits_compileProperties (s : Site) : (fields : List (String × Hint.Field)) →
    Emits s.setup s.location (compileProperties s fields) (definitionsOfFields fields)
  | [] => by
    rw [compileProperties, definitionsOfFields]
    exact emits_pure _
  | (name, f) :: rest => by
    rw [compileProperties, definitionsOfFields]
    exact (emits_compileField s f).bind fun node _ => (emits_compileProperties s rest).ends fun _ _ => emits_pure _
end

theorem emits_compileFields (s : Site) (fields : List (String × Hint.Field)) :
    Emits s.setup s.location (compileFields s fields) (definitionsOfFields fields) := by
  induction fields with
  | nil =>
    rw [definitionsOfFields]
    exact emits_pure _
  | cons m rest ih =>
    obtain ⟨name, f⟩ := m
    rw [compileFields, definitionsOfFields]
    exact (emits_compileField { s with field := name } f).bind fun _ _ => ih.ends fun _ _ => emits_pure _

theorem emits_when {b : Bool} {x : Compiling Unit} (h : Emits setup here x []) :
    Emits setup here (Noted.when b x) [] := by
  unfold Noted.when
  split
  next => exact h
  next => exact emits_pure _

theorem emits_noteUndeclared (s : Site) (b : Hint.Block) (names : List String) :
    Emits setup here (noteUndeclared s b names) [] := by
  induction names with
  | nil => exact emits_pure _
  | cons name rest ih => exact (emits_when (emits_report _ _ _)).then fun _ _ => ih

theorem emits_alternatives (s : Site) (ds : List Document) : Emits setup here (alternatives s ds) [] := by
  induction ds with
  | nil => exact emits_pure _
  | cons d rest ih =>
    cases d with
    | str name =>
      rw [alternatives]
      split
      next => exact ih.then fun _ _ => emits_pure _
      next => exact (emits_report s _ _).then fun _ _ => ih
    | _ => exact ih.then fun _ _ => emits_pure _

theorem emits_noteUnknownChoice (s : Site) (b : Hint.Block) (names : List String) :
    Emits setup here (noteUnknownChoice s b names) [] := by
  induction names with
  | nil => exact emits_pure _
  | cons name rest ih => exact (emits_when (emits_report s _ _)).then fun _ _ => ih

/-- What is left to compile of a block after its fields. -/
def Class.ofProperties (s : Site) (b : Hint.Block) (properties : List (String × Node)) : Compiling Class := do
  let required := distinctNames (b.required ++ requiredNames b.fields)
  noteUndeclared s b required
  let oneOf ← alternatives s b.oneOf
  let anyOf ← alternatives s b.anyOf
  let allOf ← alternatives s b.allOf
  noteUnknownChoice s b b.xor
  let (oneOf, allOf) := withChoice b.xor oneOf allOf
  return {
    id := ⟨s.location.segment, s.location.subpath, b.name, .schema⟩
    title := b.name
    description := b.description
    additionalProperties := b.additionalProperties
    properties, required, oneOf, anyOf, allOf }

theorem ofBlock_eq (b : Hint.Block) : Class.ofBlock setup here b =
    compileFields ⟨setup, here, b.owner, ""⟩ b.fields >>= Class.ofProperties ⟨setup, here, b.owner, ""⟩ b := rfl

theorem of_ofProperties {s : Site} {b : Hint.Block} {properties : List (String × Node)} {schema : Class}
    (h : (Class.ofProperties s b properties).outcome = .ok schema) : schema.properties = properties ∧
      schema.id = ⟨s.location.segment, s.location.subpath, b.name, .schema⟩ := by
  obtain ⟨_, _, h⟩ := Noted.outcome_bind_eq_ok.mp h
  obtain ⟨_, _, h⟩ := Noted.outcome_bind_eq_ok.mp h
  obtain ⟨_, _, h⟩ := Noted.outcome_bind_eq_ok.mp h
  obtain ⟨_, _, h⟩ := Noted.outcome_bind_eq_ok.mp h
  obtain ⟨_, _, h⟩ := Noted.outcome_bind_eq_ok.mp h
  cases h
  exact ⟨rfl, rfl⟩

theorem compile_eq_ok {b : Hint.Block} {c : Compiled} :
    compile setup here b = .ok c ↔ ∃ rs schema, Class.ofBlock setup here b = ⟨rs, .ok schema⟩ ∧
      c = ⟨schema, rs.filterMap Remark.problem?, rs.filterMap Remark.emission?⟩ := by
  unfold compile
  obtain ⟨rs, _ | schema⟩ := Class.ofBlock setup here b
  · exact ⟨fun h => (nomatch h), fun ⟨_, _, h, _⟩ => (nomatch h)⟩
  · constructor
    · intro h
      cases h
      exact ⟨rs, schema, rfl, rfl⟩
    · rintro ⟨_, _, h, rfl⟩
      cases h
      rfl

/-- A class that compiles: its fields do, and what is left of the block does. -/
theorem run_of_compile {b : Hint.Block} {c : Compiled} (h : compile setup here b = .ok c) : ∃ front rear,
    compileFields ⟨setup, here, b.owner, ""⟩ b.fields = ⟨front, .ok c.schema.properties⟩ ∧
      Class.ofProperties ⟨setup, here, b.owner, ""⟩ b c.schema.properties = ⟨rear, .ok c.schema⟩ ∧
      c.diagnostics = (front ++ rear).filterMap Remark.problem? ∧
      c.emissions = (front ++ rear).filterMap Remark.emission? := by
  obtain ⟨_, schema, hrun, rfl⟩ := compile_eq_ok.mp h
  rw [ofBlock_eq] at hrun
  obtain ⟨front, properties, rear, hfields, hrest, rfl⟩ := Noted.bind_eq_ok.mp hrun
  obtain rfl : schema.properties = properties := (of_ofProperties (congrArg Noted.outcome hrest)).1
  exact ⟨front, rear, hfields, hrest, rfl, rfl⟩

theorem emits_ofProperties (s : Site) (b : Hint.Block) (properties : List (String × Node)) :
    Emits setup here (Class.ofProperties s b properties) [] := by
  refine (emits_noteUndeclared _ b _).then fun _ _ => ?_
  refine (emits_alternatives _ b.oneOf).then fun oneOf _ => ?_
  refine (emits_alternatives _ b.anyOf).then fun anyOf _ => ?_
  refine (emits_alternatives _ b.allOf).then fun allOf _ => ?_
  exact (emits_noteUnknownChoice _ b b.xor).then fun _ _ => emits_pure _

/-- A class leaves the requests of the definitions in its fields. -/
theorem emits_ofBlock (setup : Setup) (here : Location) (b : Hint.Block) :
    Emits setup here (Class.ofBlock setup here b) (definitionsOfFields b.fields) :=
  (emits_compileFields ⟨setup, here, b.owner, ""⟩ b.fields).ends fun properties _ => emits_ofProperties _ b properties

theorem emissions_of_compile {b : Hint.Block} {c : Compiled} (h : compile setup here b = .ok c) :
    List.Forall₂ Stems ((definitionsOfFields b.fields).filterMap (placed? setup here)) c.emissions := by
  obtain ⟨rs, schema, hrun, rfl⟩ := compile_eq_ok.mp h
  have hemits := emits_ofBlock setup here b
  rw [hrun] at hemits
  exact hemits schema rfl

end Steps

end NoteSchema.Schema
