import NoteSchema.Proofs.Schema.Missing
import NoteSchema.Proofs.Schema.Requested

namespace NoteSchema.Schema

open Hint (Field)

def Shape.items? : Shape → Option Node
  | .array items => some items
  | _ => none

def Shape.properties : Shape → List (String × Node)
  | .object properties _ => properties
  | _ => []

mutual
/-- The schemas that have come of a field and of the fields inside it, each with its field. -/
def origins : Field → Node → List (Field × Node)
  | f@{ items, properties, .. }, node =>
    (f, node) :: (itemOrigins items node.shape.items? ++ propertyOrigins properties node.shape.properties)

def itemOrigins : Option Field → Option Node → List (Field × Node)
  | some f, some node => origins f node
  | _, _ => []

def propertyOrigins : List (String × Field) → List (String × Node) → List (Field × Node)
  | (_, f) :: fields, (_, node) :: nodes => origins f node ++ propertyOrigins fields nodes
  | _, _ => []
end

theorem itemOrigins_none (o : Option Field) : itemOrigins o none = [] := by
  cases o <;> rw [itemOrigins.eq_def]

theorem propertyOrigins_nil (fields : List (String × Field)) : propertyOrigins fields [] = [] := by
  cases fields <;> rw [propertyOrigins.eq_def]

/-- What a field hands on to the fields inside it. -/
structure Inherited (P : Field → Prop) : Prop where
  items : ∀ f, P f → ∀ g ∈ f.items, P g
  properties : ∀ f, P f → ∀ p ∈ f.properties, P p.2

mutual
/-- What is handed on is true of all fields that schemas have come of. -/
theorem Inherited.mem_origins {P : Field → Prop} (hP : Inherited P) : {f : Field} → {node : Node} → P f →
    ∀ p ∈ origins f node, P p.1
  | f@{ items, properties, .. }, node, h => by
    rw [origins]
    intro p hp
    rcases List.mem_cons.mp hp with rfl | hp
    · exact h
    · rcases List.mem_append.mp hp with hp | hp
      · exact hP.mem_itemOrigins (hP.items _ h) p hp
      · exact hP.mem_propertyOrigins (hP.properties _ h) p hp

theorem Inherited.mem_itemOrigins {P : Field → Prop} (hP : Inherited P) : {o : Option Field} → {node : Option Node} →
    (∀ g ∈ o, P g) → ∀ p ∈ itemOrigins o node, P p.1
  | none, node, _ => by
    rw [itemOrigins.eq_def]
    exact fun _ hp => absurd hp List.not_mem_nil
  | some f, none, _ => by
    rw [itemOrigins_none]
    exact fun _ hp => absurd hp List.not_mem_nil
  | some f, some node, h => by
    rw [itemOrigins]
    exact hP.mem_origins (h f rfl)

theorem Inherited.mem_propertyOrigins {P : Field → Prop} (hP : Inherited P) : {fields : List (String × Field)} →
    {nodes : List (String × Node)} → (∀ p ∈ fields, P p.2) → ∀ p ∈ propertyOrigins fields nodes, P p.1
  | [], nodes, _ => by
    rw [propertyOrigins.eq_def]
    exact fun _ hp => absurd hp List.not_mem_nil
  | _ :: _, [], _ => by
    rw [propertyOrigins_nil]
    exact fun _ hp => absurd hp List.not_mem_nil
  | (name, f) :: fields, (name', node) :: nodes, h => by
    rw [propertyOrigins]
    intro p hp
    rcases List.mem_append.mp hp with hp | hp
    · exact hP.mem_origins (h (name, f) List.mem_cons_self) p hp
    · exact hP.mem_propertyOrigins (fun q hq => h q (List.mem_cons_of_mem _ hq)) p hp
end

/-- The name of a class that a type name stands for. -/
def className? (type : String) : Option String :=
  match TypeName.of type with
  | .className name => some name
  | _ => none

/-- The path that decides the schema of a field, with the kind of artifact that it names: the first one present of the
enumeration taken over, the one defined, the reference and the type that is a class. -/
def decidingPath? (f : Field) : Option (String × ArtifactKind) :=
  ((given? f.enumFrom).map (·, .enumeration)).or <|
    (f.enumDefine.map (·.path, .enumeration)).or <|
      ((given? f.ref).map (·, .schema)).or <|
        ((given? f.type).bind className?).map (·, .schema)

/-- Whether the path that decides the schema of a field names nothing. -/
def unresolved (s : Site) (f : Field) : Bool := (decidingPath? f).any fun p => s.misses p.1 p.2

/-- The shape of a path: a reference to what it names, if it names something. -/
def Site.shapeOf (s : Site) (path : String) (kind : ArtifactKind) : Shape :=
  match s.resolve path kind with
  | .ok target => .ref target.ref
  | .error _ => .open

section Steps

variable {s : Site} {f : Field} {rs ss : List Remark}

/-- A run that comes to the shape of a path, and says so if the path names nothing. -/
structure Refers (s : Site) (path : String) (kind : ArtifactKind) (shape : Shape) (rs : List Remark) : Prop where
  shape : shape = s.shapeOf path kind
  tally : ∀ name, tally name rs = if name = s.field ∧ s.misses path kind = true then 1 else 0

namespace Refers

variable {path : String} {kind : ArtifactKind} {shape : Shape}

theorem of_error {e : Reference.Failure} (h : s.resolve path kind = .error e) :
    Refers s path kind .open (s.report .error e.message).remarks where
  shape := by rw [Site.shapeOf, h]
  tally name := by
    rw [tally_failure]
    simp [Site.misses, h, Except.toBool]

theorem of_ok {target : Reference.Target} (h : s.resolve path kind = .ok target) (hrs : ∀ name, Schema.tally name rs = 0) :
    Refers s path kind (.ref target.ref) rs where
  shape := by rw [Site.shapeOf, h]
  tally name := by
    rw [hrs name]
    simp [Site.misses, h, Except.toBool]

theorem of_refShape (h : refShape s path kind = ⟨rs, .ok shape⟩) : Refers s path kind shape rs := by
  unfold refShape at h
  split at h
  next target hok =>
    cases h
    exact .of_ok hok fun _ => rfl
  next e herror =>
    cases h
    exact .of_error herror

theorem of_enumShape {d : Hint.EnumDefinition} (h : enumShape s d = ⟨rs, .ok shape⟩) :
    Refers s d.path .enumeration shape rs := by
  unfold enumShape at h
  split at h
  next e herror =>
    cases h
    exact .of_error herror
  next target hok =>
    have hdone {x : Compiling Unit} (hx : Silent x) (h : (do x; return Shape.ref target.ref) = ⟨rs, .ok shape⟩) :
        Refers s d.path .enumeration shape rs := by
      obtain ⟨first, _, last, hfirst, hlast, rfl⟩ := Noted.bind_eq_ok.mp h
      cases hlast
      refine .of_ok hok fun name => ?_
      rw [List.append_nil]
      have := hx name
      rwa [hfirst] at this
    dsimp only at h
    split at h
    next =>
      split at h
      next => exact hdone (silent_warning s _) h
      next id _ =>
        refine hdone (x := do Noted.note (.emission (← emissionOf s d id)))
          ((silent_emissionOf s d id).bind fun e => silent_note e) ?_
        rw [bind_assoc]
        exact h
    next => exact hdone (silent_pure ()) h

end Refers

/-- Every request in a run is that of an enumeration that one of some fields defines, and was made in it. -/
def Asked (s : Site) (fields : List Field) (rs : List Remark) : Prop :=
  ∀ e, Remark.emission e ∈ rs →
    ∃ f ∈ fields, ∃ d ∈ f.enumDefine, ∃ id own, emissionOf s d id = ⟨own, .ok e⟩ ∧ own.Sublist rs

namespace Asked

variable {fields more : List Field}

theorem append (h : Asked s fields rs) (h' : Asked s more ss) : Asked s (fields ++ more) (rs ++ ss) := by
  intro e he
  rcases List.mem_append.mp he with he | he
  · obtain ⟨f, hf, d, hd, id, own, hown, hsub⟩ := h e he
    exact ⟨f, List.mem_append_left _ hf, d, hd, id, own, hown, hsub.trans (List.sublist_append_left _ _)⟩
  · obtain ⟨f, hf, d, hd, id, own, hown, hsub⟩ := h' e he
    exact ⟨f, List.mem_append_right _ hf, d, hd, id, own, hown, hsub.trans (List.sublist_append_right _ _)⟩

/-- A run that asks for nothing. -/
theorem of_emits {α : Type} {x : Compiling α} {a : α} (hx : Emits s.setup s.location x []) (h : x = ⟨rs, .ok a⟩) :
    Asked s fields rs := by
  intro e he
  subst h
  have hnone := hx a rfl
  rw [List.filterMap_nil, List.forall₂_nil_left_iff, List.filterMap_eq_nil_iff] at hnone
  cases hnone _ he

theorem of_enumShape {d : Hint.EnumDefinition} {shape : Shape} (hd : f.enumDefine = some d)
    (h : enumShape s d = ⟨rs, .ok shape⟩) : Asked s [f] rs := by
  unfold enumShape at h
  split at h
  next => exact of_emits ((emits_report s _ _).then fun _ _ => emits_pure _) h
  next target _ =>
    dsimp only at h
    split at h
    next =>
      split at h
      next => exact of_emits ((emits_report s _ _).then fun _ _ => emits_pure _) h
      next id _ =>
        obtain ⟨own, e, last, hown, hlast, rfl⟩ := Noted.bind_eq_ok.mp h
        cases hlast
        intro e' he'
        rcases List.mem_append.mp he' with he' | he'
        · have hnone : Asked s [] own := of_emits (emits_emissionOf s d id) hown
          obtain ⟨_, hf, _⟩ := hnone e' he'
          cases hf
        · cases List.mem_singleton.mp he'
          exact ⟨f, List.mem_singleton_self f, d, hd, id, own, hown, List.sublist_append_left _ _⟩
    next => exact of_emits (emits_pure _) h

end Asked

/-- The path of a directive that decides a field. -/
def Decider.path? : Decider → Option (String × ArtifactKind)
  | .enumFrom path => some (path, .enumeration)
  | .enumDefine d => some (d.path, .enumeration)
  | .ref path => some (path, .schema)
  | .type name => (className? name).map (·, .schema)
  | .const _ => none
  | .nothing => none

theorem path?_of (f : Field) : (Decider.of f).path? = decidingPath? f := by
  unfold Decider.of decidingPath?
  generalize given? f.enumFrom = enumFrom
  generalize given? f.ref = ref
  generalize given? f.type = type
  cases enumFrom with
  | some path => rfl
  | none =>
    cases f.enumDefine with
    | some d => rfl
    | none =>
      cases ref with
      | some path => rfl
      | none =>
        cases type with
        | some name => simp only [Decider.path?, Option.map_none, Option.none_or, Option.bind_some]
        | none => cases f.const <;> rfl

/-- A field of a primitive type has no path that decides it. -/
theorem decidingPath?_of_isPrimitive {type : String} (h : isPrimitive f type = true) : decidingPath? f = none := by
  rw [← path?_of]
  unfold isPrimitive at h
  split at h
  next name hname =>
    rw [hname, Decider.path?, className?]
    split at h
    next primitive hprimitive =>
      rw [hprimitive]
      rfl
    next => cases h
  next => cases h

/-- What a field is decided to be: the reference of the path that decides it, or something that is no reference. The
fields inside it keep their names and their order. -/
structure Decided (s : Site) (f : Field) (shape : Shape) : Prop where
  reference : ∀ path kind, decidingPath? f = some (path, kind) → shape = s.shapeOf path kind
  free : decidingPath? f = none → ∀ target, shape ≠ .ref target
  properties : ∀ nodes required, shape = .object nodes required →
    nodes.map (·.1) = f.properties.map (·.1) ∧ required = requiredNames f.properties

/-- What a directive comes to: what its path refers to, or a shape that refers to nothing. -/
theorem plainShape_cases {r : Decider} {shape : Shape} (h : plainShape s r = ⟨rs, .ok shape⟩) :
    (∃ path kind, r.path? = some (path, kind) ∧ Refers s path kind shape rs) ∨
      r.path? = none ∧ (shape = .open ∨ ∃ type format, shape = .typed type format) ∧ rs = [] := by
  cases r with
  | enumFrom path => exact .inl ⟨path, .enumeration, rfl, .of_refShape h⟩
  | enumDefine d => exact .inl ⟨d.path, .enumeration, rfl, .of_enumShape h⟩
  | ref path => exact .inl ⟨path, .schema, rfl, .of_refShape h⟩
  | type name =>
    rw [plainShape] at h
    rw [Decider.path?, className?]
    split at h
    next type format hname =>
      cases h
      rw [hname]
      exact .inr ⟨rfl, .inr ⟨type, some format, rfl⟩, rfl⟩
    next type hname =>
      cases h
      rw [hname]
      exact .inr ⟨rfl, .inr ⟨type, none, rfl⟩, rfl⟩
    next path hname =>
      rw [hname]
      exact .inl ⟨path, .schema, rfl, .of_refShape h⟩
  | const v =>
    cases h
    refine .inr ⟨rfl, ?_, rfl⟩
    cases v.literalType? with
    | some type => exact .inr ⟨type, none, rfl⟩
    | none => exact .inl rfl
  | nothing =>
    cases h
    exact .inr ⟨rfl, .inl rfl, rfl⟩

theorem shapeOf_eq (s : Site) (path : String) (kind : ArtifactKind) :
    s.shapeOf path kind = .open ∨ ∃ target, s.shapeOf path kind = .ref target := by
  unfold Site.shapeOf
  split
  next target _ => exact .inr ⟨target.ref, rfl⟩
  next => exact .inl rfl

/-- The shape of a field that holds no fields. -/
theorem decided_of_plainShape {shape : Shape} (h : plainShape s (Decider.of f) = ⟨rs, .ok shape⟩) :
    Decided s f shape ∧ shape.items? = none ∧ shape.properties = [] ∧
      ∀ name, tally name rs = if name = s.field ∧ unresolved s f = true then 1 else 0 := by
  rcases plainShape_cases h with ⟨path, kind, hpath, hrefers⟩ | ⟨hpath, hfree, rfl⟩
  · rw [path?_of] at hpath
    have hshape := hrefers.shape
    have hkind := shapeOf_eq s path kind
    rw [← hshape] at hkind
    refine ⟨⟨fun path' kind' hpath' => ?_, fun hnone => ?_, fun nodes required hobject => ?_⟩, ?_, ?_, fun name => ?_⟩
    · obtain ⟨rfl, rfl⟩ := Prod.mk.inj (Option.some.inj (hpath.symm.trans hpath'))
      exact hshape
    · rw [hpath] at hnone
      cases hnone
    · rcases hkind with rfl | ⟨target, rfl⟩ <;> cases hobject
    · rcases hkind with rfl | ⟨target, rfl⟩ <;> rfl
    · rcases hkind with rfl | ⟨target, rfl⟩ <;> rfl
    · rw [hrefers.tally name, unresolved, hpath]
      rfl
  · rw [path?_of] at hpath
    refine ⟨⟨fun path' kind' hpath' => ?_, fun _ target href => ?_, fun nodes required hobject => ?_⟩, ?_, ?_, fun name => ?_⟩
    · rw [hpath] at hpath'
      cases hpath'
    · rcases hfree with rfl | ⟨type, format, rfl⟩ <;> cases href
    · rcases hfree with rfl | ⟨type, format, rfl⟩ <;> cases hobject
    · rcases hfree with rfl | ⟨type, format, rfl⟩ <;> rfl
    · rcases hfree with rfl | ⟨type, format, rfl⟩ <;> rfl
    · rw [unresolved, hpath]
      simp [tally]

theorem enumDefine_of {d : Hint.EnumDefinition} (h : Decider.of f = .enumDefine d) : f.enumDefine = some d := by
  unfold Decider.of at h
  split at h <;> cases h
  assumption

theorem asked_of_plainShape {shape : Shape} (h : plainShape s (Decider.of f) = ⟨rs, .ok shape⟩) : Asked s [f] rs := by
  have hemits := emits_plainShape s (Decider.of f)
  cases hdecider : Decider.of f with
  | enumDefine d =>
    rw [hdecider] at h
    exact .of_enumShape (enumDefine_of hdecider) h
  | _ =>
    rw [hdecider] at h hemits
    exact .of_emits hemits h

/-- The shape of a field, with the fields inside it compiled. -/
def fieldShape (s : Site) (f : Field) : Compiling Shape :=
  if isPrimitive f "array" && f.items.isSome then compileItems s f.items
  else if isPrimitive f "object" && !f.properties.isEmpty then do
    let nodes ← compileProperties s f.properties
    pure (Shape.object nodes (requiredNames f.properties))
  else plainShape s (Decider.of f)

/-- The values that a field allows, under the type of its shape. -/
def fieldValues (s : Site) (type : Option String) : Option (List Hint.Value) → Compiling (Option (List Hint.Value))
  | none => return none
  | some values => do
    let values ← typedValues s type values
    return some values

theorem compileField_eq (s : Site) (f : Field) : compileField s f = do
    let shape ← fieldShape s f
    let values ← fieldValues s shape.type? f.enum
    return .mk shape (facetsOf f values) := by
  have hvalues (shape : Shape) : (match f.enum with
      | none => return Node.mk shape (facetsOf f none)
      | some values => do
        let values ← typedValues s shape.type? values
        return Node.mk shape (facetsOf f (some values)) : Compiling Node) = do
        let values ← fieldValues s shape.type? f.enum
        return .mk shape (facetsOf f values) := by
    cases f.enum with
    | none => rfl
    | some values => simp only [fieldValues, bind_assoc, pure_bind]
  simp only [← hvalues]
  cases f
  rw [compileField, fieldShape]
  split
  next => rfl
  next =>
    split
    next => exact (bind_assoc (compileProperties s _) (fun nodes => pure (Shape.object nodes _)) _).symm
    next => rfl

theorem silent_fieldValues (s : Site) (type : Option String) (values : Option (List Hint.Value)) :
    Silent (fieldValues s type values) := by
  cases values with
  | none => exact silent_pure _
  | some values => exact (silent_typedValues s type values).bind fun _ => silent_pure _

theorem emits_fieldValues {setup : Setup} {here : Location} (s : Site) (type : Option String)
    (values : Option (List Hint.Value)) : Emits setup here (fieldValues s type values) [] := by
  cases values with
  | none => exact emits_pure _
  | some values => exact (emits_typedValues s type values).then fun _ _ => emits_pure _

/-- A compiled field is its shape with the values that it allows. -/
theorem compileField_ok {node : Node} (h : compileField s f = ⟨rs, .ok node⟩) :
    ∃ first last values, fieldShape s f = ⟨first, .ok node.shape⟩ ∧
      fieldValues s node.shape.type? f.enum = ⟨last, .ok values⟩ ∧ rs = first ++ last ∧ node.facets = facetsOf f values := by
  rw [compileField_eq] at h
  obtain ⟨first, shape, rest, hshape, hrest, rfl⟩ := Noted.bind_eq_ok.mp h
  obtain ⟨last, values, none, hvalues, hnode, rfl⟩ := Noted.bind_eq_ok.mp hrest
  cases hnode
  exact ⟨first, last, values, hshape, hvalues, by rw [List.append_nil], rfl⟩

/-- Fields inside a field keep their names. -/
theorem map_fst_of_compileProperties {fields : List (String × Field)} {nodes : List (String × Node)}
    (h : compileProperties s fields = ⟨rs, .ok nodes⟩) : nodes.map (·.1) = fields.map (·.1) := by
  induction fields generalizing rs nodes with
  | nil =>
    rw [compileProperties] at h
    cases h
    rfl
  | cons p rest ih =>
    obtain ⟨name, f⟩ := p
    rw [compileProperties] at h
    obtain ⟨first, node, later, hnode, hlater, rfl⟩ := Noted.bind_eq_ok.mp h
    obtain ⟨others, nodes, last, hnodes, hlast, rfl⟩ := Noted.bind_eq_ok.mp hlater
    cases hlast
    exact congrArg (name :: ·) (ih hnodes)

theorem shape_of_compileItems {o : Option Field} {shape : Shape} (h : compileItems s o = ⟨rs, .ok shape⟩) :
    shape = .typed "array" none ∨ ∃ items, shape = .array items := by
  cases o with
  | none =>
    rw [compileItems] at h
    cases h
    exact .inl rfl
  | some f =>
    rw [compileItems] at h
    obtain ⟨first, node, last, hnode, hlast, rfl⟩ := Noted.bind_eq_ok.mp h
    cases hlast
    exact .inr ⟨node, rfl⟩

theorem decided_of_fieldShape {shape : Shape} (h : fieldShape s f = ⟨rs, .ok shape⟩) : Decided s f shape := by
  unfold fieldShape at h
  split at h
  next harray =>
    have hpath := decidingPath?_of_isPrimitive (Bool.and_eq_true_iff.mp harray).1
    have hshape := shape_of_compileItems h
    refine ⟨fun path kind hsome => ?_, fun _ target href => ?_, fun nodes required hobject => ?_⟩
    · rw [hpath] at hsome
      cases hsome
    · rcases hshape with rfl | ⟨items, rfl⟩ <;> cases href
    · rcases hshape with rfl | ⟨items, rfl⟩ <;> cases hobject
  next =>
    split at h
    next hobject =>
      have hpath := decidingPath?_of_isPrimitive (Bool.and_eq_true_iff.mp hobject).1
      obtain ⟨first, nodes, last, hnodes, hlast, rfl⟩ := Noted.bind_eq_ok.mp h
      cases hlast
      refine ⟨fun path kind hsome => ?_, fun _ target href => ?_, fun nodes' required hobject => ?_⟩
      · rw [hpath] at hsome
        cases hsome
      · cases href
      · cases hobject
        exact ⟨map_fst_of_compileProperties hnodes, rfl⟩
    next => exact (decided_of_plainShape h).1

/-- The fields that have become schemas in a run: each was compiled in it, the run says as often that a path names
nothing as there are such fields, and asks for enumerations that they define. -/
structure Traced (s : Site) (pairs : List (Field × Node)) (rs : List Remark) : Prop where
  ran : ∀ p ∈ pairs, ∃ own, compileField s p.1 = ⟨own, .ok p.2⟩ ∧ own.Sublist rs
  tally : ∀ name, tally name rs = if name = s.field then pairs.countP (fun p => unresolved s p.1) else 0
  asked : Asked s (pairs.map (·.1)) rs

namespace Traced

theorem nil (s : Site) : Traced s [] [] where
  ran _ hp := absurd hp List.not_mem_nil
  tally name := by simp [Schema.tally]
  asked _ he := absurd he List.not_mem_nil

theorem append {pairs more : List (Field × Node)} (h : Traced s pairs rs) (h' : Traced s more ss) :
    Traced s (pairs ++ more) (rs ++ ss) where
  ran p hp := by
    rcases List.mem_append.mp hp with hp | hp
    · obtain ⟨own, hown, hsub⟩ := h.ran p hp
      exact ⟨own, hown, hsub.trans (List.sublist_append_left _ _)⟩
    · obtain ⟨own, hown, hsub⟩ := h'.ran p hp
      exact ⟨own, hown, hsub.trans (List.sublist_append_right _ _)⟩
  tally name := by
    rw [tally_append, h.tally, h'.tally, List.countP_append]
    split <;> rfl
  asked := by
    rw [List.map_append]
    exact h.asked.append h'.asked

end Traced

/-- What a run for the shape of a field leaves: the fields inside it are traced, and the field itself counts once more if
its path names nothing. -/
structure Within (s : Site) (f : Field) (inside : List (Field × Node)) (rs : List Remark) : Prop where
  ran : ∀ p ∈ inside, ∃ own, compileField s p.1 = ⟨own, .ok p.2⟩ ∧ own.Sublist rs
  tally : ∀ name, tally name rs =
    if name = s.field then inside.countP (fun p => unresolved s p.1) + (if unresolved s f = true then 1 else 0) else 0
  asked : Asked s (f :: inside.map (·.1)) rs

theorem Traced.within {inside : List (Field × Node)} (h : Traced s inside rs) (hpath : decidingPath? f = none) :
    Within s f inside rs where
  ran := h.ran
  tally name := by
    rw [h.tally name, unresolved, hpath]
    rfl
  asked e he := by
    obtain ⟨g, hg, hrest⟩ := h.asked e he
    exact ⟨g, List.mem_cons_of_mem f hg, hrest⟩

theorem within_plain {shape : Shape} (h : plainShape s (Decider.of f) = ⟨rs, .ok shape⟩) : Within s f [] rs where
  ran _ hp := absurd hp List.not_mem_nil
  tally name := by
    rw [(decided_of_plainShape h).2.2.2 name]
    by_cases hname : name = s.field <;> simp [hname]
  asked := asked_of_plainShape h

theorem Within.field {node : Node} {inside : List (Field × Node)} (h : compileField s f = ⟨rs, .ok node⟩)
    (hshape : ∀ first, fieldShape s f = ⟨first, .ok node.shape⟩ → Within s f inside first) :
    Traced s ((f, node) :: inside) rs := by
  obtain ⟨first, last, values, hfirst, hvalues, hrs, _⟩ := compileField_ok h
  obtain ⟨hran, htally, hasked⟩ := hshape first hfirst
  refine ⟨fun p hp => ?_, fun name => ?_, ?_⟩
  · rcases List.mem_cons.mp hp with rfl | hp
    · exact ⟨rs, h, .refl rs⟩
    · obtain ⟨own, hown, hsub⟩ := hran p hp
      exact ⟨own, hown, hrs ▸ hsub.trans (List.sublist_append_left _ _)⟩
  · have hlast := silent_fieldValues s node.shape.type? f.enum name
    rw [hvalues] at hlast
    rw [hrs, tally_append, hlast, htally, List.countP_cons]
    rfl
  · have hnone : Asked s [] last := .of_emits (emits_fieldValues s node.shape.type? f.enum) hvalues
    rw [hrs, List.map_cons, ← List.append_nil (f :: _)]
    exact hasked.append hnone

mutual
/-- Every schema in the schema of a field is what its own field compiles to. -/
theorem traced_compileField (s : Site) : (f : Field) → {rs : List Remark} → {node : Node} →
    compileField s f = ⟨rs, .ok node⟩ → Traced s (origins f node) rs
  | f@{ items, properties, .. }, rs, node, h => by
    rw [origins]
    refine Within.field h fun first hshape => ?_
    generalize node.shape = shape at hshape ⊢
    unfold fieldShape at hshape
    split at hshape
    next harray =>
      have hpath := decidingPath?_of_isPrimitive (Bool.and_eq_true_iff.mp harray).1
      have hnone : shape.properties = [] := by
        rcases shape_of_compileItems hshape with h | ⟨_, h⟩ <;> rw [h] <;> rfl
      rw [hnone, propertyOrigins_nil, List.append_nil]
      exact (traced_compileItems s items hshape).within hpath
    next =>
      split at hshape
      next hobject =>
        have hpath := decidingPath?_of_isPrimitive (Bool.and_eq_true_iff.mp hobject).1
        obtain ⟨inner, nodes, last, hnodes, hlast, rfl⟩ := Noted.bind_eq_ok.mp hshape
        cases hlast
        show Within s _ (itemOrigins items none ++ propertyOrigins properties nodes) (inner ++ [])
        rw [itemOrigins_none, List.nil_append, List.append_nil]
        exact (traced_compileProperties s properties hnodes).within hpath
      next =>
        obtain ⟨_, hitems, hproperties, _⟩ := decided_of_plainShape hshape
        rw [hitems, hproperties, itemOrigins_none, propertyOrigins_nil, List.append_nil]
        exact within_plain hshape

theorem traced_compileItems (s : Site) : (o : Option Field) → {rs : List Remark} → {shape : Shape} →
    compileItems s o = ⟨rs, .ok shape⟩ → Traced s (itemOrigins o shape.items?) rs
  | none, rs, shape, h => by
    rw [compileItems] at h
    cases h
    rw [itemOrigins.eq_def]
    exact .nil s
  | some f, rs, shape, h => by
    rw [compileItems] at h
    obtain ⟨first, node, last, hnode, hlast, rfl⟩ := Noted.bind_eq_ok.mp h
    cases hlast
    rw [Shape.items?, itemOrigins, List.append_nil]
    exact traced_compileField s f hnode

theorem traced_compileProperties (s : Site) : (fields : List (String × Field)) → {rs : List Remark} →
    {nodes : List (String × Node)} → compileProperties s fields = ⟨rs, .ok nodes⟩ →
    Traced s (propertyOrigins fields nodes) rs
  | [], rs, nodes, h => by
    rw [compileProperties] at h
    cases h
    rw [propertyOrigins.eq_def]
    exact .nil s
  | (name, f) :: rest, rs, nodes, h => by
    rw [compileProperties] at h
    obtain ⟨first, node, later, hnode, hlater, rfl⟩ := Noted.bind_eq_ok.mp h
    obtain ⟨others, nodes, last, hnodes, hlast, rfl⟩ := Noted.bind_eq_ok.mp hlater
    cases hlast
    rw [propertyOrigins, List.append_nil]
    exact (traced_compileField s f hnode).append (traced_compileProperties s rest hnodes)
end

theorem map_fst_of_compileFields {fields : List (String × Field)} {nodes : List (String × Node)}
    (h : compileFields s fields = ⟨rs, .ok nodes⟩) : nodes.map (·.1) = fields.map (·.1) := by
  induction fields generalizing rs nodes with
  | nil =>
    cases h
    rfl
  | cons p rest ih =>
    obtain ⟨first, node, later, hnode, hlater, rfl⟩ := Noted.bind_eq_ok.mp h
    obtain ⟨others, nodes, last, hnodes, hlast, rfl⟩ := Noted.bind_eq_ok.mp hlater
    cases hlast
    exact congrArg (p.1 :: ·) (ih hnodes)

/-- A run for fields of other names says nothing of a name. -/
theorem tally_compileFields {name : String} {fields : List (String × Field)} {nodes : List (String × Node)}
    (hname : name ∉ fields.map (·.1)) (h : compileFields s fields = ⟨rs, .ok nodes⟩) : tally name rs = 0 := by
  induction fields generalizing rs nodes with
  | nil =>
    cases h
    rfl
  | cons p rest ih =>
    obtain ⟨first, node, later, hnode, hlater, rfl⟩ := Noted.bind_eq_ok.mp h
    obtain ⟨others, nodes, last, hnodes, hlast, rfl⟩ := Noted.bind_eq_ok.mp hlater
    cases hlast
    obtain ⟨hfirst, hrest⟩ := not_or.mp (List.mem_cons.not.mp hname)
    rw [List.append_nil, tally_append, (traced_compileField _ p.2 hnode).tally name, if_neg hfirst, ih hrest hnodes]

/-- Each field of a block is compiled in the run for all of them, and what is said of its name is said there. -/
theorem exists_compiled {fields : List (String × Field)} {nodes : List (String × Node)}
    (hnames : (fields.map (·.1)).Nodup) (h : compileFields s fields = ⟨rs, .ok nodes⟩) {name : String}
    (hf : (name, f) ∈ fields) : ∃ node own, (name, node) ∈ nodes ∧
      compileField { s with field := name } f = ⟨own, .ok node⟩ ∧ own.Sublist rs ∧ tally name rs = tally name own := by
  induction fields generalizing rs nodes with
  | nil => cases hf
  | cons p rest ih =>
    obtain ⟨first, node, later, hnode, hlater, rfl⟩ := Noted.bind_eq_ok.mp h
    obtain ⟨others, nodes, last, hnodes, hlast, rfl⟩ := Noted.bind_eq_ok.mp hlater
    cases hlast
    obtain ⟨hfirst, hrest⟩ := List.nodup_cons.mp hnames
    rw [List.append_nil]
    rcases List.mem_cons.mp hf with rfl | hf
    · refine ⟨node, first, List.mem_cons_self, hnode, List.sublist_append_left _ _, ?_⟩
      rw [tally_append, tally_compileFields hfirst hnodes, Nat.add_zero]
    · obtain ⟨node', own, hmem, hown, hsub, htally⟩ := ih hrest hnodes hf
      have hother : name ≠ p.1 := fun he => hfirst (List.mem_map.mpr ⟨(name, f), hf, he⟩)
      refine ⟨node', own, List.mem_cons_of_mem _ hmem, hown, hsub.trans (List.sublist_append_right _ _), ?_⟩
      rw [tally_append, (traced_compileField _ p.2 hnode).tally name, if_neg hother, Nat.zero_add, htally]

end Steps

end NoteSchema.Schema
