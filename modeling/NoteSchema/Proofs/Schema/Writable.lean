import NoteSchema.Proofs.Schema.Requested

namespace NoteSchema

namespace Hint

/-- Whether a value can be written as a literal: a mapping with entries cannot. -/
def Value.isLiteral : Value → Bool
  | .mapping (_ :: _) => false
  | _ => true

/-- Whether a value can be tried as a number: a whole numeral with too many digits cannot. -/
def Value.isCountable : Value → Bool
  | .text s =>
    match Number.numeral? s.toList with
    | some (_, whole, none) => whole.length ≤ Decimal.digitLimit
    | _ => true
  | _ => true

/-- Whether the values of an enumeration can be compiled. -/
def EnumDefinition.isWritable (d : EnumDefinition) : Bool :=
  match d.type with
  | .integer => d.values.all Value.isCountable
  | .string => d.values.all fun v => !v.isMapping

end Hint

namespace Schema

open Hint (Value EnumDefinition)

/-- The type that a field declares for its values. -/
def declaredType? (f : Hint.Field) : Option String :=
  match Decider.of f with
  | .type name =>
    match TypeName.of name with
    | .short type _ => some type
    | .primitive type => some type
    | .className _ => none
  | .const v => v.literalType?
  | _ => none

/-- Whether values can be written under a type: as numbers where numbers are asked for, else as they are. -/
def valuesWritable (type : Option String) (values : List Value) : Bool :=
  if type = some "integer" ∨ type = some "number" then values.all Value.isCountable else values.all Value.isLiteral

/-- Whether the literals of a field can be written, those of the fields inside it apart. -/
def literalsWritable (f : Hint.Field) : Bool :=
  f.const.all Value.isLiteral && f.default.all Value.isLiteral && f.enum.all (valuesWritable (declaredType? f))

mutual
/-- Whether the literals of a field and of the fields inside it can be written. -/
def fieldWritable : Hint.Field → Bool
  | f@{ items, properties, .. } =>
    literalsWritable f &&
      if isPrimitive f "array" && f.items.isSome then itemsWritable items
      else if isPrimitive f "object" && !f.properties.isEmpty then fieldsWritable properties
      else true

def itemsWritable : Option Hint.Field → Bool
  | none => true
  | some f => fieldWritable f

def fieldsWritable : List (String × Hint.Field) → Bool
  | [] => true
  | (_, f) :: rest => fieldWritable f && fieldsWritable rest
end

/-- Whether a block can be compiled and written: no literal in it is a mapping with entries and no numeral is too long where
numbers are asked for; where an enumeration is to be written none of its values is a mapping. -/
def blockWritable (setup : Setup) (here : Location) (b : Hint.Block) : Bool :=
  fieldsWritable b.fields &&
    ((definitionsOfFields b.fields).filterMap (placed? setup here)).all fun m => m.definition.isWritable

section Steps

variable {α β : Type} {P : α → Prop} {Q : β → Prop} {s : Site}

/-- Compiling goes through, with a result of a kind. -/
def Succeeds (x : Compiling α) (P : α → Prop) : Prop := ∃ a, x.outcome = .ok a ∧ P a

theorem succeeds_pure {a : α} (h : P a) : Succeeds (pure a) P := ⟨a, rfl, h⟩

theorem Succeeds.bind {x : Compiling α} {f : α → Compiling β} (hx : Succeeds x P) (hf : ∀ a, P a → Succeeds (f a) Q) :
    Succeeds (x >>= f) Q := by
  obtain ⟨a, ha, hp⟩ := hx
  obtain ⟨b, hb, hq⟩ := hf a hp
  exact ⟨b, Noted.outcome_bind_eq_ok.mpr ⟨a, ha, hb⟩, hq⟩

theorem succeeds_report (s : Site) (severity : Severity) (message : String) :
    Succeeds (s.report severity message) fun _ => True := ⟨(), rfl, trivial⟩

theorem exists_numberOf? (integer : Bool) {v : Value} (h : v.isCountable = true) : ∃ n, numberOf? integer v = .ok n := by
  unfold numberOf?
  split
  next n => exact ⟨_, rfl⟩
  next text =>
    split
    next negative whole fraction hn =>
      split
      next => exact ⟨_, rfl⟩
      next =>
        cases fraction with
        | some fraction => exact ⟨_, rfl⟩
        | none =>
          have hlimit : ¬ Decimal.digitLimit < whole.length := by
            simpa [Value.isCountable, hn] using h
          exact ⟨_, by simp only [Number.ofNumeral, Decimal.readInt, hlimit, if_false, Except.map]; rfl⟩
    next => exact ⟨_, rfl⟩
  next => exact ⟨_, rfl⟩

/-- Values tried as numbers leave numbers. -/
theorem succeeds_numbersOf (s : Site) (type : String) {values : List Value} (h : values.all Value.isCountable = true) :
    Succeeds (numbersOf s type values) fun vs => ∀ v ∈ vs, ∃ n, v = .number n := by
  induction values with
  | nil => exact succeeds_pure (by simp)
  | cons v vs ih =>
    rw [List.all_cons, Bool.and_eq_true] at h
    obtain ⟨n, hn⟩ := exists_numberOf? (type == "integer") h.1
    refine Succeeds.bind (P := fun _ => True) ⟨n, hn, trivial⟩ fun m _ => ?_
    cases m with
    | none => exact (succeeds_report s _ _).bind fun _ _ => ih h.2
    | some n =>
      refine (ih h.2).bind fun rest hrest => succeeds_pure fun w hw => ?_
      rcases List.mem_cons.mp hw with rfl | hw
      · exact ⟨n, rfl⟩
      · exact hrest w hw

theorem succeeds_typedValues (s : Site) {type : Option String} {values : List Value} (h : valuesWritable type values = true) :
    Succeeds (typedValues s type values) fun vs => ∀ v ∈ vs, v.isLiteral = true := by
  have hnumbers (vs : List Value) (hvs : ∀ v ∈ vs, ∃ n, v = .number n) : ∀ v ∈ vs, v.isLiteral = true := by
    intro v hv
    obtain ⟨n, rfl⟩ := hvs v hv
    rfl
  unfold valuesWritable at h
  unfold typedValues
  split
  next =>
    obtain ⟨vs, hvs, hall⟩ := succeeds_numbersOf s "integer" (by simpa using h)
    exact ⟨vs, hvs, hnumbers vs hall⟩
  next =>
    obtain ⟨vs, hvs, hall⟩ := succeeds_numbersOf s "number" (by simpa using h)
    exact ⟨vs, hvs, hnumbers vs hall⟩
  next hinteger hnumber =>
    rw [if_neg (not_or.mpr ⟨hinteger, hnumber⟩)] at h
    exact succeeds_pure (by simpa using h)

theorem exists_scalars {values : List Value} (h : ∀ v ∈ values, v.isMapping = false) : ∃ ds, scalars values = .ok ds := by
  induction values with
  | nil => exact ⟨_, rfl⟩
  | cons v vs ih =>
    obtain ⟨ds, hds⟩ := ih fun w hw => h w (List.mem_cons_of_mem v hw)
    have hv := h v List.mem_cons_self
    refine ⟨v.toDocument :: ds, ?_⟩
    cases v with
    | mapping entries => cases hv
    | _ => simp only [scalars, hds]; rfl

theorem succeeds_destinationOf (s : Site) (d : EnumDefinition) (id : ArtifactId) :
    Succeeds (destinationOf s d id) fun _ => True := ⟨_, outcome_destinationOf s d id, trivial⟩

theorem succeeds_emissionOf (s : Site) {d : EnumDefinition} (h : d.isWritable = true) (id : ArtifactId) :
    Succeeds (emissionOf s d id) fun _ => True := by
  unfold emissionOf
  refine (succeeds_destinationOf s d id).bind fun _ _ => ?_
  have hvalues : Succeeds (typedValues s (some d.type.text) d.values) fun vs => ∀ v ∈ vs, v.isMapping = false := by
    unfold EnumDefinition.isWritable at h
    cases ht : d.type with
    | integer =>
      rw [ht] at h
      obtain ⟨vs, hvs, hall⟩ := succeeds_numbersOf s "integer" h
      refine ⟨vs, hvs, fun v hv => ?_⟩
      obtain ⟨n, rfl⟩ := hall v hv
      rfl
    | string =>
      rw [ht] at h
      exact succeeds_pure (by simpa using h)
  refine hvalues.bind fun vs hvs => ?_
  obtain ⟨ds, hds⟩ := exists_scalars hvs
  exact Succeeds.bind (P := fun _ => True) ⟨ds, hds, trivial⟩ fun _ _ => succeeds_pure trivial

theorem succeeds_refShape (s : Site) (path : String) (kind : ArtifactKind) :
    Succeeds (refShape s path kind) fun shape => shape.type? = none ∧ ∃ ms, shape.toMembers = .ok ms := by
  unfold refShape
  split
  next => exact succeeds_pure ⟨rfl, _, rfl⟩
  next => exact (succeeds_report s _ _).bind fun _ _ => succeeds_pure ⟨rfl, _, rfl⟩

theorem succeeds_enumShape (s : Site) {d : EnumDefinition}
    (h : ∀ m, placed? s.setup s.location d = some m → m.definition.isWritable = true) :
    Succeeds (enumShape s d) fun shape => shape.type? = none ∧ ∃ ms, shape.toMembers = .ok ms := by
  unfold enumShape
  split
  next => exact (succeeds_report s _ _).bind fun _ _ => succeeds_pure ⟨rfl, _, rfl⟩
  next target ht =>
    have href : Succeeds (pure (Shape.ref target.ref)) fun shape : Shape =>
        shape.type? = none ∧ ∃ ms, shape.toMembers = .ok ms := succeeds_pure ⟨rfl, _, rfl⟩
    dsimp only
    split
    next hon =>
      cases hid : target.artifact with
      | none => exact (succeeds_report s _ _).bind fun _ _ => href
      | some id =>
        have hplaced : placed? s.setup s.location d = some ⟨destination s.setup d id, id, d⟩ := by
          rw [placed?, if_pos hon, show Reference.resolve _ _ _ _ = _ from ht]
          simp [hid]
        refine (succeeds_emissionOf s (h _ hplaced) id).bind fun r _ => ?_
        exact Succeeds.bind (P := fun _ => True) ⟨(), rfl, trivial⟩ fun _ _ => href
    next => exact href

/-- The shape of a field that holds no field of its own has the type that the field declares. -/
theorem succeeds_plainShape (s : Site) (f : Hint.Field)
    (h : ∀ d ∈ (Decider.of f).definitions, ∀ m, placed? s.setup s.location d = some m → m.definition.isWritable = true) :
    Succeeds (plainShape s (Decider.of f)) fun shape =>
      shape.type? = declaredType? f ∧ ∃ ms, shape.toMembers = .ok ms := by
  unfold declaredType?
  cases hd : Decider.of f with
  | enumFrom path => exact succeeds_refShape s path _
  | enumDefine d => exact succeeds_enumShape s (h d (by rw [hd]; exact List.mem_singleton_self d))
  | ref path => exact succeeds_refShape s path _
  | type name =>
    dsimp only
    rw [plainShape]
    cases TypeName.of name with
    | short type format => exact succeeds_pure ⟨rfl, _, rfl⟩
    | primitive type => exact succeeds_pure ⟨rfl, _, rfl⟩
    | className name => exact succeeds_refShape s _ _
  | const v =>
    dsimp only
    rw [plainShape]
    cases v.literalType? with
    | none => exact succeeds_pure ⟨rfl, _, rfl⟩
    | some type => exact succeeds_pure ⟨rfl, _, rfl⟩
  | nothing => exact succeeds_pure ⟨rfl, _, rfl⟩

/-- A node can be written. -/
def Written (node : Node) : Prop := ∃ d, node.toDocument = .ok d

theorem exists_literal? {v : Value} (h : v.isLiteral = true) : ∃ d, v.literal? = .ok d := by
  unfold Value.literal?
  split
  next => exact ⟨_, rfl⟩
  next => cases h
  next => exact ⟨_, rfl⟩

theorem exists_literalMember (name : String) {v : Option Value} (h : v.all Value.isLiteral = true) :
    ∃ ms, Facets.literalMember name v = .ok ms := by
  cases v with
  | none => exact ⟨_, rfl⟩
  | some v =>
    obtain ⟨d, hd⟩ := exists_literal? (by simpa using h)
    exact ⟨[(name, d)], by rw [Facets.literalMember, hd]; rfl⟩

theorem exists_writtenAll {values : List Value} (h : ∀ v ∈ values, v.isLiteral = true) :
    ∃ ds, writtenAll values = .ok ds := by
  induction values with
  | nil => exact ⟨_, rfl⟩
  | cons v vs ih =>
    obtain ⟨ds, hds⟩ := ih fun w hw => h w (List.mem_cons_of_mem v hw)
    have hv := h v List.mem_cons_self
    obtain ⟨d, hd⟩ : ∃ d, v.written? = .ok d := by
      unfold Value.written?
      split
      next => cases hv
      next => exact ⟨_, rfl⟩
    exact ⟨d :: ds, by simp only [writtenAll, hd, hds]; rfl⟩

/-- A node can be written if its shape and its literals can. -/
theorem written_mk {shape : Shape} {f : Hint.Field} {values : Option (List Value)}
    (hshape : ∃ ms, shape.toMembers = .ok ms) (hf : literalsWritable f = true)
    (hvalues : ∀ vs ∈ values, ∀ v ∈ vs, v.isLiteral = true) : Written (.mk shape (facetsOf f values)) := by
  simp only [literalsWritable, Bool.and_eq_true] at hf
  obtain ⟨ms, hms⟩ := hshape
  obtain ⟨const, hconst⟩ := exists_literalMember "const" hf.1.1
  obtain ⟨default, hdefault⟩ := exists_literalMember "default" hf.1.2
  obtain ⟨enum, henum⟩ : ∃ enum, (facetsOf f values).enumMember = .ok enum := by
    cases values with
    | none => exact ⟨_, rfl⟩
    | some vs =>
      obtain ⟨ds, hds⟩ := exists_writtenAll (hvalues vs rfl)
      exact ⟨[("enum", .arr ds)], by simp only [Facets.enumMember, facetsOf, hds]; rfl⟩
  have haround : ∃ all, (facetsOf f values).around ms = .ok all := by
    simp only [Facets.around, henum, show (facetsOf f values).const = f.const from rfl, hconst,
      show (facetsOf f values).default = f.default from rfl, hdefault, bind, Except.bind, pure, Except.pure]
    exact ⟨_, rfl⟩
  obtain ⟨all, hall⟩ := haround
  exact ⟨.obj all, by simp only [Node.toDocument, hms, bind, Except.bind, hall]; rfl⟩

theorem succeeds_values (s : Site) {f : Hint.Field} (hf : literalsWritable f = true) {shape : Shape}
    (htype : shape.type? = declaredType? f) (hshape : ∃ ms, shape.toMembers = .ok ms) :
    Succeeds
      (match f.enum with
        | none => return Node.mk shape (facetsOf f none)
        | some values => do
          let values ← typedValues s shape.type? values
          return Node.mk shape (facetsOf f (some values))) Written := by
  split
  next => exact succeeds_pure (written_mk hshape hf (by simp))
  next values hvalues =>
    have hfit : valuesWritable (declaredType? f) values = true := by
      simp only [literalsWritable, Bool.and_eq_true, hvalues] at hf
      simpa using hf.2
    rw [← htype] at hfit
    refine (succeeds_typedValues s hfit).bind fun vs hvs => succeeds_pure (written_mk hshape hf ?_)
    rintro _ ⟨⟩
    exact hvs

theorem declaredType?_of_isPrimitive {f : Hint.Field} {type : String} (h : isPrimitive f type = true) :
    declaredType? f = some type := by
  unfold isPrimitive at h
  unfold declaredType?
  split at h
  next name hname =>
    split at h
    next t ht => simp only [hname, ht, beq_iff_eq.mp h]
    next => cases h
  next => cases h

mutual
/-- A field whose literals can be written compiles to a node that can be written. -/
theorem succeeds_compileField (s : Site) : (f : Hint.Field) → fieldWritable f = true →
    (∀ d ∈ definitionsOf f, ∀ m, placed? s.setup s.location d = some m → m.definition.isWritable = true) →
    Succeeds (compileField s f) Written
  | f@{ items, properties, .. } => by
    intro hf hd
    rw [fieldWritable, Bool.and_eq_true] at hf
    rw [definitionsOf] at hd
    rw [compileField]
    obtain ⟨hliterals, hinner⟩ := hf
    split at hd
    next harray =>
      rw [if_pos harray] at hinner
      rw [if_pos harray]
      refine (succeeds_compileItems s items hinner hd).bind fun shape hshape => ?_
      refine succeeds_values s hliterals (hshape.1.trans ?_) hshape.2
      exact (declaredType?_of_isPrimitive (Bool.and_eq_true_iff.mp harray).1).symm
    next harray =>
      rw [if_neg harray] at hinner
      rw [if_neg harray]
      split at hd
      next hobject =>
        rw [if_pos hobject] at hinner
        rw [if_pos hobject]
        refine (succeeds_compileProperties s properties hinner hd).bind fun nodes hnodes => ?_
        have hshape : Succeeds (pure (Shape.object nodes (requiredNames properties))) fun shape : Shape =>
            shape.type? = some "object" ∧ ∃ ms, shape.toMembers = .ok ms := by
          obtain ⟨ds, hds⟩ := hnodes
          exact succeeds_pure ⟨rfl, _, by simp only [Shape.toMembers, hds, bind, Except.bind]; rfl⟩
        refine hshape.bind fun shape hshape => ?_
        refine succeeds_values s hliterals (hshape.1.trans ?_) hshape.2
        exact (declaredType?_of_isPrimitive (Bool.and_eq_true_iff.mp hobject).1).symm
      next hobject =>
        rw [if_neg hobject]
        exact (succeeds_plainShape s _ hd).bind fun shape hshape => succeeds_values s hliterals hshape.1 hshape.2

theorem succeeds_compileItems (s : Site) : (o : Option Hint.Field) → itemsWritable o = true →
    (∀ d ∈ definitionsOfItems o, ∀ m, placed? s.setup s.location d = some m → m.definition.isWritable = true) →
    Succeeds (compileItems s o) fun shape => shape.type? = some "array" ∧ ∃ ms, shape.toMembers = .ok ms
  | none => fun _ _ => succeeds_pure ⟨rfl, _, rfl⟩
  | some f => by
    intro hf hd
    rw [itemsWritable] at hf
    rw [definitionsOfItems] at hd
    rw [compileItems]
    refine (succeeds_compileField s f hf hd).bind fun node hnode => succeeds_pure ⟨rfl, ?_⟩
    obtain ⟨d, hd⟩ := hnode
    exact ⟨_, by simp only [Shape.toMembers, hd, bind, Except.bind]; rfl⟩

theorem succeeds_compileProperties (s : Site) : (fields : List (String × Hint.Field)) → fieldsWritable fields = true →
    (∀ d ∈ definitionsOfFields fields, ∀ m, placed? s.setup s.location d = some m → m.definition.isWritable = true) →
    Succeeds (compileProperties s fields) fun nodes => ∃ ds, propertyMembers nodes = .ok ds
  | [] => fun _ _ => succeeds_pure ⟨_, rfl⟩
  | (name, f) :: rest => by
    intro hf hd
    rw [fieldsWritable, Bool.and_eq_true] at hf
    rw [definitionsOfFields] at hd
    rw [compileProperties]
    refine (succeeds_compileField s f hf.1 fun d h => hd d (List.mem_append_left _ h)).bind fun node hnode => ?_
    refine (succeeds_compileProperties s rest hf.2 fun d h => hd d (List.mem_append_right _ h)).bind fun nodes hnodes => ?_
    obtain ⟨d, hd⟩ := hnode
    obtain ⟨ds, hds⟩ := hnodes
    exact succeeds_pure ⟨(name, d) :: ds, by simp only [propertyMembers, hd, hds, bind, Except.bind]; rfl⟩
end

theorem succeeds_compileFields (s : Site) {fields : List (String × Hint.Field)} (hf : fieldsWritable fields = true)
    (hd : ∀ d ∈ definitionsOfFields fields, ∀ m, placed? s.setup s.location d = some m → m.definition.isWritable = true) :
    Succeeds (compileFields s fields) fun nodes => ∃ ds, propertyMembers nodes = .ok ds := by
  induction fields with
  | nil => exact succeeds_pure ⟨_, rfl⟩
  | cons m rest ih =>
    obtain ⟨name, f⟩ := m
    rw [fieldsWritable, Bool.and_eq_true] at hf
    rw [definitionsOfFields] at hd
    rw [compileFields]
    have hfirst := succeeds_compileField { s with field := name } f hf.1 fun d h => hd d (List.mem_append_left _ h)
    refine hfirst.bind fun node hnode => (ih hf.2 fun d h => hd d (List.mem_append_right _ h)).bind fun nodes hnodes => ?_
    obtain ⟨d, hd⟩ := hnode
    obtain ⟨ds, hds⟩ := hnodes
    exact succeeds_pure ⟨(name, d) :: ds, by simp only [propertyMembers, hd, hds, bind, Except.bind]; rfl⟩

theorem succeeds_when {b : Bool} {x : Compiling Unit} (h : Succeeds x fun _ => True) :
    Succeeds (Noted.when b x) fun _ => True := by
  unfold Noted.when
  split
  next => exact h
  next => exact succeeds_pure trivial

theorem succeeds_noteUndeclared (s : Site) (b : Hint.Block) (names : List String) :
    Succeeds (noteUndeclared s b names) fun _ => True := by
  induction names with
  | nil => exact succeeds_pure trivial
  | cons name rest ih => exact (succeeds_when (succeeds_report _ _ _)).bind fun _ _ => ih

theorem succeeds_noteUnknownChoice (s : Site) (b : Hint.Block) (names : List String) :
    Succeeds (noteUnknownChoice s b names) fun _ => True := by
  induction names with
  | nil => exact succeeds_pure trivial
  | cons name rest ih => exact (succeeds_when (succeeds_report _ _ _)).bind fun _ _ => ih

theorem succeeds_alternatives (s : Site) (ds : List Document) : Succeeds (alternatives s ds) fun _ => True := by
  induction ds with
  | nil => exact succeeds_pure trivial
  | cons d rest ih =>
    cases d with
    | str name =>
      rw [alternatives]
      split
      next => exact ih.bind fun _ _ => succeeds_pure trivial
      next => exact (succeeds_report s _ _).bind fun _ _ => ih
    | _ => exact ih.bind fun _ _ => succeeds_pure trivial

/-- A block whose literals can be written compiles to a class that can be written. -/
theorem exists_compile {setup : Setup} {here : Location} {b : Hint.Block} (h : blockWritable setup here b = true)
    (base : String) (dialect : Document) :
    ∃ c, compile setup here b = .ok c ∧ ∃ d, c.schema.toDocument base dialect = .ok d := by
  rw [blockWritable, Bool.and_eq_true, List.all_eq_true] at h
  have hclass : Succeeds (Class.ofBlock setup here b) fun schema =>
      ∃ ds, propertyMembers schema.properties = .ok ds := by
    unfold Class.ofBlock
    refine (succeeds_compileFields _ h.1 fun d hd m hm => h.2 m (List.mem_filterMap.mpr ⟨d, hd, hm⟩)).bind
      fun nodes hnodes => ?_
    refine (succeeds_noteUndeclared _ b _).bind fun _ _ => ?_
    refine (succeeds_alternatives _ b.oneOf).bind fun oneOf _ => ?_
    refine (succeeds_alternatives _ b.anyOf).bind fun anyOf _ => ?_
    refine (succeeds_alternatives _ b.allOf).bind fun allOf _ => ?_
    exact (succeeds_noteUnknownChoice _ b b.xor).bind fun _ _ => succeeds_pure hnodes
  obtain ⟨schema, hschema, ds, hds⟩ := hclass
  refine ⟨_, by simp only [compile, hschema]; rfl, ?_⟩
  exact ⟨_, by simp only [Class.toDocument, hds, bind, Except.bind]; rfl⟩

end Steps

end Schema

end NoteSchema
