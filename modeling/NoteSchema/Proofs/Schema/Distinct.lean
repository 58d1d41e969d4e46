import NoteSchema.Proofs.Hint.Keyed
import NoteSchema.Proofs.Schema.Requested

namespace NoteSchema

namespace Members

variable {names more : List String} {ms ns : Members String}

/-- Members named by some of the given names, in their order, with no object in them that names two members alike. -/
structure Among (names : List String) (ms : Members String) : Prop where
  keys : ms.keys.Sublist names
  values : ∀ m ∈ ms, m.2.Distinct

namespace Among

theorem none (names : List String) : Among names [] := ⟨List.nil_sublist names, fun _ hm => absurd hm List.not_mem_nil⟩

theorem one {name : String} {d : Document} (h : d.Distinct) : Among [name] [(name, d)] :=
  ⟨.refl _, fun _ hm => List.mem_singleton.mp hm ▸ h⟩

theorem append (h : Among names ms) (h' : Among more ns) : Among (names ++ more) (ms ++ ns) where
  keys := by
    rw [Members.keys, List.map_append]
    exact h.keys.append h'.keys
  values m hm := (List.mem_append.mp hm).elim (h.values m) (h'.values m)

theorem widen (h : Among names ms) (hsub : names.Sublist more) : Among more ms := ⟨h.keys.trans hsub, h.values⟩

theorem distinct (h : Among names ms) (hnodup : names.Nodup) : (Json.obj ms).Distinct := .obj (hnodup.sublist h.keys) h.values

end Among

end Members

theorem distinct_texts (items : List String) : (Json.arr (items.map .str) : Document).Distinct := by
  refine .arr fun d hd => ?_
  obtain ⟨s, _, rfl⟩ := List.mem_map.mp hd
  exact .str s

namespace Enumeration

open Members (Among)

theorem among_textMember (name : String) (o : Option String) : Among [name] (textMember name o) := by
  unfold textMember
  split
  next => exact .none _
  next => exact .none _
  next s _ => exact .one (.str s)

theorem among_listMember (name : String) (o : Option (List String)) : Among [name] (listMember name o) := by
  unfold listMember
  split
  next => exact .none _
  next items => exact .one (distinct_texts items)

/-- The document of an enumeration names no member twice. -/
theorem toDocument_distinct (e : Enumeration) (base : String) (h : ∀ v ∈ e.values, v.Distinct) :
    (e.toDocument base).Distinct := by
  have hhead : Among ["$id", "title", "type", "enum"] [("$id", .str (e.id.identifier base)),
      ("title", .str (if e.title = "" then e.id.name else e.title)), ("type", .str e.valueType), ("enum", .arr e.values)] :=
    (Among.one (.str _)).append ((Among.one (.str _)).append ((Among.one (.str _)).append (Among.one (.arr h))))
  have hall := (((hhead.append (among_textMember "description" e.description)).append
    (among_listMember "x-enumNames" e.names)).append (among_listMember "x-enumDescriptions" e.descriptions)).append
    (among_textMember "x-sourcePath" e.sourcePath)
  exact hall.distinct (by decide)

end Enumeration

namespace Schema

open Hint (Field)
open Members (Among)

theorem among_textMember (name : String) (o : Option String) : Among [name] (textMember name o) := by
  unfold textMember
  split
  next => exact .none _
  next => exact .none _
  next s _ => exact .one (.str s)

theorem among_numberMember (name : String) (o : Option Number) : Among [name] (numberMember name o) := by
  unfold numberMember
  split
  next => exact .none _
  next n => exact .one (.number n)

theorem among_requiredMember (names : List String) : Among ["required"] (requiredMember names) := by
  unfold requiredMember
  split
  next => exact .none _
  next => exact .one (distinct_texts names)

/-- A value without a mapping in it that says anything is written with no member twice. -/
theorem distinct_of_unmapped {v : Hint.Value} (h : ∀ e rest, v ≠ .mapping (e :: rest)) : v.toDocument.Distinct := by
  cases v with
  | mapping entries =>
    cases entries with
    | nil => exact Hint.KeyedEntries.nil.mapping
    | cons e rest => exact absurd rfl (h e rest)
  | _ => exact Hint.keyed_of_not_mapping rfl

theorem distinct_of_literal? {v : Hint.Value} {d : Document} (h : v.literal? = .ok d) : d.Distinct := by
  unfold Hint.Value.literal? at h
  split at h
  next s =>
    cases h
    split
    next => exact .str _
    next =>
      split
      next => exact .null
      next => exact .str _
  next => cases h
  next _ hne =>
    cases h
    exact distinct_of_unmapped hne

theorem distinct_of_written? {v : Hint.Value} {d : Document} (h : v.written? = .ok d) : d.Distinct := by
  unfold Hint.Value.written? at h
  split at h
  next => cases h
  next hne =>
    cases h
    exact distinct_of_unmapped hne

theorem distinct_of_writtenAll {values : List Hint.Value} {ds : List Document} (h : writtenAll values = .ok ds) :
    ∀ d ∈ ds, d.Distinct := by
  induction values generalizing ds with
  | nil =>
    cases h
    exact fun _ hd => absurd hd List.not_mem_nil
  | cons v vs ih =>
    rw [writtenAll] at h
    obtain ⟨d, hv, h⟩ := Fault.bind_eq_ok.mp h
    obtain ⟨rest, hvs, h⟩ := Fault.bind_eq_ok.mp h
    cases h
    exact List.forall_mem_cons.mpr ⟨distinct_of_written? hv, ih hvs⟩

/-- What the shape of a schema may say. -/
def shapeNames : List String := ["$ref", "type", "format", "items", "properties", "required"]

/-- What a schema says besides, before its pattern and after it. -/
def frontNames : List String := "description" :: (shapeNames ++ ["enum", "const"])

def rearNames : List String :=
  ["pattern", "minimum", "maximum", "minLength", "maxLength", "minItems", "maxItems", "default"]

theorem among_bounds (f : Facets) :
    Among ["minimum", "maximum", "minLength", "maxLength", "minItems", "maxItems"] f.bounds :=
  (((((among_numberMember _ _).append (among_numberMember _ _)).append (among_numberMember _ _)).append
    (among_numberMember _ _)).append (among_numberMember _ _)).append (among_numberMember _ _)

theorem among_enumMember {f : Facets} {ms : Members String} (h : f.enumMember = .ok ms) : Among ["enum"] ms := by
  unfold Facets.enumMember at h
  split at h
  next =>
    cases h
    exact .none _
  next values _ =>
    obtain ⟨ds, hds, h⟩ := Fault.bind_eq_ok.mp h
    cases h
    exact .one (.arr (distinct_of_writtenAll hds))

theorem among_literalMember {name : String} {o : Option Hint.Value} {ms : Members String}
    (h : Facets.literalMember name o = .ok ms) : Among [name] ms := by
  unfold Facets.literalMember at h
  split at h
  next =>
    cases h
    exact .none _
  next v =>
    obtain ⟨d, hd, h⟩ := Fault.bind_eq_ok.mp h
    cases h
    exact .one (distinct_of_literal? hd)

/-- A format that is set comes in the place of the one of the shape, or as one more member. -/
theorem distinct_set_format {front rear : Members String} {format : String} (hfront : Among frontNames front)
    (hrear : Among rearNames rear) : (Json.obj (front.set "format" (.str format) ++ rear)).Distinct := by
  have hkeys : (front.set "format" (.str format)).keys ⊆ frontNames := by
    intro k hk
    obtain ⟨m, hm, rfl⟩ := List.mem_map.mp hk
    rcases Members.mem_set hm with hm | rfl
    · exact hfront.keys.subset (List.mem_map_of_mem hm)
    · exact (by decide : "format" ∈ frontNames)
  have hnodup : (front.set "format" (.str format)).keys.Nodup :=
    Members.nodup_set_of_sole (Members.sole _) ((by decide : frontNames.Nodup).sublist hfront.keys)
  have happart : ∀ k ∈ frontNames, k ∉ rearNames := by decide
  refine .obj ?_ fun m hm => ?_
  · rw [List.map_append]
    refine List.nodup_append'.mpr ⟨hnodup, (by decide : rearNames.Nodup).sublist hrear.keys, ?_⟩
    exact fun k hk hk' => happart k (hkeys hk) (hrear.keys.subset hk')
  · rcases List.mem_append.mp hm with hm | hm
    · rcases Members.mem_set hm with hm | rfl
      · exact hfront.values m hm
      · exact .str format
    · exact hrear.values m hm

theorem distinct_around {f : Facets} {shape ms : Members String} (hshape : Among shapeNames shape)
    (h : f.around shape = .ok ms) : (Json.obj ms).Distinct := by
  unfold Facets.around at h
  obtain ⟨enum, henum, h⟩ := Fault.bind_eq_ok.mp h
  obtain ⟨const, hconst, h⟩ := Fault.bind_eq_ok.mp h
  obtain ⟨standard, hdefault, h⟩ := Fault.bind_eq_ok.mp h
  cases h
  have hfront : Among frontNames (textMember "description" f.description ++ shape ++ enum ++ const) :=
    (((among_textMember _ _).append hshape).append (among_enumMember henum)).append (among_literalMember hconst)
  have hrear : Among rearNames (textMember "pattern" f.pattern ++ f.bounds ++ standard) :=
    ((among_textMember _ _).append (among_bounds f)).append (among_literalMember hdefault)
  rw [List.append_assoc, List.append_assoc, ← List.append_assoc (textMember "pattern" f.pattern)]
  split
  next => exact (hfront.append hrear).distinct (by decide)
  next => exact (hfront.append hrear).distinct (by decide)
  next => exact distinct_set_format hfront hrear

/-- The document of a schema, if it has one, names no member twice. -/
def Node.Fit (n : Node) : Prop := ∀ d, n.toDocument = .ok d → d.Distinct

def Shape.Fit (s : Shape) : Prop := ∀ ms, s.toMembers = .ok ms → Among shapeNames ms

/-- Schemas of properties that have names of their own. -/
structure FitProperties (properties : List (String × Node)) : Prop where
  names : (properties.map (·.1)).Nodup
  nodes : ∀ p ∈ properties, p.2.Fit

theorem Shape.Fit.node {shape : Shape} (h : shape.Fit) (facets : Facets) : (Node.mk shape facets).Fit := by
  intro d hd
  rw [Node.toDocument] at hd
  obtain ⟨members, hshape, hd⟩ := Fault.bind_eq_ok.mp hd
  obtain ⟨ms, haround, hd⟩ := Fault.bind_eq_ok.mp hd
  cases hd
  exact distinct_around (h members hshape) haround

namespace FitProperties

variable {properties : List (String × Node)} {ms : Members String}

theorem members (h : ∀ p ∈ properties, p.2.Fit) (hms : propertyMembers properties = .ok ms) :
    ms.map (·.1) = properties.map (·.1) ∧ ∀ m ∈ ms, m.2.Distinct := by
  induction properties generalizing ms with
  | nil =>
    rw [propertyMembers] at hms
    cases hms
    exact ⟨rfl, fun _ hm => absurd hm List.not_mem_nil⟩
  | cons p rest ih =>
    obtain ⟨name, node⟩ := p
    rw [propertyMembers] at hms
    obtain ⟨d, hnode, hms⟩ := Fault.bind_eq_ok.mp hms
    obtain ⟨ds, hrest, hms⟩ := Fault.bind_eq_ok.mp hms
    cases hms
    obtain ⟨hkeys, hvalues⟩ := ih (fun p hp => h p (List.mem_cons_of_mem _ hp)) hrest
    exact ⟨congrArg (name :: ·) hkeys, List.forall_mem_cons.mpr ⟨h _ List.mem_cons_self d hnode, hvalues⟩⟩

theorem distinct (h : FitProperties properties) (hms : propertyMembers properties = .ok ms) :
    (Json.obj ms).Distinct := by
  obtain ⟨hkeys, hvalues⟩ := members h.nodes hms
  exact .obj (hkeys ▸ h.names) hvalues

end FitProperties

namespace Shape.Fit

theorem plain : Shape.open.Fit := fun ms h => by
  rw [Shape.toMembers] at h
  cases h
  exact .none _

theorem ref (target : String) : (Shape.ref target).Fit := fun ms h => by
  rw [Shape.toMembers] at h
  cases h
  exact (Among.one (.str target)).widen (by decide)

theorem typed (type : String) (format : Option String) : (Shape.typed type format).Fit := fun ms h => by
  rw [Shape.toMembers.eq_def] at h
  cases h
  cases format with
  | none => exact (Among.one (.str type)).widen (by decide)
  | some format => exact ((Among.one (.str type)).append (Among.one (.str format))).widen (by decide)

theorem array {items : Node} (h : items.Fit) : (Shape.array items).Fit := fun ms hms => by
  rw [Shape.toMembers] at hms
  obtain ⟨d, hd, hms⟩ := Fault.bind_eq_ok.mp hms
  cases hms
  exact ((Among.one (.str "array")).append (Among.one (h d hd))).widen (by decide)

theorem object {properties : List (String × Node)} (h : FitProperties properties) (required : List String) :
    (Shape.object properties required).Fit := fun ms hms => by
  rw [Shape.toMembers] at hms
  obtain ⟨ds, hds, hms⟩ := Fault.bind_eq_ok.mp hms
  cases hms
  exact ((Among.one (.str "object")).append ((Among.one (h.distinct hds)).append (among_requiredMember required))).widen
    (by decide)

end Shape.Fit

/-- Compiling, if it goes through, comes to something with a property, and no value of the enumerations that it asks for
names a member twice. -/
def Compiles {α : Type} (P : α → Prop) (x : Compiling α) : Prop :=
  ∀ a, x.outcome = .ok a → P a ∧ ∀ e ∈ x.remarks.filterMap Remark.emission?, ∀ v ∈ e.enumeration.values, v.Distinct

namespace Compiles

variable {α β : Type} {P : α → Prop} {Q : β → Prop} {setup : Setup} {here : Location}

theorem pure {a : α} (h : P a) : Compiles P (Pure.pure a : Compiling α) := fun b hb => by
  cases hb
  exact ⟨h, fun _ he => absurd he List.not_mem_nil⟩

theorem bind {x : Compiling α} {f : α → Compiling β} (hx : Compiles P x) (hf : ∀ a, P a → Compiles Q (f a)) :
    Compiles Q (x >>= f) := by
  intro b hb
  obtain ⟨rs, _ | a⟩ := x
  · cases hb
  · rw [Noted.bind_of_ok] at hb ⊢
    obtain ⟨ha, hfirst⟩ := hx a rfl
    obtain ⟨hb, hrest⟩ := hf a ha b hb
    refine ⟨hb, fun e he => ?_⟩
    rw [List.filterMap_append, List.mem_append] at he
    exact he.elim (hfirst e) (hrest e)

/-- Compiling that asks for no enumeration. -/
theorem of_emits (setup : Setup) (here : Location) {x : Compiling α} (h : Emits setup here x []) (hx : x.Ensures P) :
    Compiles P x := by
  intro a ha
  have hnone := h a ha
  rw [List.filterMap_nil, List.forall₂_nil_left_iff] at hnone
  rw [hnone]
  exact ⟨hx a ha, fun _ he => absurd he List.not_mem_nil⟩

theorem note {e : Emission} (h : ∀ v ∈ e.enumeration.values, v.Distinct) :
    Compiles (fun _ => True) (Noted.note (.emission e) : Compiling Unit) :=
  fun _ _ => ⟨trivial, fun _ he => List.mem_singleton.mp he ▸ h⟩

end Compiles

theorem distinct_of_scalars {values : List Hint.Value} {ds : List Document} (h : scalars values = .ok ds) :
    ∀ d ∈ ds, d.Distinct := by
  induction values generalizing ds with
  | nil =>
    cases h
    exact fun _ hd => absurd hd List.not_mem_nil
  | cons v vs ih =>
    rw [scalars.eq_def] at h
    split at h
    next heq => cases heq
    next => cases h
    next v' vs' hne heq =>
      obtain ⟨rfl, rfl⟩ := List.cons.inj heq
      obtain ⟨rest, hvs, h⟩ := Fault.bind_eq_ok.mp h
      cases h
      refine List.forall_mem_cons.mpr ⟨Hint.keyed_of_not_mapping ?_, ih hvs⟩
      cases v with
      | mapping entries => exact absurd rfl (hne entries)
      | _ => rfl

theorem compiles_emissionOf (s : Site) (d : Hint.EnumDefinition) (id : ArtifactId) :
    Compiles (fun e => ∀ v ∈ e.enumeration.values, v.Distinct) (emissionOf s d id) := by
  refine .of_emits s.setup s.location (emits_emissionOf s d id) fun e he => ?_
  obtain ⟨_, _, he⟩ := Noted.outcome_bind_eq_ok.mp he
  obtain ⟨_, _, he⟩ := Noted.outcome_bind_eq_ok.mp he
  obtain ⟨documents, hdocuments, he⟩ := Noted.outcome_bind_eq_ok.mp he
  cases he
  intro v hv
  exact distinct_of_scalars hdocuments v ((Enumeration.mem_mergeValues hv).resolve_left List.not_mem_nil)

theorem compiles_refShape (s : Site) (path : String) (kind : ArtifactKind) : Compiles Shape.Fit (refShape s path kind) := by
  refine .of_emits s.setup s.location (emits_refShape s path kind) ?_
  unfold refShape
  split
  next => exact .pure (.ref _)
  next => exact (Noted.Ensures.any _).bind fun _ _ => .pure .plain

theorem compiles_report (s : Site) (severity : Severity) (message : String) :
    Compiles (fun _ => True) (s.report severity message) :=
  .of_emits s.setup s.location (emits_report s severity message) (.any _)

theorem compiles_enumShape (s : Site) (d : Hint.EnumDefinition) : Compiles Shape.Fit (enumShape s d) := by
  unfold enumShape
  split
  next => exact (compiles_report s _ _).bind fun _ _ => .pure .plain
  next target _ =>
    split
    next =>
      split
      next => exact (compiles_report s _ _).bind fun _ _ => .pure (.ref _)
      next =>
        exact (compiles_emissionOf s d _).bind fun e he => (Compiles.note he).bind fun _ _ => .pure (.ref _)
    next => exact .pure (.ref _)

theorem compiles_plainShape (s : Site) (r : Decider) : Compiles Shape.Fit (plainShape s r) := by
  cases r with
  | enumFrom path => exact compiles_refShape s path _
  | enumDefine d => exact compiles_enumShape s d
  | ref path => exact compiles_refShape s path _
  | type name =>
    rw [plainShape]
    split
    next => exact .pure (.typed _ _)
    next => exact .pure (.typed _ _)
    next => exact compiles_refShape s _ _
  | const v =>
    rw [plainShape]
    refine .pure ?_
    split
    next => exact .typed _ _
    next => exact .plain
  | nothing => exact .pure .plain

theorem compiles_values (s : Site) (f : Field) {shape : Shape} (h : shape.Fit) : Compiles Node.Fit
    (match f.enum with
      | none => return Node.mk shape (facetsOf f none)
      | some values => do
        let values ← typedValues s shape.type? values
        return Node.mk shape (facetsOf f (some values))) := by
  refine .of_emits s.setup s.location (emits_values s f shape) ?_
  split
  next => exact .pure (h.node _)
  next => exact (Noted.Ensures.any _).bind fun _ _ => .pure (h.node _)

mutual
/-- A field in which no two fields have one name compiles to a schema that names no member twice. -/
theorem compiles_field (s : Site) : (f : Field) → f.Keyed → Compiles Node.Fit (compileField s f)
  | f@{ items, properties, .. }, h => by
    rw [compileField]
    split
    next => exact (compiles_items s items fun g hg => h.element hg).bind fun _ hshape => compiles_values s _ hshape
    next =>
      split
      next =>
        refine (compiles_properties s properties h.inner.fields).bind fun nodes hnodes => ?_
        exact (Compiles.pure (Shape.Fit.object ⟨hnodes.1 ▸ h.inner.names, hnodes.2⟩ _)).bind fun _ hshape =>
          compiles_values s _ hshape
      next => exact (compiles_plainShape s _).bind fun _ hshape => compiles_values s _ hshape

theorem compiles_items (s : Site) : (o : Option Field) → (∀ g ∈ o, g.Keyed) → Compiles Shape.Fit (compileItems s o)
  | none, _ => by
    rw [compileItems]
    exact .pure (.typed _ _)
  | some f, h => by
    rw [compileItems]
    exact (compiles_field s f (h f rfl)).bind fun _ hnode => .pure (.array hnode)

theorem compiles_properties (s : Site) : (fields : List (String × Field)) → (∀ p ∈ fields, p.2.Keyed) →
    Compiles (fun nodes => nodes.map (·.1) = fields.map (·.1) ∧ ∀ p ∈ nodes, p.2.Fit) (compileProperties s fields)
  | [], _ => by
    rw [compileProperties]
    exact .pure ⟨rfl, fun _ hp => absurd hp List.not_mem_nil⟩
  | (name, f) :: rest, h => by
    rw [compileProperties]
    refine (compiles_field s f (h _ List.mem_cons_self)).bind fun node hnode => ?_
    refine (compiles_properties s rest fun p hp => h p (List.mem_cons_of_mem _ hp)).bind fun nodes hnodes => ?_
    exact .pure ⟨congrArg (name :: ·) hnodes.1, List.forall_mem_cons.mpr ⟨hnode, hnodes.2⟩⟩
end

theorem compiles_fields (s : Site) {fields : List (String × Field)} (h : ∀ p ∈ fields, p.2.Keyed) :
    Compiles (fun nodes => nodes.map (·.1) = fields.map (·.1) ∧ ∀ p ∈ nodes, p.2.Fit) (compileFields s fields) := by
  induction fields with
  | nil => exact .pure ⟨rfl, fun _ hp => absurd hp List.not_mem_nil⟩
  | cons p rest ih =>
    obtain ⟨name, f⟩ := p
    rw [compileFields]
    refine (compiles_field { s with field := name } f (h _ List.mem_cons_self)).bind fun node hnode => ?_
    refine (ih fun p hp => h p (List.mem_cons_of_mem _ hp)).bind fun nodes hnodes => ?_
    exact .pure ⟨congrArg (name :: ·) hnodes.1, List.forall_mem_cons.mpr ⟨hnode, hnodes.2⟩⟩

theorem ensures_alternatives (s : Site) {ds : List Document} (h : ∀ d ∈ ds, d.Distinct) :
    (alternatives s ds).Ensures fun others => ∀ d ∈ others, d.Distinct := by
  induction ds with
  | nil => exact .pure fun _ hd => absurd hd List.not_mem_nil
  | cons d rest ih =>
    have hrest := ih fun d hd => h d (List.mem_cons_of_mem _ hd)
    rw [alternatives.eq_def]
    split
    next => exact .pure fun _ hd => absurd hd List.not_mem_nil
    next name rest' heq =>
      obtain ⟨rfl, rfl⟩ := List.cons.inj heq
      split
      next target _ =>
        have hone : (Json.obj [("$ref", .str target.ref)] : Document).Distinct :=
          (Among.one (.str target.ref)).distinct (List.nodup_singleton "$ref")
        exact hrest.bind fun others hothers => .pure (List.forall_mem_cons.mpr ⟨hone, hothers⟩)
      next => exact (Noted.Ensures.any _).bind fun _ _ => hrest
    next d' rest' _ heq =>
      obtain ⟨rfl, rfl⟩ := List.cons.inj heq
      exact hrest.bind fun others hothers => .pure (List.forall_mem_cons.mpr ⟨h d List.mem_cons_self, hothers⟩)

/-- A class whose schema names no member twice. -/
structure Class.Fit (c : Class) : Prop where
  properties : FitProperties c.properties
  oneOf : ∀ d ∈ c.oneOf, d.Distinct
  anyOf : ∀ d ∈ c.anyOf, d.Distinct
  allOf : ∀ d ∈ c.allOf, d.Distinct

theorem distinct_of_choice {names : List String} {d : Document} (h : d ∈ choice names) : d.Distinct := by
  obtain ⟨name, _, rfl⟩ := List.mem_map.mp h
  exact (Among.one (distinct_texts [name])).distinct (List.nodup_singleton "required")

theorem distinct_withChoice (names : List String) {oneOf allOf : List Document} (hone : ∀ d ∈ oneOf, d.Distinct)
    (hall : ∀ d ∈ allOf, d.Distinct) :
    (∀ d ∈ (withChoice names oneOf allOf).1, d.Distinct) ∧ ∀ d ∈ (withChoice names oneOf allOf).2, d.Distinct := by
  unfold withChoice
  split
  next => exact ⟨hone, hall⟩
  next =>
    split
    next => exact ⟨fun _ hd => distinct_of_choice hd, hall⟩
    next =>
      refine ⟨hone, fun d hd => ?_⟩
      rcases List.mem_append.mp hd with hd | hd
      · exact hall d hd
      · obtain rfl := List.mem_singleton.mp hd
        exact (Among.one (.arr fun _ hd => distinct_of_choice hd)).distinct (List.nodup_singleton "oneOf")

/-- A block in which nothing is named twice compiles to a class whose schema names nothing twice. -/
theorem compiles_ofBlock (setup : Setup) (here : Location) {b : Hint.Block} {owner : String} (h : b.Keyed owner) :
    Compiles Class.Fit (Class.ofBlock setup here b) := by
  unfold Class.ofBlock
  have hquiet {α : Type} {P : α → Prop} {x : Compiling α} (he : Emits setup here x []) (hx : x.Ensures P) : Compiles P x :=
    .of_emits setup here he hx
  refine (compiles_fields _ h.fields.fields).bind fun properties hproperties => ?_
  refine (hquiet (emits_noteUndeclared _ b _) (.any _)).bind fun _ _ => ?_
  refine (hquiet (emits_alternatives _ b.oneOf) (ensures_alternatives _ h.oneOf)).bind fun oneOf hone => ?_
  refine (hquiet (emits_alternatives _ b.anyOf) (ensures_alternatives _ h.anyOf)).bind fun anyOf hany => ?_
  refine (hquiet (emits_alternatives _ b.allOf) (ensures_alternatives _ h.allOf)).bind fun allOf hall => ?_
  refine (hquiet (emits_noteUnknownChoice _ b b.xor) (.any _)).bind fun _ _ => .pure ?_
  obtain ⟨hone, hall⟩ := distinct_withChoice b.xor hone hall
  exact ⟨⟨hproperties.1 ▸ h.fields.names, hproperties.2⟩, hone, hany, hall⟩

theorem fit_of_compile {setup : Setup} {here : Location} {b : Hint.Block} {owner : String} {c : Compiled} (h : b.Keyed owner)
    (hc : compile setup here b = .ok c) :
    c.schema.Fit ∧ ∀ e ∈ c.emissions, ∀ v ∈ e.enumeration.values, v.Distinct := by
  obtain ⟨rs, schema, hrun, rfl⟩ := compile_eq_ok.mp hc
  have hcompiles := compiles_ofBlock setup here h
  rw [hrun] at hcompiles
  exact hcompiles schema rfl

theorem among_listMember {name : String} {items : List Document} (h : ∀ d ∈ items, d.Distinct) :
    Among [name] (Class.listMember name items) := by
  unfold Class.listMember
  split
  next => exact .none _
  next => exact .one (.arr h)

/-- The document of a class names no member twice, and carries the identifier of the class. -/
theorem document_of_class {c : Class} {base : String} {dialect d : Document} (h : c.toDocument base dialect = .ok d) :
    (c.Fit → dialect.Distinct → d.Distinct) ∧
      ∃ ms : Members String, d = .obj ms ∧ ms.find? "$id" = some (.str (c.id.identifier base)) := by
  unfold Class.toDocument at h
  obtain ⟨properties, hproperties, h⟩ := Fault.bind_eq_ok.mp h
  cases h
  refine ⟨fun hfit hdialect => ?_, _, rfl, rfl⟩
  have hhead : Among ["$schema", "$id", "title", "type"] [("$schema", dialect), ("$id", .str (c.id.identifier base)),
      ("title", .str c.title), ("type", .str "object")] :=
    (Among.one hdialect).append ((Among.one (.str _)).append ((Among.one (.str _)).append (Among.one (.str _))))
  have hproperties : Among ["properties", "required"]
      (("properties", .obj properties) :: requiredMember c.required) :=
    (Among.one (hfit.properties.distinct hproperties)).append (among_requiredMember c.required)
  refine ((((((hhead.append (among_textMember "description" c.description)).append
    (?_ : Among ["additionalProperties"] _)).append hproperties).append (among_listMember hfit.oneOf)).append
      (among_listMember hfit.anyOf)).append (among_listMember hfit.allOf)).distinct (by decide)
  split
  next b _ => exact .one (.bool b)
  next => exact .none _

end Schema

end NoteSchema
