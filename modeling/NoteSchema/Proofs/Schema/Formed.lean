import NoteSchema.Proofs.Schema.Metadata
import NoteSchema.Proofs.Schema.Origins
import NoteSchema.Proofs.Schema.Shown

namespace NoteSchema.Schema

open Hint (Field)

variable {setup : Setup} {here : Location} {s : Site} {f : Field} {rs : List Remark}

/-- What is true of the schema of a field, whatever field it is. -/
structure Formed (s : Site) (f : Field) (n : Node) : Prop where
  /-- A reference and a type exclude each other. -/
  apart : n.shown.find? "$ref" = none ∨ n.shown.find? "type" = none
  items : n.shown.find? "items" ≠ none → n.shown.find? "type" = some (.str "array")
  properties : n.shown.find? "properties" ≠ none ∨ n.shown.find? "required" ≠ none →
    n.shown.find? "type" = some (.str "object")
  /-- The fields inside it keep their names and their order, and the required ones are those that say so. -/
  required : ∀ ms : Members String, n.shown.find? "properties" = some (.obj ms) → ms.keys = f.properties.map (·.1) ∧
    n.shown.find? "required" =
      if requiredNames f.properties = [] then none else some (namesOf (requiredNames f.properties))
  once : (requiredNames f.properties).Nodup
  /-- The reference is that of the first path present, where it names something. -/
  reference : n.shown.find? "$ref" =
    ((decidingPath? f).bind fun p => (s.resolve p.1 p.2).toOption).map fun target => .str target.ref
  /-- What a field says besides is kept where its path names nothing. -/
  carried : unresolved s f = true →
    n.shown.find? "$ref" = none ∧ n.shown.find? "type" = none ∧ n.shown = (facetsOf f f.enum).shown []
  written : ∀ d, n.toDocument = .ok d → d = .obj n.shown

def Shape.ref? : Shape → Option String
  | .ref target => some target
  | _ => none

@[simp]
theorem find?_requiredMember (k : String) (names : List String) : (requiredMember names).find? k =
    if "required" = k ∧ names ≠ [] then some (namesOf names) else none := by
  cases names with
  | nil => simp [requiredMember, Members.find?]
  | cons name names => by_cases hk : "required" = k <;> simp [requiredMember, Members.find?, hk]

namespace Shape

variable (shape : Shape)

theorem find?_ref : shape.shown.find? "$ref" = shape.ref?.map .str := by
  cases shape with
  | typed type format => cases format <;> simp [shown, Members.find?, ref?]
  | _ => simp [shown, Members.find?, ref?]

theorem find?_type : shape.shown.find? "type" = shape.type?.map .str := by
  cases shape <;> simp [shown, Members.find?, type?]

theorem find?_items : shape.shown.find? "items" = shape.items?.map fun items => .obj items.shown := by
  cases shape with
  | typed type format => cases format <;> simp [shown, Members.find?, items?]
  | _ => simp [shown, Members.find?, items?]

theorem find?_properties : shape.shown.find? "properties" =
    match shape with | .object properties _ => some (.obj (shownProperties properties)) | _ => none := by
  cases shape with
  | typed type format => cases format <;> simp [shown, Members.find?]
  | _ => simp [shown, Members.find?]

theorem find?_required : shape.shown.find? "required" =
    match shape with | .object _ required => if required = [] then none else some (namesOf required) | _ => none := by
  cases shape with
  | typed type format => cases format <;> simp [shown, Members.find?]
  | _ => simp [shown, Members.find?]

end Shape

theorem find?_shown_mk {facets : Facets} {shape : Shape} {k : String} (hk : k ∉ Facets.names) :
    (Node.mk shape facets).shown.find? k = shape.shown.find? k := by
  rw [Node.shown, Facets.find?_shown hk]

theorem keys_shownProperties (properties : List (String × Node)) :
    (shownProperties properties).keys = properties.map (·.1) := by
  induction properties with
  | nil => rw [shownProperties]; rfl
  | cons p rest ih =>
    obtain ⟨name, node⟩ := p
    rw [shownProperties, Members.keys_cons, ih]
    rfl

/-- The sub-hints marked required are among the sub-hints. -/
theorem nodup_requiredNames {fields : List (String × Field)} (h : Hint.KeyedFields fields) :
    (requiredNames fields).Nodup :=
  h.names.sublist (List.filter_sublist.map Prod.fst)

theorem decidingPath?_of_unresolved (h : unresolved s f = true) :
    ∃ path kind, decidingPath? f = some (path, kind) ∧ s.misses path kind = true := by
  cases hpath : decidingPath? f with
  | none => simp [unresolved, hpath] at h
  | some p => exact ⟨p.1, p.2, rfl, by simpa [unresolved, hpath] using h⟩

theorem shapeOf_of_misses {path : String} {kind : ArtifactKind} (h : s.misses path kind = true) :
    s.shapeOf path kind = .open := by
  unfold Site.misses at h
  unfold Site.shapeOf
  cases hr : s.resolve path kind with
  | ok target =>
    rw [hr] at h
    cases h
  | error e => rfl

theorem ref?_shapeOf (s : Site) (path : String) (kind : ArtifactKind) :
    (s.shapeOf path kind).ref? = (s.resolve path kind).toOption.map (·.ref) := by
  unfold Site.shapeOf
  cases s.resolve path kind <;> rfl

namespace Decided

variable {shape : Shape}

theorem ref?_eq (h : Decided s f shape) : shape.ref? =
    ((decidingPath? f).bind fun p => (s.resolve p.1 p.2).toOption).map (·.ref) := by
  cases hpath : decidingPath? f with
  | some p =>
    rw [h.reference p.1 p.2 hpath, ref?_shapeOf]
    rfl
  | none =>
    have hfree := h.free hpath
    cases shape with
    | ref target => exact absurd rfl (hfree target)
    | _ => rfl

/-- A field whose path names nothing has no shape. -/
theorem eq_open (h : Decided s f shape) (hf : unresolved s f = true) : shape = .open := by
  obtain ⟨path, kind, hpath, hmisses⟩ := decidingPath?_of_unresolved hf
  rw [h.reference path kind hpath, shapeOf_of_misses hmisses]

end Decided

/-- Values under no type are taken over. -/
theorem fieldValues_none (s : Site) (values : Option (List Hint.Value)) : fieldValues s none values = pure values := by
  cases values <;> rfl

/-- The schema that a field compiles to is well formed. -/
theorem formed_of_compileField {node : Node} (hf : f.Keyed) (h : compileField s f = ⟨rs, .ok node⟩) :
    Formed s f node := by
  obtain ⟨first, last, values, hshape, hvalues, -, hfacets⟩ := compileField_ok h
  obtain ⟨shape, facets⟩ := node
  have hdecided : Decided s f shape := decided_of_fieldShape hshape
  have hshown {k : String} (hk : k ∉ Facets.names) : (Node.mk shape facets).shown.find? k = shape.shown.find? k :=
    find?_shown_mk hk
  have href := (hshown (by decide)).trans shape.find?_ref
  have htype := (hshown (by decide)).trans shape.find?_type
  have hitems := (hshown (by decide)).trans shape.find?_items
  have hproperties := (hshown (by decide)).trans shape.find?_properties
  have hrequired := (hshown (by decide)).trans shape.find?_required
  refine ⟨?_, ?_, ?_, fun ms hms => ?_, nodup_requiredNames hf.inner, ?_, fun hmissed => ?_, fun d hd =>
    Node.shown_of_toDocument _ hd⟩
  · rw [href, htype]
    cases shape with
    | ref target => exact .inr rfl
    | _ => exact .inl rfl
  · rw [hitems, htype]
    cases shape with
    | array items => exact fun _ => rfl
    | _ => exact fun h => absurd rfl h
  · rw [hproperties, hrequired, htype]
    cases shape with
    | object properties required => exact fun _ => rfl
    | _ => exact fun h => absurd rfl (or_self_iff.mp h)
  · rw [hproperties] at hms
    rw [hrequired]
    split at hms
    next properties required =>
      obtain ⟨hnames, rfl⟩ := hdecided.properties properties required rfl
      cases hms
      exact ⟨(keys_shownProperties properties).trans hnames, rfl⟩
    next => cases hms
  · rw [href, hdecided.ref?_eq, Option.map_map]
    rfl
  · obtain rfl : shape = .open := hdecided.eq_open hmissed
    have hkept : fieldValues s none f.enum = ⟨last, .ok values⟩ := hvalues
    rw [fieldValues_none] at hkept
    obtain rfl : f.enum = values := by cases hkept; rfl
    obtain rfl : facets = facetsOf f f.enum := hfacets
    refine ⟨href, htype, ?_⟩
    rw [Node.shown, Shape.shown]

theorem keyed_inherited : Inherited Field.Keyed := ⟨fun _ h _ => h.element, fun _ h => h.inner.fields⟩

/-- The schemas of the fields of a block, and of the fields inside them at any depth, are well formed, and as often as a
path in a field names nothing the field is said to have such a path. Problems of the alternatives of the class are kept
under the empty name. -/
theorem compiled_fields_formed {b : Hint.Block} {c : Compiled} (hb : Hint.KeyedFields b.fields)
    (h : Shared.compile setup here b = .ok c) :
    c.schema.properties.map (·.1) = b.fields.map (·.1) ∧
    ∀ name f, (name, f) ∈ b.fields → ∃ node, (name, node) ∈ c.schema.properties ∧
      (∀ p ∈ origins f node, Formed ⟨setup, here, b.owner, name⟩ p.1 p.2) ∧
      c.diagnostics.countP (unresolvedFor name) =
        (origins f node).countP (fun p => unresolved ⟨setup, here, b.owner, name⟩ p.1) +
          if name = "" then (b.oneOf ++ b.anyOf ++ b.allOf).countP (missesAlternative ⟨setup, here, b.owner, ""⟩)
          else 0 := by
  rw [shared_compile_eq] at h
  obtain ⟨first, last, hfields, hrest, hdiagnostics, _⟩ := run_of_compile h
  refine ⟨map_fst_of_compileFields hfields, fun name f hf => ?_⟩
  obtain ⟨node, own, hnode, hown, -, htally⟩ := exists_compiled hb.names hfields hf
  have hkeyed : f.Keyed := hb.fields _ hf
  have htraced := traced_compileField _ f hown
  refine ⟨node, hnode, fun p hp => ?_, ?_⟩
  · obtain ⟨rs, hran, -⟩ := htraced.ran p hp
    exact formed_of_compileField (keyed_inherited.mem_origins hkeyed p hp) hran
  · rw [hdiagnostics]
    show tally name (first ++ last) = _
    rw [tally_append, htally, htraced.tally name, if_pos rfl, tally_ofProperties hrest name]

/-- A field with two fields inside it whose paths name nothing. -/
def box : Field where
  type := some "object"
  properties := [("lid", { ref := some "no such", const := some (.text "oak"), required := true }),
    ("tags", { type := some "array", items := some { enumFrom := some "../../Tag", type := some "string" } }),
    ("maker", { type := some "Person", required := true })]

def boxBlock : Hint.Block := { owner := "Box", fields := [("box", box)] }

theorem keyed_boxBlock : Hint.KeyedFields boxBlock.fields := by
  have simple {f : Field} (hitems : f.items = none) (hproperties : f.properties = []) : f.Keyed :=
    .of_simple hitems hproperties
  refine ⟨by decide, fun p hp => ?_⟩
  obtain rfl := List.mem_singleton.mp hp
  refine .mk (fun g hg => nomatch hg) (by decide) fun q hq => ?_
  simp only [box, List.mem_cons, List.mem_nil_iff, or_false] at hq
  rcases hq with rfl | rfl | rfl
  · exact simple rfl rfl
  · refine .mk (fun g hg => ?_) List.nodup_nil (fun _ hp => absurd hp List.not_mem_nil)
    obtain rfl := Option.some.inj hg
    exact simple rfl rfl
  · exact simple rfl rfl

theorem box_formed : ∃ c node, Shared.compile shopSetup shop boxBlock = .ok c ∧ ("box", node) ∈ c.schema.properties ∧
    (∀ p ∈ origins box node, Formed ⟨shopSetup, shop, "Box", "box"⟩ p.1 p.2) ∧ c.diagnostics.countP (unresolvedFor "box") = 2 ∧
    (origins box node).countP (fun p => unresolved ⟨shopSetup, shop, "Box", "box"⟩ p.1) = 2 := by
  have hruns : (Shared.compile shopSetup shop boxBlock).toOption.map (·.diagnostics.countP (unresolvedFor "box")) = some 2 := by
    decide +kernel
  obtain ⟨c, hc, hcount⟩ := Option.map_eq_some_iff.mp hruns
  obtain ⟨node, hnode, hformed, htally⟩ :=
    (compiled_fields_formed keyed_boxBlock (eq_ok_of_toOption hc)).2 "box" box List.mem_cons_self
  rw [if_neg (by decide), Nat.add_zero, hcount] at htally
  exact ⟨c, node, eq_ok_of_toOption hc, hnode, hformed, hcount, htally.symm⟩

end NoteSchema.Schema
