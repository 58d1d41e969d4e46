import NoteSchema.Proofs.Schema.Distinct

namespace NoteSchema

/-- The literal that a value stands for; a nested mapping is shown as the object of its entries. -/
def Hint.Value.shown (v : Hint.Value) : Document :=
  match v.literal? with
  | .ok d => d
  | .error _ => v.toDocument

namespace Members

variable {k : String} {ms ns : Members String}

theorem find?_append : (ms ++ ns).find? k = (ms.find? k).or (ns.find? k) := by
  induction ms with
  | nil => rfl
  | cons m ms ih =>
    rw [List.cons_append, find?_cons, find?_cons]
    split
    · rfl
    · exact ih

end Members

namespace Schema

open Members (find?_append)

namespace Facets

variable {f : Facets} {shape ms : Members String} {v d : Document}

/-- The members around those of a shape, with those of the values given. -/
def assembled (f : Facets) (shape enum const default : Members String) : Members String :=
  let upTo := textMember "description" f.description ++ shape ++ enum ++ const
  let upTo :=
    match f.format with
    | none | some "" => upTo
    | some s => Members.set "format" (.str s) upTo
  upTo ++ textMember "pattern" f.pattern ++ f.bounds ++ default

def shownEnum : Option (List Hint.Value) → Members String
  | none => []
  | some values => [("enum", .arr (values.map (·.toDocument)))]

def shownLiteral (name : String) : Option Hint.Value → Members String
  | none => []
  | some v => [(name, v.shown)]

/-- The members around those of a shape, nested mappings shown. -/
def shown (f : Facets) (shape : Members String) : Members String :=
  f.assembled shape (shownEnum f.enum) (shownLiteral "const" f.const) (shownLiteral "default" f.default)

theorem toDocument_of_written? {v : Hint.Value} (h : v.written? = .ok d) : d = v.toDocument := by
  unfold Hint.Value.written? at h
  split at h
  next => cases h
  next => exact (Except.ok.inj h).symm

theorem map_of_writtenAll {values : List Hint.Value} {ds : List Document} (h : writtenAll values = .ok ds) :
    ds = values.map (·.toDocument) := by
  induction values generalizing ds with
  | nil => exact (Except.ok.inj h).symm
  | cons v vs ih =>
    obtain ⟨d, hd, h⟩ := Fault.bind_eq_ok.mp h
    obtain ⟨rest, hrest, h⟩ := Fault.bind_eq_ok.mp h
    rw [List.map_cons, ← ih hrest, ← toDocument_of_written? hd]
    exact (Except.ok.inj h).symm

theorem shownEnum_of_enumMember (h : f.enumMember = .ok ms) : ms = shownEnum f.enum := by
  unfold enumMember at h
  split at h
  next hnone =>
    rw [hnone]
    exact (Except.ok.inj h).symm
  next values hsome =>
    obtain ⟨ds, hds, h⟩ := Fault.bind_eq_ok.mp h
    cases h
    rw [hsome, shownEnum, ← map_of_writtenAll hds]

theorem shownLiteral_of_literalMember {name : String} {o : Option Hint.Value} (h : literalMember name o = .ok ms) :
    ms = shownLiteral name o := by
  unfold literalMember at h
  split at h
  next => exact (Except.ok.inj h).symm
  next v =>
    obtain ⟨d, hv, h⟩ := Fault.bind_eq_ok.mp h
    cases h
    rw [shownLiteral, Hint.Value.shown, hv]

/-- What can be written is what is shown. -/
theorem shown_of_around (h : f.around shape = .ok ms) : ms = f.shown shape := by
  obtain ⟨enum, henum, h⟩ := Fault.bind_eq_ok.mp h
  obtain ⟨const, hconst, h⟩ := Fault.bind_eq_ok.mp h
  obtain ⟨default, hdefault, h⟩ := Fault.bind_eq_ok.mp h
  rw [shown, ← shownEnum_of_enumMember henum, ← shownLiteral_of_literalMember hconst,
    ← shownLiteral_of_literalMember hdefault]
  exact (Except.ok.inj h).symm

/-- What a schema says besides its shape. -/
def names : List String :=
  ["description", "enum", "const", "format", "pattern", "minimum", "maximum", "minLength", "maxLength", "minItems",
    "maxItems", "default"]

theorem keys_shownEnum (o : Option (List Hint.Value)) : (shownEnum o).keys ⊆ ["enum"] := by
  cases o with
  | none => exact List.nil_subset _
  | some values => exact List.Subset.refl _

theorem keys_shownLiteral (name : String) (o : Option Hint.Value) : (shownLiteral name o).keys ⊆ [name] := by
  cases o with
  | none => exact List.nil_subset _
  | some v => exact List.Subset.refl _

/-- What decides the kind of values is what the shape says. -/
theorem find?_shown {k : String} (hk : k ∉ names) : (f.shown shape).find? k = shape.find? k := by
  have absent {ms : Members String} {own : List String} (hkeys : ms.keys ⊆ own) (hown : own ⊆ names) :
      ms.find? k = none := Members.find?_eq_none_iff.mpr fun hm => hk (hown (hkeys hm))
  have hdescription := absent (among_textMember "description" f.description).keys.subset (by decide)
  have henum := absent (keys_shownEnum f.enum) (by decide)
  have hconst := absent (keys_shownLiteral "const" f.const) (by decide)
  have hpattern := absent (among_textMember "pattern" f.pattern).keys.subset (by decide)
  have hbounds := absent (among_bounds f).keys.subset (by decide)
  have hdefault := absent (keys_shownLiteral "default" f.default) (by decide)
  have hformat : ¬ ("format" == k) = true := fun h => hk (beq_iff_eq.mp h ▸ by decide)
  have hfront : Members.find? k (textMember "description" f.description ++ shape ++ shownEnum f.enum ++
      shownLiteral "const" f.const) = shape.find? k := by
    simp only [find?_append, hdescription, henum, hconst, Option.none_or, Option.or_none]
  unfold shown assembled
  simp only [find?_append, hpattern, hbounds, hdefault, Option.or_none]
  split
  next => simpa only [find?_append] using hfront
  next => simpa only [find?_append] using hfront
  next => rw [Members.find?_set, if_neg hformat, hfront]

end Facets

mutual
/-- The members of the schema of a field, nested mappings shown. -/
def Node.shown : Node → Members String
  | .mk shape facets => facets.shown shape.shown

def Shape.shown : Shape → Members String
  | .open => []
  | .ref target => [("$ref", .str target)]
  | .typed type format =>
    ("type", .str type) :: (match format with | some s => [("format", .str s)] | none => [])
  | .array items => [("type", .str "array"), ("items", .obj items.shown)]
  | .object properties required =>
    ("type", .str "object") :: ("properties", .obj (shownProperties properties)) :: requiredMember required

def shownProperties : List (String × Node) → Members String
  | [] => []
  | (name, node) :: rest => (name, .obj node.shown) :: shownProperties rest
end

mutual
/-- The document of a node, if it can be written, is what is shown of it. -/
theorem Node.shown_of_toDocument : (n : Node) → {d : Document} → n.toDocument = .ok d → d = .obj n.shown
  | .mk shape facets, d, h => by
    rw [Node.toDocument] at h
    obtain ⟨members, hshape, h⟩ := Fault.bind_eq_ok.mp h
    obtain ⟨ms, haround, h⟩ := Fault.bind_eq_ok.mp h
    rw [Node.shown, ← shape.shown_of_toMembers hshape, ← Facets.shown_of_around haround]
    exact (Except.ok.inj h).symm

theorem Shape.shown_of_toMembers : (s : Shape) → {ms : Members String} → s.toMembers = .ok ms → ms = s.shown
  | .open, ms, h => by
    rw [Shape.toMembers] at h
    rw [Shape.shown]
    exact (Except.ok.inj h).symm
  | .ref target, ms, h => by
    rw [Shape.toMembers] at h
    rw [Shape.shown]
    exact (Except.ok.inj h).symm
  | .typed type format, ms, h => by
    rw [Shape.toMembers.eq_def] at h
    rw [Shape.shown.eq_def]
    exact (Except.ok.inj h).symm
  | .array items, ms, h => by
    rw [Shape.toMembers] at h
    obtain ⟨d, hd, h⟩ := Fault.bind_eq_ok.mp h
    rw [Shape.shown, ← items.shown_of_toDocument hd]
    exact (Except.ok.inj h).symm
  | .object properties required, ms, h => by
    rw [Shape.toMembers] at h
    obtain ⟨ds, hds, h⟩ := Fault.bind_eq_ok.mp h
    rw [Shape.shown, ← shown_of_propertyMembers properties hds]
    exact (Except.ok.inj h).symm

theorem shown_of_propertyMembers : (properties : List (String × Node)) → {ms : Members String} →
    propertyMembers properties = .ok ms → ms = shownProperties properties
  | [], ms, h => by
    rw [propertyMembers] at h
    rw [shownProperties]
    exact (Except.ok.inj h).symm
  | (name, node) :: rest, ms, h => by
    rw [propertyMembers] at h
    obtain ⟨d, hd, h⟩ := Fault.bind_eq_ok.mp h
    obtain ⟨ds, hds, h⟩ := Fault.bind_eq_ok.mp h
    rw [shownProperties, ← node.shown_of_toDocument hd, ← shown_of_propertyMembers rest hds]
    exact (Except.ok.inj h).symm
end

end Schema

end NoteSchema
