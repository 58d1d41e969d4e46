import NoteSchema.Proofs.Hint.Followed
import NoteSchema.Proofs.Hint.Strictness
import NoteSchema.Proofs.Json.Members
import NoteSchema.Proofs.Noted

namespace NoteSchema.Hint

/-- No mapping in a value has two entries of one key. -/
def Value.Keyed (v : Value) : Prop := v.toDocument.Distinct

/-- No two of some entries have one key, and their values are keyed. -/
structure KeyedEntries (entries : List Entry) : Prop where
  keys : (entries.map Entry.key).Nodup
  values : ∀ e ∈ entries, e.value.Keyed

namespace KeyedEntries

variable {e : Entry} {entries : List Entry}

theorem nil : KeyedEntries [] := ⟨List.nodup_nil, fun _ he => absurd he List.not_mem_nil⟩

theorem toMembers_eq (entries : List Entry) :
    Value.toMembers entries = entries.map fun e => (e.key, e.value.toDocument) := by
  induction entries with
  | nil => rfl
  | cons e rest ih =>
    obtain ⟨key, value, line⟩ := e
    rw [Value.toMembers, ih]
    rfl

/-- A mapping of keyed entries is keyed. -/
theorem mapping (h : KeyedEntries entries) : (Value.mapping entries).Keyed := by
  rw [Value.Keyed, Value.toDocument, toMembers_eq]
  refine .obj ?_ fun m hm => ?_
  · rw [List.map_map]
    exact h.keys
  · obtain ⟨e, he, rfl⟩ := List.mem_map.mp hm
    exact h.values e he

theorem of_mapping (h : (Value.mapping entries).Keyed) : KeyedEntries entries := by
  rw [Value.Keyed, Value.toDocument, toMembers_eq] at h
  cases h with
  | obj names values =>
    rw [List.map_map] at names
    exact ⟨names, fun e he => values _ (List.mem_map_of_mem he)⟩

theorem keys_put (e : Entry) (entries : List Entry) : (Entry.put e entries).map Entry.key =
    if e.key ∈ entries.map Entry.key then entries.map Entry.key else entries.map Entry.key ++ [e.key] := by
  induction entries with
  | nil => rfl
  | cons first rest ih =>
    rw [Entry.put]
    by_cases hkey : first.key = e.key
    · simp [hkey]
    · simp only [if_neg hkey, List.map_cons, ih, List.mem_cons, Ne.symm hkey, false_or]
      split <;> rfl

theorem mem_put {e' : Entry} (h : e' ∈ Entry.put e entries) : e' = e ∨ e' ∈ entries := by
  induction entries with
  | nil => exact .inl (List.mem_singleton.mp h)
  | cons first rest ih =>
    rw [Entry.put] at h
    split at h
    next => exact (List.mem_cons.mp h).imp_right (List.mem_cons_of_mem _)
    next =>
      rcases List.mem_cons.mp h with rfl | h
      · exact .inr List.mem_cons_self
      · exact (ih h).imp_right (List.mem_cons_of_mem _)

/-- A key that is there keeps its place, and a new one comes last. -/
theorem put (h : KeyedEntries entries) (he : e.value.Keyed) : KeyedEntries (Entry.put e entries) := by
  refine ⟨?_, fun e' he' => ?_⟩
  · rw [keys_put]
    split
    next => exact h.keys
    next hnew =>
      rw [← List.concat_eq_append]
      exact List.Nodup.concat hnew h.keys
  · rcases mem_put he' with rfl | he'
    · exact he
    · exact h.values e' he'

theorem tail (h : KeyedEntries (e :: entries)) : KeyedEntries entries :=
  ⟨(List.nodup_cons.mp h.keys).2, fun e' he' => h.values e' (List.mem_cons_of_mem _ he')⟩

end KeyedEntries

theorem keyed_text (s : String) : (Value.text s).Keyed := by
  rw [Value.Keyed, Value.toDocument]
  exact .str s

theorem keyed_list (items : List String) : (Value.list items).Keyed := by
  rw [Value.Keyed, Value.toDocument]
  refine .arr fun d hd => ?_
  obtain ⟨s, _, rfl⟩ := List.mem_map.mp hd
  exact .str s

/-- A value that is written on one line holds no mapping. -/
theorem keyed_of_not_mapping {v : Value} (h : v.isMapping = false) : v.Keyed := by
  cases v with
  | text s => exact keyed_text s
  | flag b =>
    rw [Value.Keyed, Value.toDocument]
    exact .bool b
  | number n =>
    rw [Value.Keyed, Value.toDocument]
    exact .number n
  | list items => exact keyed_list items
  | mapping entries => cases h

theorem isMapping_ofText {s : String} {v : Value} (h : Value.ofText s = .ok v) : v.isMapping = false := by
  unfold Value.ofText at h
  dsimp only at h
  split at h
  next =>
    cases h
    rfl
  next =>
    split at h
    next =>
      cases h
      rfl
    next =>
      split at h
      next negative whole fraction _ =>
        cases hn : Number.ofNumeral negative whole fraction with
        | error e =>
          rw [hn] at h
          cases h
        | ok n =>
          rw [hn] at h
          cases h
          rfl
      next =>
        cases h
        rfl

theorem readScalar_keyed (cs : List Char) : Noted.Ensures Value.Keyed (readScalar cs) := by
  refine fun v hv => keyed_of_not_mapping ?_
  unfold readScalar Noted.lift at hv
  cases hs : Value.ofText (String.ofList cs) with
  | error e =>
    rw [hs] at hv
    cases hv
  | ok w =>
    rw [hs] at hv
    cases hv
    exact isMapping_ofText hs

section Read

variable {mode : Strictness}

theorem readEntries_keyed (nested : Bool) (parent : Nat) (after lines : List Line) (acc : List Entry)
    (h : KeyedEntries acc) : Noted.Ensures KeyedEntries (readEntries mode nested parent after lines acc) := by
  fun_induction readEntries mode nested parent after lines acc with
  | case1 => exact .pure h
  | case2 nested parent after l rest acc hblank ih => exact (Noted.Ensures.any _).bind fun _ _ => ih h
  | case3 nested parent after l rest acc hblank hcomment ih => exact ih h
  | case4 nested parent after l rest acc hblank hcomment hnone ih => exact (Noted.Ensures.any _).bind fun _ _ => ih h
  | case5 nested parent after l rest acc hblank hcomment key hkey hopening ih => exact ih (h.put (keyed_text ""))
  | case6 nested parent after l rest acc hblank hcomment key hkey hopening ih =>
    exact (Noted.Ensures.any _).bind fun items _ => ih items (h.put (keyed_list items))
  | case7 nested parent after l rest acc hblank hcomment key hkey hopening more inner ih =>
    exact (inner .nil).bind fun entries hentries => ih entries (h.put hentries.mapping)
  | case8 nested parent after l rest acc hblank hcomment key value hvalue hkey ih =>
    exact (readScalar_keyed value).bind fun v hv => ih v (h.put hv)

theorem readBelow_keyed (nested : Bool) (indent : Nat) (lines : List Line) :
    Noted.Ensures Value.Keyed (readBelow mode nested indent lines) := by
  unfold readBelow
  dsimp only
  split
  next => exact .pure (keyed_text "")
  next => exact (Noted.Ensures.any _).bind fun items _ => .pure (keyed_list items)
  next => exact (readEntries_keyed _ _ _ _ _ .nil).bind fun entries hentries => .pure hentries.mapping

end Read

/-- A property of fields that holds of a field with nothing in it, and is kept when enumerations or other fields are put
into one. -/
structure Field.Invariant (K : Field → Prop) : Prop where
  simple {f : Field} (henum : f.enum = none) (hdefine : f.enumDefine = none) (hitems : f.items = none)
    (hproperties : f.properties = []) : K f
  /-- Only enumerations and the fields inside matter. -/
  congr {f g : Field} (h : K f) (henum : g.enum = f.enum) (hdefine : g.enumDefine = f.enumDefine)
    (hitems : g.items = f.items) (hproperties : g.properties = f.properties) : K g
  enum {f : Field} (h : K f) (value : Value) : K { f with enum := some value.toList }
  define {f : Field} {mode : Strictness} {name : String} {line : Int} {entries : List Entry} {d : EnumDefinition}
    (h : K f)
    (hd : (EnumDefinition.ofEntries mode name line entries).outcome = .ok d) : K { f with enumDefine := some d }
  items {f g : Field} (h : K f) (hg : K g) : K { f with items := some g }
  properties {f : Field} {fields : List (String × Field)} (h : K f) (hnames : (fields.map (·.1)).Nodup)
    (hfields : ∀ p ∈ fields, K p.2) : K { f with properties := fields }

/-- A draft of fields with a property. -/
structure Draft.Keeps (K : Field → Prop) (d : Draft) : Prop where
  field : K d.field
  items : K d.items

namespace Field.Invariant

variable {K : Field → Prop} {mode : Strictness}

theorem keeps_empty (hK : Invariant K) : Draft.Keeps K {} :=
  ⟨hK.simple rfl rfl rfl rfl, hK.simple rfl rfl rfl rfl⟩

theorem keeps_applyRange (hK : Invariant K) {f : Field} (h : K f) (value : Value) (line : Int) (field : String) :
    Noted.Ensures K (applyRange mode f value line field) := by
  unfold applyRange
  split
  next => exact (Noted.Ensures.any _).bind fun _ _ => .pure h
  next =>
    exact (Noted.Ensures.any _).bind fun _ _ => (Noted.Ensures.any _).bind fun _ _ => .pure (hK.congr h rfl rfl rfl rfl)

/-- A directive that holds no field of its own leaves the fields inside as they are, but for the short form of items. -/
theorem keeps_applyDirective (hK : Invariant K) (name key : String) (value : Value) (line : Int) {d : Draft}
    (h : d.Keeps K) (directive : Directive) :
    Noted.Ensures (Draft.Keeps K) (applyDirective mode name key value line d directive) := by
  have hfield (f : Field) (henum : f.enum = d.field.enum) (hdefine : f.enumDefine = d.field.enumDefine)
      (hitems : f.items = d.field.items) (hproperties : f.properties = d.field.properties) :
      Draft.Keeps K { d with field := f } := ⟨hK.congr h.field henum hdefine hitems hproperties, h.items⟩
  have hshort (f : Field) (henum : f.enum = d.items.enum) (hdefine : f.enumDefine = d.items.enumDefine)
      (hitems : f.items = d.items.items) (hproperties : f.properties = d.items.properties) :
      Draft.Keeps K { d with items := f } := ⟨h.field, hK.congr h.items henum hdefine hitems hproperties⟩
  cases directive with
  | type | format | description | ref | enumFrom | const | default | required => exact .pure (hfield _ rfl rfl rfl rfl)
  | pattern | minimum | maximum | minLength | maxLength | minItems | maxItems =>
    exact (Noted.Ensures.any _).bind fun _ _ => .pure (hfield _ rfl rfl rfl rfl)
  | range => exact (hK.keeps_applyRange h.field _ _ _).bind fun f hf => .pure ⟨hf, h.items⟩
  | enum => exact .pure ⟨hK.enum h.field value, h.items⟩
  | itemsRef | itemsType | itemsEnumFrom => exact .pure (hshort _ rfl rfl rfl rfl)
  | properties => exact (Noted.Ensures.any _).bind fun _ _ => .pure h
  | enumDefine =>
    unfold applyDirective
    dsimp only
    split
    next entries =>
      have hread : (EnumDefinition.ofEntries mode name line entries).Ensures fun e =>
          (EnumDefinition.ofEntries mode name line entries).outcome = .ok e := fun _ he => he
      exact hread.bind fun e he => .pure ⟨hK.define h.field he, h.items⟩
    next => exact (Noted.Ensures.any _).bind fun _ _ => .pure h
  | items =>
    unfold applyDirective
    dsimp only
    split
    next => exact .pure h
    next => exact .pure ⟨hK.items h.field (hK.simple rfl rfl rfl rfl), h.items⟩

theorem keeps_finish (hK : Invariant K) (name : String) (line : Int) {d : Draft} (h : d.Keeps K) :
    Noted.Ensures K (d.finish mode name line) := by
  unfold Draft.finish
  dsimp only
  refine (Noted.Ensures.any _).bind fun _ _ => .pure ?_
  split
  next => exact hK.congr (hK.items h.field h.items) rfl rfl rfl rfl
  next => exact h.field

-- entries nest as fields do: a mapping among them is read as a field of its own
mutual
theorem keeps_applyEntries (hK : Invariant K) (name : String) : (entries : List Entry) → KeyedEntries entries →
    ∀ d : Draft, d.Keeps K → Noted.Ensures (Draft.Keeps K) (applyEntries mode name entries d)
  | [], _, d, hd => by
    rw [applyEntries]
    exact .pure hd
  | e :: rest, h, d, hd => by
    rw [applyEntries]
    exact (hK.keeps_applyEntry name e (h.values e List.mem_cons_self) d hd).bind fun d hd =>
      hK.keeps_applyEntries name rest h.tail d hd

theorem keeps_applyEntry (hK : Invariant K) (name : String) : (e : Entry) → e.value.Keyed →
    ∀ d : Draft, d.Keeps K → Noted.Ensures (Draft.Keeps K) (applyEntry mode name e d)
  | .mk key value line, h, d, hd => by
    rw [applyEntry.eq_def]
    dsimp only
    split
    next => exact (Noted.Ensures.any _).bind fun _ _ => .pure hd
    next =>
      split
      next entries =>
        refine (hK.keeps_applyEntries name entries (.of_mapping h) {} hK.keeps_empty).bind fun inner hinner => ?_
        exact (hK.keeps_finish name line hinner).bind fun f hf => .pure ⟨hK.items hd.field hf, hd.items⟩
      next => exact hK.keeps_applyDirective name key _ line hd .items
    next =>
      split
      next entries =>
        refine (hK.keeps_projectProperties name entries (.of_mapping h)).bind fun properties hproperties => .pure ?_
        have hnames : (properties.map (·.1)).Nodup := hproperties.1 ▸ (KeyedEntries.of_mapping h).keys
        exact ⟨hK.properties hd.field hnames hproperties.2, hd.items⟩
      next => exact hK.keeps_applyDirective name key _ line hd .properties
    next directive _ _ _ => exact hK.keeps_applyDirective name key value line hd directive

theorem keeps_projectProperties (hK : Invariant K) (name : String) : (entries : List Entry) → KeyedEntries entries →
    Noted.Ensures (fun fields => fields.map (·.1) = entries.map Entry.key ∧ ∀ p ∈ fields, K p.2)
      (projectProperties mode name entries)
  | [], _ => by
    rw [projectProperties]
    exact .pure ⟨rfl, fun _ hp => absurd hp List.not_mem_nil⟩
  | .mk key value line :: rest, h => by
    have hrest : Noted.Ensures _ (projectProperties mode name rest) := hK.keeps_projectProperties name rest h.tail
    rw [projectProperties.eq_def]
    dsimp only
    split
    next entries =>
      have hentries : KeyedEntries entries := .of_mapping (h.values _ List.mem_cons_self)
      have hinner : Noted.Ensures _ (applyEntries mode (name ++ "." ++ key) entries {}) :=
        hK.keeps_applyEntries _ entries hentries {} hK.keeps_empty
      refine hinner.bind fun inner hinner => (hK.keeps_finish _ line hinner).bind fun f hf => hrest.bind fun others hothers => ?_
      exact .pure ⟨congrArg (key :: ·) hothers.1, List.forall_mem_cons.mpr ⟨hf, hothers.2⟩⟩
    next =>
      exact hrest.bind fun others hothers => .pure ⟨congrArg (key :: ·) hothers.1,
        List.forall_mem_cons.mpr ⟨hK.simple rfl rfl rfl rfl, hothers.2⟩⟩
end

theorem keeps_ofEntries (hK : Invariant K) (name : String) (line : Int) {entries : List Entry} (h : KeyedEntries entries) :
    Noted.Ensures K (Field.ofEntries mode name line entries) :=
  (hK.keeps_applyEntries name entries h {} hK.keeps_empty).bind fun _ hd => hK.keeps_finish name line hd

/-- What each of the fields and the directives of a note keeps, the note keeps. -/
theorem keeps_readSections {B : Block → Prop} (hK : Invariant K)
    (hfield : ∀ b, B b → ∀ name f, K f → B { b with fields := putField name f b.fields })
    (hroot : ∀ b, B b → ∀ key value line, value.Keyed → Noted.Ensures B (applyRoot mode b key value line))
    {b : Block} (h : B b) (lines : List Line) : Noted.Ensures B (readSections mode b lines) := by
  have hread (b : Block) (h : B b) (name : String) (header : Line) (rest : List Line) :
      Noted.Ensures B (readField mode b name header rest) := by
    unfold readField
    refine (Noted.Ensures.any _).bind fun _ _ => (readEntries_keyed _ _ _ _ _ .nil).bind fun entries hentries => ?_
    refine (Noted.Ensures.any _).bind fun _ _ => (hK.keeps_ofEntries name header.number hentries).bind fun f hf => ?_
    exact .pure (hfield b h name f hf)
  fun_induction readSections mode b lines with
  | case1 b => exact .pure h
  | case2 b l rest hskip ih => exact ih h
  | case3 b l rest hskip hend => exact .pure h
  | case4 b l rest hskip hend name hname ih => exact (hread b h name l rest).bind fun b hb => ih b hb
  | case5 b l rest hskip hend hname hnone ih => exact (Noted.Ensures.any _).bind fun _ _ => ih h
  | case6 b l rest hskip hend hname key hkey ih =>
    exact (readBelow_keyed _ _ _).bind fun v hv => (hroot b h key v _ hv).bind fun b hb => ih b hb
  | case7 b l rest hskip hend hname key value hvalue hkey ih =>
    exact (readScalar_keyed _).bind fun v hv => (hroot b h key v _ hv).bind fun b hb => ih b hb

end Field.Invariant

/-- No two fields in a field, at any depth, have one name. -/
inductive Field.Keyed : Field → Prop
  | mk {f : Field} (items : ∀ g ∈ f.items, Keyed g) (names : (f.properties.map (·.1)).Nodup)
    (properties : ∀ p ∈ f.properties, Keyed p.2) : Keyed f

/-- No two of some fields have one name, and each is keyed. -/
structure KeyedFields (fields : List (String × Field)) : Prop where
  names : (fields.map (·.1)).Nodup
  fields : ∀ p ∈ fields, p.2.Keyed

namespace Field.Keyed

variable {f g : Field}

theorem inner (h : f.Keyed) : KeyedFields f.properties := by
  cases h with
  | mk _ names properties => exact ⟨names, properties⟩

theorem element (h : f.Keyed) (hg : g ∈ f.items) : g.Keyed := by
  cases h with
  | mk items _ _ => exact items g hg

theorem of_parts (hitems : ∀ g ∈ f.items, g.Keyed) (h : KeyedFields f.properties) : f.Keyed := .mk hitems h.names h.fields

/-- Only what a field has inside it matters. -/
theorem congr (h : f.Keyed) (hitems : g.items = f.items) (hproperties : g.properties = f.properties) : g.Keyed :=
  .of_parts (fun _ hg => h.element (hitems ▸ hg)) (hproperties ▸ h.inner)

theorem of_simple (hitems : f.items = none) (hproperties : f.properties = []) : f.Keyed :=
  .of_parts (fun _ hg => by simp [hitems] at hg) (hproperties ▸ ⟨List.nodup_nil, fun _ hp => absurd hp List.not_mem_nil⟩)

theorem invariant : Invariant Field.Keyed where
  simple _ _ hitems hproperties := .of_simple hitems hproperties
  congr h _ _ hitems hproperties := h.congr hitems hproperties
  enum h _ := h.congr rfl rfl
  define h _ := h.congr rfl rfl
  items h hg := .of_parts (fun _ hg' => Option.some.inj hg' ▸ hg) h.inner
  properties h hnames hfields := .of_parts (fun _ hg => h.element hg) ⟨hnames, hfields⟩

end Field.Keyed

theorem mem_putField {name : String} {f : Field} {fields : List (String × Field)} {p : String × Field}
    (h : p ∈ putField name f fields) : p.2 = f ∨ p ∈ fields := by
  induction fields with
  | nil => exact .inl (List.mem_singleton.mp h ▸ rfl)
  | cons q rest ih =>
    obtain ⟨n, g⟩ := q
    rw [putField] at h
    split at h
    next =>
      rcases List.mem_cons.mp h with rfl | h
      · exact .inl rfl
      · exact .inr (List.mem_cons_of_mem _ h)
    next =>
      rcases List.mem_cons.mp h with rfl | h
      · exact .inr List.mem_cons_self
      · exact (ih h).imp_right (List.mem_cons_of_mem _)

/-- A field that comes again takes the place of the first. -/
theorem KeyedFields.put {fields : List (String × Field)} (h : KeyedFields fields) (name : String) {f : Field}
    (hf : f.Keyed) : KeyedFields (putField name f fields) := by
  refine ⟨?_, fun p hp => ?_⟩
  · rw [names_putField]
    split
    next => exact h.names
    next hnew =>
      rw [← List.concat_eq_append]
      exact List.Nodup.concat hnew h.names
  · rcases mem_putField hp with heq | hp
    · exact heq ▸ hf
    · exact h.fields p hp

/-- A block of an owner in which no mapping and no field holds two things of one name. -/
structure Block.Keyed (owner : String) (b : Block) : Prop where
  owner : b.owner = owner
  oneOf : ∀ d ∈ b.oneOf, d.Distinct
  anyOf : ∀ d ∈ b.anyOf, d.Distinct
  allOf : ∀ d ∈ b.allOf, d.Distinct
  fields : KeyedFields b.fields

theorem distinct_of_toAlternatives {v : Value} (h : v.Keyed) {d : Document} (hd : d ∈ v.toAlternatives) : d.Distinct := by
  unfold Value.toAlternatives at hd
  split at hd
  next => exact List.mem_singleton.mp hd ▸ h
  next =>
    obtain ⟨s, _, rfl⟩ := List.mem_map.mp hd
    exact .str s
  next => exact List.mem_singleton.mp hd ▸ h

variable {mode : Strictness} {owner : String} {b : Block}

theorem distinct_of_append {ds : List Document} (h : ∀ d ∈ ds, d.Distinct) {v : Value} (hv : v.Keyed) :
    ∀ d ∈ ds ++ v.toAlternatives, d.Distinct := by
  intro d hd
  rcases List.mem_append.mp hd with hd | hd
  · exact h d hd
  · exact distinct_of_toAlternatives hv hd

theorem applyRoot_keyed (h : b.Keyed owner) (key : String) {value : Value} (hv : value.Keyed) (line : Int) :
    Noted.Ensures (Block.Keyed owner) (applyRoot mode b key value line) := by
  unfold applyRoot
  split
  next => exact (Noted.Ensures.any _).bind fun _ _ => .pure h
  next => exact .pure { h with }
  next => exact .pure { h with }
  next => exact .pure { h with }
  next =>
    split
    next => exact .pure { h with }
    next => exact (Noted.Ensures.any _).bind fun _ _ => .pure h
  next => exact .pure { h with oneOf := distinct_of_append h.oneOf hv }
  next => exact .pure { h with anyOf := distinct_of_append h.anyOf hv }
  next => exact .pure { h with allOf := distinct_of_append h.allOf hv }
  next => exact .pure { h with }

theorem readSections_keyed (h : b.Keyed owner) (lines : List Line) :
    Noted.Ensures (Block.Keyed owner) (readSections mode b lines) :=
  Field.Keyed.invariant.keeps_readSections (fun _ h name _ hf => { h with fields := h.fields.put name hf })
    (fun _ h key _ line hv => applyRoot_keyed h key hv line) h lines

/-- A block that is read is keyed, and belongs to the owner it is read for. -/
theorem keyed_of_parse {strictness : Strictness} {body : String} {first : Int} {found : List Diagnostic}
    (h : Block.parse strictness owner body first = .ok (b, found)) : b.Keyed owner := by
  obtain ⟨rs, hread, _⟩ := parse_eq_ok.mp h
  obtain ⟨lines, _, hread⟩ := Option.map_eq_some_iff.mp hread
  have hempty : Block.Keyed owner { owner } :=
    { owner := rfl
      oneOf := fun _ hd => absurd hd List.not_mem_nil
      anyOf := fun _ hd => absurd hd List.not_mem_nil
      allOf := fun _ hd => absurd hd List.not_mem_nil
      fields := ⟨List.nodup_nil, fun _ hp => absurd hp List.not_mem_nil⟩ }
  exact readSections_keyed hempty lines b (by rw [hread])

theorem keyed_of_ofNote {strictness : Strictness} {n : Note} {found : List Diagnostic}
    (h : Block.ofNote strictness n = .ok (b, found)) : b.Keyed n.owner := keyed_of_parse h

namespace Note

theorem owner_ne_of_header? {cs rest : List Char} {owner : String} (h : header? cs = some (owner, rest)) : owner ≠ "" := by
  obtain ⟨_, _, h⟩ := Option.bind_eq_some_iff.mp h
  obtain ⟨cs, _, h⟩ := Option.bind_eq_some_iff.mp h
  dsimp only at h
  split at h
  next => cases h
  next c owner howner =>
    split at h
    next => cases h
    next =>
      obtain ⟨_, _, h⟩ := Option.bind_eq_some_iff.mp h
      cases h
      rw [howner]
      simp

/-- Every note belongs to a class with a name. -/
theorem owner_ne_of_mem_scan {skip line : Nat} {atStart : Bool} {cs : List Char} {n : Note}
    (h : n ∈ scan skip line atStart cs) : n.owner ≠ "" := by
  induction cs generalizing skip line atStart with
  | nil => cases h
  | cons c cs ih =>
    rw [scan.eq_def] at h
    dsimp only at h
    split at h
    next => exact ih h
    next =>
      split at h
      next => exact ih h
      next found hfound =>
        split at h
        next =>
          rcases List.mem_cons.mp h with rfl | h
          · split at hfound
            next =>
              obtain ⟨header, hheader, hfound⟩ := Option.bind_eq_some_iff.mp hfound
              obtain ⟨_, _, hfound⟩ := Option.bind_eq_some_iff.mp hfound
              cases hfound
              exact owner_ne_of_header? hheader
            next => cases hfound
          · exact ih h
        next => exact ih h

end Note

/-- A class has a name, since its owner has one. -/
theorem Block.name_ne_empty (h : b.owner ≠ "") : b.name ≠ "" := by
  unfold Block.name
  split
  next => exact h
  next => exact h
  next title hne _ => exact fun he => hne (he ▸ rfl)

end NoteSchema.Hint
