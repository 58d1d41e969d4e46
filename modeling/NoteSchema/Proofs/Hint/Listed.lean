import NoteSchema.Proofs.Hint.Keyed

namespace NoteSchema.Hint

def Value.isText : Value → Bool
  | .text _ => true
  | _ => false

/-- The values of an enumeration as they are read: texts, or one value that is no text. -/
def Listed (values : List Value) : Prop :=
  (∀ v ∈ values, v.isText = true) ∨ ∃ v, v.isText = false ∧ values = [v]

theorem listed_nil : Listed [] := .inl fun _ hv => absurd hv List.not_mem_nil

/-- A list, in brackets or as bullets, and the pieces between commas are texts. -/
theorem listed_toList (v : Value) : Listed v.toList := by
  cases v with
  | text s =>
    refine .inl fun w hw => ?_
    obtain ⟨piece, _, rfl⟩ := List.mem_map.mp hw
    rfl
  | list items =>
    refine .inl fun w hw => ?_
    obtain ⟨item, _, rfl⟩ := List.mem_map.mp hw
    rfl
  | flag b => exact .inr ⟨_, rfl, rfl⟩
  | number n => exact .inr ⟨_, rfl, rfl⟩
  | mapping entries => exact .inr ⟨_, rfl, rfl⟩

/-- The values of all enumerations in a field, at any depth, are as they are read. -/
inductive Field.Listed : Field → Prop
  | mk {f : Field} (enum : ∀ values ∈ f.enum, Hint.Listed values) (define : ∀ d ∈ f.enumDefine, Hint.Listed d.values)
    (items : ∀ g ∈ f.items, Listed g) (properties : ∀ p ∈ f.properties, Listed p.2) : Listed f

namespace Field.Listed

variable {f g : Field}

theorem enum (h : f.Listed) : ∀ values ∈ f.enum, Hint.Listed values := by
  cases h
  assumption

theorem define (h : f.Listed) : ∀ d ∈ f.enumDefine, Hint.Listed d.values := by
  cases h
  assumption

theorem items (h : f.Listed) : ∀ g ∈ f.items, g.Listed := by
  cases h
  assumption

theorem properties (h : f.Listed) : ∀ p ∈ f.properties, p.2.Listed := by
  cases h
  assumption

/-- A field without enumerations and without fields inside it. -/
theorem of_simple (henum : f.enum = none) (hdefine : f.enumDefine = none) (hitems : f.items = none)
    (hproperties : f.properties = []) : f.Listed :=
  .mk (fun _ h => by simp [henum] at h) (fun _ h => by simp [hdefine] at h) (fun _ h => by simp [hitems] at h)
    (fun _ h => by simp [hproperties] at h)

/-- Only enumerations and the fields inside matter. -/
theorem congr (h : f.Listed) (henum : g.enum = f.enum) (hdefine : g.enumDefine = f.enumDefine)
    (hitems : g.items = f.items) (hproperties : g.properties = f.properties) : g.Listed :=
  .mk (henum ▸ h.enum) (hdefine ▸ h.define) (hitems ▸ h.items) (hproperties ▸ h.properties)

end Field.Listed

section Enumeration

variable {mode : Strictness}

theorem listed_applyEnumDirective (field key : String) (e : Entry) {d : EnumDefinition} (h : Listed d.values) :
    Noted.Ensures (fun d => Listed d.values) (applyEnumDirective mode field d key e) := by
  unfold applyEnumDirective
  split
  next => exact (Noted.Ensures.any _).bind fun _ _ => .pure h
  next =>
    split
    next => exact (Noted.Ensures.any _).bind fun _ _ => .pure h
    next => exact .pure h
    next => exact .pure h
    next => exact .pure h
    next => exact .pure (listed_toList e.value)
    next => exact .pure h
    next => exact .pure h
    next => exact .pure h
    next => exact (Noted.Ensures.any _).bind fun _ _ => .pure h
    next => exact .pure h
    next => exact .pure h
    next => exact .pure h
    next => exact .pure h

theorem listed_applyEnumDirectives (field : String) (all : List (String × Entry)) {d : EnumDefinition}
    (h : Listed d.values) : Noted.Ensures (fun d => Listed d.values) (applyEnumDirectives mode field d all) := by
  induction all generalizing d with
  | nil => exact .pure h
  | cons p rest ih => exact (listed_applyEnumDirective field p.1 p.2 h).bind fun d hd => ih hd

theorem listed_ofEntries (field : String) (line : Int) (entries : List Entry) :
    Noted.Ensures (fun d => Listed d.values) (EnumDefinition.ofEntries mode field line entries) := by
  unfold EnumDefinition.ofEntries
  dsimp only
  split
  next => exact (Noted.Ensures.any _).bind fun _ _ => listed_applyEnumDirectives field _ listed_nil
  next => exact listed_applyEnumDirectives field _ listed_nil

end Enumeration

theorem Field.Listed.invariant : Field.Invariant Field.Listed where
  simple := .of_simple
  congr := .congr
  enum h value := by
    refine .mk (fun values hvalues => ?_) h.define h.items h.properties
    obtain rfl := Option.some.inj hvalues
    exact listed_toList value
  define h hd := by
    refine .mk h.enum (fun d hin => ?_) h.items h.properties
    obtain rfl := Option.some.inj hin
    exact listed_ofEntries _ _ _ _ hd
  items h hg := .mk h.enum h.define (fun _ hin => Option.some.inj hin ▸ hg) h.properties
  properties h _ hfields := .mk h.enum h.define h.items hfields

/-- The fields of a block have enumerations as they are read. -/
def Block.Listed (b : Block) : Prop := ∀ p ∈ b.fields, p.2.Listed

variable {mode : Strictness} {b : Block}

theorem listed_applyRoot (h : b.Listed) (key : String) (value : Value) (line : Int) :
    Noted.Ensures Block.Listed (applyRoot mode b key value line) := by
  unfold applyRoot
  split
  next => exact (Noted.Ensures.any _).bind fun _ _ => .pure h
  next => exact .pure h
  next => exact .pure h
  next => exact .pure h
  next =>
    split
    next => exact .pure h
    next => exact (Noted.Ensures.any _).bind fun _ _ => .pure h
  next => exact .pure h
  next => exact .pure h
  next => exact .pure h
  next => exact .pure h

theorem listed_readSections (h : b.Listed) (lines : List Line) :
    Noted.Ensures Block.Listed (readSections mode b lines) := by
  refine Field.Listed.invariant.keeps_readSections (fun b h name f hf p hp => ?_)
    (fun _ h key value line _ => listed_applyRoot h key value line) h lines
  rcases mem_putField hp with heq | hp
  · exact heq ▸ hf
  · exact h p hp

/-- The fields of a block that is read have enumerations as they are read. -/
theorem listed_of_parse {strictness : Strictness} {owner body : String} {first : Int} {found : List Diagnostic}
    (h : Block.parse strictness owner body first = .ok (b, found)) : b.Listed := by
  obtain ⟨rs, hread, _⟩ := parse_eq_ok.mp h
  obtain ⟨lines, _, hread⟩ := Option.map_eq_some_iff.mp hread
  have hempty : Block.Listed { owner } := fun _ hp => absurd hp List.not_mem_nil
  exact listed_readSections hempty lines b (by rw [hread])

end NoteSchema.Hint
