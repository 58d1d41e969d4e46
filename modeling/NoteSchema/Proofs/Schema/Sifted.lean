import NoteSchema.Proofs.Hint.Listed
import NoteSchema.Proofs.Schema.Metadata
import NoteSchema.Proofs.Schema.Origins

namespace NoteSchema.Schema

open Hint (Field Value)

/-- Whether a value is of a type of scalars. -/
def hasType (type : String) (v : Value) : Bool :=
  match type, v with
  | "string", .text _ => true
  | "integer", .number (.int _) => true
  | "number", .number _ => true
  | _, _ => false

def scalarTypes : List String := ["string", "integer", "number"]

/-- A text is a numeral of a number. -/
def Spells (s : String) (n : Number) : Prop :=
  ∃ negative whole fraction, Number.numeral? s.toList = some (negative, whole, fraction) ∧
    Number.ofNumeral negative whole fraction = .ok n

/-- The error that a value is not of the type of its enumeration. -/
def wrongValue (owner field type : String) (v : Value) : Diagnostic :=
  ⟨.error, "Enum value '" ++ v.display ++ "' is not of type " ++ type, none, owner, field⟩

/-- Values one after another are kept as they are, kept as the numbers that they spell, or left out and reported. -/
inductive Sifted (reported : Value → Prop) : List Value → List Value → Prop
  | nil : Sifted reported [] []
  | same {v : Value} {written kept : List Value} : Sifted reported written kept →
      Sifted reported (v :: written) (v :: kept)
  | spelled {s : String} {n : Number} {written kept : List Value} : Spells s n → Sifted reported written kept →
      Sifted reported (.text s :: written) (.number n :: kept)
  | left {v : Value} {written kept : List Value} : reported v → Sifted reported written kept →
      Sifted reported (v :: written) kept

namespace Sifted

variable {reported : Value → Prop} {written kept : List Value}

theorem refl (values : List Value) : Sifted reported values values := by
  induction values with
  | nil => exact .nil
  | cons v vs ih => exact ih.same

theorem imp {more : Value → Prop} (h : Sifted reported written kept) (himp : ∀ v, reported v → more v) :
    Sifted more written kept := by
  induction h with
  | nil => exact .nil
  | same _ ih => exact ih.same
  | spelled hs _ ih => exact ih.spelled hs
  | left hv _ ih => exact ih.left (himp _ hv)

/-- A single value that is no text is kept as it is, if it is kept. -/
theorem of_single {v k : Value} (h : Sifted reported [v] kept) (hv : v.isText = false) (hk : k ∈ kept) : k = v := by
  cases h with
  | same h =>
    cases h
    exact List.mem_singleton.mp hk
  | spelled => cases hv
  | left _ h =>
    cases h
    cases hk

end Sifted

/-- The values of an enumeration under a type: each value written is kept or reported, and what is kept is of the type
but for a value written alone that is no text. -/
structure Enumerated (type : String) (reported : Value → Prop) (written kept : List Value) : Prop where
  sifted : Sifted reported written kept
  typed : ∀ v ∈ kept, hasType type v = true ∨ v.isText = false ∧ written = [v]

section Steps

variable {s : Site} {f : Field} {rs : List Remark} {type : String} {written kept : List Value}

/-- A value that counts as a number is one, or a text that spells one; under whole numbers it spells a whole number. -/
theorem numberOf?_eq_some {integer : Bool} {v : Value} {n : Number} (h : numberOf? integer v = .ok (some n)) :
    v = .number n ∨ ∃ s, v = .text s ∧ Spells s n ∧ (integer = true → ∃ k, n = .int k) := by
  cases v with
  | number m =>
    cases h
    exact .inl rfl
  | text s =>
    unfold numberOf? at h
    dsimp only at h
    split at h
    next negative whole fraction hs =>
      split at h
      next => cases h
      next hkind =>
        cases hn : Number.ofNumeral negative whole fraction with
        | error e =>
          rw [hn] at h
          cases h
        | ok m =>
          rw [hn] at h
          cases h
          refine .inr ⟨s, rfl, ⟨negative, whole, fraction, hs, hn⟩, fun hinteger => ?_⟩
          cases fraction with
          | some digits => simp [hinteger] at hkind
          | none =>
            obtain ⟨k, _, rfl⟩ : ∃ k, Decimal.readInt negative whole = .ok k ∧ n = .int k := by
              unfold Number.ofNumeral at hn
              cases hk : Decimal.readInt negative whole with
              | error e =>
                rw [hk] at hn
                cases hn
              | ok k =>
                rw [hk] at hn
                cases hn
                exact ⟨k, rfl, rfl⟩
            exact ⟨k, rfl⟩
    next => cases h
  | _ => cases h

theorem sifted_numbersOf (h : numbersOf s type written = ⟨rs, .ok kept⟩) :
    Sifted (fun v => Remark.problem (wrongValue s.owner s.field type v) ∈ rs) written kept := by
  induction written generalizing rs kept with
  | nil =>
    cases h
    exact .nil
  | cons v vs ih =>
    obtain ⟨first, n, later, hn, hlater, rfl⟩ := Noted.bind_eq_ok.mp h
    cases n with
    | none =>
      obtain ⟨report, u, last, hreport, hlast, rfl⟩ := Noted.bind_eq_ok.mp hlater
      cases hreport
      refine ((ih hlast).imp fun w hw => ?_).left ?_
      · exact List.mem_append_right _ (List.mem_append_right _ hw)
      · exact List.mem_append_right _ (List.mem_append_left _ List.mem_cons_self)
    | some n =>
      obtain ⟨others, rest, last, hrest, hlast, rfl⟩ := Noted.bind_eq_ok.mp hlater
      cases hlast
      have hvs := (ih hrest).imp fun w hw => List.mem_append_right first (List.mem_append_left [] hw)
      rcases numberOf?_eq_some (congrArg Noted.outcome hn) with rfl | ⟨s, rfl, hspells, -⟩
      · exact hvs.same
      · exact hvs.spelled hspells

/-- Texts under whole numbers become whole numbers, and under numbers numbers. -/
theorem hasType_numbersOf (htype : type = "integer" ∨ type = "number") (h : numbersOf s type written = ⟨rs, .ok kept⟩)
    (htexts : ∀ v ∈ written, v.isText = true) : ∀ v ∈ kept, hasType type v = true := by
  induction written generalizing rs kept with
  | nil =>
    cases h
    exact fun _ hv => absurd hv List.not_mem_nil
  | cons v vs ih =>
    obtain ⟨hv, hvs⟩ := List.forall_mem_cons.mp htexts
    obtain ⟨first, n, later, hn, hlater, rfl⟩ := Noted.bind_eq_ok.mp h
    cases n with
    | none =>
      obtain ⟨report, u, last, hreport, hlast, rfl⟩ := Noted.bind_eq_ok.mp hlater
      exact ih hlast hvs
    | some n =>
      obtain ⟨others, rest, last, hrest, hlast, rfl⟩ := Noted.bind_eq_ok.mp hlater
      cases hlast
      refine List.forall_mem_cons.mpr ⟨?_, ih hrest hvs⟩
      rcases numberOf?_eq_some (congrArg Noted.outcome hn) with rfl | ⟨s, -, -, hinteger⟩
      · cases hv
      · rcases htype with rfl | rfl
        · obtain ⟨k, rfl⟩ := hinteger (by decide)
          rfl
        · rfl

/-- The values of an enumeration as they are read come out enumerated under the types of scalars. -/
theorem enumerated_of_typedValues (htype : type ∈ scalarTypes) (hwritten : Hint.Listed written)
    (h : typedValues s (some type) written = ⟨rs, .ok kept⟩) :
    Enumerated type (fun v => Remark.problem (wrongValue s.owner s.field type v) ∈ rs) written kept := by
  have hnumbers (hnumber : type = "integer" ∨ type = "number") (hrun : numbersOf s type written = ⟨rs, .ok kept⟩) :
      Enumerated type (fun v => Remark.problem (wrongValue s.owner s.field type v) ∈ rs) written kept := by
    have hsifted := sifted_numbersOf hrun
    refine ⟨hsifted, fun k hk => ?_⟩
    rcases hwritten with htexts | ⟨v, hv, rfl⟩
    · exact .inl (hasType_numbersOf hnumber hrun htexts k hk)
    · obtain rfl := hsifted.of_single hv hk
      exact .inr ⟨hv, rfl⟩
  simp only [scalarTypes, List.mem_cons, List.mem_nil_iff, or_false] at htype
  rcases htype with rfl | rfl | rfl
  · cases h
    refine ⟨.refl written, fun k hk => ?_⟩
    rcases hwritten with htexts | ⟨v, hv, rfl⟩
    · have := htexts k hk
      cases k <;> cases this
      exact .inl rfl
    · obtain rfl := List.mem_singleton.mp hk
      exact .inr ⟨hv, rfl⟩
  · exact hnumbers (.inl rfl) h
  · exact hnumbers (.inr rfl) h

theorem enumerated_of_fieldValues {values : Option (List Value)} {o : Option (List Value)}
    (h : fieldValues s (some type) o = ⟨rs, .ok values⟩) (hwritten : written ∈ o) (hlisted : Hint.Listed written)
    (htype : type ∈ scalarTypes) : ∃ kept, values = some kept ∧
      Enumerated type (fun v => Remark.problem (wrongValue s.owner s.field type v) ∈ rs) written kept := by
  obtain rfl : o = some written := hwritten
  obtain ⟨own, kept, last, hkept, hlast, rfl⟩ := Noted.bind_eq_ok.mp h
  cases hlast
  rw [List.append_nil]
  exact ⟨kept, rfl, enumerated_of_typedValues htype hlisted hkept⟩

theorem Enumerated.imp {reported more : Value → Prop} (h : Enumerated type reported written kept)
    (himp : ∀ v, reported v → more v) : Enumerated type more written kept := ⟨h.sifted.imp himp, h.typed⟩

theorem map_of_scalars {values : List Value} {ds : List Document} (h : scalars values = .ok ds) :
    ds = values.map (·.toDocument) := by
  induction values generalizing ds with
  | nil => exact (Except.ok.inj h).symm
  | cons v vs ih =>
    rw [scalars.eq_def] at h
    split at h
    next heq => cases heq
    next => cases h
    next v' vs' hne heq =>
      obtain ⟨rfl, rfl⟩ := List.cons.inj heq
      obtain ⟨rest, hrest, h⟩ := Fault.bind_eq_ok.mp h
      rw [List.map_cons, ← ih hrest]
      exact (Except.ok.inj h).symm

/-- The request for an enumeration has the values of its definition, as far as they are of its type. -/
theorem enumerated_of_emissionOf {d : Hint.EnumDefinition} {id : ArtifactId} {e : Emission}
    (hlisted : Hint.Listed d.values) (h : emissionOf s d id = ⟨rs, .ok e⟩) :
    e.enumeration.valueType = d.type.text ∧ ∃ kept, e.enumeration.values = Json.distinct (kept.map (·.toDocument)) ∧
      Enumerated d.type.text (fun v => Remark.problem (wrongValue s.owner s.field d.type.text v) ∈ rs) d.values kept := by
  obtain ⟨first, path, rest, hpath, hrest, rfl⟩ := Noted.bind_eq_ok.mp h
  obtain ⟨own, kept, later, hkept, hlater, rfl⟩ := Noted.bind_eq_ok.mp hrest
  obtain ⟨none, ds, last, hds, hlast, rfl⟩ := Noted.bind_eq_ok.mp hlater
  cases hlast
  have htype : d.type.text ∈ scalarTypes := by cases d.type <;> decide
  refine ⟨rfl, kept, ?_, (enumerated_of_typedValues htype hlisted hkept).imp fun v hv => ?_⟩
  · rw [← map_of_scalars (congrArg Noted.outcome hds)]
  · exact List.mem_append_right _ (List.mem_append_left _ hv)

/-- A request in a run for fields was made for one of them. -/
theorem exists_asked {fields : List (String × Field)} {nodes : List (String × Node)} {e : Emission}
    (h : compileFields s fields = ⟨rs, .ok nodes⟩) (he : Remark.emission e ∈ rs) :
    ∃ name f node own, (name, f) ∈ fields ∧ (name, node) ∈ nodes ∧
      compileField { s with field := name } f = ⟨own, .ok node⟩ ∧ own.Sublist rs ∧ Remark.emission e ∈ own := by
  induction fields generalizing rs nodes with
  | nil =>
    cases h
    cases he
  | cons p rest ih =>
    obtain ⟨first, node, later, hnode, hlater, rfl⟩ := Noted.bind_eq_ok.mp h
    obtain ⟨others, nodes, last, hnodes, hlast, rfl⟩ := Noted.bind_eq_ok.mp hlater
    cases hlast
    rw [List.append_nil] at he ⊢
    rcases List.mem_append.mp he with he | he
    · exact ⟨p.1, p.2, node, first, List.mem_cons_self, List.mem_cons_self, hnode, List.sublist_append_left _ _, he⟩
    · obtain ⟨name, f, node', own, hf, hnode', hown, hsub, hmem⟩ := ih hnodes he
      exact ⟨name, f, node', own, List.mem_cons_of_mem _ hf, List.mem_cons_of_mem _ hnode', hown,
        hsub.trans (List.sublist_append_right _ _), hmem⟩

end Steps

/-- A field that is decided to be of a type of scalars has that type. -/
theorem type?_of_isPrimitive {s : Site} {f : Field} {rs : List Remark} {shape : Shape} {type : String}
    (h : fieldShape s f = ⟨rs, .ok shape⟩) (hprimitive : isPrimitive f type = true) (htype : type ∈ scalarTypes) :
    shape.type? = some type := by
  have hother {other : String} (hother : other ∉ scalarTypes) : isPrimitive f other = false := by
    unfold isPrimitive at hprimitive ⊢
    split at hprimitive
    next name _ =>
      split at hprimitive
      next t ht =>
        obtain rfl : t = type := by simpa using hprimitive
        have hne : t ≠ other := fun he => hother (he ▸ htype)
        simpa using hne
      next => cases hprimitive
    next => cases hprimitive
  rw [fieldShape, hother (by decide), hother (by decide)] at h
  unfold isPrimitive at hprimitive
  split at hprimitive
  next name hname =>
    rw [hname] at h
    split at hprimitive
    next t ht =>
      obtain rfl : t = type := by simpa using hprimitive
      have hshape : (pure (Shape.typed t none) : Compiling Shape) = ⟨rs, .ok shape⟩ := by
        rw [← h]
        simp [plainShape, ht]
      cases hshape
      rfl
    next => cases hprimitive
  next => cases hprimitive

theorem self_mem_origins (f : Field) (node : Node) : (f, node) ∈ origins f node := by
  cases f
  rw [origins]
  exact List.mem_cons_self

theorem listed_inherited : Inherited Field.Listed := ⟨fun _ h => h.items, fun _ h => h.properties⟩

variable {setup : Setup} {here : Location} {strictness : Strictness} {owner body : String} {first : Int}
  {b : Hint.Block} {found : List Diagnostic} {c : Compiled}

/-- The values of the enumerations in a note, in whatever way they are written, are of their declared type or reported,
but for a value written alone that is read as no text: under texts it is taken over whatever it is, and under whole
numbers if it is a fraction. -/
theorem enum_values_typed (hparse : Hint.Block.parse strictness owner body first = .ok (b, found))
    (h : Shared.compile setup here b = .ok c) :
    (∀ name f, (name, f) ∈ b.fields → ∃ node, (name, node) ∈ c.schema.properties ∧
      ∀ p ∈ origins f node, ∀ type ∈ scalarTypes,
        (isPrimitive p.1 type = true → p.2.shape.type? = some type) ∧
        (p.2.shape.type? = some type → ∀ written ∈ p.1.enum, ∃ kept, p.2.facets.enum = some kept ∧
          Enumerated type (fun v => wrongValue b.owner name type v ∈ c.diagnostics) written kept)) ∧
    ∀ e ∈ c.emissions, ∃ name f node, (name, f) ∈ b.fields ∧ (name, node) ∈ c.schema.properties ∧
      ∃ p ∈ origins f node, ∃ d ∈ p.1.enumDefine, e.enumeration.valueType = d.type.text ∧
        ∃ kept, e.enumeration.values = Json.distinct (kept.map (·.toDocument)) ∧
          Enumerated d.type.text (fun v => wrongValue b.owner name d.type.text v ∈ c.diagnostics) d.values kept := by
  have hlisted : b.Listed := Hint.listed_of_parse hparse
  have hkeyed : Hint.KeyedFields b.fields := (Hint.keyed_of_parse hparse).fields
  rw [shared_compile_eq] at h
  obtain ⟨front, rear, hfields, hrest, hdiagnostics, hemissions⟩ := run_of_compile h
  have hreported {own : List Remark} {d : Diagnostic} (hsub : own.Sublist front) (hd : Remark.problem d ∈ own) :
      d ∈ c.diagnostics :=
    hdiagnostics ▸ List.mem_filterMap.mpr ⟨_, List.mem_append_left rear (hsub.subset hd), rfl⟩
  refine ⟨fun name f hf => ?_, fun e he => ?_⟩
  · obtain ⟨node, own, hnode, hown, hsub, -⟩ := exists_compiled hkeyed.names hfields hf
    refine ⟨node, hnode, fun p hp type htype => ?_⟩
    obtain ⟨inner, hran, hinner⟩ := (traced_compileField _ f hown).ran p hp
    obtain ⟨first, last, values, hshape, hvalues, rfl, hfacets⟩ := compileField_ok hran
    refine ⟨fun hprimitive => type?_of_isPrimitive hshape hprimitive htype, fun hdeclared written hwritten => ?_⟩
    have hread := (listed_inherited.mem_origins (hlisted _ hf) p hp).enum written hwritten
    rw [hdeclared] at hvalues
    obtain ⟨kept, rfl, hkept⟩ := enumerated_of_fieldValues hvalues hwritten hread htype
    refine ⟨kept, by rw [hfacets]; rfl, hkept.imp fun v hv => ?_⟩
    exact hreported (hinner.trans hsub) (List.mem_append_right first hv)
  · obtain ⟨r, hr, hre⟩ := List.mem_filterMap.mp (hemissions ▸ he)
    obtain rfl : r = .emission e := by cases r <;> cases hre; rfl
    have hasked : Asked ⟨setup, here, b.owner, ""⟩ [] rear := .of_emits (emits_ofProperties _ b c.schema.properties) hrest
    have hrear : Remark.emission e ∉ rear := fun hmem => by
      obtain ⟨_, hnone, _⟩ := hasked e hmem
      cases hnone
    have hfront := (List.mem_append.mp hr).resolve_right hrear
    obtain ⟨name, f, node, own, hf, hnode, hown, hsub, hmem⟩ := exists_asked hfields hfront
    have htraced := traced_compileField _ f hown
    obtain ⟨g, hg, d, hd, id, inner, hinner, hwithin⟩ := htraced.asked e hmem
    obtain ⟨p, hp, rfl⟩ := List.mem_map.mp hg
    have hread := (listed_inherited.mem_origins (hlisted _ hf) p hp).define d hd
    obtain ⟨htype, kept, hvalues, hkept⟩ := enumerated_of_emissionOf hread hinner
    refine ⟨name, f, node, hf, hnode, p, hp, d, hd, htype, kept, hvalues, hkept.imp fun v hv => ?_⟩
    exact hreported (hwithin.trans hsub) hv

/-- A field and an enumeration, each with a value that is not of its type. -/
def gradeNote : String :=
  "SCHEMAHINTS\nfield grade:\n  type: integer\n  enum: [1, x]\n" ++
    "field mark:\n  enumDefine:\n    enumId: Mark\n    type: integer\n    enum:\n      - 3\n      - y\n"

theorem grades_reported : ∃ b found c f node written kept,
    Hint.Block.parse .tolerant "Exam" gradeNote 1 = .ok (b, found) ∧ Shared.compile shopSetup shop b = .ok c ∧
      ("grade", f) ∈ b.fields ∧ ("grade", node) ∈ c.schema.properties ∧
      f.enum = some written ∧ written.map (·.display) = ["1", "x"] ∧ node.facets.enum = some kept ∧
      Enumerated "integer" (fun v => wrongValue "Exam" "grade" "integer" v ∈ c.diagnostics) written kept ∧
      ∃ e ∈ c.emissions, ∃ name marks kept, e.enumeration.values = Json.distinct (kept.map (·.toDocument)) ∧
        Enumerated "integer" (fun v => wrongValue "Exam" name "integer" v ∈ c.diagnostics) marks kept := by
  have hrun : (do
      let read ← (Hint.Block.parse .tolerant "Exam" gradeNote 1).toOption
      let c ← (Shared.compile shopSetup shop read.1).toOption
      let p ← read.1.fields[0]?
      let written ← p.2.enum
      let e ← c.emissions[0]?
      return ([read.1.owner, p.1, e.enumeration.valueType], isPrimitive p.2 "integer", written.map (·.display))) =
      some (["Exam", "grade", "integer"], true, ["1", "x"]) := by
    have hnote : gradeNote.toList = _ := Text.toList_ofList_append _ _
    unfold Hint.Block.parse Hint.Block.read? Hint.Line.ofBody
    rw [hnote]
    decide +kernel
  simp only [Option.bind_eq_bind, Option.bind_eq_some_iff, Option.pure_def, Option.some.injEq, Prod.mk.injEq,
    List.cons.injEq] at hrun
  obtain ⟨⟨b, found⟩, hparse, c, hc, ⟨name, f⟩, hf, written, hwritten, e, he, ⟨howner, rfl, htype, -⟩, hprimitive, hshown⟩ :=
    hrun
  have hparse := eq_ok_of_toOption hparse
  have hc := eq_ok_of_toOption hc
  have hf := List.mem_of_getElem? hf
  have he := List.mem_of_getElem? he
  obtain ⟨hfields, hemissions⟩ := enum_values_typed hparse hc
  obtain ⟨node, hnode, hvalues⟩ := hfields "grade" f hf
  obtain ⟨hdeclared, hkept⟩ := hvalues (f, node) (self_mem_origins f node) "integer" (by decide)
  obtain ⟨kept, henum, hkept⟩ := hkept (hdeclared hprimitive) written hwritten
  obtain ⟨name, g, node', hg, hnode', p, hp, d, hd, hstated, marks, hmarks, hemitted⟩ := hemissions e he
  rw [← hstated, htype] at hemitted
  rw [howner] at hkept hemitted
  exact ⟨b, found, c, f, node, written, kept, hparse, hc, hf, hnode, hwritten, hshown, henum, hkept, e, he, name, d.values,
    marks, hmarks, hemitted⟩

/-- Values alone, without quotes, that are not of the type. -/
def loneNote : String :=
  "SCHEMAHINTS\nfield grade:\n  type: integer\n  enum: 1.5\nfield mark:\n  enumDefine:\n    enumId: Mark\n    enum: 5\n"

def isText : Document → Bool
  | .str _ => true
  | _ => false

theorem lone_values_kept : ∃ b c node e, Hint.Block.parse .tolerant "Exam" loneNote 1 = .ok (b, []) ∧
    Shared.compile shopSetup shop b = .ok c ∧ ("grade", node) ∈ c.schema.properties ∧ e ∈ c.emissions ∧
      node.shape.type? = some "integer" ∧ (node.facets.enum.getD []).map (hasType "integer") = [false] ∧
      e.enumeration.valueType = "string" ∧ e.enumeration.values.map isText = [false] ∧
      c.diagnostics = [] := by
  have hrun : (do
      let read ← (Hint.Block.parse .tolerant "Exam" loneNote 1).toOption
      let c ← (Shared.compile shopSetup shop read.1).toOption
      let p ← c.schema.properties[0]?
      let e ← c.emissions[0]?
      return (read.2 ++ c.diagnostics, [some p.1, p.2.shape.type?, some e.enumeration.valueType],
        (p.2.facets.enum.getD []).map (hasType "integer"), e.enumeration.values.map isText)) =
      some ([], [some "grade", some "integer", some "string"], [false], [false]) := by
    have hnote : loneNote.toList = _ := String.toList_ofList
    unfold Hint.Block.parse Hint.Block.read? Hint.Line.ofBody
    rw [hnote]
    decide +kernel
  simp only [Option.bind_eq_bind, Option.bind_eq_some_iff, Option.pure_def, Option.some.injEq, Prod.mk.injEq,
    List.cons.injEq] at hrun
  obtain ⟨⟨b, found⟩, hparse, c, hc, ⟨name, node⟩, hnode, e, he, hsilent, ⟨rfl, htype, hstated, -⟩, hvalues, hkept⟩ := hrun
  obtain ⟨rfl, hsilent⟩ := List.append_eq_nil_iff.mp hsilent
  exact ⟨b, c, node, e, eq_ok_of_toOption hparse, eq_ok_of_toOption hc, List.mem_of_getElem? hnode,
    List.mem_of_getElem? he, htype, hvalues, hstated, hkept, hsilent⟩

end NoteSchema.Schema
