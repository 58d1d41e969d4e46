import NoteSchema.Proofs.Schema.Requested
import NoteSchema.Proofs.Schema.Shared

namespace NoteSchema.Schema

/-- A block of the same class with one field and nothing else. -/
def alone (owner : String) (m : String × Hint.Field) : Hint.Block := { owner, fields := [m] }

/-- The problems that come up while the fields of a block are compiled with its resolver. -/
def fieldProblems (setup : Setup) (here : Location) (b : Hint.Block) : List Diagnostic :=
  ((Shared.compileFields ⟨setup, here, b.owner, ""⟩ b.fields).run ⟨setup.base, here, []⟩).remarks.filterMap
    Remark.problem?

variable {setup : Setup} {here : Location} {s : Site} {m : String × Hint.Field} {rs : List Remark}

theorem noteUndeclared_alone (s : Site) (m : String × Hint.Field) :
    noteUndeclared s (alone s.owner m) (distinctNames (requiredNames [m])) = pure () := by
  obtain ⟨name, f⟩ := m
  have hdeclared : (alone s.owner (name, f)).hasField name = true := by
    simp [Hint.Block.hasField, Hint.Block.field?, alone]
  cases hr : f.required with
  | false =>
    rw [show requiredNames [(name, f)] = [] by simp [requiredNames, hr]]
    rfl
  | true =>
    rw [show requiredNames [(name, f)] = [name] by simp [requiredNames, hr]]
    show noteUndeclared s (alone s.owner (name, f)) [name] = pure ()
    rw [noteUndeclared, hdeclared]
    rfl

theorem ofProperties_alone (s : Site) (m : String × Hint.Field) (properties : List (String × Node)) :
    ∃ schema, Class.ofProperties s (alone s.owner m) properties = pure schema ∧ schema.properties = properties := by
  unfold Class.ofProperties
  have hnone := noteUndeclared_alone s m
  dsimp only
  rw [show (alone s.owner m).required ++ requiredNames (alone s.owner m).fields = requiredNames [m] from rfl, hnone]
  exact ⟨_, rfl, rfl⟩

/-- A class with one field compiles to what the field compiles to, and leaves nothing but what the field leaves. -/
theorem compile_alone {node : Node} (h : compileField { s with field := m.1 } m.2 = ⟨rs, .ok node⟩) :
    ∃ part, compile s.setup s.location (alone s.owner m) = .ok part ∧ part.schema.properties = [(m.1, node)] ∧
      part.diagnostics = rs.filterMap Remark.problem? ∧ part.emissions = rs.filterMap Remark.emission? := by
  have hfields : compileFields { s with field := "" } (alone s.owner m).fields = ⟨rs, .ok [(m.1, node)]⟩ := by
    show compileFields { s with field := "" } [m] = ⟨rs, .ok [(m.1, node)]⟩
    rw [compileFields, h]
    exact congrArg (Noted.mk · _) (List.append_nil rs)
  obtain ⟨schema, hrest, hproperties⟩ := ofProperties_alone { s with field := "" } m [(m.1, node)]
  have hclass : Class.ofBlock s.setup s.location (alone s.owner m) = ⟨rs, .ok schema⟩ := by
    rw [ofBlock_eq]
    show compileFields { s with field := "" } (alone s.owner m).fields >>= _ = _
    rw [hfields, Noted.bind_of_ok]
    show Noted.mk (rs ++ (Class.ofProperties { s with field := "" } (alone s.owner m) _).remarks)
      (Class.ofProperties { s with field := "" } (alone s.owner m) _).outcome = _
    rw [hrest]
    exact congrArg (Noted.mk · _) (List.append_nil rs)
  refine ⟨⟨schema, rs.filterMap Remark.problem?, rs.filterMap Remark.emission?⟩, ?_, hproperties, rfl, rfl⟩
  unfold compile
  rw [hclass]
  rfl

/-- A part of a compiled class that has come of one of its fields. -/
def PartOf (setup : Setup) (here : Location) (owner : String) (m : String × Hint.Field) (part : Compiled) : Prop :=
  Shared.compile setup here (alone owner m) = .ok part ∧ part.schema.properties.map (·.1) = [m.1]

/-- Fields compile to what each of them compiles to alone, in their order. -/
theorem exists_parts {fields : List (String × Hint.Field)} {properties : List (String × Node)}
    (h : compileFields s fields = ⟨rs, .ok properties⟩) :
    ∃ parts, List.Forall₂ (PartOf s.setup s.location s.owner) fields parts ∧
      properties = parts.flatMap (·.schema.properties) ∧
      rs.filterMap Remark.problem? = parts.flatMap (·.diagnostics) ∧
      rs.filterMap Remark.emission? = parts.flatMap (·.emissions) := by
  induction fields generalizing rs properties with
  | nil =>
    cases h
    exact ⟨[], .nil, rfl, rfl, rfl⟩
  | cons m rest ih =>
    obtain ⟨first, node, later, hnode, hlater, rfl⟩ := Noted.bind_eq_ok.mp h
    obtain ⟨others, nodes, last, hnodes, hlast, rfl⟩ := Noted.bind_eq_ok.mp hlater
    cases hlast
    obtain ⟨part, hpart, hproperties, hproblems, hemissions⟩ := compile_alone hnode
    obtain ⟨parts, hparts, hall, hallProblems, hallEmissions⟩ := ih hnodes
    rw [← shared_compile_eq] at hpart
    refine ⟨part :: parts, .cons ⟨hpart, by rw [hproperties]; rfl⟩ hparts, ?_, ?_, ?_⟩
    · rw [List.flatMap_cons, hproperties, ← hall]
      rfl
    · rw [List.filterMap_append, List.filterMap_append, ← hproblems, hallProblems, List.filterMap_nil,
        List.append_nil, List.flatMap_cons]
    · rw [List.filterMap_append, List.filterMap_append, ← hemissions, hallEmissions, List.filterMap_nil,
        List.append_nil, List.flatMap_cons]

/-- The address of the schema of a block. -/
def idOf (here : Location) (b : Hint.Block) : ArtifactId := ⟨here.segment, here.subpath, b.name, .schema⟩

theorem id_of_compile {b : Hint.Block} {c : Compiled} (h : compile setup here b = .ok c) : c.schema.id = idOf here b := by
  obtain ⟨_, _, _, hrest, _⟩ := run_of_compile h
  exact (of_ofProperties (congrArg Noted.outcome hrest)).2

theorem fieldProblems_eq (b : Hint.Block) : fieldProblems setup here b =
    (compileFields ⟨setup, here, b.owner, ""⟩ b.fields).remarks.filterMap Remark.problem? := by
  obtain ⟨hremarks, _⟩ := agrees_compileFields (s := ⟨setup, here, b.owner, ""⟩) b.fields _ Reference.faithful_new
  exact congrArg _ hremarks

theorem map_fst_flatMap {fields : List (String × Hint.Field)} {parts : List Compiled} {owner : String}
    (h : List.Forall₂ (PartOf setup here owner) fields parts) :
    (parts.flatMap (·.schema.properties)).map (·.1) = fields.map (·.1) := by
  induction h with
  | nil => rfl
  | cons hpart _ ih => rw [List.flatMap_cons, List.map_append, hpart.2, ih, List.map_cons, List.singleton_append]

/-- Each field of a block compiles to what it compiles to alone: the properties, the requests and the problems of the
fields are those of the fields alone, one after another. So the resolver that a block shares answers each path, in
any order and with failures in between, as a new one would. -/
theorem fields_compile_apart {b : Hint.Block} {c : Compiled} (h : Shared.compile setup here b = .ok c) :
    (∃ parts rest, List.Forall₂ (PartOf setup here b.owner) b.fields parts ∧
      c.schema.properties = parts.flatMap (·.schema.properties) ∧
      c.schema.properties.map (·.1) = b.fields.map (·.1) ∧
      c.emissions = parts.flatMap (·.emissions) ∧
      fieldProblems setup here b = parts.flatMap (·.diagnostics) ∧
      c.diagnostics = fieldProblems setup here b ++ rest) ∧
    ∀ base there calls, ((⟨base, there, []⟩ : Reference.Resolver).resolveAll calls).1 =
      calls.map fun call => ((⟨base, there, []⟩ : Reference.Resolver).resolve call.1 call.2).1 := by
  refine ⟨?_, fun base there calls => ?_⟩
  · rw [shared_compile_eq] at h
    obtain ⟨first, last, hfields, hrest, hdiagnostics, hrequests⟩ := run_of_compile h
    obtain ⟨parts, hparts, hproperties, hproblems, hemissions⟩ := exists_parts hfields
    have hnone : Emits setup here _ [] := emits_ofProperties ⟨setup, here, b.owner, ""⟩ b c.schema.properties
    rw [hrest] at hnone
    have hlast : last.filterMap Remark.emission? = [] := List.forall₂_nil_left_iff.mp (hnone c.schema rfl)
    have hfieldProblems : fieldProblems setup here b = parts.flatMap (·.diagnostics) := by
      rw [fieldProblems_eq, hfields, hproblems]
    have hemitted : c.emissions = parts.flatMap (·.emissions) := by
      rw [hrequests, List.filterMap_append, hlast, List.append_nil, hemissions]
    have hfound : c.diagnostics = fieldProblems setup here b ++ last.filterMap Remark.problem? := by
      rw [hdiagnostics, hfieldProblems, ← hproblems, List.filterMap_append]
    have hnames : c.schema.properties.map (·.1) = b.fields.map (·.1) := by
      rw [hproperties, map_fst_flatMap hparts]
    exact ⟨parts, _, hparts, hproperties, hnames, hemitted, hfieldProblems, hfound⟩
  · rw [Reference.faithful_new.resolveAll]
    exact List.map_congr_left fun call _ => (Reference.faithful_new.resolve call.1 call.2).1.symm

def tripSetup : Setup where
  base := "https://example.org/schemas/"
  emitEnums := true
  generateEnums := true
  layout := ⟨⟨.root, ["corpus"]⟩, []⟩

/-- A note whose fields refer to one class in three places, twice by another spelling, and once to none. -/
def travellerNote : Hint.Block where
  owner := "Traveller"
  required := ["home", "name"]
  fields :=
    [("home", { ref := some "./Address" }),
     ("bad", { ref := some "no such/class" }),
     ("legs", { type := some "array", items := some { ref := some " ./Address " } }),
     ("purpose", { enumDefine := some { path := "Purpose", values := [.text "work"] } }),
     ("work", { ref := some "Address", required := true })]

theorem travellerNote_apart : ∃ c parts rest,
    Shared.compile tripSetup ⟨"travel", ["eu"]⟩ travellerNote = .ok c ∧
      List.Forall₂ (PartOf tripSetup ⟨"travel", ["eu"]⟩ "Traveller") travellerNote.fields parts ∧
      c.schema.properties = parts.flatMap (·.schema.properties) ∧
      c.schema.properties.map (·.1) = ["home", "bad", "legs", "purpose", "work"] ∧
      c.emissions = parts.flatMap (·.emissions) ∧ c.emissions.length = 1 ∧
      c.diagnostics = parts.flatMap (·.diagnostics) ++ rest ∧
      c.diagnostics.map (·.field) = ["bad", "name"] := by
  have hok : ((Shared.compile tripSetup ⟨"travel", ["eu"]⟩ travellerNote).toOption.map fun c =>
      (c.emissions.length, c.diagnostics.map (·.field))) = some (1, ["bad", "name"]) := by decide +kernel
  obtain ⟨c, hc, hfacts⟩ := Option.map_eq_some_iff.mp hok
  obtain ⟨hlength, hdiagnostics⟩ := Prod.mk.inj hfacts
  have hcompiled : Shared.compile tripSetup ⟨"travel", ["eu"]⟩ travellerNote = .ok c := by
    cases hrun : Shared.compile tripSetup ⟨"travel", ["eu"]⟩ travellerNote with
    | error e => simp [hrun, Except.toOption] at hc
    | ok c' => simpa [hrun, Except.toOption] using hc
  obtain ⟨⟨parts, rest, hparts, hproperties, hnames, hemissions, hproblems, hall⟩, _⟩ :=
    fields_compile_apart hcompiled
  exact ⟨c, parts, rest, hcompiled, hparts, hproperties, hnames, hemissions, hlength, hproblems ▸ hall,
    hdiagnostics⟩

end NoteSchema.Schema
