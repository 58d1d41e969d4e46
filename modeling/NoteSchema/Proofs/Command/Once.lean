import NoteSchema.Proofs.Command.Aimed
import NoteSchema.Proofs.Command.Straight
import NoteSchema.Proofs.File.Store

namespace NoteSchema

/-- A file that a run has written: where, what and the unit that reports it. -/
structure Output where
  path : FilePath
  document : Document
  item : Report.Item

namespace Store

open FileTree (placeOf)

/-- An account of what a store has written since a tree: each file in a place of its own and as it was written. Everywhere
else there is what was there, or a new folder. -/
structure Ledger (t : FileTree) (s : Store) (outputs : List Output) : Prop where
  sound : s.tree.Sound
  home : s.tree.home = t.home
  paths : outputs.map (·.path) = s.written
  places : (outputs.map fun o => t.placeOf o.path).Nodup
  files : ∀ o ∈ outputs, s.tree.find? (t.placeOf o.path) = some (.file (Text.Utf8.encode (Json.text o.document)))
  rest : ∀ q, q ∉ outputs.map (fun o => t.placeOf o.path) →
    s.tree.find? q = t.find? q ∨ t.find? q = none ∧ s.tree.find? q = some .folder

namespace Ledger

variable {t : FileTree} {s s' : Store} {outputs : List Output} {p : FilePath} {d : Document}

theorem start (h : t.Sound) (stamps : List String) : Ledger t { tree := t, stamps } [] where
  sound := h
  home := rfl
  paths := rfl
  places := List.nodup_nil
  files _ ho := nomatch ho
  rest _ _ := .inl rfl

theorem placeOf_eq (h : Ledger t s outputs) (p : FilePath) : s.tree.placeOf p = t.placeOf p := by
  rw [placeOf, placeOf, FileTree.origin, FileTree.origin, h.home]

/-- What is as it was, or a new folder, stays so when folders are made. -/
theorem spared {before between after : Option Entry} (h : between = before ∨ before = none ∧ between = some .folder)
    (h' : after = between ∨ between = none ∧ after = some .folder) :
    after = before ∨ before = none ∧ after = some .folder := by
  rcases h' with rfl | ⟨hnone, hfolder⟩
  · exact h
  · rcases h with rfl | ⟨_, hfound⟩
    · exact .inr ⟨hnone, hfolder⟩
    · rw [hnone] at hfound
      cases hfound

/-- A document written to a place of its own is one more file. -/
theorem wrote (h : Ledger t s outputs) (hw : s.writeDocument p d = (.ok (), s'))
    (hnew : t.placeOf p ∉ outputs.map fun o => t.placeOf o.path) (item : Report.Item) :
    Ledger t s' (outputs ++ [⟨p, d, item⟩]) := by
  obtain ⟨_, hsound, hwrote, hwritten, _⟩ := wrote_of_ok h.sound hw
  have hlanded := hwrote.landed
  rw [h.placeOf_eq] at hlanded
  refine ⟨hsound, hwrote.home.trans h.home, ?_, ?_, fun o ho => ?_, fun q hq => ?_⟩
  · rw [List.map_append, h.paths, hwritten]
    rfl
  · rw [List.map_append]
    exact List.nodup_append.mpr ⟨h.places, by simp, fun q hq q' hq' => by
      obtain rfl := List.mem_singleton.mp hq'
      exact fun he => hnew (show t.placeOf p ∈ _ from (show q = t.placeOf p from he) ▸ hq)⟩
  · rcases List.mem_append.mp ho with ho | ho
    · have hne : t.placeOf o.path ≠ t.placeOf p := fun he => hnew (he ▸ List.mem_map_of_mem ho)
      exact hwrote.kept (h.files o ho) (h.placeOf_eq p ▸ hne)
    · obtain rfl := List.mem_singleton.mp ho
      exact hlanded
  · rw [List.map_append, List.mem_append, not_or] at hq
    have hne : q ≠ t.placeOf p := by simpa using hq.2
    exact spared (h.rest q hq.1) ((hwrote.rest (h.placeOf_eq p ▸ hne)).imp_right fun hnew => ⟨hnew.1, hnew.2.1⟩)

/-- A document that is not written leaves the account as it is. -/
theorem failed (h : Ledger t s outputs) {e : WriteFailure} (hw : s.writeDocument p d = (.error e, s')) :
    Ledger t s' outputs := by
  obtain ⟨_, hsound, hwritten, _, places, hmade, _⟩ := made_of_error h.sound hw
  refine ⟨hsound, hmade.home.trans h.home, h.paths.trans hwritten.symm, h.places, fun o ho => hmade.kept (h.files o ho),
    fun q hq => ?_⟩
  exact spared (h.rest q hq) ((hmade.rest q).imp_right fun hnew => ⟨hnew.1, hnew.2.1⟩)

/-- The outputs are told apart by their paths if no place has two spellings. -/
theorem not_mem_places (h : Ledger t s outputs) (hnew : p ∉ s.written)
    (hspelling : ∀ o ∈ outputs, t.placeOf o.path = t.placeOf p → o.path = p) :
    t.placeOf p ∉ outputs.map fun o => t.placeOf o.path := by
  rw [List.mem_map]
  rintro ⟨o, ho, hplace⟩
  refine hnew ?_
  rw [← h.paths, ← hspelling o ho hplace]
  exact List.mem_map_of_mem ho

/-- Enumerations with destinations of their own are more files, each with the unit that reports it as written. -/
theorem enumerations (h : Ledger t s outputs) (l : Layout) (base : String) {todo : List (FilePath × Enumeration)}
    {released : Released} (hw : s.writeEnumerations base todo = (.ok released, s')) (hnodup : (todo.map (·.1)).Nodup)
    (hnew : ∀ m ∈ todo, t.placeOf m.1 ∉ outputs.map fun o => t.placeOf o.path)
    (hspelling : ∀ m ∈ todo, ∀ m' ∈ todo, t.placeOf m.1 = t.placeOf m'.1 → m.1 = m'.1) :
    ∃ more, Ledger t s' (outputs ++ more) ∧
      List.Sublist (more.map (·.item)) (released.map (Command.Compile.releasedItem l)) ∧
      ∀ o ∈ more, ∃ e, (o.path, e) ∈ todo ∧ o.document = e.toDocument base ∧
        o.item = Command.Compile.releasedItem l (o.path, none) := by
  replace hw := releases_of_ok hw
  induction hw generalizing outputs with
  | nil => exact ⟨[], by simpa using h, .slnil, by simp⟩
  | @wrote s s₁ s' destination e rest released hfirst _ ih =>
    obtain ⟨hfresh, hrestNodup⟩ := List.nodup_cons.mp hnodup
    let output : Output := ⟨destination, e.toDocument base, Command.Compile.releasedItem l (destination, none)⟩
    have hone : Ledger t s₁ (outputs ++ [output]) := h.wrote hfirst (hnew _ List.mem_cons_self) _
    have hafter : ∀ m ∈ rest, t.placeOf m.1 ∉ (outputs ++ [output]).map fun o => t.placeOf o.path := by
      intro m hm
      rw [List.map_append, List.mem_append, not_or]
      refine ⟨hnew m (List.mem_cons_of_mem _ hm), ?_⟩
      rw [List.map_cons, List.map_nil, List.mem_singleton]
      intro hplace
      have hsame := hspelling m (List.mem_cons_of_mem _ hm) _ List.mem_cons_self hplace
      exact hfresh (List.mem_map.mpr ⟨m, hm, hsame⟩)
    obtain ⟨more, hledger, hitems, hmore⟩ := ih hone hrestNodup hafter fun m hm m' hm' =>
      hspelling m (List.mem_cons_of_mem _ hm) m' (List.mem_cons_of_mem _ hm')
    refine ⟨output :: more, by simpa using hledger, hitems.cons_cons _, fun o ho => ?_⟩
    rcases List.mem_cons.mp ho with rfl | ho
    · exact ⟨e, List.mem_cons_self, rfl, rfl⟩
    · obtain ⟨e', he', hdocument, hitem⟩ := hmore o ho
      exact ⟨e', List.mem_cons_of_mem _ he', hdocument, hitem⟩
  | refused hfirst _ ih =>
    obtain ⟨more, hledger, hitems, hmore⟩ := ih (h.failed hfirst) (List.nodup_cons.mp hnodup).2
      (fun m hm => hnew m (List.mem_cons_of_mem _ hm))
      fun m hm m' hm' => hspelling m (List.mem_cons_of_mem _ hm) m' (List.mem_cons_of_mem _ hm')
    refine ⟨more, hledger, hitems.cons _, fun o ho => ?_⟩
    obtain ⟨e', he', hfacts⟩ := hmore o ho
    exact ⟨e', List.mem_cons_of_mem _ he', hfacts⟩

end Ledger

end Store

namespace Command.Compile

open Hint (Note)
open Schema (Compiled)
open Store (Ledger)

variable {s : Settings} {l : Layout} {t : FileTree} {p : FilePath} {here : Location} {n : Note} {r r' : Run}
  {outputs : List Output} {notes : List (Location × Note)}

/-- What the outputs of a run can be: the schema of a note with the unit of its class, or an enumeration that was
requested. -/
inductive Produced (s : Settings) (l : Layout) (notes : List (Location × Note)) (entries : List (FilePath × Enumeration)) :
    Output → Prop
  | schema {p here n found c document} (hn : (here, n) ∈ notes) (hyields : Yields s l here n found c)
      (hdocument : c.schema.toDocument s.base s.dialect = .ok document) :
    Produced s l notes entries ⟨l.artifactPath c.schema.id, document, classItem l p n found c⟩
  | enumeration {destination e} (h : (destination, e) ∈ entries) :
    Produced s l notes entries ⟨destination, e.toDocument s.base, releasedItem l (destination, none)⟩

/-- The destinations of some notes are told apart by their paths: no two of them lead to one place, and none is that of a
schema and of an enumeration. -/
structure Separate (s : Settings) (l : Layout) (t : FileTree) (notes : List (Location × Note)) : Prop where
  spelling : ∀ a ∈ schemaPathsOf s l notes ++ enumPathsOf s l notes,
    ∀ b ∈ schemaPathsOf s l notes ++ enumPathsOf s l notes, t.placeOf a = t.placeOf b → a = b
  apart : ∀ d ∈ enumPathsOf s l notes, d ∉ schemaPathsOf s l notes

instance (s : Settings) (l : Layout) (t : FileTree) (notes : List (Location × Note)) : Decidable (Separate s l t notes) :=
  decidable_of_iff ((∀ a ∈ schemaPathsOf s l notes ++ enumPathsOf s l notes,
      ∀ b ∈ schemaPathsOf s l notes ++ enumPathsOf s l notes, t.placeOf a = t.placeOf b → a = b) ∧
      ∀ d ∈ enumPathsOf s l notes, d ∉ schemaPathsOf s l notes)
    ⟨fun h => ⟨h.1, h.2⟩, fun h => ⟨h.spelling, h.apart⟩⟩

/-- A run that has written the schemas of some notes. -/
structure Schemas (s : Settings) (l : Layout) (t : FileTree) (notes : List (Location × Note)) (r : Run)
    (outputs : List Output) : Prop where
  ledger : Ledger t r.store outputs
  produced : ∀ o ∈ outputs, Produced s l notes [] o ∧ o.path ∈ schemaPathsOf s l notes
  reported : List.Sublist (outputs.map (·.item)) r.report.results
  flushed : r.pending.flushed = false
  keys : ∀ d ∈ r.pending.entries.map (·.1), d ∈ enumPathsOf s l notes
  nodup : (r.pending.entries.map (·.1)).Nodup

theorem Schemas.add (h : Schemas s l t notes r outputs) (i : Report.Item) : Schemas s l t notes (r.add i) outputs :=
  { h with reported := h.reported.trans (List.sublist_append_left _ _) }

theorem schemas_note (hsep : Separate s l t notes) (hn : (here, n) ∈ notes) (h : Schemas s l t notes r outputs)
    (hok : note s l p here n r = .ok () r') : ∃ outputs, Schemas s l t notes r' outputs := by
  have hturn := noteTurn s l p here n r
  rw [hok] at hturn
  cases hturn with
  | unmarked => exact ⟨outputs, h.add _⟩
  | repeated => exact ⟨outputs, h.add _⟩
  | @wrote found c document store pending hy hwritten hdocument hstore hpending =>
    have hpath : l.artifactPath c.schema.id ∈ schemaPathsOf s l notes :=
      List.mem_filterMap.mpr ⟨(here, n), hn, hy.schemaPath⟩
    have hplace := h.ledger.not_mem_places hwritten fun o ho =>
      hsep.spelling _ (List.mem_append_left _ (h.produced o ho).2) _ (List.mem_append_left _ hpath)
    have htakes := takes_of_request hpending
    refine ⟨_, h.ledger.wrote hstore hplace (classItem l p n found c), fun o ho => ?_, ?_, ?_, fun d hd => ?_, ?_⟩
    · rcases List.mem_append.mp ho with ho | ho
      · exact h.produced o ho
      · obtain rfl := List.mem_singleton.mp ho
        exact ⟨.schema hn hy hdocument, hpath⟩
    · rw [List.map_append]
      exact h.reported.append (.refl _)
    · exact htakes.flushed.trans h.flushed
    · rcases htakes.keys d hd with hd | ⟨e, he, rfl⟩
      · exact h.keys d hd
      · exact List.mem_flatMap.mpr ⟨(here, n), hn, hy.enumPaths he⟩
    · exact htakes.nodup h.nodup
  | refused _ _ _ hstore =>
    exact ⟨outputs, ({ h with ledger := h.ledger.failed hstore } : Schemas s l t notes { r with store := _ } _).add _⟩

theorem schemas_sources (hsep : Separate s l t notes) {ps : List FilePath} (hn : ∀ m ∈ notesRead s l ps r, m ∈ notes)
    (h : Schemas s l t notes r outputs) (hok : ps.forM (source s l) r = .ok () r') :
    ∃ outputs, Schemas s l t notes r' outputs :=
  sources_keep (P := fun r => ∃ outputs, Schemas s l t notes r outputs) (fun _ i h => h.imp fun _ h => h.add i)
    (fun m hm _ _ _ h hok => h.elim fun _ h => schemas_note hsep (hn m hm) h hok) ⟨outputs, h⟩ hok

theorem outputs_of_release (hsep : Separate s l t notes) (h : Schemas s l t notes r outputs)
    (hok : release s l r = .ok () r') :
    ∃ outputs, Ledger t r'.store outputs ∧ List.Sublist (outputs.map (·.item)) r'.report.results ∧
      ∀ o ∈ outputs, Produced s l notes r'.pending.entries o := by
  have hturn := releaseTurn s l r
  generalize release s l r = result at hturn hok
  cases hturn with
  | closed hclosed =>
    rw [h.flushed] at hclosed
    cases hclosed
  | broken => cases hok
  | released _ hstore =>
    cases hok
    have hkey {m : FilePath × Enumeration} (hm : m ∈ todo r) : m.1 ∈ enumPathsOf s l notes :=
      h.keys m.1 (List.mem_map_of_mem (mem_todo hm))
    have hnew : ∀ m ∈ todo r, t.placeOf m.1 ∉ outputs.map fun o => t.placeOf o.path := by
      intro m hm hplace
      obtain ⟨o, ho, hplace⟩ := List.mem_map.mp hplace
      have hschema := (h.produced o ho).2
      have hsame := hsep.spelling _ (List.mem_append_left _ hschema) _ (List.mem_append_right _ (hkey hm)) hplace
      exact hsep.apart _ (hkey hm) (hsame ▸ hschema)
    have hspelling : ∀ m ∈ todo r, ∀ m' ∈ todo r, t.placeOf m.1 = t.placeOf m'.1 → m.1 = m'.1 := fun m hm m' hm' =>
      hsep.spelling _ (List.mem_append_right _ (hkey hm)) _ (List.mem_append_right _ (hkey hm'))
    obtain ⟨more, hledger, hitems, hmore⟩ :=
      h.ledger.enumerations l s.base hstore (nodup_todo h.nodup) hnew hspelling
    refine ⟨outputs ++ more, hledger, ?_, fun o ho => ?_⟩
    · rw [List.map_append]
      exact h.reported.append hitems
    · rcases List.mem_append.mp ho with ho | ho
      · cases (h.produced o ho).1 with
        | schema hn hy hdocument => exact .schema hn hy hdocument
        | enumeration hnone => cases hnone
      · obtain ⟨path, document, item⟩ := o
        obtain ⟨e, he, hdocument, hitem⟩ := hmore _ ho
        dsimp only at he hdocument hitem
        subst hdocument hitem
        exact .enumeration (mem_todo he)

/-- A run that goes through writes no file twice where its destinations are told apart by their paths: each file that it
leaves holds the document of one unit of the report, and everything else is as it was but for new folders. -/
theorem artifacts_written_once {stamps files : List String} (ht : t.Sound)
    (hnotes : notesRead s l (sourcesOf l t files) (Run.start "compile" s.emitEnums.truthy t stamps) = notes)
    (hsep : Separate s l t notes)
    (hok : work s l files (Run.start "compile" s.emitEnums.truthy t stamps) = .ok () r) :
    ∃ outputs, Ledger t r.store outputs ∧ List.Sublist (outputs.map (·.item)) r.report.results ∧
      ∀ o ∈ outputs, Produced s l notes r.pending.entries o := by
  obtain ⟨r₁, hsources, hrelease⟩ := work_eq_ok hok
  have hstart : Schemas s l t notes (Run.start "compile" s.emitEnums.truthy t stamps) [] :=
    { ledger := .start ht stamps
      produced := fun _ ho => nomatch ho
      reported := List.nil_sublist _
      flushed := rfl
      keys := fun _ hd => nomatch hd
      nodup := List.nodup_nil }
  obtain ⟨outputs, h⟩ := schemas_sources hsep (fun _ hm => hnotes ▸ hm) hstart hsources
  exact outputs_of_release hsep h hrelease

/-- Two classes, one of which defines an enumeration. -/
def twoNotes : String :=
  "note of A\nSCHEMAHINTS\nfield k:\n enumDefine:\n  enumId: K\nend note\nnote of B\nSCHEMAHINTS\nend note\n"

theorem twoNotes_written_once : ∃ outputs notes, Ledger (oneSource twoNotes) (exampleRun twoNotes).store outputs ∧
    List.Sublist (outputs.map (·.item)) (exampleRun twoNotes).report.results ∧
    (∀ o ∈ outputs, Produced exampleSettings exampleLayout notes (exampleRun twoNotes).pending.entries o) ∧
    (exampleRun twoNotes).store.written = [⟨.relative, ["packages", "core", "schemas", "A.schema.json"]⟩,
      ⟨.relative, ["packages", "core", "schemas", "B.schema.json"]⟩, ⟨.relative, ["packages", "core", "enums", "K.json"]⟩] := by
  let notes : List Note := [⟨"A", "SCHEMAHINTS\nfield k:\n enumDefine:\n  enumId: K\n", 2⟩, ⟨"B", "SCHEMAHINTS\n", 8⟩]
  have hnotes : Holds twoNotes notes := by decide
  have hsep : Separate exampleSettings exampleLayout (oneSource twoNotes) (notes.map (⟨"core", []⟩, ·)) := by decide +kernel
  have hrun : (straightExample twoNotes notes).map (·.store.written) =
      some [⟨.relative, ["packages", "core", "schemas", "A.schema.json"]⟩,
        ⟨.relative, ["packages", "core", "schemas", "B.schema.json"]⟩,
        ⟨.relative, ["packages", "core", "enums", "K.json"]⟩] := by decide +kernel
  obtain ⟨r, hr, hwritten⟩ := Option.map_eq_some_iff.mp hrun
  obtain ⟨hwork, hreached⟩ := hnotes.exampleRun (by simp [notes]) hr
  obtain ⟨outputs, hledger, hitems, hproduced⟩ := artifacts_written_once (sound_oneSource twoNotes)
    (hnotes.notesRead ["1"]) hsep hwork
  rw [hreached]
  exact ⟨outputs, _, hledger, hitems, hproduced, hwritten⟩

/-- A class whose enumeration asks for the place of its schema. -/
def takenNote : String :=
  "note of A\nSCHEMAHINTS\nfield k:\n enumDefine:\n  enumId: K\n  targetPath: core/schemas/A.schema\nend note\n"

/-- The enumeration takes the place of the schema, and both are reported as written. -/
theorem takenNote_replaced : (exampleRun takenNote).report.results.map (fun i => (i.outcome, i.unit)) =
      [(.wrote, "core/schemas/A.schema.json"), (.wrote, "core/schemas/A.schema.json")] ∧
    ((exampleRun takenNote).store.written.map fun p => p.absolute []) =
      [["packages", "core", "schemas", "A.schema.json"], ["packages", "core", "schemas", "A.schema.json"]] := by
  let notes : List Note :=
    [⟨"A", "SCHEMAHINTS\nfield k:\n enumDefine:\n  enumId: K\n  targetPath: core/schemas/A.schema\n", 2⟩]
  have hnotes : Holds takenNote notes := by decide
  have hrun : (straightExample takenNote notes).map (fun r =>
      (r.report.results.map fun i => (i.outcome, i.unit), r.store.written.map fun p => p.absolute [])) =
      some ([(.wrote, "core/schemas/A.schema.json"), (.wrote, "core/schemas/A.schema.json")],
        [["packages", "core", "schemas", "A.schema.json"], ["packages", "core", "schemas", "A.schema.json"]]) := by
    decide +kernel
  obtain ⟨r, hr, hfacts⟩ := Option.map_eq_some_iff.mp hrun
  rw [(hnotes.exampleRun (by simp [notes]) hr).2]
  exact Prod.mk.inj hfacts

end Command.Compile

end NoteSchema
