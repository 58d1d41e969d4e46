import NoteSchema.Proofs.Artifact.Flushed
import NoteSchema.Proofs.Command.Sources
import NoteSchema.Proofs.Schema.Writable

namespace NoteSchema

namespace Check

/-- Content that is not JSON is refused, and nothing else comes of the check. -/
theorem json_ne_error {content : String} {e : WriteFailure} (hother : ∀ problem, e ≠ .storage problem) :
    Check.json content ≠ .error e := by
  unfold json
  split
  next => simp
  next =>
    intro h
    cases h
    exact hother _ rfl

end Check

namespace Command.Compile

open Hint (Block Note)
open Schema (Compiled Setup)

variable {s : Settings} {l : Layout} {t : FileTree} {p : FilePath} {here : Location} {n : Note} {r : Run}
  {notes : List (Location × Note)}

/-- A note that does not end a run: its text can be read, its literals can be written, and no destination in it holds the
character that no path may hold. -/
structure Harmless (s : Settings) (l : Layout) (here : Location) (n : Note) : Prop where
  read : ∀ f, Block.ofNote s.strictness n ≠ .error (.fault f)
  write : ∀ b ∈ blockOf? s n, Schema.blockWritable (Setup.ofSettings s l) here b = true
  plain : ∀ d ∈ (schemaPath? s l here n).toList ++ enumPaths s l here n, d.hasNul = false

/-- Whether reading a note ends in a fault. -/
def readFails (s : Settings) (n : Note) : Bool :=
  match Block.ofNote s.strictness n with
  | .error (.fault _) => true
  | _ => false

theorem readFails_eq_false : readFails s n = false ↔ ∀ f, Block.ofNote s.strictness n ≠ .error (.fault f) := by
  unfold readFails
  split
  next f h => simp [h]
  next hno => exact iff_of_true rfl hno

instance (s : Settings) (l : Layout) (here : Location) (n : Note) : Decidable (Harmless s l here n) :=
  decidable_of_iff (readFails s n = false ∧
      (∀ b ∈ blockOf? s n, Schema.blockWritable (Setup.ofSettings s l) here b = true) ∧
      ∀ d ∈ (schemaPath? s l here n).toList ++ enumPaths s l here n, d.hasNul = false)
    ⟨fun h => ⟨readFails_eq_false.mp h.1, h.2.1, h.2.2⟩, fun h => ⟨readFails_eq_false.mpr h.read, h.write, h.plain⟩⟩

/-- The unit of a note is named for its source, or for the destination of its schema. -/
def NoteUnit (s : Settings) (l : Layout) (p : FilePath) (here : Location) (n : Note) (i : Report.Item) : Prop :=
  i.unit = unitOf l p n ∧ i.outcome = .fail ∨
    ∃ d ∈ schemaPath? s l here n, i.unit = l.display d ∧ (i.outcome = .wrote ∨ i.outcome = .fail)

/-- The units of a source: one if it has no place in the corpus, cannot be read or has no notes, else one for each note. -/
inductive SourceUnits (s : Settings) (l : Layout) (t : FileTree) (p : FilePath) : List Report.Item → Prop
  | misplaced {e} (hplace : l.locationOf p = .error e) : SourceUnits s l t p [⟨.fail, l.display p, e.message, []⟩]
  | unreadable {here reason} (hplace : l.locationOf p = .ok here) (htext : t.readText p = .error reason) :
    SourceUnits s l t p [⟨.fail, l.display p, reason, []⟩]
  | unmarked {here text} (hplace : l.locationOf p = .ok here) (htext : t.readText p = .ok text)
      (hnotes : Note.extract text = []) :
    SourceUnits s l t p [⟨.skip, l.display p, "no SCHEMAHINTS notes", []⟩]
  | read {here text items} (hplace : l.locationOf p = .ok here) (htext : t.readText p = .ok text)
      (hnotes : Note.extract text ≠ []) (h : List.Forall₂ (NoteUnit s l p here) (Note.extract text) items) :
    SourceUnits s l t p items

/-- The unit of an enumeration is named for its destination. -/
def EnumUnit (l : Layout) (m : FilePath × Enumeration) (i : Report.Item) : Prop :=
  i.unit = l.display m.1 ∧ (i.outcome = .wrote ∨ i.outcome = .fail)

/-- A run that has so far only written the schemas of some notes: what was in the tree is there, but for files in their
places. -/
structure Steady (s : Settings) (l : Layout) (t : FileTree) (notes : List (Location × Note)) (r : Run) : Prop where
  sound : r.store.tree.Sound
  home : r.store.tree.home = t.home
  folders : ∀ q, t.find? q = some .folder → r.store.tree.find? q = some .folder
  files : ∀ q content, t.find? q = some (.file content) → q ∉ schemaPlaces s l t notes →
    r.store.tree.find? q = some (.file content)
  enabled : r.pending.enabled = s.emitEnums.truthy
  flushed : r.pending.flushed = false
  keys : ∀ d ∈ r.pending.entries.map (·.1), d ∈ enumPathsOf s l notes
  nodup : (r.pending.entries.map (·.1)).Nodup

namespace Steady

theorem start (ht : t.Sound) (notes : List (Location × Note)) (stamps : List String) :
    Steady s l t notes (Run.start "compile" s.emitEnums.truthy t stamps) where
  sound := ht
  home := rfl
  folders _ h := h
  files _ _ h _ := h
  enabled := rfl
  flushed := rfl
  keys _ h := nomatch h
  nodup := List.nodup_nil

theorem add (h : Steady s l t notes r) (i : Report.Item) : Steady s l t notes (r.add i) :=
  { h with }

theorem placeOf_eq (h : Steady s l t notes r) (p : FilePath) : r.store.tree.placeOf p = t.placeOf p := by
  rw [FileTree.placeOf, FileTree.placeOf, FileTree.origin, FileTree.origin, h.home]

theorem write (h : Steady s l t notes r) (hn : (here, n) ∈ notes) {d : FilePath} (hd : schemaPath? s l here n = some d)
    {content : String} {check : Check} {result : Except WriteFailure Unit} {store : Store}
    (hw : r.store.write check d content = (result, store)) : Steady s l t notes { r with store } := by
  cases result with
  | ok done =>
    obtain ⟨hlands, hsound, hwrote, _⟩ := Store.wrote_of_ok h.sound hw
    have hfolder := hlands.not_folder
    have hplace : t.placeOf d ∈ schemaPlaces s l t notes :=
      List.mem_map_of_mem (List.mem_filterMap.mpr ⟨(here, n), hn, hd⟩)
    refine { h with
      sound := hsound
      home := hwrote.home.trans h.home
      folders := fun q hq => ?_
      files := fun q content hq hother => ?_ }
    · have hkept := h.folders q hq
      refine hwrote.kept hkept ?_
      rintro rfl
      exact hfolder hkept
    · refine hwrote.kept (h.files q content hq hother) ?_
      rw [h.placeOf_eq]
      rintro rfl
      exact hother hplace
  | error e =>
    obtain ⟨_, hsound, _, _, places, hmade, _⟩ := Store.made_of_error h.sound hw
    exact { h with
      sound := hsound
      home := hmade.home.trans h.home
      folders := fun q hq => hmade.kept (h.folders q hq)
      files := fun q content hq hother => hmade.kept (h.files q content hq hother) }

theorem take (h : Steady s l t notes r) (hn : (here, n) ∈ notes) {requests : List Emission}
    (hrequests : ∀ e ∈ requests, e.destination ∈ enumPaths s l here n) {pending : Pending}
    (htakes : r.pending.Takes requests pending) : Steady s l t notes { r with pending } :=
  { h with
    enabled := htakes.enabled.trans h.enabled
    flushed := htakes.flushed.trans h.flushed
    nodup := htakes.nodup h.nodup
    keys := fun d hd => by
      rcases htakes.keys d hd with hd | ⟨e, he, rfl⟩
      · exact h.keys d hd
      · exact List.mem_flatMap.mpr ⟨(here, n), hn, hrequests e he⟩ }

end Steady

/-- A harmless note is reported with one unit, and the run goes on. -/
theorem note_finishes (hharmless : Harmless s l here n) (hn : (here, n) ∈ notes) (p : FilePath)
    (h : Steady s l t notes r) :
    ∃ r' item, note s l p here n r = .ok () r' ∧ Steady s l t notes r' ∧
      r'.report.results = r.report.results ++ [item] ∧ NoteUnit s l p here n item := by
  have hcompiles {b : Block} {found : List Diagnostic} (hread : Block.ofNote s.strictness n = .ok (b, found)) :
      ∃ c, Schema.compile (Setup.ofSettings s l) here b = .ok c ∧ ∃ d, c.schema.toDocument s.base s.dialect = .ok d :=
    Schema.exists_compile (hharmless.write b (by simp [blockOf?, hread, Except.toOption])) s.base s.dialect
  have hturn := noteTurn s l p here n r
  generalize note s l p here n r = result at hturn ⊢
  cases hturn with
  | unmarked => exact ⟨_, _, rfl, h.add _, rfl, .inl ⟨rfl, rfl⟩⟩
  | unreadable hread => exact absurd hread (hharmless.read _)
  | uncompiled hread hcompile =>
    obtain ⟨c, hc, _⟩ := hcompiles hread
    rw [hc] at hcompile
    cases hcompile
  | repeated => exact ⟨_, _, rfl, h.add _, rfl, .inl ⟨rfl, rfl⟩⟩
  | unwritable hyields hdocument =>
    obtain ⟨b, hread, hcompile⟩ := hyields
    obtain ⟨c, hc, d, hd⟩ := hcompiles hread
    rw [hc] at hcompile
    cases hcompile
    rw [hd] at hdocument
    cases hdocument
  | wrote hyields _ _ hstore hpending =>
    have hpath := hyields.schemaPath
    have hsteady := (h.write hn hpath hstore).take hn (fun e he => hyields.enumPaths he) (takes_of_request hpending)
    refine ⟨_, _, rfl, hsteady.add _, rfl, .inr ⟨_, hpath, ?_⟩⟩
    unfold classItem
    dsimp only
    split
    next => exact ⟨rfl, .inr rfl⟩
    next => exact ⟨rfl, .inl rfl⟩
  | refused hyields _ _ hstore =>
    exact ⟨_, _, rfl, (h.write hn hyields.schemaPath hstore).add _, rfl, .inl ⟨rfl, rfl⟩⟩
  | broken hyields _ hstore hother =>
    obtain ⟨_, _, _, _, _, _, _, hwhy⟩ := Store.made_of_error h.sound hstore
    have hplain := hharmless.plain _ (List.mem_append_left _ (by rw [hyields.schemaPath]; exact List.mem_singleton_self _))
    rcases (hwhy hplain).2 with hcheck | ⟨e, rfl⟩
    · exact absurd hcheck (Check.json_ne_error hother)
    · exact absurd rfl (hother e)

theorem Steady.readText_eq (h : Steady s l t notes r) (hp : Undisturbed s l t notes p) :
    r.store.tree.readText p = t.readText p := by
  obtain ⟨q, e, hl, hq⟩ := hp
  exact FileTree.readText_of_stays hl h.home h.folders fun content hc => h.files q content hc hq

/-- A source with harmless notes is reported, and the run goes on. -/
theorem source_finishes (hharmless : ∀ m ∈ notes, Harmless s l m.1 m.2) (hp : Undisturbed s l t notes p)
    (hnotes : ∀ m ∈ notesAt l t p, m ∈ notes) (h : Steady s l t notes r) :
    ∃ r' items, source s l p r = .ok () r' ∧ Steady s l t notes r' ∧
      r'.report.results = r.report.results ++ items ∧ SourceUnits s l t p items := by
  have hturn := sourceTurn s l p r
  generalize source s l p r = result at hturn ⊢
  cases hturn with
  | misplaced hplace => exact ⟨_, _, rfl, h.add _, rfl, .misplaced hplace⟩
  | unreadable hplace htext =>
    rw [h.readText_eq hp] at htext
    exact ⟨_, _, rfl, h.add _, rfl, .unreadable hplace htext⟩
  | unmarked hplace htext hnone =>
    rw [h.readText_eq hp] at htext
    exact ⟨_, _, rfl, h.add _, rfl, .unmarked hplace htext hnone⟩
  | @read here text hplace htext hsome =>
    rw [h.readText_eq hp] at htext
    have hin {n : Note} (hn : n ∈ Note.extract text) : (here, n) ∈ notes :=
      hnotes _ (by simpa [notesAt, hplace, htext] using hn)
    obtain ⟨r', parts, hgo, hsteady, hresults, hparts⟩ := Work.forM_reports
      (Q := fun n part => ∃ item, part = [item] ∧ NoteUnit s l p here n item)
      (fun n hn r hr => by
        obtain ⟨r', item, hgo, hr', hresults, hunit⟩ := note_finishes (hharmless _ (hin hn)) (hin hn) p hr
        exact ⟨r', [item], hgo, hr', hresults, item, rfl, hunit⟩) h
    exact ⟨r', parts.flatten, hgo, hsteady, hresults, .read hplace htext hsome (forall₂_flatten hparts)⟩

/-- Enumerations with plain destinations are all tried, whatever becomes of them. -/
theorem enumerations_finish (store : Store) (base : String) {todo : List (FilePath × Enumeration)}
    (hplain : ∀ m ∈ todo, m.1.hasNul = false) :
    ∃ released store', store.writeEnumerations base todo = (.ok released, store') ∧
      List.Forall₂ (fun m i => i.1 = m.1) todo released := by
  have hanswers : ∀ m ∈ todo, Writer.Answers Store.writeDocument m.1 := fun m hm => Writer.store_answers (hplain m hm)
  obtain ⟨outcomes, houtcomes⟩ :
      ∃ outcomes, (Writer.attempt Store.writeDocument store (Writer.writesOf base todo)).1 = outcomes := ⟨_, rfl⟩
  have hpaths : (Writer.writesOf base todo).map (·.1) = (Writer.report outcomes).map (·.1) := by
    rw [Writer.report, List.map_map, ← houtcomes]
    exact (Writer.map_fst_attempt _ store _).symm
  refine ⟨Writer.report outcomes, _, houtcomes ▸ Writer.release_eq hanswers, ?_⟩
  rw [Writer.writesOf, List.map_map, ← List.forall₂_eq_eq_eq, List.forall₂_map_left_iff, List.forall₂_map_right_iff]
    at hpaths
  exact hpaths.imp fun _ _ => Eq.symm

/-- The release of enumerations with plain destinations goes through, and reports one unit for each. -/
theorem release_finishes (hharmless : ∀ m ∈ notes, Harmless s l m.1 m.2) (h : Steady s l t notes r) :
    ∃ r' items, release s l r = .ok () r' ∧ r'.report.results = r.report.results ++ items ∧
      todo r' = todo r ∧ List.Forall₂ (EnumUnit l) (todo r) items := by
  have hplain : ∀ m ∈ todo r, m.1.hasNul = false := by
    intro m hm
    obtain ⟨k, hk, hd⟩ := List.mem_flatMap.mp (h.keys m.1 (List.mem_map_of_mem (mem_todo hm)))
    exact (hharmless k hk).plain m.1 (List.mem_append_right _ hd)
  obtain ⟨released, store', hgo, hall⟩ := enumerations_finish r.store s.base hplain
  have hturn := releaseTurn s l r
  generalize release s l r = result at hturn ⊢
  cases hturn with
  | closed hclosed =>
    rw [h.flushed] at hclosed
    cases hclosed
  | broken _ hstore =>
    rw [hgo] at hstore
    cases hstore
  | released _ hstore =>
    rw [hgo] at hstore
    cases hstore
    refine ⟨_, _, rfl, rfl, rfl, List.forall₂_map_right_iff.mpr (hall.imp fun m i hi => ?_)⟩
    obtain ⟨d, problem⟩ := i
    dsimp only at hi
    subst hi
    cases problem with
    | none => exact ⟨rfl, .inl rfl⟩
    | some e => exact ⟨rfl, .inr rfl⟩

/-- The notes of some sources as they are in a tree. -/
def notesOf (l : Layout) (t : FileTree) (ps : List FilePath) : List (Location × Note) := ps.flatMap (notesAt l t)

/-- Nothing in a corpus ends a run: what is below the root can be listed and each source that is named is a file, in whose
place no schema is written; and the notes are harmless. -/
structure Untroubled (s : Settings) (l : Layout) (t : FileTree) (files : List String) : Prop where
  sound : t.Sound
  root : files = [] → l.barred? t = none
  named : ∀ f ∈ files, t.isFile (FilePath.ofString f) = true
  apart : ∀ f ∈ files, t.placeOf (FilePath.ofString f) ∉ schemaPlaces s l t (notesOf l t (sourcesOf l t files))
  harmless : ∀ m ∈ notesOf l t (sourcesOf l t files), Harmless s l m.1 m.2

/-- The report of a run has the units of each source and one for each enumeration, and no more. -/
def Accounted (s : Settings) (l : Layout) (t : FileTree) (files : List String) (r : Run) : Prop :=
  ∃ parts items, r.report.results = parts.flatten ++ items ∧
    List.Forall₂ (SourceUnits s l t) (sourcesOf l t files) parts ∧
    List.Forall₂ (EnumUnit l) (todo r) items ∧ ((todo r).map (·.1)).Nodup

namespace Untroubled

variable {files : List String}

theorem undisturbed (h : Untroubled s l t files) (hp : p ∈ sourcesOf l t files) :
    Undisturbed s l t (notesOf l t (sourcesOf l t files)) p := by
  by_cases hfiles : files = []
  · have hin : p ∈ l.sources t := by simpa [sourcesOf, hfiles] using hp
    exact undisturbed_of_mem_sources h.sound hin
  · obtain ⟨f, hf, rfl⟩ : ∃ f ∈ files, FilePath.ofString f = p := by simpa [sourcesOf, hfiles] using hp
    have hfile := h.named f hf
    unfold FileTree.isFile at hfile
    split at hfile
    next q content hl =>
      refine ⟨q, _, hl, ?_⟩
      rw [(FileTree.placeOf_of_locate hl).1]
      exact h.apart f hf
    next => cases hfile

theorem mem_notes (hp : p ∈ sourcesOf l t files) : ∀ m ∈ notesAt l t p, m ∈ notesOf l t (sourcesOf l t files) :=
  fun _ hm => List.mem_flatMap.mpr ⟨p, hp, hm⟩

theorem sources_finish (h : Untroubled s l t files) (stamps : List String) :
    ∃ r parts, (sourcesOf l t files).forM (source s l) (Run.start "compile" s.emitEnums.truthy t stamps) = .ok () r ∧
      Steady s l t (notesOf l t (sourcesOf l t files)) r ∧ r.report.results = parts.flatten ∧
      List.Forall₂ (SourceUnits s l t) (sourcesOf l t files) parts := by
  obtain ⟨r, parts, hgo, hsteady, hresults, hparts⟩ := Work.forM_reports (Q := SourceUnits s l t)
    (fun p (hp : p ∈ sourcesOf l t files) r hr => source_finishes h.harmless (h.undisturbed hp) (mem_notes hp) hr)
    (Steady.start h.sound _ stamps)
  exact ⟨r, parts, hgo, hsteady, hresults, hparts⟩

/-- A run goes through its sources and then releases the enumerations. -/
theorem work_eq (h : Untroubled s l t files) (stamps : List String) :
    work s l files (Run.start "compile" s.emitEnums.truthy t stamps) =
      ((sourcesOf l t files).forM (source s l) >>= fun _ => release s l)
        (Run.start "compile" s.emitEnums.truthy t stamps) := by
  rcases Compile.work_eq s l files (Run.start "compile" s.emitEnums.truthy t stamps) with
    ⟨refusal, _, hfiles, hbarred⟩ | ⟨hwork, _⟩
  · have hfree : l.barred? t = none := h.root hfiles
    rw [show l.barred? t = some refusal from hbarred] at hfree
    cases hfree
  · exact hwork

/-- A run that nothing ends reports what it owes. -/
theorem work_finishes (h : Untroubled s l t files) (stamps : List String) :
    ∃ r, work s l files (Run.start "compile" s.emitEnums.truthy t stamps) = .ok () r ∧ Accounted s l t files r := by
  obtain ⟨r₁, parts, hsources, hsteady, hresults, hparts⟩ := h.sources_finish stamps
  obtain ⟨r, items, hrelease, hreleased, htodo, hitems⟩ := release_finishes h.harmless hsteady
  refine ⟨r, ?_, parts, items, by rw [hreleased, hresults], hparts, htodo ▸ hitems, ?_⟩
  · rw [h.work_eq, Work.bind_of_ok _ hsources, hrelease]
  · rw [htodo]
    exact nodup_todo hsteady.nodup

end Untroubled

end Command.Compile

end NoteSchema
