import NoteSchema.Proofs.Command.Straight
import NoteSchema.Proofs.Command.Twins
import NoteSchema.Proofs.File.Rewritten

namespace NoteSchema

namespace Layout

variable {l : Layout} {p p' : FilePath} {here here' : Location}

/-- Two paths that mean one place have one location. -/
theorem locationOf_congr (hplace : p'.absolute l.cwd = p.absolute l.cwd) (h : l.locationOf p = .ok here)
    (h' : l.locationOf p' = .ok here') : here' = here := by
  obtain ⟨name, hnames⟩ := absolute_of_locationOf h
  obtain ⟨name', hnames'⟩ := absolute_of_locationOf h'
  rw [hplace, hnames] at hnames'
  obtain ⟨hsegment, hbelow⟩ := List.cons.inj (List.append_cancel_left hnames')
  obtain ⟨hsubpath, -⟩ := List.append_singleton_inj.mp (List.cons.inj hbelow).2
  exact congrArg₂ Location.mk hsegment.symm hsubpath.symm

end Layout

namespace Command.Compile

open Hint (Block Note)
open Store (Alike Clear)

variable {s : Settings} {l : Layout} {t t' : FileTree} {p : FilePath} {here : Location} {n : Note} {r r' : Run}
  {notes : List (Location × Note)} {stamps files : List String} {P : FilePath → Prop}

section Release

variable {place : Place}

/-- Writing elsewhere neither makes nor changes a file. -/
theorem file_iff_of_write {a a' : Store} (ha : Store.Kept t a) {check : Check} {d : FilePath} {text : String}
    {result : Except WriteFailure Unit} (hw : a.write check d text = (result, a')) (hd : place ≠ t.placeOf d) :
    Store.Kept t a' ∧ ∀ content, a'.tree.find? place = some (.file content) ↔ a.tree.find? place = some (.file content) := by
  cases result with
  | ok done =>
    obtain ⟨ha', hwritten⟩ := ha.written_of_ok hw
    refine ⟨ha', fun content => ?_⟩
    rw [hwritten.find?, if_neg fun hq => hd hq.1]
    split
    next hnone => simp [hnone.2]
    next => rfl
  | error e =>
    obtain ⟨_, hsound, _, _, _, hmade, _⟩ := Store.made_of_error ha.sound hw
    exact ⟨⟨hsound, hmade.home.trans ha.home⟩, hmade.file_iff⟩

theorem file_iff_of_enumerations {a a' : Store} (ha : Store.Kept t a) {base : String}
    {todo : List (FilePath × Enumeration)} {released : Released} (hw : a.writeEnumerations base todo = (.ok released, a'))
    (htodo : ∀ m ∈ todo, place ≠ t.placeOf m.1) (content : Text.Bytes) :
    a'.tree.find? place = some (.file content) ↔ a.tree.find? place = some (.file content) := by
  replace hw := Store.releases_of_ok hw
  induction hw with
  | nil => rfl
  | wrote hfirst _ ih =>
    obtain ⟨ha₁, hfile⟩ := file_iff_of_write ha hfirst (htodo _ List.mem_cons_self)
    exact (ih ha₁ (List.forall_mem_of_forall_mem_cons htodo)).trans (hfile content)
  | refused hfirst _ ih =>
    obtain ⟨ha₁, hfile⟩ := file_iff_of_write ha hfirst (htodo _ List.mem_cons_self)
    exact (ih ha₁ (List.forall_mem_of_forall_mem_cons htodo)).trans (hfile content)

/-- The release of the enumerations neither makes nor changes a file in the place of no enumeration. -/
theorem file_iff_of_release (h : Steady s l t notes r) (hok : release s l r = .ok () r')
    (hplace : s.emitEnums.truthy = true → place ∉ (enumPathsOf s l notes).map t.placeOf) (content : Text.Bytes) :
    r'.store.tree.find? place = some (.file content) ↔ r.store.tree.find? place = some (.file content) := by
  have htodo : ∀ m ∈ todo r, place ≠ t.placeOf m.1 := by
    intro m hm
    have henabled : s.emitEnums.truthy = true := by
      rw [← h.enabled]
      unfold todo at hm
      split at hm
      next henabled => exact henabled
      next => cases hm
    rintro rfl
    exact hplace henabled (List.mem_map_of_mem (h.keys m.1 (List.mem_map_of_mem (mem_todo hm))))
  have hturn := releaseTurn s l r
  rw [hok] at hturn
  cases hturn with
  | closed => rfl
  | released _ hstore => exact file_iff_of_enumerations h.kept hstore htodo content

end Release

/-- A tree becomes another one by dropping a note from the text of a source. -/
structure Dropped (s : Settings) (l : Layout) (t : FileTree) (p : FilePath) (here : Location) (n : Note) (t' : FileTree) :
    Prop where
  place : l.locationOf p = .ok here
  tree : ∃ content, t' = t.set (t.placeOf p) (.file content)
  text : ∃ text text', t.readText p = .ok text ∧ t'.readText p = .ok text' ∧ Drops s n text text'

/-- The schema of a note, and those that share its place, leave those of the other notes alone. -/
def Apart (s : Settings) (l : Layout) (t : FileTree) (stamps : List String) (notes : List (Location × Note))
    (here : Location) (n : Note) : Prop :=
  ∀ x ∈ schemaPath? s l here n, ∀ d ∈ schemaPathsOf s l notes, t.placeOf d = t.placeOf x →
    ∀ e ∈ schemaPathsOf s l notes, t.placeOf e ≠ t.placeOf x → Clear t stamps d e

instance (s : Settings) (l : Layout) (t : FileTree) (stamps : List String) (notes : List (Location × Note))
    (here : Location) (n : Note) : Decidable (Apart s l t stamps notes here n) :=
  inferInstanceAs (Decidable (∀ x ∈ schemaPath? s l here n, ∀ d ∈ schemaPathsOf s l notes, t.placeOf d = t.placeOf x →
    ∀ e ∈ schemaPathsOf s l notes, t.placeOf e ≠ t.placeOf x → Clear t stamps d e))

namespace Dropped

theorem locate (h : Dropped s l t p here n t') : ∃ content, t.locate p = .ok (t.placeOf p, .file content) := by
  obtain ⟨text, _, htext, _⟩ := h.text
  unfold FileTree.readText FileTree.read at htext
  cases hl : t.locate p with
  | error c => simp [hl] at htext
  | ok found =>
    obtain ⟨place, e⟩ := found
    cases e with
    | folder => simp [hl] at htext
    | file content => exact ⟨content, by rw [(FileTree.placeOf_of_locate hl).1]⟩

theorem rewritten (h : Dropped s l t p here n t') : t.Rewritten t' (t.placeOf p) := by
  obtain ⟨content, hl⟩ := h.locate
  obtain ⟨content', rfl⟩ := h.tree
  exact FileTree.rewritten_set (FileTree.placeOf_of_locate hl).2 content'

theorem mem_notes (h : Dropped s l t p here n t') (hp : p ∈ sourcesOf l t files) :
    (here, n) ∈ notesOf l t (sourcesOf l t files) := by
  obtain ⟨text, _, htext, _, before, after, _, _, hextract, _⟩ := h.text
  refine Untroubled.mem_notes hp _ ?_
  simp [notesAt, h.place, htext, hextract]

/-- A source has the same text in both trees, or it is the one from which the note is dropped. -/
theorem texts (h : Dropped s l t p here n t') (ht : t.Sound) (hcwd : l.cwd = t.home) {p' : FilePath}
    (hp : Undisturbed s l t notes p') {here' : Location} (hplace : l.locationOf p' = .ok here') :
    t'.readText p' = t.readText p' ∨ here' = here ∧ ∃ text text', t.readText p' = .ok text ∧
      t'.readText p' = .ok text' ∧ Drops s n text text' := by
  obtain ⟨place, e, hl, _⟩ := hp
  by_cases hsame : place = t.placeOf p
  · subst hsame
    obtain ⟨content, hfile⟩ := h.locate
    obtain ⟨hplaces, hfound⟩ := ht.find?_of_locate hl
    rw [(FileTree.placeOf_of_locate hfile).2] at hfound
    cases hfound
    obtain ⟨content₁, hfile₁, hfound₁⟩ := h.rewritten.locate_file hfile
    obtain ⟨content₂, hfile₂, hfound₂⟩ := h.rewritten.locate_file hl
    rw [hfound₁] at hfound₂
    cases hfound₂
    have habsolute : p'.absolute l.cwd = p.absolute l.cwd := by
      rw [hcwd, ht.absolute_eq, ht.absolute_eq]
      exact hplaces.symm
    rw [FileTree.readText_congr hfile hl, FileTree.readText_congr hfile₁ hfile₂]
    exact .inr ⟨Layout.locationOf_congr habsolute h.place hplace, h.text⟩
  · exact .inl (h.rewritten.readText_ne hl hsame)

/-- The notes of a source without one are among those with it, as they are read. -/
theorem exists_readsAs (h : Dropped s l t p here n t') (ht : t.Sound) (hcwd : l.cwd = t.home) {p' : FilePath}
    (hp : Undisturbed s l t notes p') :
    ∀ m' ∈ notesAt l t' p', ∃ m ∈ notesAt l t p', m'.1 = m.1 ∧ ReadsAs s m.2 m'.2 := by
  intro m' hm'
  cases hplace : l.locationOf p' with
  | error e => simp [notesAt, hplace] at hm'
  | ok here' =>
    rcases h.texts ht hcwd hp hplace with hsame | ⟨rfl, text, text', htext, htext', hdrops⟩
    · rw [notesAt, hsame] at hm'
      exact ⟨m', hm', rfl, rfl⟩
    · obtain ⟨before, after, before', after', hextract, hextract', hbefore, hafter⟩ := hdrops
      simp only [notesAt, hplace, htext', hextract'] at hm'
      simp only [notesAt, hplace, htext, hextract]
      obtain ⟨n', hn', rfl⟩ := List.mem_map.mp hm'
      rcases List.mem_append.mp hn' with hn' | hn'
      · obtain ⟨k, hk, hreads⟩ := forall₂_mem_left hbefore.flip hn'
        exact ⟨_, List.mem_map_of_mem (List.mem_append_left _ hk), rfl, hreads⟩
      · obtain ⟨k, hk, hreads⟩ := forall₂_mem_left hafter.flip hn'
        exact ⟨_, List.mem_map_of_mem (List.mem_append_right _ (List.mem_cons_of_mem n hk)), rfl, hreads⟩

section Corpus

variable (hdropped : Dropped s l t p here n t') (h : Untroubled s l t files) (hcwd : l.cwd = t.home)

include hdropped

theorem sourcesOf_eq : sourcesOf l t' files = sourcesOf l t files := by
  rw [sourcesOf, sourcesOf, Layout.sources_of_rewritten hdropped.rewritten]

include h hcwd

theorem exists_readsAs_of_mem : ∀ m' ∈ notesOf l t' (sourcesOf l t' files),
    ∃ m ∈ notesOf l t (sourcesOf l t files), m'.1 = m.1 ∧ ReadsAs s m.2 m'.2 := by
  intro m' hm'
  obtain ⟨p', hp', hm'⟩ := List.mem_flatMap.mp hm'
  rw [hdropped.sourcesOf_eq] at hp'
  obtain ⟨m, hm, hreads⟩ := hdropped.exists_readsAs h.sound hcwd (h.undisturbed hp') m' hm'
  exact ⟨m, Untroubled.mem_notes hp' m hm, hreads⟩

theorem schemaPathsOf_subset :
    schemaPathsOf s l (notesOf l t' (sourcesOf l t' files)) ⊆ schemaPathsOf s l (notesOf l t (sourcesOf l t files)) := by
  intro d hd
  obtain ⟨m', hm', hd⟩ := List.mem_filterMap.mp hd
  obtain ⟨m, hm, hplace, hreads⟩ := hdropped.exists_readsAs_of_mem h hcwd m' hm'
  rw [hplace, hreads.schemaPath?_eq] at hd
  exact List.mem_filterMap.mpr ⟨m, hm, hd⟩

theorem enumPathsOf_subset :
    enumPathsOf s l (notesOf l t' (sourcesOf l t' files)) ⊆ enumPathsOf s l (notesOf l t (sourcesOf l t files)) := by
  intro d hd
  obtain ⟨m', hm', hd⟩ := List.mem_flatMap.mp hd
  obtain ⟨m, hm, hplace, hreads⟩ := hdropped.exists_readsAs_of_mem h hcwd m' hm'
  rw [hplace, hreads.enumPaths_eq] at hd
  exact List.mem_flatMap.mpr ⟨m, hm, hd⟩

/-- A corpus that ends no run ends none without one of its notes. -/
theorem untroubled : Untroubled s l t' files where
  sound := hdropped.rewritten.sound h.sound
  root hfiles := (Layout.barred_of_rewritten hdropped.rewritten).mpr (h.root hfiles)
  named f hf := by
    have hfile := h.named f hf
    unfold FileTree.isFile at hfile
    split at hfile
    next place content hl =>
      by_cases hplace : place = t.placeOf p
      · obtain ⟨content', hl', _⟩ := hdropped.rewritten.locate_file (hplace ▸ hl)
        rw [FileTree.isFile, hl']
      · rw [FileTree.isFile, hdropped.rewritten.locate_ne hl hplace]
    next => cases hfile
  apart f hf hplace := by
    refine h.apart f hf ?_
    rw [hdropped.rewritten.placeOf] at hplace
    obtain ⟨d, hd, hplaces⟩ := List.mem_map.mp hplace
    rw [hdropped.rewritten.placeOf] at hplaces
    exact List.mem_map.mpr ⟨d, hdropped.schemaPathsOf_subset h hcwd hd, hplaces⟩
  harmless m' hm' := by
    obtain ⟨m, hm, hplace, hreads⟩ := hdropped.exists_readsAs_of_mem h hcwd m' hm'
    rw [hplace]
    exact hreads.harmless (h.harmless m hm)

end Corpus

end Dropped

/-- The schemas of other notes than one: those written in other places. -/
def Others (s : Settings) (l : Layout) (t : FileTree) (notes : List (Location × Note)) (here : Location) (n : Note)
    (d : FilePath) : Prop :=
  d ∈ schemaPathsOf s l notes ∧ ∀ x ∈ schemaPath? s l here n, t.placeOf d ≠ t.placeOf x

theorem sorted_of_apart (h : Apart s l t stamps notes here n) {m : Location × Note} (hm : m ∈ notes)
    (hharmless : Harmless s l m.1 m.2) : Sorted s l t stamps (Others s l t notes here n) m := by
  refine ⟨hharmless, fun d hd => ?_⟩
  have hpath : d ∈ schemaPathsOf s l notes := List.mem_filterMap.mpr ⟨m, hm, hd⟩
  by_cases hother : ∀ x ∈ schemaPath? s l here n, t.placeOf d ≠ t.placeOf x
  · exact .inl ⟨hpath, hother⟩
  · refine .inr fun e he => ?_
    obtain ⟨x, hx⟩ := not_forall.mp hother
    obtain ⟨hin, hsame⟩ := Classical.not_imp.mp hx
    exact h x hin d hpath (not_not.mp hsame) e he.1 (he.2 x hin)

/-- Two trees that differ in a source look alike to schemas. -/
theorem alike_of_rewritten {place : Place} (h : t.Rewritten t' place) (hplace : ∀ d, P d → t.placeOf d ≠ place) :
    Alike t P { tree := t, stamps } { tree := t', stamps } where
  stamps := rfl
  written _ _ := .rfl
  way _ _ q _ := h.any_isFile q
  staged _ _ _ _ := h.isSome _
  place d hd := h.find? _ (hplace d hd)

theorem Untroubled.release_eq (h : Untroubled s l t files)
    (hsources : (sourcesOf l t files).forM (source s l) (Run.start "compile" s.emitEnums.truthy t stamps) = .ok () r)
    (hwork : work s l files (Run.start "compile" s.emitEnums.truthy t stamps) = .ok () r') : release s l r = .ok () r' := by
  rwa [h.work_eq, Work.bind_of_ok _ hsources] at hwork

/-- Two runs, one without a note of the other one, read their sources and look alike to the schemas of other notes. -/
theorem Dropped.through_sources (hdropped : Dropped s l t p here n t') (h : Untroubled s l t files) (hcwd : l.cwd = t.home)
    (hp : p ∈ sourcesOf l t files) (hapart : Apart s l t stamps (notesOf l t (sourcesOf l t files)) here n) :
    ∃ r q, (sourcesOf l t files).forM (source s l) (Run.start "compile" s.emitEnums.truthy t stamps) = .ok () r ∧
      (sourcesOf l t' files).forM (source s l) (Run.start "compile" s.emitEnums.truthy t' stamps) = .ok () q ∧
      Twins s l t t' (notesOf l t (sourcesOf l t files)) (notesOf l t' (sourcesOf l t' files)) stamps
        (Others s l t (notesOf l t (sourcesOf l t files)) here n) r q := by
  have h' : Untroubled s l t' files := hdropped.untroubled h hcwd
  have hsources : sourcesOf l t' files = sourcesOf l t files := hdropped.sourcesOf_eq
  have halike : Alike t (Others s l t (notesOf l t (sourcesOf l t files)) here n) { tree := t, stamps }
      { tree := t', stamps } := by
    refine alike_of_rewritten hdropped.rewritten fun d hd hplace => ?_
    obtain ⟨place, e, hl, hno⟩ := h.undisturbed hp
    refine hno ?_
    rw [(h.sound.find?_of_locate hl).1, ← hplace]
    exact List.mem_map_of_mem hd.1
  have hstart : Twins s l t t' (notesOf l t (sourcesOf l t files)) (notesOf l t' (sourcesOf l t' files)) stamps
      (Others s l t (notesOf l t (sourcesOf l t files)) here n) (Run.start "compile" s.emitEnums.truthy t stamps)
      (Run.start "compile" s.emitEnums.truthy t' stamps) :=
    { left := .start h.sound _ stamps
      right := .start h'.sound _ stamps
      home := hdropped.rewritten.home
      stamps := rfl
      alike := halike }
  have hclear : ∀ x ∈ schemaPath? s l here n, ∀ e, Others s l t (notesOf l t (sourcesOf l t files)) here n e →
      Clear t stamps x e := by
    intro x hx e he
    exact hapart x hx x (List.mem_filterMap.mpr ⟨(here, n), hdropped.mem_notes hp, hx⟩) rfl e he.1 (he.2 x hx)
  have hspared : ∀ p' ∈ sourcesOf l t files,
      Spared s l t t' stamps (Others s l t (notesOf l t (sourcesOf l t files)) here n) p' := by
    intro p' hp' here' hplace
    rcases hdropped.texts h.sound hcwd (h.undisturbed hp') hplace with hsame | ⟨rfl, text, text', htext, htext', hdrops⟩
    · exact .inl hsame
    · exact .inr ⟨text, text', n, htext, htext', hdrops, hclear⟩
  have hthrough := hstart.through_all
    (fun p' hp' => ⟨hspared p' hp', h.undisturbed hp', h'.undisturbed (hsources.symm ▸ hp')⟩)
    (fun p' hp' => Untroubled.mem_notes hp') (fun p' hp' => Untroubled.mem_notes (hsources.symm ▸ hp'))
    (fun m hm => sorted_of_apart hapart hm (h.harmless m hm)) h'.harmless
  rwa [hsources] at hthrough ⊢

/-- Two runs, one without a note of the other one, leave the same schemas of other notes. -/
theorem others_same (h : Untroubled s l t files) (hcwd : l.cwd = t.home) (hp : p ∈ sourcesOf l t files)
    (hdropped : Dropped s l t p here n t') (hapart : Apart s l t stamps (notesOf l t (sourcesOf l t files)) here n)
    (hr : work s l files (Run.start "compile" s.emitEnums.truthy t stamps) = .ok () r)
    (hr' : work s l files (Run.start "compile" s.emitEnums.truthy t' stamps) = .ok () r') {d : FilePath}
    (hd : Others s l t (notesOf l t (sourcesOf l t files)) here n d)
    (henums : s.emitEnums.truthy = true →
      t.placeOf d ∉ (enumPathsOf s l (notesOf l t (sourcesOf l t files))).map t.placeOf) (content : Text.Bytes) :
    r.store.tree.find? (t.placeOf d) = some (.file content) ↔ r'.store.tree.find? (t.placeOf d) = some (.file content) := by
  obtain ⟨r₁, q₁, hr₁, hq₁, htwins⟩ := hdropped.through_sources h hcwd hp hapart
  have hrelease := h.release_eq hr₁ hr
  have hrelease' := (hdropped.untroubled h hcwd).release_eq hq₁ hr'
  have hplace := htwins.alike.place d hd
  have henums' : s.emitEnums.truthy = true →
      t.placeOf d ∉ (enumPathsOf s l (notesOf l t' (sourcesOf l t' files))).map t'.placeOf := by
    intro henabled hin
    refine henums henabled ?_
    obtain ⟨e, he, hsame⟩ := List.mem_map.mp hin
    rw [hdropped.rewritten.placeOf] at hsame
    exact List.mem_map.mpr ⟨e, hdropped.enumPathsOf_subset h hcwd he, hsame⟩
  rw [file_iff_of_release htwins.left hrelease henums, file_iff_of_release htwins.right hrelease' henums', hplace]

/-- A run that nothing ends accounts for its sources and enumerations. It leaves the same schemas of other notes as without
one of its notes, unless the schema of that note gets in their way or an enumeration takes their place. -/
theorem compile_contains_bad_notes (h : Untroubled s l t files) (hcwd : l.cwd = t.home) (stamps : List String) :
    ∃ r, work s l files (Run.start "compile" s.emitEnums.truthy t stamps) = .ok () r ∧ Accounted s l t files r ∧
      ∀ p ∈ sourcesOf l t files, ∀ here n t', Dropped s l t p here n t' →
        Apart s l t stamps (notesOf l t (sourcesOf l t files)) here n →
        ∃ r', work s l files (Run.start "compile" s.emitEnums.truthy t' stamps) = .ok () r' ∧ Accounted s l t' files r' ∧
          ∀ d, Others s l t (notesOf l t (sourcesOf l t files)) here n d →
            (s.emitEnums.truthy = true →
              t.placeOf d ∉ (enumPathsOf s l (notesOf l t (sourcesOf l t files))).map t.placeOf) →
            ∀ content, r.store.tree.find? (t.placeOf d) = some (.file content) ↔
              r'.store.tree.find? (t.placeOf d) = some (.file content) := by
  obtain ⟨r, hr, haccounted⟩ := h.work_finishes stamps
  refine ⟨r, hr, haccounted, fun p hp here n t' hdropped hapart => ?_⟩
  obtain ⟨r', hr', haccounted'⟩ := (hdropped.untroubled h hcwd).work_finishes stamps
  exact ⟨r', hr', haccounted', fun d hd henums content => others_same h hcwd hp hdropped hapart hr hr' hd henums content⟩

/-- Two notes, and the same source without the first one. -/
def pairedNotes : String := "note of A\nSCHEMAHINTS\nend note\nnote of B\nSCHEMAHINTS\nend note\n"

def secondNote : String := "note of B\nSCHEMAHINTS\nend note\n"

def firstNote : Note := ⟨"A", "SCHEMAHINTS\n", 2⟩

theorem pairedNotes_contained : ∃ r,
    work exampleSettings exampleLayout [] (Run.start "compile" true (oneSource pairedNotes) ["1"]) = .ok () r ∧
    Accounted exampleSettings exampleLayout (oneSource pairedNotes) [] r ∧
    (r.store.tree.find? ["packages", "core", "schemas", "B.schema.json"]).isSome ∧
    ∀ content, r.store.tree.find? ["packages", "core", "schemas", "B.schema.json"] = some (.file content) ↔
      (exampleRun secondNote).store.tree.find? ["packages", "core", "schemas", "B.schema.json"] = some (.file content) := by
  have hpaired : Holds pairedNotes [firstNote, ⟨"B", "SCHEMAHINTS\n", 5⟩] := by decide
  have hsecond : Holds secondNote [⟨"B", "SCHEMAHINTS\n", 2⟩] := by decide
  have hsources := sourcesOf_oneSource pairedNotes
  have hnotes : notesOf exampleLayout (oneSource pairedNotes) [exampleSource] =
      [(⟨"core", []⟩, firstNote), (⟨"core", []⟩, ⟨"B", "SCHEMAHINTS\n", 5⟩)] := by
    rw [notesOf, List.flatMap_singleton, hpaired.notesAt]
    rfl
  have huntroubled : Untroubled exampleSettings exampleLayout (oneSource pairedNotes) [] := by
    refine ⟨sound_oneSource pairedNotes, fun _ => rfl, by simp, by simp, ?_⟩
    rw [hsources, hnotes]
    decide +kernel
  have hdropped : Dropped exampleSettings exampleLayout (oneSource pairedNotes) exampleSource ⟨"core", []⟩ firstNote
      (oneSource secondNote) := by
    have hreads : ReadsAs exampleSettings ⟨"B", "SCHEMAHINTS\n", 5⟩ ⟨"B", "SCHEMAHINTS\n", 2⟩ := by
      rfl
    exact ⟨exampleSource_location, ⟨Text.Utf8.encode secondNote, rfl⟩, pairedNotes, secondNote, hpaired.readText,
      hsecond.readText, [], [⟨"B", "SCHEMAHINTS\n", 5⟩], [], [⟨"B", "SCHEMAHINTS\n", 2⟩], hpaired.2, hsecond.2, .nil,
      .cons hreads .nil⟩
  have hfile : ((exampleRun secondNote).store.tree.find? ["packages", "core", "schemas", "B.schema.json"]).any
      Entry.isFile = true := by
    have hrun : (straightExample secondNote [⟨"B", "SCHEMAHINTS\n", 2⟩]).map (fun r =>
        (r.store.tree.find? ["packages", "core", "schemas", "B.schema.json"]).any Entry.isFile) = some true := by
      decide +kernel
    obtain ⟨r, hr, hfacts⟩ := Option.map_eq_some_iff.mp hrun
    rw [(hsecond.exampleRun (by simp) hr).2]
    exact hfacts
  obtain ⟨r, hr, haccounted, hrest⟩ := compile_contains_bad_notes huntroubled rfl ["1"]
  rw [hsources, hnotes] at hrest
  obtain ⟨r', hr', _, hsame⟩ :=
    hrest exampleSource (List.mem_singleton_self _) ⟨"core", []⟩ firstNote _ hdropped (by decide +kernel)
  have hlater : exampleRun secondNote = r' := congrArg Work.reached hr'
  have hlast (content : Text.Bytes) :
      r.store.tree.find? ["packages", "core", "schemas", "B.schema.json"] = some (.file content) ↔
        (exampleRun secondNote).store.tree.find? ["packages", "core", "schemas", "B.schema.json"] = some (.file content) := by
    rw [hlater]
    exact hsame ⟨.relative, ["packages", "core", "schemas", "B.schema.json"]⟩ ⟨by decide +kernel, by decide +kernel⟩
      (by decide +kernel) content
  refine ⟨r, hr, haccounted, ?_, hlast⟩
  cases he : (exampleRun secondNote).store.tree.find? ["packages", "core", "schemas", "B.schema.json"] with
  | none => simp [he] at hfile
  | some e =>
    cases e with
    | folder => simp [he, Entry.isFile] at hfile
    | file content =>
      rw [(hlast content).mpr he]
      rfl

/-- A class with a constant that cannot be written, and one that could be. -/
def brokenNote : String :=
  "note of A\nSCHEMAHINTS\nfield x:\n const:\n  k: v\nend note\nnote of B\nSCHEMAHINTS\nend note\n"

/-- The first class ends the run: nothing is reported, and the schema of the second one is not written. -/
theorem brokenNote_ends_run : Work.finished (work exampleSettings exampleLayout []
      (Run.start "compile" exampleSettings.emitEnums.truthy (oneSource brokenNote) ["1"])) = false ∧
    (exampleRun brokenNote).report.results.length = 0 ∧ (exampleRun brokenNote).store.written = [] := by
  have hnotes : Holds brokenNote [⟨"A", "SCHEMAHINTS\nfield x:\n const:\n  k: v\n", 2⟩, ⟨"B", "SCHEMAHINTS\n", 8⟩] := by
    decide
  rw [exampleRun, hnotes.work_eq (by simp)]
  decide +kernel

end Command.Compile

end NoteSchema
