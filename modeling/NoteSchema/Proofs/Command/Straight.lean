import NoteSchema.Proofs.Command.Destination
import NoteSchema.Proofs.File.Document

namespace NoteSchema

namespace Store

variable {s s' : Store} {p : FilePath} {d : Document}

/-- Writes a document that reads back, without reading it back. -/
def put (s : Store) (p : FilePath) (d : Document) : Option Store :=
  if Json.Whole d ∧ Json.Short d then
    match s.write Check.none p (Json.text d) with
    | (.ok (), s') => some s'
    | (.error _, _) => none
  else none

theorem writeDocument_of_put (h : s.put p d = some s') : s.writeDocument p d = (.ok (), s') := by
  unfold put at h
  split at h
  next hd =>
    rw [writeDocument, write_of_check (Check.json_text hd.1 hd.2)]
    split at h
    next _ hw =>
      cases h
      exact hw
    next => cases h
  next => cases h

theorem writeEnumerations_of_put {base : String} {todo : List (FilePath × Enumeration)}
    (h : todo.foldlM (fun s m => s.put m.1 (m.2.toDocument base)) s = some s') :
    s.writeEnumerations base todo = (.ok (todo.map fun m => (m.1, none)), s') := by
  induction todo generalizing s with
  | nil =>
    cases h
    rfl
  | cons m rest ih =>
    obtain ⟨s₁, hfirst, hrest⟩ := Option.bind_eq_some_iff.mp h
    have hgo : Writer.release writeDocument base s₁ rest = _ := ih hrest
    rw [writeEnumerations, Writer.release, writeDocument_of_put hfirst]
    simp only [hgo]
    rfl

end Store

namespace Command.Compile

open Hint (Block Note)
open Schema (Setup)

variable {s : Settings} {l : Layout} {p : FilePath} {here : Location} {n : Note} {r r' : Run}

/-- The turn of a note whose schema is written. -/
def straightNote (s : Settings) (l : Layout) (p : FilePath) (here : Location) (r : Run) (n : Note) : Option Run :=
  match Block.ofNote s.strictness n with
  | .error _ => none
  | .ok (block, found) =>
    match Schema.compile (Setup.ofSettings s l) here block with
    | .error _ => none
    | .ok c =>
      match c.schema.toDocument s.base s.dialect with
      | .error _ => none
      | .ok document =>
        if l.artifactPath c.schema.id ∈ r.store.written then none
        else (r.store.put (l.artifactPath c.schema.id) document).map fun store =>
          (Work.reached (request c.emissions { r with store })).add (classItem l p n found c)

theorem note_of_straight (h : straightNote s l p here r n = some r') : note s l p here n r = .ok () r' := by
  unfold straightNote at h
  split at h
  next => cases h
  next block found hread =>
    split at h
    next => cases h
    next c hcompile =>
      have hyields : Yields s l here n found c := ⟨block, hread, hcompile⟩
      split at h
      next => cases h
      next document hdocument =>
        split at h
        next => cases h
        next hnew =>
          obtain ⟨store, hput, rfl⟩ := Option.map_eq_some_iff.mp h
          rw [note_of_yields hyields, writeSchema_of_ok hnew hdocument (Store.writeDocument_of_put hput),
            request_eq c.emissions { r with store }]
          rfl

/-- The release of enumerations that are all written. -/
def straightRelease (s : Settings) (l : Layout) (r : Run) : Option Run :=
  if r.pending.flushed then none
  else
    ((todo r).foldlM (fun (store : Store) m => store.put m.1 (m.2.toDocument s.base)) r.store).map fun store =>
      { r with
        store
        pending := { r.pending with flushed := true }
        report := { r.report with results := r.report.results ++ (todo r).map fun m => releasedItem l (m.1, none) } }

theorem release_of_straight (h : straightRelease s l r = some r') : release s l r = .ok () r' := by
  unfold straightRelease at h
  split at h
  next => cases h
  next hopen =>
    obtain ⟨store, hput, rfl⟩ := Option.map_eq_some_iff.mp h
    rw [release_of_ok (Bool.eq_false_iff.mpr hopen) (Store.writeEnumerations_of_put hput), List.map_map]
    rfl

theorem forM_of_straight {notes : List Note} (h : notes.foldlM (straightNote s l p here) r = some r') :
    notes.forM (note s l p here) r = .ok () r' := by
  induction notes generalizing r with
  | nil =>
    cases h
    rfl
  | cons n notes ih =>
    obtain ⟨r₁, hfirst, hrest⟩ := Option.bind_eq_some_iff.mp h
    rw [Work.forM_cons_of_ok (note_of_straight hfirst), ih hrest]

/-- A run over one source goes through its notes and releases the enumerations. -/
theorem work_of_source {files : List String} {text : String} (hfiles : files = [] → l.barred? r.store.tree = none)
    (hsources : sourcesOf l r.store.tree files = [p]) (hplace : l.locationOf p = .ok here)
    (htext : r.store.tree.readText p = .ok text) (hsome : Note.extract text ≠ []) :
    work s l files r = ((Note.extract text).forM (note s l p here) >>= fun _ => release s l) r := by
  have hsource : source s l p r = (Note.extract text).forM (note s l p here) r := by
    have hturn := sourceTurn s l p r
    generalize source s l p r = result at hturn ⊢
    cases hturn with
    | misplaced hno => simp [hplace] at hno
    | unreadable _ hno => simp [htext] at hno
    | unmarked _ htext' hno =>
      rw [htext] at htext'
      cases htext'
      exact absurd hno hsome
    | read hplace' htext' =>
      rw [hplace] at hplace'
      cases hplace'
      rw [htext] at htext'
      cases htext'
      rfl
  have hone : [p].forM (source s l) r = (Note.extract text).forM (note s l p here) r := by
    rw [← hsource]
    cases hs : source s l p r with
    | ok _ r₁ => rw [Work.forM_cons_of_ok hs]; rfl
    | error e r₁ => exact Work.forM_cons_of_error hs
  rcases work_eq s l files r with ⟨refusal, _, hnone, hbarred⟩ | ⟨hwork, _⟩
  · simp [hfiles hnone] at hbarred
  · rw [hwork, hsources]
    simp only [bind, EStateM.bind, hone]

/-- A run over the notes of one source in which everything is written. -/
def straight (s : Settings) (l : Layout) (p : FilePath) (here : Location) (notes : List Note) (r : Run) : Option Run :=
  (notes.foldlM (straightNote s l p here) r).bind (straightRelease s l)

theorem run_of_straight {notes : List Note} (h : straight s l p here notes r = some r') :
    (notes.forM (note s l p here) >>= fun _ => release s l) r = .ok () r' := by
  obtain ⟨r₁, hnotes, hrelease⟩ := Option.bind_eq_some_iff.mp h
  rw [Work.bind_of_ok _ (forM_of_straight hnotes), release_of_straight hrelease]

/-- The run over the corpus with one source that holds some notes, if everything in it is written. -/
def straightExample (text : String) (notes : List Note) : Option Run :=
  straight exampleSettings exampleLayout exampleSource ⟨"core", []⟩ notes
    (Run.start "compile" exampleSettings.emitEnums.truthy (oneSource text) ["1"])

/-- The notes that a text of the examples holds. -/
def Holds (text : String) (notes : List Note) : Prop := '\r' ∉ text.toList ∧ Note.extract text = notes

instance (text : String) (notes : List Note) : Decidable (Holds text notes) :=
  inferInstanceAs (Decidable ('\r' ∉ text.toList ∧ Note.extract text = notes))

variable {text : String} {notes : List Note}

theorem exampleSource_location : exampleLayout.locationOf exampleSource = .ok ⟨"core", []⟩ := by decide

theorem Holds.readText (h : Holds text notes) : (oneSource text).readText exampleSource = .ok text :=
  FileTree.readText_of_encoded rfl h.1

theorem Holds.notesAt (h : Holds text notes) :
    notesAt exampleLayout (oneSource text) exampleSource = notes.map (⟨"core", []⟩, ·) := by
  simp only [Compile.notesAt, exampleSource_location, h.readText, h.2]

theorem Holds.notesRead (h : Holds text notes) (stamps : List String) :
    notesRead exampleSettings exampleLayout (sourcesOf exampleLayout (oneSource text) [])
      (Run.start "compile" exampleSettings.emitEnums.truthy (oneSource text) stamps) = notes.map (⟨"core", []⟩, ·) := by
  rw [sourcesOf_oneSource, notesRead_single]
  exact h.notesAt

theorem Holds.work_eq (h : Holds text notes) (hsome : notes ≠ []) :
    work s exampleLayout [] (Run.start "compile" s.emitEnums.truthy (oneSource text) ["1"]) =
      (notes.forM (note s exampleLayout exampleSource ⟨"core", []⟩) >>= fun _ => release s exampleLayout)
        (Run.start "compile" s.emitEnums.truthy (oneSource text) ["1"]) := by
  rw [work_of_source (fun _ => rfl) (sourcesOf_oneSource text) exampleSource_location h.readText (h.2 ▸ hsome), h.2]

theorem Holds.exampleRun (h : Holds text notes) (hsome : notes ≠ []) (hrun : straightExample text notes = some r) :
    work exampleSettings exampleLayout [] (Run.start "compile" exampleSettings.emitEnums.truthy (oneSource text) ["1"]) =
      .ok () r ∧ exampleRun text = r := by
  have hwork := (h.work_eq hsome).trans (run_of_straight hrun)
  exact ⟨hwork, congrArg Work.reached hwork⟩

end Command.Compile

end NoteSchema
