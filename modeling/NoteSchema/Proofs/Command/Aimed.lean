import NoteSchema.Proofs.Command.Destination
import NoteSchema.Proofs.File.Growth
import NoteSchema.Proofs.File.Path

namespace NoteSchema.Command.Compile

open Hint (Note)
open Schema (Compiled)

variable {P : FilePath → Prop} {s : Settings} {l : Layout} {here : Location} {n : Note} {m : Location × Note}
  {t : FileTree} {p : FilePath} {ps : List FilePath} {r : Run} {start : Store}

/-- All that a note asks to be written goes to paths of a kind. -/
structure Aims (P : FilePath → Prop) (s : Settings) (l : Layout) (m : Location × Note) : Prop where
  schema : ∀ d ∈ schemaPath? s l m.1 m.2, P d
  enums : ∀ d ∈ enumPaths s l m.1 m.2, P d

/-- A note asks for the schema of its block, and for the enumerations of it that are placed. -/
theorem Aims.of_block (hschema : ∀ b ∈ blockOf? s m.2, P (l.artifactPath (Schema.idOf m.1 b)))
    (henums : ∀ b ∈ blockOf? s m.2, ∀ placed ∈ placedIn s l m.1 b, P placed.destination) : Aims P s l m where
  schema d hd := by
    obtain ⟨b, hb, rfl⟩ := Option.map_eq_some_iff.mp hd
    exact hschema b hb
  enums d hd := by
    unfold enumPaths at hd
    cases hb : blockOf? s m.2 with
    | none => simp [hb] at hd
    | some b =>
      rw [hb] at hd
      obtain ⟨placed, hplaced, rfl⟩ := List.mem_map.mp hd
      exact henums b hb placed hplaced

/-- A run has only written to paths of a kind so far, and will not write elsewhere. -/
structure KeepsTo (P : FilePath → Prop) (start : Store) (r : Run) : Prop where
  store : start.Writes P r.store
  pending : ∀ d ∈ r.pending.entries.map (·.1), P d

theorem KeepsTo.anew (h : KeepsTo P start r) : KeepsTo P r.store r := ⟨.refl _, h.pending⟩

theorem mem_notesAt (h : m ∈ notesAt l t p) :
    ∃ text, l.locationOf p = .ok m.1 ∧ t.readText p = .ok text ∧ m.2 ∈ Note.extract text := by
  unfold notesAt at h
  split at h
  next here text hplace htext =>
    obtain ⟨n, hn, rfl⟩ := List.mem_map.mp h
    exact ⟨text, hplace, htext, hn⟩
  next => cases h

/-- The notes that a run reads have the locations of its sources. -/
theorem exists_location_of_mem (h : m ∈ notesRead s l ps r) : ∃ p ∈ ps, l.locationOf p = .ok m.1 := by
  induction ps generalizing r with
  | nil => cases h
  | cons p ps ih =>
    rcases List.mem_append.mp h with h | h
    · obtain ⟨_, hplace, _⟩ := mem_notesAt h
      exact ⟨p, List.mem_cons_self, hplace⟩
    · split at h
      next =>
        obtain ⟨p', hp', hplace⟩ := ih h
        exact ⟨p', List.mem_cons_of_mem _ hp', hplace⟩
      next => cases h

/-- What each note keeps that goes through, a source that goes through keeps. -/
theorem source_keeps {P : Run → Prop} {r' : Run} (hadd : ∀ r i, P r → P (r.add i))
    (hnote : ∀ m ∈ notesAt l r.store.tree p, ∀ r₁ r₂, P r₁ → note s l p m.1 m.2 r₁ = .ok () r₂ → P r₂) (h : P r)
    (hok : source s l p r = .ok () r') : P r' := by
  have hturn := sourceTurn s l p r
  generalize source s l p r = result at hturn hok
  cases hturn with
  | misplaced | unreadable | unmarked =>
    cases hok
    exact hadd _ _ h
  | @read here text hplace htext _ =>
    have hnotes : notesAt l r.store.tree p = (Note.extract text).map (here, ·) := by simp [notesAt, hplace, htext]
    rw [hnotes] at hnote
    exact Work.forM_keeps (fun n hn => hnote (here, n) (List.mem_map_of_mem hn)) h hok

theorem sources_keep {P : Run → Prop} {r' : Run} (hadd : ∀ r i, P r → P (r.add i))
    (hnote : ∀ m ∈ notesRead s l ps r, ∀ p r₁ r₂, P r₁ → note s l p m.1 m.2 r₁ = .ok () r₂ → P r₂) (h : P r)
    (hok : ps.forM (source s l) r = .ok () r') : P r' := by
  induction ps generalizing r with
  | nil =>
    cases hok
    exact h
  | cons p ps ih =>
    cases hs : source s l p r with
    | ok _ r₁ =>
      rw [Work.forM_cons_of_ok hs] at hok
      rw [notesRead, hs] at hnote
      have hfirst := source_keeps hadd (fun m hm => hnote m (List.mem_append_left _ hm) p) h hs
      exact ih (fun m hm => hnote m (List.mem_append_right _ hm)) hfirst hok
    | error e r₁ =>
      rw [Work.forM_cons_of_error hs] at hok
      cases hok

theorem keepsTo_note (ha : Aims P s l (here, n)) (h : KeepsTo P start r) :
    KeepsTo P start (Work.reached (note s l p here n r)) := by
  have hwrite {found : List Diagnostic} {c : Compiled} (hy : Yields s l here n found c) (d : Document) :
      start.Writes P (r.store.writeDocument (l.artifactPath c.schema.id) d).2 :=
    h.store.step Check.json (ha.schema _ hy.schemaPath) (Json.text d)
  have hturn := noteTurn s l p here n r
  generalize note s l p here n r = result at hturn ⊢
  cases hturn with
  | unmarked => exact ⟨h.store, h.pending⟩
  | unreadable => exact h
  | uncompiled => exact h
  | repeated => exact ⟨h.store, h.pending⟩
  | unwritable => exact h
  | @wrote _ _ document _ _ hy _ _ hstore hpending =>
    have hwritten := hwrite hy document
    rw [hstore] at hwritten
    refine ⟨hwritten, fun d hd => ?_⟩
    rcases (takes_of_request hpending).keys d hd with hd | ⟨e, he, rfl⟩
    · exact h.pending d hd
    · exact ha.enums _ (hy.enumPaths he)
  | @refused _ _ document _ _ hy _ _ hstore =>
    have hwritten := hwrite hy document
    rw [hstore] at hwritten
    exact ⟨hwritten, h.pending⟩
  | @broken _ _ document _ _ hy _ hstore _ =>
    have hwritten := hwrite hy document
    rw [hstore] at hwritten
    exact ⟨hwritten, h.pending⟩

theorem keepsTo_source (ha : ∀ m ∈ notesAt l r.store.tree p, Aims P s l m) (h : KeepsTo P start r) :
    KeepsTo P start (Work.reached (source s l p r)) := by
  have hturn := sourceTurn s l p r
  generalize source s l p r = result at hturn ⊢
  cases hturn with
  | misplaced => exact ⟨h.store, h.pending⟩
  | unreadable => exact ⟨h.store, h.pending⟩
  | unmarked => exact ⟨h.store, h.pending⟩
  | @read here text hplace htext _ =>
    have hnotes : notesAt l r.store.tree p = (Note.extract text).map (here, ·) := by simp [notesAt, hplace, htext]
    refine Work.reached_forM (fun n hn r' hr' => ?_) h
    refine keepsTo_note (ha (here, n) ?_) hr'
    rw [hnotes]
    exact List.mem_map_of_mem hn

theorem keepsTo_sources (ha : ∀ m ∈ notesRead s l ps r, Aims P s l m) (h : KeepsTo P start r) :
    KeepsTo P start (Work.reached (ps.forM (source s l) r)) := by
  induction ps generalizing r with
  | nil => exact h
  | cons p ps ih =>
    have hp := keepsTo_source (fun m hm => ha m (List.mem_append_left _ hm)) h
    cases hs : source s l p r with
    | ok _ r' =>
      rw [hs] at hp
      rw [Work.forM_cons_of_ok hs]
      refine ih (fun m hm => ha m (List.mem_append_right _ ?_)) hp
      simpa [hs] using hm
    | error e r' =>
      rw [hs] at hp
      rw [Work.forM_cons_of_error hs]
      exact hp

theorem keepsTo_release (h : KeepsTo P start r) : KeepsTo P start (Work.reached (release s l r)) := by
  have htodo : ∀ m ∈ todo r, P m.1 := fun m hm => h.pending m.1 (List.mem_map_of_mem (mem_todo hm))
  have hstore := h.store.enumerations s.base htodo
  have hturn := releaseTurn s l r
  generalize release s l r = result at hturn ⊢
  cases hturn with
  | closed => exact h
  | released _ hreleased =>
    rw [hreleased] at hstore
    exact ⟨hstore, h.pending⟩
  | broken _ hbroken =>
    rw [hbroken] at hstore
    exact ⟨hstore, h.pending⟩

/-- A path whose last component has the suffix of documents. -/
def IsDocument (p : FilePath) : Prop := ∃ front start, p.names = front ++ [start ++ ".json"]

theorem isDocument_artifactPath (l : Layout) (c : ArtifactId) : IsDocument (l.artifactPath c) := by
  obtain ⟨front, start, hnames⟩ := FilePath.append_ofStrings ("." ++ c.kind.suffix) (by cases c.kind <;> decide)
    (by cases c.kind <;> decide) l.root (c.segment :: c.kind.folder :: c.subpath) c.name
  have hpath : (l.artifactPath c).names = front ++ [start ++ ("." ++ c.kind.suffix)] := by
    rw [← hnames, ← String.append_assoc]
    rfl
  cases hkind : c.kind with
  | schema => exact ⟨front, start ++ ".schema", by rw [hpath, hkind, String.append_assoc]; rfl⟩
  | enumeration => exact ⟨front, start, by rw [hpath, hkind]; rfl⟩

/-- All that is written for a note is named as a document. -/
theorem aims_document (s : Settings) (l : Layout) (m : Location × Note) : Aims IsDocument s l m := by
  refine .of_block (fun b _ => isDocument_artifactPath l _) fun b _ placed hplaced => ?_
  rw [(placed_of_mem hplaced).1, Schema.destination]
  cases htarget : (Schema.given? placed.definition.targetPath).bind (Schema.Setup.ofSettings s l).layout.enumTarget? with
  | none => exact isDocument_artifactPath l _
  | some path =>
    obtain ⟨target, _, hpath⟩ := Option.bind_eq_some_iff.mp htarget
    obtain ⟨name, _, rfl⟩ := Option.map_eq_some_iff.mp hpath
    exact FilePath.append_ofStrings ".json" (by decide) (by decide) _ _ name

end NoteSchema.Command.Compile
