import NoteSchema.Proofs.Command.Filed
import NoteSchema.Proofs.Command.Rerun
import NoteSchema.Proofs.Corpus.Loaded
import NoteSchema.Proofs.Schema.Metadata

namespace NoteSchema

/-- If no folder is named as a document, none of what is listed is a folder. -/
theorem Layout.not_isFolder_of_listed {l : Layout} {t : FileTree} {p : FilePath} (ht : t.Sound)
    (h : ∀ entry ∈ t.entries, entry.2 = .folder → ∀ name ∈ entry.1, Text.endsWith ".json" name = false)
    (hp : p ∈ l.schemas t ++ l.enumerations t) : t.isFolder p = false := by
  obtain ⟨folder, keep, hlisted, hends⟩ := listing_of_mem hp
  obtain ⟨segment, front, name, e, e', rfl, hkeep, _, hlocate⟩ := locate_of_mem_listing ht hlisted
  cases e' with
  | file bytes => rw [FileTree.isFolder, hlocate]
  | folder =>
    have hentry := FileTree.mem_of_find? (by simp [listedNames]) (ht.find?_of_locate hlocate).2
    have hno := h _ hentry rfl name (by simp [listedNames])
    rw [hends name e hkeep] at hno
    cases hno

/-- A folder in the place of a document is listed. -/
theorem Layout.mem_listing_of_isFolder {l : Layout} {t : FileTree} {folder : String} {keep : String → Entry → Bool}
    (segment : String) (front : List String) (name : String) (ht : t.Sound) (hup : ".." ∉ listedNames segment folder front name)
    (hkeep : keep name .folder = true)
    (h : t.isFolder (l.root ++ ⟨.relative, listedNames segment folder front name⟩) = true) :
    l.root ++ ⟨.relative, listedNames segment folder front name⟩ ∈ l.listing t folder keep := by
  unfold FileTree.isFolder at h
  split at h
  next place hlocate =>
    obtain ⟨hplace, hfound⟩ := ht.find?_of_locate hlocate
    exact mem_listing_of_locate hlocate hfound (hplace.trans (FileTree.placeOf_below l.root hup)) hkeep
  next => cases h

namespace Command.Compile

open Hint (Block Note)
open Store (Journal)

variable {s : Settings} {l : Layout} {t : FileTree} {stamps files : List String} {r : Run} {ps : List FilePath}
  {m : Location × Note}

/-- The notes that a run reads are notes of its sources. -/
theorem exists_source_of_mem (h : m ∈ notesRead s l ps r) : ∃ p ∈ ps, ∃ t, m ∈ notesAt l t p := by
  induction ps generalizing r with
  | nil => cases h
  | cons p ps ih =>
    rcases List.mem_append.mp h with h | h
    · exact ⟨p, List.mem_cons_self, _, h⟩
    · split at h
      next =>
        obtain ⟨p', hp', hnotes⟩ := ih h
        exact ⟨p', List.mem_cons_of_mem _ hp', hnotes⟩
      next => cases h

theorem sound_of_work (ht : t.Sound) (hrun : work s l files (Run.start "compile" s.emitEnums.truthy t stamps) = .ok () r) :
    r.store.tree.Sound := by
  have hkept := keepsTo_work files (fun m _ => aims_document s l m)
    (keepsTo_start IsDocument s.emitEnums.truthy t stamps)
  rw [hrun] at hkept
  exact (hkept.store.grows ht).1

/-- What a run that goes through has written is read back, if there was no document below the root before. There is one
document for each path that was written, under the address that its class or enumeration has, and it is what was written
there last. A reference that is the identifier of something that was written leads to it, if there is no mark in it at which
a fragment would start. And there are no failures, if no folder is listed as a document. -/
theorem compiled_reloads (ht : t.Sound) (hnamed : t.Named) (hl : s.layout t.home = .ok l) (hdialect : s.dialect.Distinct)
    (hempty : t.Lacks l.root ".json")
    (hnotes : ∀ m ∈ notesRead s l (sourcesOf l t files) (Run.start "compile" s.emitEnums.truthy t stamps),
      ∀ b ∈ blockOf? s m.2, Retrievable s l m.1 b)
    (hrun : work s l files (Run.start "compile" s.emitEnums.truthy t stamps) = .ok () r) :
    ∃ stored : List Stored, Journal { tree := t, stamps } r.store (stored.map Stored.entry) ∧
      (∀ o ∈ stored, Addressed s l
        (notesRead s l (sourcesOf l t files) (Run.start "compile" s.emitEnums.truthy t stamps)) r.pending.entries o) ∧
      Corpus.Reloads s.base l r.store.tree stored := by
  obtain ⟨r₁, hsources, hrelease⟩ := work_eq_ok hrun
  have hall : Sourced s l
      (notesRead s l (sourcesOf l t files) (Run.start "compile" s.emitEnums.truthy t stamps)) := by
    intro m hm
    obtain ⟨p, hp, _, hat⟩ := exists_source_of_mem hm
    obtain ⟨text, hplace, _, hextract⟩ := mem_notesAt hat
    exact ⟨straight_of_mem_sourcesOf ht hnamed hl hp hplace, Note.owner_ne_of_mem_scan hextract, hnotes m hm⟩
  obtain ⟨filed, hfiled⟩ := Filed.sources hdialect hall (fun _ hm => hm) (Filed.start ht _ stamps) hsources
  obtain ⟨stored, hjournal, hreadable, haddressed⟩ := hfiled.release hrelease
  exact ⟨stored, hjournal, haddressed, Corpus.reloads_of_journal hjournal hreadable hempty⟩

/-- A class with an enumeration, and one that refers to it. -/
def relatedNotes : String :=
  "note of A\nSCHEMAHINTS\nfield k:\n enumDefine:\n  enumId: /core/lib/K\n  enum: [x, y]\nend note\n" ++
    "note of B\nSCHEMAHINTS\nfield a:\n ref: A\n minItems: 1\nend note\n"

def relatedNotesRead : List Note :=
  [⟨"A", "SCHEMAHINTS\nfield k:\n enumDefine:\n  enumId: /core/lib/K\n  enum: [x, y]\n", 2⟩,
    ⟨"B", "SCHEMAHINTS\nfield a:\n ref: A\n minItems: 1\n", 9⟩]

theorem holds_relatedNotes : Holds relatedNotes relatedNotesRead := by decide +kernel

theorem named_oneSource (text : String) : (oneSource text).Named := by
  intro entry hentry
  simp only [oneSource, List.mem_cons, List.not_mem_nil, or_false] at hentry
  rcases hentry with rfl | rfl | rfl | rfl
  all_goals
    dsimp only
    decide

theorem lacks_oneSource (text : String) : (oneSource text).Lacks exampleLayout.root ".json" := by
  intro names name bytes hfound
  have hentry := FileTree.mem_of_find? (by simp) hfound
  simp only [oneSource, List.mem_cons, Prod.mk.injEq, reduceCtorEq, and_false, List.not_mem_nil, or_false, false_or] at hentry
  have hlast := congrArg List.getLast? hentry.1
  rw [← List.append_assoc, List.getLast?_concat] at hlast
  obtain rfl : name = "A.puml" := Option.some.inj hlast
  decide

theorem relatedNotes_reload : ∃ r,
    work exampleSettings exampleLayout []
      (Run.start "compile" exampleSettings.emitEnums.truthy (oneSource relatedNotes) ["1"]) = .ok () r ∧
    r.store.written = [⟨.relative, ["packages", "core", "schemas", "A.schema.json"]⟩,
      ⟨.relative, ["packages", "core", "schemas", "B.schema.json"]⟩,
      ⟨.relative, ["packages", "core", "enums", "lib", "K.json"]⟩] ∧
    ∃ stored : List Stored, Journal { tree := oneSource relatedNotes, stamps := ["1"] } r.store (stored.map Stored.entry) ∧
      (∀ o ∈ stored, Addressed exampleSettings exampleLayout (relatedNotesRead.map (⟨"core", []⟩, ·)) r.pending.entries o) ∧
      Corpus.Reloads "http://a/" exampleLayout r.store.tree stored ∧
      (Corpus.load "http://a/" exampleLayout r.store.tree).failures = [] := by
  have hrun : (straightExample relatedNotes relatedNotesRead).map (fun r =>
      (r.store.written, decide (∀ entry ∈ r.store.tree.entries, entry.2 = .folder →
        ∀ name ∈ entry.1, Text.endsWith ".json" name = false))) =
      some ([⟨.relative, ["packages", "core", "schemas", "A.schema.json"]⟩,
        ⟨.relative, ["packages", "core", "schemas", "B.schema.json"]⟩,
        ⟨.relative, ["packages", "core", "enums", "lib", "K.json"]⟩], true) := by decide +kernel
  obtain ⟨r, hr, hfacts⟩ := Option.map_eq_some_iff.mp hrun
  obtain ⟨hwritten, hplain⟩ := Prod.mk.inj hfacts
  obtain ⟨hwork, hreached⟩ := holds_relatedNotes.exampleRun (by simp [relatedNotesRead]) hr
  have hnotes := holds_relatedNotes.notesRead ["1"]
  have hsound := sound_oneSource relatedNotes
  obtain ⟨stored, hjournal, haddressed, hreloads⟩ := compiled_reloads hsound (named_oneSource relatedNotes)
    (s := exampleSettings) (l := exampleLayout) rfl (.str _) (lacks_oneSource relatedNotes) (by rw [hnotes]; decide +kernel) hwork
  rw [hnotes] at haddressed
  have hfailures := hreloads.failures
    (fun p => Layout.not_isFolder_of_listed (sound_of_work hsound hwork) (of_decide_eq_true hplain))
  exact ⟨r, hwork, hwritten, stored, hjournal, haddressed, hreloads, hfailures⟩

/-- A class with an enumeration in a folder that is named as a document. -/
def boxedNote : String := "note of A\nSCHEMAHINTS\nfield k:\n enumDefine:\n  enumId: /core/x.json/K\nend note\n"

def boxedNoteRead : List Note := [⟨"A", "SCHEMAHINTS\nfield k:\n enumDefine:\n  enumId: /core/x.json/K\n", 2⟩]

def box : FilePath := ⟨.relative, ["packages", "core", "enums", "x.json"]⟩

/-- The settings of the examples with the mark of a fragment in the base. -/
def markedSettings : Settings := { exampleSettings with base := "http://a/#/" }

/-- A folder that is named as a document is listed and cannot be read; and under a base with the mark of a fragment in it a
reference to what was written is lost. -/
theorem boxed_or_marked_lost :
    (∃ r, work exampleSettings exampleLayout []
        (Run.start "compile" exampleSettings.emitEnums.truthy (oneSource boxedNote) ["1"]) = .ok () r ∧
      (∀ n ∈ boxedNoteRead, ∀ b ∈ blockOf? exampleSettings n, Retrievable exampleSettings exampleLayout ⟨"core", []⟩ b) ∧
      r.store.written = [⟨.relative, ["packages", "core", "schemas", "A.schema.json"]⟩,
        ⟨.relative, ["packages", "core", "enums", "x.json", "K.json"]⟩] ∧
      ∃ reason, (box, reason) ∈ (Corpus.load exampleSettings.base exampleLayout r.store.tree).failures) ∧
    ∃ r, work markedSettings exampleLayout []
        (Run.start "compile" markedSettings.emitEnums.truthy (oneSource relatedNotes) ["1"]) = .ok () r ∧
      (∀ n ∈ relatedNotesRead, ∀ b ∈ blockOf? markedSettings n, Retrievable markedSettings exampleLayout ⟨"core", []⟩ b) ∧
      ⟨.relative, ["packages", "core", "schemas", "A.schema.json"]⟩ ∈ r.store.written ∧
      (∃ n ∈ relatedNotesRead, ∃ found c d, Yields markedSettings exampleLayout ⟨"core", []⟩ n found c ∧
        c.schema.toDocument markedSettings.base markedSettings.dialect = .ok d ∧
          (⟨"core", [], "A", .schema⟩ : ArtifactId).identifier markedSettings.base ∈ Corpus.refsIn d) ∧
      ∀ here, (Corpus.load markedSettings.base exampleLayout r.store.tree).resolve here
        ((⟨"core", [], "A", .schema⟩ : ArtifactId).identifier markedSettings.base) = none := by
  constructor
  · have hnotes : Holds boxedNote boxedNoteRead := by decide
    have hrun : (straightExample boxedNote boxedNoteRead).map (fun r => (r.store.written, r.store.tree.isFolder box)) =
        some ([⟨.relative, ["packages", "core", "schemas", "A.schema.json"]⟩,
          ⟨.relative, ["packages", "core", "enums", "x.json", "K.json"]⟩], true) := by decide +kernel
    obtain ⟨r, hr, hfacts⟩ := Option.map_eq_some_iff.mp hrun
    obtain ⟨hwritten, hfolder⟩ := Prod.mk.inj hfacts
    have hwork := (hnotes.exampleRun (by simp [boxedNoteRead]) hr).1
    have hlisted : box ∈ exampleLayout.enumerations r.store.tree :=
      Layout.mem_listing_of_isFolder "core" [] "x.json"
        (sound_of_work (sound_oneSource boxedNote) hwork) (by decide) (by decide) hfolder
    exact ⟨r, hwork, by decide +kernel, hwritten,
      Corpus.failure_of_folder (List.mem_append_right _ hlisted) hfolder⟩
  · let n : Note := ⟨"B", "SCHEMAHINTS\nfield a:\n ref: A\n minItems: 1\n", 9⟩
    have hrun : (straight markedSettings exampleLayout exampleSource ⟨"core", []⟩ relatedNotesRead
        (Run.start "compile" markedSettings.emitEnums.truthy (oneSource relatedNotes) ["1"])).map (fun r =>
          decide (⟨.relative, ["packages", "core", "schemas", "A.schema.json"]⟩ ∈ r.store.written)) = some true := by
      decide +kernel
    have hcompiled : ((Block.ofNote markedSettings.strictness n).toOption.bind fun read =>
        (Schema.compile (.ofSettings markedSettings exampleLayout) ⟨"core", []⟩ read.1).toOption.bind fun c =>
          (c.schema.toDocument markedSettings.base markedSettings.dialect).toOption.map Corpus.refsIn) =
        some [(⟨"core", [], "A", .schema⟩ : ArtifactId).identifier markedSettings.base] := by decide +kernel
    obtain ⟨r, hr, hwritten⟩ := Option.map_eq_some_iff.mp hrun
    obtain ⟨⟨b, found⟩, hread, hcompiled⟩ := Option.bind_eq_some_iff.mp hcompiled
    obtain ⟨c, hc, hcompiled⟩ := Option.bind_eq_some_iff.mp hcompiled
    obtain ⟨d, hd, hrefs⟩ := Option.map_eq_some_iff.mp hcompiled
    have hyields : Yields markedSettings exampleLayout ⟨"core", []⟩ n found c :=
      ⟨b, Schema.eq_ok_of_toOption hread, Schema.eq_ok_of_toOption hc⟩
    exact ⟨r, (holds_relatedNotes.work_eq (by simp [relatedNotesRead])).trans (run_of_straight hr), by decide +kernel,
      of_decide_eq_true hwritten,
      ⟨n, by simp [relatedNotesRead, n], found, c, d, hyields, Schema.eq_ok_of_toOption hd, by simp [hrefs]⟩,
      fun here => Corpus.resolve_eq_none_of_mark (by decide) (by decide) here⟩

end Command.Compile

end NoteSchema
