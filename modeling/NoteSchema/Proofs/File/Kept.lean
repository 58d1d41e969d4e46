import NoteSchema.Proofs.File.Store
import NoteSchema.Corpus.Load

namespace NoteSchema.FileTree

variable {t t' : FileTree} {p : FilePath} {place q : Place} {names : List String} {content content' : Text.Bytes}

/-- A way that leads to a file leads through folders that are there. -/
theorem stands_of_follow_file (h : t.follow place .folder names = .ok (q, .file content)) :
    ∃ front name, names = front ++ [name] ∧ t.Stands place front ∧ name ≠ ".." ∧ fits name = true ∧
      q = endOf place front ++ [name] ∧ t.find? q = some (.file content) := by
  cases names using List.reverseRecOn with
  | nil => cases h
  | append_singleton front name =>
    rw [follow_append] at h
    cases hf : t.follow place .folder front with
    | error c =>
      rw [hf] at h
      cases h
    | ok found =>
      obtain ⟨at', e⟩ := found
      rw [hf] at h
      change t.follow at' e [name] = _ at h
      cases e with
      | file content =>
        rw [follow_file content (List.cons_ne_nil name [])] at h
        cases h
      | folder =>
        obtain ⟨hs, rfl⟩ := stands_of_follow hf
        refine ⟨front, name, rfl, hs, ?_⟩
        by_cases hup : name = ".."
        · subst hup
          simp [follow, Entry.isFile] at h
        · cases hfits : fits name with
          | false => simp [follow, Entry.isFile, hup, hfits] at h
          | true =>
            cases hfound : t.find? (endOf place front ++ [name]) with
            | none => simp [follow, Entry.isFile, hup, hfits, hfound] at h
            | some e =>
              simp only [follow, Entry.isFile, hup, hfits, hfound] at h
              simp at h
              obtain ⟨rfl, rfl⟩ := h
              exact ⟨hup, rfl, rfl, hfound⟩

theorem placeOf_of_locate (h : t.locate p = .ok (q, .file content)) :
    q = t.placeOf p ∧ t.find? q = some (.file content) := by
  obtain ⟨front, name, hnames, _, hup, _, rfl, hfound⟩ := stands_of_follow_file h
  refine ⟨?_, hfound⟩
  rw [placeOf, hnames, endOf_concat, onward_name hup]
  rfl

/-- A path to a file still leads to its place where folders have been kept and a file is in that place. -/
theorem locate_of_kept (h : t.locate p = .ok (q, .file content)) (hhome : t'.home = t.home)
    (hfolders : ∀ q, t.find? q = some .folder → t'.find? q = some .folder) (hfile : t'.find? q = some (.file content')) :
    t'.locate p = .ok (q, .file content') := by
  obtain ⟨front, name, hnames, hs, hup, hfits, rfl, _⟩ := stands_of_follow_file h
  have horigin : t'.start p = t.start p := by rw [start_eq, start_eq, origin, origin, hhome]
  rw [start_eq] at hfile hs ⊢
  rw [locate, horigin, hnames, follow_append, start_eq, follow_of_stands (hs.mono hfolders)]
  simp [Except.bind, follow, Entry.isFile, hup, hfits, hfile]

/-- What stands at the end of a path is still found there where folders have been kept and it is kept itself. -/
theorem locate_of_stays {e : Entry} (h : t.locate p = .ok (q, e)) (hhome : t'.home = t.home)
    (hfolders : ∀ q, t.find? q = some .folder → t'.find? q = some .folder)
    (hfile : ∀ content, t.find? q = some (.file content) → t'.find? q = some (.file content)) :
    t'.locate p = .ok (q, e) := by
  cases e with
  | file content => exact locate_of_kept h hhome hfolders (hfile content (placeOf_of_locate h).2)
  | folder =>
    obtain ⟨hs, rfl⟩ := stands_of_follow h
    have horigin : t'.origin p.anchor = t.origin p.anchor := by rw [origin, origin, hhome]
    have hs' : t'.Stands (t'.origin p.anchor) p.names := by
      rw [horigin]
      exact hs.mono hfolders
    rw [locate_of_stands hs', placeOf, horigin]
    rfl

theorem readText_of_stays {e : Entry} (h : t.locate p = .ok (q, e)) (hhome : t'.home = t.home)
    (hfolders : ∀ q, t.find? q = some .folder → t'.find? q = some .folder)
    (hfile : ∀ content, t.find? q = some (.file content) → t'.find? q = some (.file content)) :
    t'.readText p = t.readText p := by
  rw [readText, readText, read, read, h, locate_of_stays h hhome hfolders hfile]

theorem Sound.find?_of_locate (h : t.Sound) {e : Entry} (hl : t.locate p = .ok (q, e)) :
    q = t.placeOf p ∧ t.find? q = some e := by
  cases e with
  | file content => exact placeOf_of_locate hl
  | folder =>
    obtain ⟨hs, rfl⟩ := stands_of_follow hl
    exact ⟨rfl, ((h.origin p.anchor).endOf hs).find?⟩

theorem readText_congr {p' : FilePath} (h : t.locate p = .ok (q, .file content)) (h' : t.locate p' = .ok (q, .file content)) :
    t.readText p' = t.readText p := by
  rw [readText, readText, read, read, h, h']

theorem Sound.follow_below (h : t.Sound) {e : Entry} (hplace : t.find? place = some .folder)
    (he : t.find? (place ++ names) = some e) : t.follow place .folder names = .ok (place ++ names, e) := by
  induction names using List.reverseRecOn generalizing e with
  | nil =>
    rw [List.append_nil] at he ⊢
    rw [hplace] at he
    cases he
    rfl
  | append_singleton front name ih =>
    rw [← List.append_assoc] at he ⊢
    obtain ⟨hup, hfits, hname⟩ := h.above he
    rw [follow_append, ih hup]
    simp only [Except.bind, follow, Entry.isFile, hname, hfits, he]
    rfl

end NoteSchema.FileTree
