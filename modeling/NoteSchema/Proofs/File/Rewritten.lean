import NoteSchema.Corpus.Load
import NoteSchema.Proofs.File.Kept

namespace NoteSchema

namespace FileTree

variable {t t' : FileTree} {p p' : FilePath} {place q : Place} {names : List String} {e e' : Entry} {content : Text.Bytes}

/-- An entry by its place and its kind. -/
def kind (entry : Place × Entry) : Place × Bool := (entry.1, entry.2.isFile)

/-- What stands at a place below a root, by its names and its kind. -/
def kindBelow (root : Place) (entry : Place × Bool) : Option (Place × Bool) :=
  (FilePath.below? root entry.1).bind fun names => if names = [] then none else some (names, entry.2)

/-- What lies below a folder is known, but for the content of files, from the places of a tree and their kinds. -/
theorem map_kind_below_eq (h : t.locate p = .ok (q, .folder)) :
    (t.below p).map kind = (t.entries.map kind).filterMap (kindBelow q) := by
  simp only [below, h]
  rw [List.map_filterMap, List.filterMap_map]
  congr 1
  funext entry
  simp only [Function.comp, kind, kindBelow]
  cases FilePath.below? q entry.1 with
  | none => rfl
  | some names => cases names <;> rfl

/-- Two trees that differ in the content of one file and in nothing else. -/
structure Rewritten (t t' : FileTree) (place : Place) : Prop where
  home : t'.home = t.home
  kinds : t'.entries.map kind = t.entries.map kind
  find? : ∀ q, q ≠ place → t'.find? q = t.find? q
  file : ∃ content content', t.find? place = some (.file content) ∧ t'.find? place = some (.file content')

theorem map_kind_put {entries : List (Place × Entry)} (h : lookup place entries = some e') (hkind : e.isFile = e'.isFile) :
    (put place e entries).map kind = entries.map kind := by
  induction entries with
  | nil => cases h
  | cons entry rest ih =>
    obtain ⟨p, old⟩ := entry
    rw [lookup] at h
    rw [put]
    split at h
    next hp =>
      cases h
      rw [if_pos hp, List.map_cons, List.map_cons, kind, kind, hkind]
    next hp => rw [if_neg hp, List.map_cons, List.map_cons, ih h]

theorem rewritten_set (h : t.find? place = some (.file content)) (content' : Text.Bytes) :
    t.Rewritten (t.set place (.file content')) place := by
  have hne : place ≠ [] := by
    rintro rfl
    cases h
  have hlookup : lookup place t.entries = some (.file content) := by
    rw [← h, FileTree.find?, if_neg hne]
  exact ⟨rfl, map_kind_put hlookup rfl, fun q hq => by rw [find?_set hne, if_neg hq],
    content, content', h, by rw [find?_set hne, if_pos rfl]⟩

namespace Rewritten

theorem folder (h : t.Rewritten t' place) (hq : t.find? q = some .folder) : t'.find? q = some .folder := by
  rw [h.find? q, hq]
  rintro rfl
  obtain ⟨content, _, hc, _⟩ := h.file
  rw [hc] at hq
  cases hq

theorem map_isFile (h : t.Rewritten t' place) (q : Place) : (t'.find? q).map Entry.isFile = (t.find? q).map Entry.isFile := by
  by_cases hq : q = place
  · obtain ⟨_, _, hc, hc'⟩ := h.file
    rw [hq, hc, hc']
    rfl
  · rw [h.find? q hq]

theorem any_isFile (h : t.Rewritten t' place) (q : Place) : (t'.find? q).any Entry.isFile = (t.find? q).any Entry.isFile := by
  simpa [Option.any_map] using congrArg (Option.any id) (h.map_isFile q)

theorem isSome (h : t.Rewritten t' place) (q : Place) : (t'.find? q).isSome = (t.find? q).isSome := by
  simpa using congrArg Option.isSome (h.map_isFile q)

theorem origin (h : t.Rewritten t' place) (anchor : Anchor) : t'.origin anchor = t.origin anchor := by
  rw [FileTree.origin, FileTree.origin, h.home]

theorem placeOf (h : t.Rewritten t' place) (p : FilePath) : t'.placeOf p = t.placeOf p := by
  rw [FileTree.placeOf, FileTree.placeOf, h.origin]

theorem sound (h : t.Rewritten t' place) (ht : t.Sound) : t'.Sound where
  home := by
    rw [h.home]
    exact h.folder ht.home
  above {q name e} he := by
    have hthere : ∃ e, t.find? (q ++ [name]) = some e := by
      have hkind := h.map_isFile (q ++ [name])
      rw [he] at hkind
      exact Option.ne_none_iff_exists'.mp fun hnone => by simp [hnone] at hkind
    obtain ⟨_, hfound⟩ := hthere
    obtain ⟨hup, hfits, hname⟩ := ht.above hfound
    exact ⟨h.folder hup, hfits, hname⟩

/-- What cannot be found in one of the trees cannot be found in the other one, for the same cause. -/
theorem follow_eq_error (h : t.Rewritten t' place) (hkind : e'.isFile = e.isFile) {c : Cause} :
    t'.follow q e' names = .error c ↔ t.follow q e names = .error c := by
  induction names generalizing q e e' with
  | nil => simp [follow]
  | cons name names ih =>
    rw [follow, follow, hkind]
    split
    next => rfl
    next =>
      split
      next => exact ih rfl
      next =>
        split
        next => rfl
        next =>
          have hnext := h.map_isFile (q ++ [name])
          cases hf : t.find? (q ++ [name]) with
          | none =>
            rw [hf, Option.map_none, Option.map_eq_none_iff] at hnext
            rw [hnext]
          | some next =>
            rw [hf, Option.map_some, Option.map_eq_some_iff] at hnext
            obtain ⟨next', hf', hsame⟩ := hnext
            rw [hf']
            exact ih hsame

theorem locate_eq_error (h : t.Rewritten t' place) {c : Cause} : t'.locate p = .error c ↔ t.locate p = .error c := by
  rw [locate, locate, start_eq, start_eq, h.origin]
  exact h.follow_eq_error rfl

theorem locate_folder (h : t.Rewritten t' place) (hl : t.locate p = .ok (q, .folder)) : t'.locate p = .ok (q, .folder) := by
  obtain ⟨hs, rfl⟩ := stands_of_follow hl
  have hs' : t'.Stands (t'.origin p.anchor) p.names := by
    rw [h.origin]
    exact hs.mono fun _ => h.folder
  rw [locate_of_stands hs', h.placeOf]
  rfl

/-- What a path leads to elsewhere is the same in both trees. -/
theorem locate_ne (h : t.Rewritten t' place) (hl : t.locate p = .ok (q, e)) (hq : q ≠ place) : t'.locate p = .ok (q, e) :=
  locate_of_stays hl h.home (fun _ => h.folder) fun content hc => by rw [h.find? q hq, hc]

theorem readText_ne (h : t.Rewritten t' place) (hl : t.locate p = .ok (q, e)) (hq : q ≠ place) :
    t'.readText p = t.readText p := by
  rw [readText, readText, read, read, hl, h.locate_ne hl hq]

/-- A path that leads to the file leads to it in both trees. -/
theorem locate_file (h : t.Rewritten t' place) (hl : t.locate p = .ok (place, .file content)) :
    ∃ content', t'.locate p = .ok (place, .file content') ∧ t'.find? place = some (.file content') := by
  obtain ⟨_, content', _, hc'⟩ := h.file
  exact ⟨content', locate_of_kept hl h.home (fun _ => h.folder) hc', hc'⟩

/-- What lies below a folder is the same in both trees, but for what the file holds. -/
theorem map_kind_below (h : t.Rewritten t' place) (p : FilePath) : (t'.below p).map kind = (t.below p).map kind := by
  cases hl : t.locate p with
  | error c => simp only [below, hl, h.locate_eq_error.mpr hl]
  | ok found =>
    obtain ⟨root, e⟩ := found
    cases e with
    | folder => rw [map_kind_below_eq hl, map_kind_below_eq (h.locate_folder hl), h.kinds]
    | file content =>
      by_cases hr : root = place
      · obtain ⟨_, hl', _⟩ := h.locate_file (hr ▸ hl)
        simp only [below, hl, hl']
      · simp only [below, hl, h.locate_ne hl hr]

end Rewritten

end FileTree

namespace Layout

variable {l : Layout} {t t' : FileTree} {place : Place}

/-- The source that something below the root of a corpus is, going by its names and its kind. -/
def sourceAt? (l : Layout) : Place × Bool → Option FilePath
  | (segment :: folder :: name :: more, file) =>
    if folder = sourceFolder &&
        (file && Text.small (FilePath.suffix ⟨.relative, [((name :: more).getLast?).getD ""]⟩) == sourceSuffix) then
      some (l.root ++ ⟨.relative, segment :: folder :: name :: more⟩)
    else none
  | _ => none

theorem sources_eq (t : FileTree) :
    l.sources t = (((t.below l.root).map FileTree.kind).filterMap l.sourceAt?).mergeSort FilePath.le := by
  rw [List.filterMap_map, sources, listing]
  congr 2
  funext entry
  obtain ⟨names, e⟩ := entry
  rcases names with _ | ⟨_, _ | ⟨_, _ | ⟨_, _⟩⟩⟩ <;> rfl

/-- A corpus keeps its sources when one of its files is rewritten. -/
theorem sources_of_rewritten (h : t.Rewritten t' place) : l.sources t' = l.sources t := by
  rw [sources_eq, sources_eq, h.map_kind_below]

theorem barred_of_rewritten (h : t.Rewritten t' place) : l.barred? t' = none ↔ l.barred? t = none := by
  unfold barred?
  cases hl : t.locate l.root with
  | error c => rw [h.locate_eq_error.mpr hl]
  | ok found =>
    cases hl' : t'.locate l.root with
    | error c =>
      rw [h.locate_eq_error.mp hl'] at hl
      cases hl
    | ok found' => rfl

end Layout

end NoteSchema
