import NoteSchema.Proofs.File.Tree

namespace NoteSchema.FileTree

variable {t t' t'' : FileTree} {place q : Place} {places more : List Place} {e : Entry} {name : String} {names : List String}

/-- A tree as one is on a disk: what is in it lies in folders, under names that are no steps up and not too long, and
relative paths start in a folder. -/
structure Sound (t : FileTree) : Prop where
  home : t.find? t.home = some .folder
  above : ∀ {place name e}, t.find? (place ++ [name]) = some e →
    t.find? place = some .folder ∧ fits name = true ∧ name ≠ ".."

/-- Folders have been made at those of the places where nothing was. -/
structure Made (t t' : FileTree) (places : List Place) : Prop where
  home : t'.home = t.home
  find? : ∀ q, t'.find? q = if q ∈ places ∧ t.find? q = none then some .folder else t.find? q

namespace Made

theorem refl (h : ∀ q ∈ places, t.find? q ≠ none) : t.Made t places :=
  ⟨rfl, fun q => by
    split
    next hq => exact absurd hq.2 (h q hq.1)
    next => rfl⟩

theorem trans (h : t.Made t' places) (h' : t'.Made t'' more) : t.Made t'' (places ++ more) := by
  refine ⟨h'.home.trans h.home, fun q => ?_⟩
  rw [h'.find?, h.find?]
  by_cases hq : q ∈ places ∧ t.find? q = none
  · simp [hq]
  · by_cases hm : q ∈ more ∧ t.find? q = none
    · simp [hm]
    · simp only [hq, hm, if_false, List.mem_append]
      rw [if_neg]
      rintro ⟨hin | hin, hnone⟩
      · exact hq ⟨hin, hnone⟩
      · exact hm ⟨hin, hnone⟩

theorem kept (h : t.Made t' places) (hq : t.find? q = some e) : t'.find? q = some e := by
  rw [h.find?, if_neg (by simp [hq]), hq]

theorem rest (h : t.Made t' places) (q : Place) :
    t'.find? q = t.find? q ∨ t.find? q = none ∧ t'.find? q = some .folder ∧ q ∈ places := by
  rw [h.find?]
  split
  next hq => exact .inr ⟨hq.2, rfl, hq.1⟩
  next => exact .inl rfl

theorem folder (h : t.Made t' places) (hq : q ∈ places) (hfile : ∀ content, t.find? q ≠ some (.file content)) :
    t'.find? q = some .folder := by
  cases hf : t.find? q with
  | none => rw [h.find?, if_pos ⟨hq, hf⟩]
  | some e =>
    cases e with
    | folder => exact h.kept hf
    | file content => exact absurd hf (hfile content)

theorem file_iff (h : t.Made t' places) (content : Text.Bytes) :
    t'.find? q = some (.file content) ↔ t.find? q = some (.file content) := by
  rw [h.find?]
  split
  next hq => simp [hq.2]
  next => rfl

/-- Once its folders have been made an open way stands. -/
theorem stands (h : t.Made t' places) (hopen : t.Open place names) (hway : ∀ q ∈ way place names, q ∈ places) :
    t'.Stands place names := by
  induction names generalizing place with
  | nil => trivial
  | cons name names ih =>
    refine ⟨fun hup => ?_, ih hopen.2 fun q hq => hway q (List.mem_append_right _ hq)⟩
    obtain ⟨hfits, hfile⟩ : fits name = true ∧ (t.find? (place ++ [name])).any Entry.isFile = false := by
      simpa [blocks, hup] using hopen.1
    refine ⟨hfits, h.folder (hway _ (List.mem_append_left _ (by simp [entered, hup]))) fun content hc => ?_⟩
    simp [hc, Entry.isFile] at hfile

theorem congr (h : t.Made t' places) (hp : ∀ q, q ∈ places ↔ q ∈ more) : t.Made t' more :=
  ⟨h.home, fun q => by simp only [h.find?, hp]⟩

theorem origin (h : t.Made t' places) (anchor : Anchor) : t'.origin anchor = t.origin anchor := by
  unfold FileTree.origin
  rw [h.home]

theorem blocks (h : t.Made t' places) : t'.blocks place name = t.blocks place name := by
  have hfile : (t'.find? (place ++ [name])).any Entry.isFile = (t.find? (place ++ [name])).any Entry.isFile := by
    rw [h.find?]
    split
    next hq => simp [hq.2, Entry.isFile]
    next => rfl
  rw [FileTree.blocks, FileTree.blocks, hfile]

theorem isOpen (h : t.Made t' places) : t'.Open place names ↔ t.Open place names := by
  induction names generalizing place with
  | nil => rfl
  | cons name names ih => rw [Open, Open, h.blocks, ih]

theorem reach (h : t.Made t' places) : t'.reach place names = t.reach place names := by
  induction names generalizing place with
  | nil => rfl
  | cons name names ih => rw [FileTree.reach, FileTree.reach, h.blocks, ih]

end Made

section Making

variable {anchor : Anchor}

theorem isFolder_of_stands (h : t.Stands (t.origin anchor) names) : t.isFolder ⟨anchor, names⟩ = true := by
  simp [isFolder, locate, follow_of_stands h]

theorem isFolder_eq_false (h : t.Stuck (t.origin anchor) names) : t.isFolder ⟨anchor, names⟩ = false := by
  unfold isFolder
  split
  next q hq => exact absurd (stands_of_follow hq).1.isOpen h.1
  next => rfl

/-- The last folder of a path, where those above it are there. -/
theorem ensureFolder_made (h : t.Stands (t.origin anchor) names)
    (hb : t.blocks (endOf (t.origin anchor) names) name = false) :
    ∃ t', t.ensureFolder ⟨anchor, names ++ [name]⟩ = .ok t' ∧
      t.Made t' (entered (endOf (t.origin anchor) names) name) := by
  by_cases hup : name = ".."
  · subst hup
    have hall : t.Stands (t.origin anchor) (names ++ [".."]) :=
      stands_append.mpr ⟨h, fun hne => absurd rfl hne, trivial⟩
    refine ⟨t, ?_, .refl (by simp [entered])⟩
    simp [ensureFolder, makeFolder, slot_of_stands h, isFolder_of_stands hall]
  · obtain ⟨hfits, hfile⟩ :
        fits name = true ∧ (t.find? (endOf (t.origin anchor) names ++ [name])).any Entry.isFile = false := by
      simpa [blocks, hup] using hb
    cases hf : t.find? (endOf (t.origin anchor) names ++ [name]) with
    | none =>
      refine ⟨t.set (endOf (t.origin anchor) names ++ [name]) .folder, ?_, rfl, fun q => ?_⟩
      · simp [ensureFolder, makeFolder, slot_of_stands h, hup, hfits, hf]
      · rw [find?_set (by simp)]
        by_cases hq : q = endOf (t.origin anchor) names ++ [name]
        · simp [hq, entered, hup, hf]
        · simp [hq, entered, hup]
    | some e =>
      have hfolder : e = .folder := by
        cases e with
        | folder => rfl
        | file content => simp [hf, Entry.isFile] at hfile
      subst hfolder
      have hall : t.Stands (t.origin anchor) (names ++ [name]) :=
        stands_append.mpr ⟨h, fun _ => ⟨hfits, hf⟩, trivial⟩
      refine ⟨t, ?_, .refl (by simp [entered, hup, hf])⟩
      simp [ensureFolder, makeFolder, slot_of_stands h, hup, hfits, hf, isFolder_of_stands hall]

/-- Where a way is stuck no folder is made at its end, nor is one missing above it. -/
theorem ensureFolder_stuck (h : t.Stuck (t.origin anchor) (names ++ [name])) :
    ∃ c, t.ensureFolder ⟨anchor, names ++ [name]⟩ = .error c := by
  have hmake : ∃ c, t.makeFolder ⟨anchor, names ++ [name]⟩ = .error c := by
    unfold makeFolder
    split
    next c _ => exact ⟨c, rfl⟩
    next => exact ⟨_, rfl⟩
    next q hslot =>
      split
      next => exact ⟨_, rfl⟩
      next hnone =>
        obtain ⟨hs, hup, hfits, rfl⟩ := stands_of_slot hslot
        have hlast : t.blocks (endOf (t.origin anchor) names) name = false := by
          simp [blocks, hfits, hnone]
        exact absurd (open_append.mpr ⟨hs.isOpen, show t.Open _ [name] from ⟨hlast, trivial⟩⟩) h.1
  obtain ⟨c, hc⟩ := hmake
  exact ⟨c, by simp [ensureFolder, hc, isFolder_eq_false h]⟩

theorem Stuck.append (hs : t.Stands place names) {rest : List String} (h : t.Stuck (endOf place names) rest) :
    t.Stuck place (names ++ rest) := by
  refine ⟨fun hopen => h.1 (open_append.mp hopen).2, fun q hq => ?_⟩
  rw [reach_append_of_open hs.isOpen] at hq
  rcases List.mem_append.mp hq with hq | hq
  · simp [find?_of_mem_way hs hq]
  · exact h.2 q hq

theorem Stuck.further (h : t.Stuck place names) (rest : List String) : t.Stuck place (names ++ rest) :=
  ⟨fun hopen => h.1 (open_append.mp hopen).1, fun q hq => h.2 q (reach_append_of_not_open h.1 ▸ hq)⟩

theorem makeFolder_missing : t.makeFolder ⟨anchor, names ++ [name]⟩ = .error .missing ↔
    t.follow (t.origin anchor) .folder names = .error .missing := by
  rcases t.follow_cases (t.origin anchor) names with hs | hm | ⟨_, hne, hno⟩
  · rw [follow_of_stands hs]
    simp only [makeFolder, slot_of_stands hs]
    grind
  · simp [makeFolder, slot, locate, hm]
  · refine iff_of_false ?_ hne
    simp only [makeFolder, slot, locate, List.getLast?_concat, parent_concat, start_eq]
    grind

/-- The last folder of a path, and what is answered if it cannot be made. -/
def lastFolder (t : FileTree) (p : FilePath) : Except Refusal Unit × FileTree :=
  match t.ensureFolder p with
  | .ok t => (.ok (), t)
  | .error c => (.error ⟨c, [p.toString]⟩, t)

theorem lastFolder_stuck (h : t.Stuck (t.origin anchor) (names ++ [name])) :
    ((t.lastFolder ⟨anchor, names ++ [name]⟩).1 = .ok () ↔ t.Open (t.origin anchor) (names ++ [name])) ∧
      t.Made (t.lastFolder ⟨anchor, names ++ [name]⟩).2 (t.reach (t.origin anchor) (names ++ [name])) := by
  obtain ⟨c, hc⟩ := ensureFolder_stuck h
  simp only [lastFolder, hc]
  exact ⟨iff_of_false (by simp) h.1, .refl h.2⟩

theorem lastFolder_of_stands (h : t.Stands (t.origin anchor) names) (name : String) :
    ((t.lastFolder ⟨anchor, names ++ [name]⟩).1 = .ok () ↔ t.Open (t.origin anchor) (names ++ [name])) ∧
      t.Made (t.lastFolder ⟨anchor, names ++ [name]⟩).2 (t.reach (t.origin anchor) (names ++ [name])) := by
  cases hb : t.blocks (endOf (t.origin anchor) names) name with
  | true => exact lastFolder_stuck (.append h (stuck_of_blocks hb))
  | false =>
    obtain ⟨t', ht', hmade⟩ := ensureFolder_made h hb
    have hopen : t.Open (t.origin anchor) (names ++ [name]) :=
      open_append.mpr ⟨h.isOpen, show t.Open _ [name] from ⟨hb, trivial⟩⟩
    have hreach : t.reach (t.origin anchor) (names ++ [name]) =
        way (t.origin anchor) names ++ entered (endOf (t.origin anchor) names) name := by
      rw [reach_of_open hopen, way_append]
      simp [way]
    simp only [lastFolder, ht', hreach]
    have hold : t.Made t (way (t.origin anchor) names) := .refl fun q hq => by simp [find?_of_mem_way h hq]
    exact ⟨iff_of_true trivial hopen, hold.trans hmade⟩

theorem ensureFolders_of_missing {above : List String}
    (h : t.makeFolder ⟨anchor, above.reverse ++ [name]⟩ = .error .missing) :
    t.ensureFolders anchor (name :: above) =
      match t.ensureFolders anchor above with
      | (.ok (), t) => t.lastFolder ⟨anchor, above.reverse ++ [name]⟩
      | refused => refused := by
  simp only [ensureFolders, List.reverse_cons, h]
  rfl

theorem ensureFolders_of_ne_missing {above : List String}
    (h : t.makeFolder ⟨anchor, above.reverse ++ [name]⟩ ≠ .error .missing) :
    t.ensureFolders anchor (name :: above) = t.lastFolder ⟨anchor, above.reverse ++ [name]⟩ := by
  simp only [ensureFolders, List.reverse_cons]
  split
  next => simp_all
  next => rfl

/-- All folders of a path, given its names from the last to the first: they can be made if the way is open, and are made
up to the name that blocks it. -/
theorem ensureFolders_made (t : FileTree) (anchor : Anchor) (above : List String) :
    ((t.ensureFolders anchor above).1 = .ok () ↔ t.Open (t.origin anchor) above.reverse) ∧
      t.Made (t.ensureFolders anchor above).2 (t.reach (t.origin anchor) above.reverse) := by
  induction above with
  | nil => exact ⟨by simp [ensureFolders, Open], .refl (by simp [reach])⟩
  | cons name above ih =>
    rw [List.reverse_cons]
    rcases t.follow_cases (t.origin anchor) above.reverse with hs | hm | ⟨hst, hne, _⟩
    · rw [ensureFolders_of_ne_missing (by simp [makeFolder_missing, follow_of_stands hs])]
      exact lastFolder_of_stands hs name
    · rw [ensureFolders_of_missing (makeFolder_missing.mpr hm)]
      obtain ⟨hopen, hmade⟩ := ih
      split
      next t' ht' =>
        rw [ht'] at hopen hmade
        have hup : t.Open (t.origin anchor) above.reverse := hopen.mp rfl
        have hstands : t'.Stands (t'.origin anchor) above.reverse := by
          rw [hmade.origin]
          exact hmade.stands hup (by simp [reach_of_open hup])
        obtain ⟨hlast, hmade'⟩ := lastFolder_of_stands hstands name
        rw [hmade.origin] at hlast hmade'
        rw [hmade.isOpen] at hlast
        rw [hmade.reach] at hmade'
        refine ⟨hlast, (hmade.trans hmade').congr fun q => ?_⟩
        simp [reach_append_of_open hup, reach_of_open hup]
      next refused hno =>
        have hshut : ¬ t.Open (t.origin anchor) above.reverse := fun hup => by
          refine hno (t.ensureFolders anchor above).2 (Prod.ext (hopen.mpr hup) rfl)
        rw [reach_append_of_not_open hshut]
        exact ⟨iff_of_false (mt hopen.mp hshut) fun hup => hshut (open_append.mp hup).1, hmade⟩
    · rw [ensureFolders_of_ne_missing (mt makeFolder_missing.mp hne)]
      exact lastFolder_stuck (hst.further _)

end Making

end NoteSchema.FileTree
