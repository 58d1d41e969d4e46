import NoteSchema.Proofs.File.Store

namespace NoteSchema

namespace FileTree

variable {t t' : FileTree} {place : Place} {names : List String}

theorem reach_subset_way : t.reach place names ⊆ way place names := by
  induction names generalizing place with
  | nil => exact List.Subset.refl _
  | cons name names ih =>
    rw [reach, way]
    split
    next => exact List.nil_subset _
    next =>
      exact List.append_subset.mpr ⟨List.subset_append_left _ _, List.Subset.trans ih (List.subset_append_right _ _)⟩

section Made

variable {m : Prop} [Decidable m] (e : Option Entry)

/-- A folder that is made where nothing was is no file. -/
theorem any_isFile_made : (if m ∧ e = none then some .folder else e).any Entry.isFile = e.any Entry.isFile := by
  split
  next h => simp [h.2, Entry.isFile]
  next => rfl

theorem isSome_made : (if m ∧ e = none then some .folder else e).isSome = (decide m || e.isSome) := by
  cases e <;> by_cases h : m <;> simp [h]

end Made

/-- Two trees with files at the same places of a way block it alike. -/
theorem reach_congr (h : ∀ q ∈ way place names, (t'.find? q).any Entry.isFile = (t.find? q).any Entry.isFile) :
    t'.reach place names = t.reach place names ∧ (t'.Open place names ↔ t.Open place names) := by
  induction names generalizing place with
  | nil => exact ⟨rfl, .rfl⟩
  | cons name names ih =>
    obtain ⟨hreach, hopen⟩ := ih fun q hq => h q (List.mem_append_right _ hq)
    have hblocks : t'.blocks place name = t.blocks place name := by
      by_cases hup : name = ".."
      · simp [blocks, hup]
      · rw [blocks, blocks, h _ (List.mem_append_left _ (by simp [entered, hup]))]
    rw [reach, reach, Open, Open, hblocks, hreach, hopen]
    exact ⟨rfl, .rfl⟩

end FileTree

namespace Store

variable {t : FileTree} {a b c a' b' : Store} {d p : FilePath} {check : Check} {content : String}
  {result : Except WriteFailure Unit} {P : FilePath → Prop}

/-- The folders that lead to a path. -/
def wayTo (t : FileTree) (p : FilePath) : List Place := FileTree.way (t.origin p.anchor) p.parent.names

/-- The place in which content for a path is staged under a stamp. -/
def stagedAt (t : FileTree) (p : FilePath) (stamp : String) : Place := t.placeOf p.parent ++ [temporaryName p stamp]

/-- Writing to one path leaves another one alone: its place is none on the way to the other one, none that the other one is
staged in, and the same holds of the folders that lead to it. -/
structure Clear (t : FileTree) (stamps : List String) (d p : FilePath) : Prop where
  ne : t.placeOf d ≠ t.placeOf p
  way : t.placeOf d ∉ wayTo t p
  place : t.placeOf p ∉ wayTo t d
  staged : ∀ stamp ∈ stamps, stagedAt t p stamp ∉ t.placeOf d :: wayTo t d

instance (t : FileTree) (stamps : List String) (d p : FilePath) : Decidable (Clear t stamps d p) :=
  decidable_of_iff (t.placeOf d ≠ t.placeOf p ∧ t.placeOf d ∉ wayTo t p ∧ t.placeOf p ∉ wayTo t d ∧
      ∀ stamp ∈ stamps, stagedAt t p stamp ∉ t.placeOf d :: wayTo t d)
    ⟨fun h => ⟨h.1, h.2.1, h.2.2.1, h.2.2.2⟩, fun h => ⟨h.ne, h.way, h.place, h.staged⟩⟩

/-- Two stores look alike to the paths of a kind: what these need to be written is the same in both, and so is what they
hold. -/
structure Alike (t : FileTree) (P : FilePath → Prop) (a b : Store) : Prop where
  stamps : b.stamps = a.stamps
  written : ∀ p, P p → (p ∈ b.written ↔ p ∈ a.written)
  way : ∀ p, P p → ∀ q ∈ wayTo t p, (b.tree.find? q).any Entry.isFile = (a.tree.find? q).any Entry.isFile
  staged : ∀ p, P p → ∀ stamp ∈ a.stamps,
    (b.tree.find? (stagedAt t p stamp)).isSome = (a.tree.find? (stagedAt t p stamp)).isSome
  place : ∀ p, P p → b.tree.find? (t.placeOf p) = a.tree.find? (t.placeOf p)

/-- What is at each place after a write, by what was there: one may hold the content, others a new folder. -/
structure Written (t : FileTree) (d : FilePath) (content : Option Text.Bytes) (made : List Place) (a a' : Store) : Prop where
  stamps : a'.stamps = a.stamps
  written : a'.written = a.written ++ if content.isSome then [d] else []
  find? : ∀ q, a'.tree.find? q =
    if q = t.placeOf d ∧ content.isSome then content.map .file
    else if q ∈ made ∧ a.tree.find? q = none then some .folder
    else a.tree.find? q

/-- A store that keeps a sound tree in which relative paths start where they do in another one. -/
structure Kept (t : FileTree) (a : Store) : Prop where
  sound : a.tree.Sound
  home : a.tree.home = t.home

theorem Kept.origin (h : Kept t a) (anchor : Anchor) : a.tree.origin anchor = t.origin anchor := by
  rw [FileTree.origin, FileTree.origin, h.home]

theorem Kept.placeOf (h : Kept t a) (p : FilePath) : a.tree.placeOf p = t.placeOf p := by
  rw [FileTree.placeOf, FileTree.placeOf, h.origin]

theorem Kept.written_of_ok (h : Kept t a) (hw : a.write check d content = (.ok (), a')) :
    Kept t a' ∧ Written t d (some (Text.Utf8.encode content)) (wayTo t d) a a' := by
  obtain ⟨_, hsound, hwrote, hwritten, hstamps⟩ := wrote_of_ok h.sound hw
  refine ⟨⟨hsound, hwrote.home.trans h.home⟩, hstamps, hwritten, fun q => ?_⟩
  rw [hwrote.find?, h.placeOf, h.origin]
  by_cases hq : q = t.placeOf d
  · rw [if_pos hq, if_pos ⟨hq, rfl⟩]
    rfl
  · exact (if_neg hq).trans (if_neg fun hq' => hq hq'.1).symm

theorem Kept.written_of_error (h : Kept t a) (hplain : d.hasNul = false) {e : WriteFailure}
    (hw : a.write check d content = (.error e, a')) :
    Kept t a' ∧ Written t d none (a.tree.reach (t.origin d.anchor) d.parent.names) a a' := by
  obtain ⟨_, hsound, hwritten, hstamps, places, hmade, _, hwhy⟩ := made_of_error h.sound hw
  obtain ⟨rfl, _⟩ := hwhy hplain
  rw [h.origin] at hmade
  refine ⟨⟨hsound, hmade.home.trans h.home⟩, hstamps, by simp [hwritten], fun q => ?_⟩
  rw [hmade.find?]
  simp

namespace Written

variable {bytes : Option Text.Bytes} {made : List Place} {q : Place}

theorem away (h : Written t d bytes made a a') (hd : q ≠ t.placeOf d) (hmade : q ∉ made) :
    a'.tree.find? q = a.tree.find? q := by
  rw [h.find?, if_neg (fun hq => hd hq.1), if_neg (fun hq => hmade hq.1)]

theorem isFile (h : Written t d bytes made a a') (hd : q ≠ t.placeOf d) :
    (a'.tree.find? q).any Entry.isFile = (a.tree.find? q).any Entry.isFile := by
  rw [h.find?, if_neg (fun hq => hd hq.1), FileTree.any_isFile_made]

/-- A path that is left alone does not see a write. -/
theorem alike (h : Written t d bytes made a a') (hmade : made ⊆ wayTo t d) (hP : ∀ p, P p → Clear t a.stamps d p) :
    Alike t P a a' where
  stamps := h.stamps
  written p hp := by
    have hne : p ≠ d := by
      rintro rfl
      exact (hP p hp).ne rfl
    rw [h.written, List.mem_append]
    split <;> simp [hne]
  way p hp q hq := h.isFile fun he => (hP p hp).way (he ▸ hq)
  staged p hp stamp hstamp := by
    have hclear := (hP p hp).staged stamp hstamp
    rw [List.mem_cons, not_or] at hclear
    rw [h.away hclear.1 fun hin => hclear.2 (hmade hin)]
  place p hp := h.away (Ne.symm (hP p hp).ne) fun hin => (hP p hp).place (hmade hin)

/-- The same write keeps two stores alike. -/
theorem both (h : Written t d bytes made a a') (h' : Written t d bytes made b b') (hab : Alike t P a b) :
    Alike t P a' b' where
  stamps := by rw [h'.stamps, hab.stamps, h.stamps]
  written p hp := by rw [h'.written, h.written, List.mem_append, List.mem_append, hab.written p hp]
  way p hp q hq := by
    by_cases hd : q = t.placeOf d ∧ bytes.isSome = true
    · rw [h'.find?, h.find?, if_pos hd, if_pos hd]
    · rw [h'.find?, h.find?, if_neg hd, if_neg hd, FileTree.any_isFile_made, FileTree.any_isFile_made, hab.way p hp q hq]
  staged p hp stamp hstamp := by
    rw [h.stamps] at hstamp
    by_cases hd : stagedAt t p stamp = t.placeOf d ∧ bytes.isSome = true
    · rw [h'.find?, h.find?, if_pos hd, if_pos hd]
    · rw [h'.find?, h.find?, if_neg hd, if_neg hd, FileTree.isSome_made, FileTree.isSome_made,
        hab.staged p hp stamp hstamp]
  place p hp := by rw [h'.find?, h.find?, hab.place p hp]

end Written

namespace Alike

theorem refl (t : FileTree) (P : FilePath → Prop) (a : Store) : Alike t P a a :=
  ⟨rfl, fun _ _ => .rfl, fun _ _ _ _ => rfl, fun _ _ _ _ => rfl, fun _ _ => rfl⟩

theorem symm (h : Alike t P a b) : Alike t P b a where
  stamps := h.stamps.symm
  written p hp := (h.written p hp).symm
  way p hp q hq := (h.way p hp q hq).symm
  staged p hp stamp hstamp := (h.staged p hp stamp (h.stamps ▸ hstamp)).symm
  place p hp := (h.place p hp).symm

theorem trans (h : Alike t P a b) (h' : Alike t P b c) : Alike t P a c where
  stamps := h'.stamps.trans h.stamps
  written p hp := (h'.written p hp).trans (h.written p hp)
  way p hp q hq := (h'.way p hp q hq).trans (h.way p hp q hq)
  staged p hp stamp hstamp :=
    (h'.staged p hp stamp (h.stamps.symm ▸ hstamp)).trans (h.staged p hp stamp hstamp)
  place p hp := (h'.place p hp).trans (h.place p hp)

theorem vacancy?_congr {t₁ t₂ : FileTree} {place : Place} {stamps : List String}
    (h : ∀ stamp ∈ stamps, (t₂.find? (place ++ [temporaryName p stamp])).isSome =
      (t₁.find? (place ++ [temporaryName p stamp])).isSome) :
    vacancy? t₂ place p stamps = vacancy? t₁ place p stamps := by
  induction stamps with
  | nil => rfl
  | cons stamp stamps ih =>
    rw [vacancy?, vacancy?, h stamp List.mem_cons_self, ih fun stamp hs => h stamp (List.mem_cons_of_mem _ hs)]

/-- What lands in one store lands in the other one. -/
theorem lands (h : Alike t P a b) (ha : Kept t a) (hb : Kept t b) (hp : P p) (hl : a.Lands check p content) :
    b.Lands check p content := by
  have hway : ∀ q ∈ FileTree.way (a.tree.origin p.anchor) p.parent.names,
      (b.tree.find? q).any Entry.isFile = (a.tree.find? q).any Entry.isFile := by
    rw [ha.origin]
    exact h.way p hp
  obtain ⟨hreach, hopen⟩ := FileTree.reach_congr hway
  have horigin : b.tree.origin p.anchor = a.tree.origin p.anchor := by rw [ha.origin, hb.origin]
  obtain ⟨_, hmadeA⟩ := makeFolders_made a.tree p.parent
  obtain ⟨_, hmadeB⟩ := makeFolders_made b.tree p.parent
  rw [show (p.parent).anchor = p.anchor from rfl] at hmadeA hmadeB
  rw [horigin, hreach] at hmadeB
  refine hl.transfer (hb.home.trans ha.home.symm) hreach (hopen.mpr hl.way) (fun hvacant => ?_) fun hfolder => ?_
  · have hvacancy : vacancy? (b.tree.makeFolders p.parent).2 (t.placeOf p.parent) p a.stamps =
        vacancy? (a.tree.makeFolders p.parent).2 (t.placeOf p.parent) p a.stamps :=
      vacancy?_congr fun stamp hstamp => by
        have hsame := h.staged p hp stamp hstamp
        rw [stagedAt] at hsame
        rw [hmadeB.find?, hmadeA.find?, FileTree.isSome_made, FileTree.isSome_made, hsame]
    rw [ha.placeOf] at hvacant ⊢
    rwa [h.stamps, hvacancy]
  · rw [ha.placeOf] at hfolder ⊢
    rw [hmadeB.find?, h.place p hp] at hfolder
    rwa [hmadeA.find?]

/-- Writing the same to a path of the kind has the same outcome in both stores, and they stay alike. -/
theorem write (h : Alike t P a b) (ha : Kept t a) (hb : Kept t b) (hp : P p) (hplain : p.hasNul = false)
    {result result' : Except WriteFailure Unit} (hw : a.write check p content = (result, a'))
    (hw' : b.write check p content = (result', b')) : (result = .ok () ↔ result' = .ok ()) ∧ Alike t P a' b' := by
  have hreach : b.tree.reach (t.origin p.anchor) p.parent.names = a.tree.reach (t.origin p.anchor) p.parent.names :=
    (FileTree.reach_congr (h.way p hp)).1
  cases result with
  | ok done =>
    obtain ⟨hlands, _⟩ := wrote_of_ok ha.sound hw
    obtain ⟨_, hwritten⟩ := ha.written_of_ok hw
    cases result' with
    | ok done => exact ⟨.rfl, hwritten.both (hb.written_of_ok hw').2 h⟩
    | error e => exact absurd (h.lands ha hb hp hlands) (made_of_error hb.sound hw').1
  | error e =>
    obtain ⟨hno, _⟩ := made_of_error ha.sound hw
    obtain ⟨_, hwritten⟩ := ha.written_of_error hplain hw
    cases result' with
    | ok done => exact absurd (h.symm.lands hb ha hp (wrote_of_ok hb.sound hw').1) hno
    | error e' =>
      have hwritten' := (hb.written_of_error hplain hw').2
      rw [hreach] at hwritten'
      exact ⟨by simp, hwritten.both hwritten' h⟩

end Alike

/-- Writing to a path that leaves others alone is not seen by them. -/
theorem Kept.alike_of_write (h : Kept t a) (hplain : d.hasNul = false) (hP : ∀ p, P p → Clear t a.stamps d p)
    (hw : a.write check d content = (result, a')) : Alike t P a a' := by
  cases result with
  | ok done => exact (h.written_of_ok hw).2.alike (List.Subset.refl _) hP
  | error e => exact (h.written_of_error hplain hw).2.alike FileTree.reach_subset_way hP

end Store

end NoteSchema
