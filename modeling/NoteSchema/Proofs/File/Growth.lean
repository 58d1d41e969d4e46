import NoteSchema.Artifact.Pending
import NoteSchema.Proofs.File.Kept

namespace NoteSchema

namespace FileTree

variable {t t' t'' : FileTree} {changed : Place → Prop} {p : FilePath} {q : Place} {content : String} {places : List Place}
  {e : Entry}

/-- A tree has become another one by growing: folders and files are still there, and the files at all but some places hold
what they held. -/
structure Grows (changed : Place → Prop) (t t' : FileTree) : Prop where
  home : t'.home = t.home
  folder : ∀ {q}, t.find? q = some .folder → t'.find? q = some .folder
  file : ∀ {q content}, t.find? q = some (.file content) →
    ∃ content', t'.find? q = some (.file content') ∧ (changed q ∨ content' = content)

namespace Grows

theorem refl (changed : Place → Prop) (t : FileTree) : t.Grows changed t :=
  ⟨rfl, id, fun hq => ⟨_, hq, .inr rfl⟩⟩

theorem trans (h : t.Grows changed t') (h' : t'.Grows changed t'') : t.Grows changed t'' where
  home := h'.home.trans h.home
  folder hq := h'.folder (h.folder hq)
  file hq := by
    obtain ⟨_, hq', hsame⟩ := h.file hq
    obtain ⟨_, hq'', hsame'⟩ := h'.file hq'
    refine ⟨_, hq'', ?_⟩
    rcases hsame with hchanged | rfl
    · exact .inl hchanged
    · exact hsame'

theorem mono {more : Place → Prop} (h : t.Grows changed t') (hmore : ∀ q, changed q → more q) : t.Grows more t' :=
  ⟨h.home, h.folder, fun hq => by
    obtain ⟨content', hq', hsame⟩ := h.file hq
    exact ⟨content', hq', hsame.imp_left (hmore _)⟩⟩

theorem origin (h : t.Grows changed t') (anchor : Anchor) : t'.origin anchor = t.origin anchor := by
  rw [FileTree.origin, FileTree.origin, h.home]

theorem placeOf (h : t.Grows changed t') (p : FilePath) : t'.placeOf p = t.placeOf p := by
  rw [FileTree.placeOf, FileTree.placeOf, h.origin]

theorem ne_none (h : t.Grows changed t') (hq : t.find? q ≠ none) : t'.find? q ≠ none := by
  obtain ⟨e, he⟩ := Option.ne_none_iff_exists'.mp hq
  cases e with
  | folder => simp [h.folder he]
  | file content =>
    obtain ⟨_, hfile, _⟩ := h.file he
    simp [hfile]

theorem kept (h : t.Grows changed t') (hq : t.find? q = some e) (hsame : ¬ changed q) : t'.find? q = some e := by
  cases e with
  | folder => exact h.folder hq
  | file content =>
    obtain ⟨_, hfile, hchanged | rfl⟩ := h.file hq
    · exact absurd hchanged hsame
    · exact hfile

/-- What a path leads to is still found there. -/
theorem locate (h : t.Grows changed t') (hl : t.locate p = .ok (q, e)) (hsame : ¬ changed q) : t'.locate p = .ok (q, e) :=
  locate_of_stays hl h.home (fun _ hq => h.folder hq) fun _ hq => h.kept hq hsame

end Grows

theorem Made.grows (h : t.Made t' places) (changed : Place → Prop) : t.Grows changed t' :=
  ⟨h.home, h.kept, fun hq => ⟨_, h.kept hq, .inr rfl⟩⟩

theorem Wrote.grows (h : t.Wrote t' p content) (hplace : t.find? (t.placeOf p) ≠ some .folder)
    (hchanged : changed (t.placeOf p)) : t.Grows changed t' where
  home := h.home
  folder {q} hq := by
    have hne : q ≠ t.placeOf p := by
      rintro rfl
      exact hplace hq
    exact h.kept hq hne
  file {q bytes} hq := by
    by_cases hp : q = t.placeOf p
    · exact ⟨_, hp ▸ h.landed, .inl (hp ▸ hchanged)⟩
    · exact ⟨bytes, h.kept hq hp, .inr rfl⟩

end FileTree

namespace Store

/-- One store has become another by writing to paths of a kind and to no others. -/
inductive Writes (P : FilePath → Prop) : Store → Store → Prop
  | refl (s : Store) : Writes P s s
  | step {s s' : Store} (h : Writes P s s') (check : Check) {p : FilePath} (hp : P p) (content : String) :
    Writes P s (s'.write check p content).2

variable {P : FilePath → Prop} {s s' : Store}

theorem Writes.enumerations (h : Writes P s s') (base : String) {todo : List (FilePath × Enumeration)}
    (hp : ∀ m ∈ todo, P m.1) : Writes P s (s'.writeEnumerations base todo).2 := by
  induction todo generalizing s' with
  | nil => exact h
  | cons m rest ih =>
    obtain ⟨destination, e⟩ := m
    have hstep : Writes P s (s'.writeDocument destination (e.toDocument base)).2 :=
      h.step Check.json (hp _ List.mem_cons_self) _
    have hrest : ∀ m ∈ rest, P m.1 := fun m hm => hp m (List.mem_cons_of_mem _ hm)
    unfold writeEnumerations Writer.release
    split
    next hw =>
      rw [hw] at hstep
      exact ih hstep hrest
    next hw =>
      rw [hw] at hstep
      exact ih hstep hrest
    next hw =>
      rw [hw] at hstep
      exact hstep

/-- A place that a path of a kind leads to. -/
def Touched (P : FilePath → Prop) (t : FileTree) (q : Place) : Prop := ∃ p, P p ∧ t.placeOf p = q

/-- Writing keeps a tree sound and lets it grow: only files that paths of the kind lead to can change. -/
theorem Writes.grows (h : Writes P s s') (hs : s.tree.Sound) :
    s'.tree.Sound ∧ s.tree.Grows (Touched P s.tree) s'.tree := by
  induction h with
  | refl => exact ⟨hs, .refl _ _⟩
  | @step s' _ check p hp content ih =>
    obtain ⟨hs', hgrows⟩ := ih
    obtain ⟨⟨result, s''⟩, hw⟩ : ∃ x, s'.write check p content = x := ⟨_, rfl⟩
    rw [hw]
    cases result with
    | ok done =>
      obtain ⟨hlands, hs'', hwrote, _⟩ := wrote_of_ok hs' hw
      exact ⟨hs'', hgrows.trans (hwrote.grows hlands.not_folder ⟨p, hp, (hgrows.placeOf p).symm⟩)⟩
    | error e =>
      obtain ⟨_, hs'', _, _, _, hmade, _⟩ := made_of_error hs' hw
      exact ⟨hs'', hgrows.trans (hmade.grows _)⟩

theorem sound_of_write (hs : s.tree.Sound) {check : Check} {p : FilePath} {content : String}
    {result : Except WriteFailure Unit} (hw : s.write check p content = (result, s')) : s'.tree.Sound := by
  cases result with
  | ok done => exact (wrote_of_ok hs hw).2.1
  | error e =>
    obtain ⟨_, hsound, _⟩ := made_of_error hs hw
    exact hsound

theorem grows_enumerations (hs : s.tree.Sound) (base : String) (todo : List (FilePath × Enumeration)) :
    s.tree.Grows (fun _ => True) (s.writeEnumerations base todo).2.tree := by
  have hwrites : Writes (fun _ => True) s (s.writeEnumerations base todo).2 :=
    (Writes.refl s).enumerations base fun _ _ => trivial
  exact (hwrites.grows hs).2.mono fun _ _ => trivial

/-- Only paths of the kind are written, under the same temporary names as before. -/
theorem Writes.written (h : Writes P s s') (hs : s.tree.Sound) :
    s'.stamps = s.stamps ∧ ∀ p ∈ s'.written, p ∈ s.written ∨ P p := by
  induction h with
  | refl => exact ⟨rfl, fun _ hp => .inl hp⟩
  | @step s' h check p hp content ih =>
    obtain ⟨hstamps, hwritten⟩ := ih
    obtain ⟨⟨result, s''⟩, hw⟩ : ∃ x, s'.write check p content = x := ⟨_, rfl⟩
    rw [hw]
    cases result with
    | ok done =>
      obtain ⟨_, _, _, hnew, hsame⟩ := wrote_of_ok (h.grows hs).1 hw
      refine ⟨hsame.trans hstamps, fun p' hp' => ?_⟩
      rw [hnew, List.mem_append, List.mem_singleton] at hp'
      rcases hp' with hold | rfl
      · exact hwritten p' hold
      · exact .inr hp
    | error e =>
      obtain ⟨_, _, hold, hsame, _⟩ := made_of_error (h.grows hs).1 hw
      exact ⟨hsame.trans hstamps, hold ▸ hwritten⟩

end Store

end NoteSchema
