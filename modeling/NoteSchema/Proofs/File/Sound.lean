import NoteSchema.Proofs.File.Folders
import Mathlib.Data.List.Induction

namespace NoteSchema

namespace FilePath

theorem collapse_eq (names : List String) : collapse names = FileTree.endOf [] names := by
  have hgo : ∀ stack : List String,
      (names.foldl (fun acc n => if n = ".." then acc.tail else n :: acc) stack).reverse =
        FileTree.endOf stack.reverse names := by
    induction names with
    | nil => exact fun _ => rfl
    | cons name names ih =>
      intro stack
      by_cases hup : name = ".."
      · simp only [List.foldl_cons, hup, if_true, ih, FileTree.endOf, FileTree.onward_up, List.dropLast_reverse]
      · simp only [List.foldl_cons, hup, if_false, ih, FileTree.endOf, FileTree.onward, List.reverse_cons]
  exact hgo []

end FilePath

namespace FileTree

variable {t t' : FileTree} {place q : Place} {places : List Place} {e : Entry} {name : String} {names : List String}

theorem endOf_plain (h : ".." ∉ names) : endOf place names = place ++ names := by
  induction names generalizing place with
  | nil => exact (List.append_nil place).symm
  | cons name names ih =>
    have hup : name ≠ ".." := fun he => h (he ▸ List.mem_cons_self)
    rw [endOf, List.foldl_cons, onward_name hup, ← endOf, ih fun hm => h (List.mem_cons_of_mem _ hm),
      List.append_assoc, List.singleton_append]

/-- A place and all folders above it are there. -/
def Standing (t : FileTree) (place : Place) : Prop := ∀ above, above <+: place → t.find? above = some .folder

namespace Standing

theorem root (t : FileTree) : t.Standing [] := fun above h => by
  rw [List.prefix_nil.mp h]
  rfl

theorem find? (h : t.Standing place) : t.find? place = some .folder := h place (List.prefix_refl place)

theorem up (h : t.Standing place) : t.Standing place.dropLast :=
  fun above ha => h above (ha.trans (List.dropLast_prefix place))

theorem into (h : t.Standing place) (hname : t.find? (place ++ [name]) = some .folder) :
    t.Standing (place ++ [name]) := fun above ha => by
  rcases List.prefix_concat_iff.mp ha with rfl | ha
  · exact hname
  · exact h above ha

end Standing

namespace Sound

theorem standing (h : t.Sound) (hp : t.find? place = some .folder) : t.Standing place := by
  induction place using List.reverseRecOn with
  | nil => exact .root t
  | append_singleton place name ih => exact (ih (h.above hp).1).into hp

/-- The way from the root to a folder stands, and is no detour. -/
theorem stands (h : t.Sound) (hp : t.find? place = some .folder) : t.Stands [] place ∧ endOf [] place = place := by
  induction place using List.reverseRecOn with
  | nil => exact ⟨trivial, rfl⟩
  | append_singleton place name ih =>
    obtain ⟨hup, hfits, hname⟩ := h.above hp
    obtain ⟨hs, hend⟩ := ih hup
    rw [stands_append, endOf_concat, hend, onward_name hname]
    exact ⟨⟨hs, fun _ => ⟨hfits, hp⟩, trivial⟩, rfl⟩

theorem endOf_home (h : t.Sound) : endOf [] t.home = t.home := (h.stands h.home).2

/-- The place that a path means is where its names lead. -/
theorem absolute_eq (h : t.Sound) (p : FilePath) : p.absolute t.home = endOf (t.origin p.anchor) p.names := by
  unfold FilePath.absolute origin
  split
  next => rw [FilePath.collapse_eq, endOf_append, h.endOf_home]
  next => exact FilePath.collapse_eq _

theorem origin (h : t.Sound) (anchor : Anchor) : t.Standing (t.origin anchor) := by
  unfold FileTree.origin
  split
  next => exact h.standing h.home
  next => exact .root t

end Sound

/-- A way that stands leads to a folder. -/
theorem Standing.endOf (h : t.Standing place) (hs : t.Stands place names) : t.Standing (endOf place names) := by
  induction names generalizing place with
  | nil => exact h
  | cons name names ih =>
    refine ih ?_ hs.2
    by_cases hup : name = ".."
    · subst hup
      exact h.up
    · rw [onward_name hup]
      exact h.into (hs.1 hup).2

/-- What is made on a way is made in folders. -/
theorem Made.reached (h : t.Made t' places) (hs : t'.Standing place) (hp : ∀ q ∈ t.reach place names, q ∈ places) :
    ∀ q ∈ t.reach place names, ∃ above name, q = above ++ [name] ∧ t'.find? above = some .folder ∧
      fits name = true ∧ name ≠ ".." := by
  induction names generalizing place with
  | nil => simp [FileTree.reach]
  | cons name names ih =>
    intro q hq
    rw [FileTree.reach] at hq hp
    split at hq
    next => cases hq
    next hb =>
      rw [if_neg hb] at hp
      by_cases hup : name = ".."
      · subst hup
        simp only [entered, if_true, List.nil_append] at hq hp
        exact ih hs.up hp q hq
      · obtain ⟨hfits, hfile⟩ :
            fits name = true ∧ (t.find? (place ++ [name])).any Entry.isFile = false := by
          simpa [FileTree.blocks, hup] using hb
        simp only [entered, hup, if_false, onward_name hup, List.singleton_append, List.mem_cons] at hq hp
        have hfolder : t'.find? (place ++ [name]) = some .folder :=
          h.folder (hp _ (.inl rfl)) fun content hc => by simp [hc, Entry.isFile] at hfile
        rcases hq with rfl | hq
        · exact ⟨place, name, rfl, hs.find?, hfits, hup⟩
        · exact ih (hs.into hfolder) (fun q hq => hp q (.inr hq)) q hq

namespace Sound

theorem made (h : t.Sound) {anchor : Anchor} (hm : t.Made t' (t.reach (t.origin anchor) names)) : t'.Sound := by
  have hs : t'.Standing (t.origin anchor) := fun above ha => hm.kept (h.origin anchor above ha)
  refine ⟨by rw [hm.home]; exact hm.kept h.home, fun {place name e} he => ?_⟩
  rw [hm.find?] at he
  split at he
  next hq =>
    obtain ⟨above, name', hsplit, hup, hfits, hname⟩ := hm.reached hs (fun _ hq => hq) _ hq.1
    obtain ⟨rfl, rfl⟩ := List.append_singleton_inj.mp hsplit
    exact ⟨hup, hfits, hname⟩
  next =>
    obtain ⟨hup, hfits, hname⟩ := h.above he
    exact ⟨hm.kept hup, hfits, hname⟩

/-- A file may be put into a folder where no folder is. -/
theorem file (h : t.Sound) {content : Text.Bytes} (hplace : t.find? place = some .folder) (hfits : fits name = true)
    (hname : name ≠ "..") (hfree : t.find? (place ++ [name]) ≠ some .folder) (hhome : t'.home = t.home)
    (hfind : ∀ q, t'.find? q = if q = place ++ [name] then some (.file content) else t.find? q) : t'.Sound := by
  have hkept {q : Place} (hq : t.find? q = some .folder) : t'.find? q = some .folder := by
    rw [hfind, if_neg fun he => hfree (by rw [← he, hq]), hq]
  refine ⟨by rw [hhome]; exact hkept h.home, fun {above name' e} he => ?_⟩
  rw [hfind] at he
  split at he
  next hsplit =>
    obtain ⟨rfl, rfl⟩ := List.append_singleton_inj.mp hsplit
    exact ⟨hkept hplace, hfits, hname⟩
  next =>
    obtain ⟨hup, hfits', hname'⟩ := h.above he
    exact ⟨hkept hup, hfits', hname'⟩

theorem congr (h : t.Sound) (hhome : t'.home = t.home) (hfind : ∀ q, t'.find? q = t.find? q) : t'.Sound where
  home := by rw [hhome, hfind, h.home]
  above he := by
    rw [hfind] at he
    rw [hfind]
    exact h.above he

/-- A tree is sound if each of its entries lies in a folder under a fit name. -/
theorem of_entries (hhome : t.find? t.home = some .folder)
    (h : ∀ entry ∈ t.entries, t.find? entry.1.dropLast = some .folder ∧
      ∀ name ∈ entry.1.getLast?, fits name = true ∧ name ≠ "..") : t.Sound := by
  refine ⟨hhome, fun {place name e} he => ?_⟩
  rw [FileTree.find?, if_neg (by simp)] at he
  simpa using h _ (mem_of_lookup he)

end Sound

end FileTree

end NoteSchema
