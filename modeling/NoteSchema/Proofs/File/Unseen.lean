import NoteSchema.Proofs.File.Growth

namespace NoteSchema

namespace FileTree

variable {t t' : FileTree} {p temporary : FilePath} {place q : Place} {e : Entry} {name : String} {front : List String}
  {entries : List (Place × Entry)} {bytes : Text.Bytes} {sees : String → Bool}

/-- What a listing sees that looks for files of some names, in the order of the entries. -/
def shown (sees : String → Bool) (entries : List Found) : List Found :=
  entries.filter fun entry => entry.2.isFile && sees (entry.1.getLast?.getD "")

theorem filterMap_shown {β : Type} {f : Found → Option β}
    (h : ∀ found : Found, (found.2.isFile && sees (found.1.getLast?.getD "")) = false → f found = none) :
    (shown sees entries).filterMap f = entries.filterMap f := by
  rw [shown, List.filterMap_filter]
  refine List.filterMap_congr fun found _ => ?_
  split
  next => rfl
  next hunseen => exact (h found (by simpa using hunseen)).symm

theorem shown_put_folder (h : lookup place entries = none) : shown sees (put place .folder entries) = shown sees entries := by
  induction entries with
  | nil => rfl
  | cons entry rest ih =>
    obtain ⟨q, old⟩ := entry
    rw [lookup] at h
    split at h
    next => cases h
    next hne =>
      have hrest := ih h
      rw [put, if_neg hne]
      simp only [shown, List.filter_cons] at hrest ⊢
      rw [hrest]

theorem shown_put_file (h : sees name = false) :
    shown sees (put (front ++ [name]) (.file bytes) entries) = shown sees entries := by
  induction entries with
  | nil => simp [put, shown, h]
  | cons entry rest ih =>
    obtain ⟨q, old⟩ := entry
    rw [put]
    split
    next hq =>
      subst hq
      simp [shown, h]
    next =>
      simp only [shown, List.filter_cons] at ih ⊢
      rw [ih]

theorem shown_filter (h : sees name = false) :
    shown sees (entries.filter fun entry => entry.1 ≠ front ++ [name]) = shown sees entries := by
  rw [shown, shown, List.filter_filter]
  refine List.filter_congr fun entry _ => ?_
  by_cases hentry : entry.1 = front ++ [name]
  · simp [hentry, h]
  · simp [hentry]

theorem makeFolder_shown (h : t.makeFolder p = .ok t') : shown sees t'.entries = shown sees t.entries := by
  unfold makeFolder at h
  split at h
  next => cases h
  next => cases h
  next place _ =>
    split at h
    next => cases h
    next hnone =>
      cases h
      refine shown_put_folder ?_
      unfold find? at hnone
      split at hnone
      next => cases hnone
      next => exact hnone

theorem lastFolder_shown (t : FileTree) (p : FilePath) : shown sees (t.lastFolder p).2.entries = shown sees t.entries := by
  unfold lastFolder ensureFolder
  cases hmake : t.makeFolder p with
  | ok t' => exact makeFolder_shown hmake
  | error c =>
    dsimp only
    split
    next _ t' hfolder =>
      split at hfolder
      next =>
        cases hfolder
        rfl
      next => cases hfolder
    next => rfl

/-- Making folders is not seen. -/
theorem makeFolders_shown (t : FileTree) (p : FilePath) : shown sees (t.makeFolders p).2.entries = shown sees t.entries := by
  unfold makeFolders
  generalize p.names.reverse = above
  induction above with
  | nil => rfl
  | cons name above ih =>
    by_cases hmissing : t.makeFolder ⟨p.anchor, above.reverse ++ [name]⟩ = .error .missing
    · rw [ensureFolders_of_missing hmissing]
      split
      next t' ht' =>
        rw [ht'] at ih
        rw [lastFolder_shown, ih]
      next => exact ih
    · rw [ensureFolders_of_ne_missing hmissing]
      exact lastFolder_shown t _

/-- The place of a path is one of its last name. -/
theorem slot_concat (hp : p.names = front ++ [name]) (h : t.slot p = .ok (some place)) : ∃ above, place = above ++ [name] := by
  obtain ⟨anchor, names⟩ := p
  dsimp only at hp
  subst hp
  obtain ⟨_, _, _, rfl⟩ := stands_of_slot h
  exact ⟨_, rfl⟩

theorem create_shown (hp : p.names = front ++ [name]) (hname : sees name = false) (h : t.create p bytes = .ok t') :
    shown sees t'.entries = shown sees t.entries := by
  unfold create at h
  split at h
  next => cases h
  next => cases h
  next place hslot =>
    split at h
    next => cases h
    next =>
      cases h
      obtain ⟨above, rfl⟩ := slot_concat hp hslot
      exact shown_put_file hname

theorem locate_concat (hp : p.names = front ++ [name]) (h : t.locate p = .ok (place, .file bytes)) :
    ∃ above, place = above ++ [name] := by
  obtain ⟨front', name', hnames, _, _, _, rfl, _⟩ := stands_of_follow_file h
  obtain ⟨_, rfl⟩ := List.append_singleton_inj.mp (hp.symm.trans hnames)
  exact ⟨_, rfl⟩

theorem remove_shown (hp : p.names = front ++ [name]) (hname : sees name = false) :
    shown sees (t.remove p).entries = shown sees t.entries := by
  unfold remove
  split
  next place _ hlocate =>
    obtain ⟨above, rfl⟩ := locate_concat hp hlocate
    exact shown_filter hname
  next => rfl

theorem move_shown {from' : List String} {name' : String} (htemp : temporary.names = from' ++ [name'])
    (hname' : sees name' = false) (hp : p.names = front ++ [name]) (hname : sees name = false)
    (h : t.move temporary p = .ok t') : shown sees t'.entries = shown sees t.entries := by
  unfold move at h
  split at h
  next => cases h
  next => cases h
  next origin content hlocate =>
    split at h
    next => cases h
    next => cases h
    next place hslot =>
      split at h
      next => cases h
      next =>
        cases h
        obtain ⟨above, rfl⟩ := slot_concat hp hslot
        obtain ⟨above', rfl⟩ := locate_concat htemp hlocate
        rw [set, shown_put_file hname]
        exact shown_filter hname'

end FileTree

namespace Store

open FileTree (shown)

variable {s s' : Store} {p temporary folder : FilePath} {t staged : FileTree} {check : Check} {content : String}
  {bytes : Text.Bytes} {front : List String} {name : String} {sees : String → Bool} {stamps : List String}

theorem stage_shown (hsees : ∀ stamp, sees (temporaryName p stamp) = false)
    (h : stage t folder p bytes stamps = .ok (temporary, staged)) :
    (∃ stamp, temporary.names = folder.names ++ [temporaryName p stamp]) ∧
      shown sees staged.entries = shown sees t.entries := by
  induction stamps with
  | nil => cases h
  | cons stamp stamps ih =>
    dsimp only [stage] at h
    split at h
    next t' hcreate =>
      cases h
      exact ⟨⟨stamp, rfl⟩, FileTree.create_shown rfl (hsees stamp) hcreate⟩
    next => exact ih h
    next => cases h

/-- A write to a path whose name a listing does not look for is not seen by it. -/
theorem write_shown (hp : p.names = front ++ [name]) (hname : sees name = false)
    (hsees : ∀ stamp, sees (temporaryName p stamp) = false) :
    shown sees (s.write check p content).2.tree.entries = shown sees s.tree.entries := by
  rw [write_eq]
  split
  next => rfl
  next =>
    have hmade : shown sees (s.tree.makeFolders p.parent).2.entries = shown sees s.tree.entries :=
      FileTree.makeFolders_shown s.tree p.parent
    generalize s.tree.makeFolders p.parent = made at hmade
    obtain ⟨result, t⟩ := made
    cases result with
    | error r => exact hmade
    | ok done =>
      dsimp only at hmade ⊢
      split
      next => exact hmade
      next =>
        rw [← hmade]
        unfold complete
        split
        next => rfl
        next temporary staged hstage =>
          obtain ⟨⟨stamp, htemp⟩, hstaged⟩ := stage_shown hsees hstage
          split
          next => exact (FileTree.remove_shown htemp (hsees stamp)).trans hstaged
          next =>
            split
            next => exact (FileTree.remove_shown htemp (hsees stamp)).trans hstaged
            next t' hmove => exact (FileTree.move_shown htemp (hsees stamp) hp hname hmove).trans hstaged

/-- Writes to paths whose names a listing does not look for are not seen by it. -/
theorem Writes.shown {P : FilePath → Prop} (h : Writes P s s') (sees : String → Bool)
    (hP : ∀ p, P p → ∃ front name, p.names = front ++ [name] ∧ sees name = false)
    (hsees : ∀ p stamp, sees (temporaryName p stamp) = false) :
    FileTree.shown sees s'.tree.entries = FileTree.shown sees s.tree.entries := by
  induction h with
  | refl => rfl
  | step _ check hp content ih =>
    obtain ⟨front, name, hnames, hname⟩ := hP _ hp
    rw [write_shown hnames hname (hsees _), ih]

end Store

end NoteSchema
