import NoteSchema.File.Store
import NoteSchema.Proofs.File.Sound

namespace NoteSchema

namespace FileTree

variable {t t' : FileTree} {p : FilePath} {place dest q : Place}

/-- The place that the names of a path lead to. -/
def placeOf (t : FileTree) (p : FilePath) : Place := endOf (t.origin p.anchor) p.names

theorem locate_of_stands (h : t.Stands (t.origin p.anchor) p.names) : t.locate p = .ok (t.placeOf p, .folder) :=
  follow_of_stands h

theorem slot_congr (h : t.Stands (t.origin p.anchor) p.parent.names) (hhome : t'.home = t.home)
    (h' : t'.Stands (t.origin p.anchor) p.parent.names) : t'.slot p = t.slot p := by
  have horigin : t'.origin p.anchor = t.origin p.anchor := by rw [origin, origin, hhome]
  have hplace : t'.placeOf p.parent = t.placeOf p.parent := congrArg (endOf · _) horigin
  rw [← horigin] at h'
  rw [slot, slot, locate_of_stands (p := p.parent) h, locate_of_stands (p := p.parent) h', hplace]

theorem Stands.mono {names : List String} (h : t.Stands place names)
    (hkept : ∀ q, t.find? q = some .folder → t'.find? q = some .folder) : t'.Stands place names := by
  induction names generalizing place with
  | nil => trivial
  | cons name names ih => exact ⟨fun hup => ⟨(h.1 hup).1, hkept _ (h.1 hup).2⟩, ih h.2⟩

/-- The place of the last name is the one that the path leads to. -/
theorem placeOf_of_slot (h : t.slot p = .ok (some dest)) : dest = t.placeOf p ∧
    ∃ name, dest = endOf (t.origin p.anchor) p.parent.names ++ [name] ∧ fits name = true ∧ name ≠ ".." := by
  obtain ⟨anchor, names⟩ := p
  cases names using List.reverseRecOn with
  | nil => simp [slot] at h
  | append_singleton front name =>
    obtain ⟨_, hup, hfits, rfl⟩ := stands_of_slot h
    refine ⟨?_, name, by simp [FilePath.parent], hfits, hup⟩
    rw [placeOf, endOf_concat, onward_name hup]

/-- A tree after content has been written to a path: it is in its place, the folders on the way are there, and the rest is
as it was. -/
structure Wrote (t t' : FileTree) (p : FilePath) (content : String) : Prop where
  home : t'.home = t.home
  find? : ∀ q, t'.find? q =
    if q = t.placeOf p then some (.file (Text.Utf8.encode content))
    else if q ∈ way (t.origin p.anchor) p.parent.names ∧ t.find? q = none then some .folder
    else t.find? q

namespace Wrote

variable {p : FilePath} {content : String} {q : Place} {e : Entry}

theorem landed (h : t.Wrote t' p content) : t'.find? (t.placeOf p) = some (.file (Text.Utf8.encode content)) := by
  rw [h.find?, if_pos rfl]

theorem rest (h : t.Wrote t' p content) (hq : q ≠ t.placeOf p) :
    t'.find? q = t.find? q ∨
      t.find? q = none ∧ t'.find? q = some .folder ∧ q ∈ way (t.origin p.anchor) p.parent.names := by
  rw [h.find?, if_neg hq]
  split
  next hq => exact .inr ⟨hq.2, rfl, hq.1⟩
  next => exact .inl rfl

theorem kept (h : t.Wrote t' p content) (he : t.find? q = some e) (hq : q ≠ t.placeOf p) : t'.find? q = some e := by
  rw [h.find?, if_neg hq, if_neg (by simp [he]), he]

end Wrote

end FileTree

namespace Store

open FileTree (placeOf)

variable {s : Store} {t : FileTree} {check : Check} {p : FilePath} {content : String} {place : Place}

theorem temporaryName_ne (p : FilePath) (stamp : String) : temporaryName p stamp ≠ ".." := by
  intro h
  have hlen := congrArg String.length h
  rw [temporaryName] at hlen
  simp only [String.length_append] at hlen
  have htmp : ".tmp".length = 4 := rfl
  have hup : "..".length = 2 := rfl
  omega

/-- The first temporary name that is free in a folder, if it is not too long. -/
def vacancy? (t : FileTree) (place : Place) (p : FilePath) : List String → Option String
  | [] => none
  | stamp :: stamps =>
    if !FileTree.fits (temporaryName p stamp) then none
    else if (t.find? (place ++ [temporaryName p stamp])).isSome then vacancy? t place p stamps
    else some (temporaryName p stamp)

theorem vacancy?_eq_some {stamps : List String} {name : String} (h : vacancy? t place p stamps = some name) :
    t.find? (place ++ [name]) = none ∧ FileTree.fits name = true ∧ name ≠ ".." := by
  induction stamps with
  | nil => cases h
  | cons stamp stamps ih =>
    unfold vacancy? at h
    split at h
    next => cases h
    next hfits =>
      split at h
      next => exact ih h
      next hfree =>
        cases h
        exact ⟨by simpa using hfree, by simpa using hfits, temporaryName_ne p stamp⟩

/-- Content is staged under the first free name in a folder. -/
theorem stage_eq {anchor : Anchor} (bytes : Text.Bytes) (h : t.Sound) (hp : t.find? place = some .folder)
    (ha : anchor ≠ .relative) (stamps : List String) :
    match vacancy? t place p stamps with
    | some name => stage t ⟨anchor, place⟩ p bytes stamps =
        .ok (⟨anchor, place ++ [name]⟩, t.set (place ++ [name]) (.file bytes))
    | none => ∃ r, stage t ⟨anchor, place⟩ p bytes stamps = .error r := by
  have horigin : t.origin anchor = [] := if_neg ha
  obtain ⟨hs, hend⟩ := h.stands hp
  rw [← horigin] at hs hend
  induction stamps with
  | nil => exact ⟨_, rfl⟩
  | cons stamp stamps ih =>
    have hslot : t.slot ⟨anchor, place ++ [temporaryName p stamp]⟩ = _ := FileTree.slot_of_stands hs
    rw [if_neg (temporaryName_ne p stamp), hend] at hslot
    cases hfits : FileTree.fits (temporaryName p stamp) with
    | false =>
      rw [hfits] at hslot
      simp [vacancy?, hfits, stage, FileTree.create, hslot]
    | true =>
      rw [hfits] at hslot
      cases hf : t.find? (place ++ [temporaryName p stamp]) with
      | none => simp [vacancy?, hfits, stage, FileTree.create, hslot, hf]
      | some e => simpa [vacancy?, hfits, stage, FileTree.create, hslot, hf] using ih

/-- The second half of writing: the folders are there, content is staged, checked and moved. -/
def complete (s : Store) (check : Check) (p : FilePath) (content : String) (t : FileTree) :
    Except WriteFailure Unit × Store :=
  match stage t (p.parent.inFull t.home) p (Text.Utf8.encode content) s.stamps with
  | .error r => (.error (refuse p r), { s with tree := t })
  | .ok (temporary, staged) =>
    match check content with
    | .error e => (.error e, { s with tree := staged.remove temporary })
    | .ok () =>
      match staged.move temporary p with
      | .error c =>
        (.error (refuse p ⟨c, [temporary.toString, p.toString]⟩), { s with tree := staged.remove temporary })
      | .ok t => (.ok (), { s with tree := t, written := s.written ++ [p] })

theorem write_eq (s : Store) (check : Check) (p : FilePath) (content : String) :
    s.write check p content =
      if p.parent.hasNul then (.error (.fault .value), s)
      else
        match s.tree.makeFolders p.parent with
        | (.error r, t) => (.error (refuse p r), { s with tree := t })
        | (.ok (), t) =>
          if p.hasNul then (.error (.fault .value), { s with tree := t }) else s.complete check p content t := rfl

/-- Content can be moved to a path whose folders are there: it passes its check, a temporary name is free, and no folder is
in its place. -/
structure Fit (s : Store) (check : Check) (p : FilePath) (content : String) (t : FileTree) : Prop where
  check : check content = .ok ()
  vacancy : vacancy? t (t.placeOf p.parent) p s.stamps ≠ none
  slot : ∃ dest, t.slot p = .ok (some dest) ∧ t.find? dest ≠ some .folder

/-- The anchor of the folder that content is staged in. -/
def fullAnchor (p : FilePath) : Anchor := if p.anchor = .relative then .root else p.anchor

theorem fullAnchor_ne (p : FilePath) : fullAnchor p ≠ .relative := by
  unfold fullAnchor
  split
  next => decide
  next h => exact h

theorem inFull_eq (hs : t.Sound) (p : FilePath) : p.inFull t.home = ⟨fullAnchor p, t.placeOf p⟩ := by
  rw [FilePath.inFull, hs.absolute_eq]
  rfl

section Staged

variable {name : String} {bytes : Text.Bytes}

/-- A tree with content staged under a free name. -/
structure Staged (t staged : FileTree) (temporary : Place) (bytes : Text.Bytes) : Prop where
  home : staged.home = t.home
  free : t.find? temporary = none
  find? : ∀ q, staged.find? q = if q = temporary then some (.file bytes) else t.find? q

theorem Staged.ne_nil {staged : FileTree} {temporary : Place} (h : Staged t staged temporary bytes) : temporary ≠ [] := by
  rintro rfl
  cases h.free

theorem Staged.stands {staged : FileTree} {temporary : Place} (h : Staged t staged temporary bytes) {names : List String}
    (hp : t.Stands place names) : staged.Stands place names :=
  hp.mono fun q hq => by
    rw [h.find?, if_neg, hq]
    rintro rfl
    rw [h.free] at hq
    cases hq

theorem staged_set (bytes : Text.Bytes) (hfree : t.find? (place ++ [name]) = none) :
    Staged t (t.set (place ++ [name]) (.file bytes)) (place ++ [name]) bytes :=
  ⟨rfl, hfree, fun _ => FileTree.find?_set (by simp)⟩

/-- The staged content is found under its temporary name. -/
theorem Staged.locate {staged : FileTree} (h : Staged t staged (place ++ [name]) bytes) (hs : t.Sound)
    (hp : t.find? place = some .folder) (hfits : FileTree.fits name = true) (hname : name ≠ "..") {anchor : Anchor}
    (ha : anchor ≠ .relative) :
    staged.locate ⟨anchor, place ++ [name]⟩ = .ok (place ++ [name], .file bytes) := by
  have horigin : staged.origin anchor = [] := if_neg ha
  obtain ⟨hstands, hend⟩ := hs.stands hp
  rw [FileTree.locate, FileTree.start_eq, horigin, FileTree.follow_append, FileTree.follow_of_stands (h.stands hstands),
    hend]
  simp [Except.bind, FileTree.follow, Entry.isFile, hname, hfits, h.find?]

/-- Taking the staged content away leaves what was there. -/
theorem Staged.remove {staged : FileTree} (h : Staged t staged (place ++ [name]) bytes) {temporary : FilePath}
    (hl : staged.locate temporary = .ok (place ++ [name], .file bytes)) :
    (staged.remove temporary).home = t.home ∧ ∀ q, (staged.remove temporary).find? q = t.find? q := by
  rw [FileTree.remove, hl]
  refine ⟨h.home, fun q => ?_⟩
  rw [FileTree.find?_erase h.ne_nil, h.find?]
  split
  next hq => rw [hq, h.free]
  next => rfl

/-- Moving the staged content puts it in its place, unless that is none or holds a folder. -/
theorem Staged.move {staged : FileTree} (h : Staged t staged (place ++ [name]) bytes) {temporary : FilePath}
    (hl : staged.locate temporary = .ok (place ++ [name], .file bytes))
    (hp : t.Stands (t.origin p.anchor) p.parent.names) :
    (∃ t' dest, staged.move temporary p = .ok t' ∧ t.slot p = .ok (some dest) ∧ t.find? dest ≠ some .folder ∧
        t'.home = t.home ∧ ∀ q, t'.find? q = if q = dest then some (.file bytes) else t.find? q) ∨
      (∃ c, staged.move temporary p = .error c) ∧ ∀ dest, t.slot p = .ok (some dest) → t.find? dest = some .folder := by
  have hslot : staged.slot p = t.slot p := FileTree.slot_congr hp h.home (h.stands hp)
  rw [FileTree.move, hl]
  simp only [hslot]
  cases hd : t.slot p with
  | error c => exact .inr ⟨⟨c, rfl⟩, by simp⟩
  | ok found =>
    cases found with
    | none => exact .inr ⟨⟨_, rfl⟩, by simp⟩
    | some dest =>
      have hne : dest ≠ [] := by
        obtain ⟨_, last, rfl, _⟩ := FileTree.placeOf_of_slot hd
        simp
      by_cases hf : t.find? dest = some .folder
      · have hf' : staged.find? dest = some .folder := by
          rw [h.find?, if_neg, hf]
          rintro rfl
          rw [h.free] at hf
          cases hf
        refine .inr ⟨⟨.folder, by simp [hf']⟩, ?_⟩
        rintro _ ⟨⟩
        exact hf
      · have hf' : staged.find? dest ≠ some .folder := by
          rw [h.find?]
          split
          next => simp
          next => exact hf
        refine .inl ⟨(staged.erase (place ++ [name])).set dest (.file bytes), dest, ?_, rfl, hf, h.home, fun q => ?_⟩
        · grind
        · rw [FileTree.find?_set hne, FileTree.find?_erase h.ne_nil, h.find?]
          split
          next => rfl
          next =>
            split
            next hq => rw [hq, h.free]
            next => rfl

end Staged

/-- Content that fits takes its place, and nothing else changes. -/
theorem complete_of_fit (hs : t.Sound) (hp : t.Stands (t.origin p.anchor) p.parent.names) (hfit : s.Fit check p content t) :
    ∃ t', s.complete check p content t = (.ok (), { s with tree := t', written := s.written ++ [p] }) ∧
      t'.home = t.home ∧ ∀ q, t'.find? q = if q = t.placeOf p then some (.file (Text.Utf8.encode content)) else t.find? q := by
  have hfolder : t.find? (t.placeOf p.parent) = some .folder := ((hs.origin p.anchor).endOf hp).find?
  obtain ⟨name, hname⟩ := Option.ne_none_iff_exists'.mp hfit.vacancy
  obtain ⟨hfree, hfits, hup⟩ := vacancy?_eq_some hname
  have hstage := stage_eq (p := p) (Text.Utf8.encode content) hs hfolder (fullAnchor_ne p.parent) s.stamps
  rw [hname] at hstage
  have hstaged := staged_set (Text.Utf8.encode content) hfree
  have hl := hstaged.locate hs hfolder hfits hup (fullAnchor_ne p.parent)
  obtain ⟨dest, hdest, hno⟩ := hfit.slot
  rcases hstaged.move hl hp with ⟨t', dest', hmove, hdest', _, hhome, hfind⟩ | ⟨_, hall⟩
  · obtain rfl : dest' = t.placeOf p := (FileTree.placeOf_of_slot hdest').1
    refine ⟨t', ?_, hhome, hfind⟩
    simp only [complete, inFull_eq hs, hstage, hfit.check, hmove]
  · exact absurd (hall dest hdest) hno

/-- Content that does not fit leaves everything as it was. -/
theorem complete_of_not_fit (hs : t.Sound) (hp : t.Stands (t.origin p.anchor) p.parent.names)
    (hfit : ¬ s.Fit check p content t) :
    ∃ e t', s.complete check p content t = (.error e, { s with tree := t' }) ∧
      t'.home = t.home ∧ (∀ q, t'.find? q = t.find? q) ∧ (check content = .error e ∨ ∃ r, e = .storage r) := by
  have hfolder : t.find? (t.placeOf p.parent) = some .folder := ((hs.origin p.anchor).endOf hp).find?
  have hstage := stage_eq (p := p) (Text.Utf8.encode content) hs hfolder (fullAnchor_ne p.parent) s.stamps
  cases hv : vacancy? t (t.placeOf p.parent) p s.stamps with
  | none =>
    rw [hv] at hstage
    obtain ⟨r, hr⟩ := hstage
    refine ⟨refuse p r, t, ?_, rfl, fun _ => rfl, .inr ⟨_, rfl⟩⟩
    simp only [complete, inFull_eq hs, hr]
  | some name =>
    rw [hv] at hstage
    obtain ⟨hfree, hfits, hup⟩ := vacancy?_eq_some hv
    have hstaged := staged_set (Text.Utf8.encode content) hfree
    have hl := hstaged.locate hs hfolder hfits hup (fullAnchor_ne p.parent)
    obtain ⟨hhome, hfind⟩ := hstaged.remove hl
    cases hc : check content with
    | error e =>
      refine ⟨e, _, ?_, hhome, hfind, .inl rfl⟩
      simp only [complete, inFull_eq hs, hstage, hc]
    | ok done =>
      rcases hstaged.move hl hp with ⟨t', dest, _, hdest, hno, _⟩ | ⟨⟨c, hmove⟩, _⟩
      · exact absurd ⟨hc, by simp [hv], dest, hdest, hno⟩ hfit
      · refine ⟨refuse p ⟨c, [FilePath.toString ⟨fullAnchor p.parent, t.placeOf p.parent ++ [name]⟩, p.toString]⟩, _, ?_,
          hhome, hfind, .inr ⟨_, rfl⟩⟩
        simp only [complete, inFull_eq hs, hstage, hc, hmove]

/-- Content can be written to a path: the folders are there or can be made, and then it fits. -/
structure Lands (s : Store) (check : Check) (p : FilePath) (content : String) : Prop where
  plain : p.hasNul = false
  way : s.tree.Open (s.tree.origin p.anchor) p.parent.names
  fit : s.Fit check p content (s.tree.makeFolders p.parent).2

theorem hasNul_parent (h : p.hasNul = false) : p.parent.hasNul = false := by
  rw [FilePath.hasNul, List.any_eq_false] at h ⊢
  exact fun name hname => h name (List.dropLast_subset _ hname)

theorem makeFolders_made (t : FileTree) (p : FilePath) :
    ((t.makeFolders p).1 = .ok () ↔ t.Open (t.origin p.anchor) p.names) ∧
      t.Made (t.makeFolders p).2 (t.reach (t.origin p.anchor) p.names) := by
  have h := FileTree.ensureFolders_made t p.anchor p.names.reverse
  rwa [List.reverse_reverse] at h

/-- Content lands where no folder is. -/
theorem Lands.not_folder (h : s.Lands check p content) : s.tree.find? (s.tree.placeOf p) ≠ some .folder := by
  obtain ⟨_, hmade⟩ := makeFolders_made s.tree p.parent
  obtain ⟨dest, hdest, hno⟩ := h.fit.slot
  obtain ⟨rfl, _⟩ := FileTree.placeOf_of_slot hdest
  have hplace : (s.tree.makeFolders p.parent).2.placeOf p = s.tree.placeOf p :=
    congrArg (FileTree.endOf · _) (hmade.origin p.anchor)
  exact fun hfolder => hno (hplace ▸ hmade.kept hfolder)

theorem write_of_lands (hs : s.tree.Sound) (h : s.Lands check p content) :
    ∃ t', s.write check p content = (.ok (), { s with tree := t', written := s.written ++ [p] }) ∧ t'.Sound ∧
      s.tree.Wrote t' p content := by
  obtain ⟨hok, hmade⟩ := makeFolders_made s.tree p.parent
  have hfit := h.fit
  have hok' := hok.mpr h.way
  generalize hm : s.tree.makeFolders p.parent = made at hmade hfit hok'
  obtain ⟨result, t⟩ := made
  dsimp only at hmade hfit hok'
  subst hok'
  have hs' : t.Sound := hs.made hmade
  have hreach := FileTree.reach_of_open h.way
  have hstands : t.Stands (t.origin p.anchor) p.parent.names := by
    rw [hmade.origin]
    exact hmade.stands h.way fun q hq => by
      rw [show (p.parent).anchor = p.anchor from rfl, hreach]
      exact hq
  obtain ⟨t', ht', hhome, hfind⟩ := complete_of_fit hs' hstands hfit
  have hplace : t.placeOf p = s.tree.placeOf p := congrArg (FileTree.endOf · _) (hmade.origin p.anchor)
  refine ⟨t', ?_, ?_, hhome.trans hmade.home, fun q => ?_⟩
  · rw [write_eq, hasNul_parent h.plain, hm]
    simp only [h.plain, ht', if_false, Bool.false_eq_true]
  · obtain ⟨dest, hdest, hno⟩ := hfit.slot
    obtain ⟨hd, name, hsplit, hfits, hname⟩ := FileTree.placeOf_of_slot hdest
    rw [← hd, hsplit] at hfind
    exact hs'.file ((hs'.origin p.anchor).endOf hstands).find? hfits hname (hsplit ▸ hno) hhome hfind
  · rw [hfind, hplace, hmade.find?, show (p.parent).anchor = p.anchor from rfl, hreach]

theorem write_of_not_lands (hs : s.tree.Sound) (h : ¬ s.Lands check p content) :
    ∃ e t', s.write check p content = (.error e, { s with tree := t' }) ∧ t'.Sound ∧
      ∃ places, s.tree.Made t' places ∧ places ⊆ s.tree.reach (s.tree.origin p.anchor) p.parent.names ∧
        (p.hasNul = false → places = s.tree.reach (s.tree.origin p.anchor) p.parent.names ∧
          (check content = .error e ∨ ∃ r, e = .storage r)) := by
  obtain ⟨hok, hmade⟩ := makeFolders_made s.tree p.parent
  rw [write_eq]
  cases hnul : p.parent.hasNul with
  | true =>
    refine ⟨_, s.tree, rfl, hs, [], .refl (by simp), List.nil_subset _, fun hplain => ?_⟩
    rw [hasNul_parent hplain] at hnul
    cases hnul
  | false =>
    generalize hm : s.tree.makeFolders p.parent = made at hmade hok
    obtain ⟨result, t⟩ := made
    dsimp only at hmade hok
    have hs' : t.Sound := hs.made hmade
    cases result with
    | error r => exact ⟨_, t, rfl, hs', _, hmade, List.Subset.refl _, fun _ => ⟨rfl, .inr ⟨_, rfl⟩⟩⟩
    | ok done =>
      have hopen := hok.mp rfl
      cases hplain : p.hasNul with
      | true => exact ⟨_, t, rfl, hs', _, hmade, List.Subset.refl _, fun hno => absurd hno (by simp)⟩
      | false =>
        have hstands : t.Stands (t.origin p.anchor) p.parent.names := by
          rw [hmade.origin]
          exact hmade.stands hopen fun q hq => by
            rw [FileTree.reach_of_open hopen]
            exact hq
        have hfit : ¬ s.Fit check p content t := fun hfit => h ⟨hplain, hopen, by rw [hm]; exact hfit⟩
        obtain ⟨e, t', ht', hhome, hfind, hwhy⟩ := complete_of_not_fit hs' hstands hfit
        have hmade' : s.tree.Made t' _ := ⟨hhome.trans hmade.home, fun q => (hfind q).trans (hmade.find? q)⟩
        exact ⟨e, t', by simpa using ht', hs'.congr hhome hfind, _, hmade', List.Subset.refl _, fun _ => ⟨rfl, hwhy⟩⟩

/-- What lands in a store also lands in another one where the same folders can be made, a temporary name is free as well, and
no folder is in its place. -/
theorem Lands.transfer {a b : Store} (h : a.Lands check p content) (hhome : b.tree.home = a.tree.home)
    (hreach : b.tree.reach (a.tree.origin p.anchor) p.parent.names = a.tree.reach (a.tree.origin p.anchor) p.parent.names)
    (hopen : b.tree.Open (a.tree.origin p.anchor) p.parent.names)
    (hvacancy : vacancy? (a.tree.makeFolders p.parent).2 (a.tree.placeOf p.parent) p a.stamps ≠ none →
      vacancy? (b.tree.makeFolders p.parent).2 (a.tree.placeOf p.parent) p b.stamps ≠ none)
    (hplace : (b.tree.makeFolders p.parent).2.find? (a.tree.placeOf p) = some .folder →
      (a.tree.makeFolders p.parent).2.find? (a.tree.placeOf p) = some .folder) : b.Lands check p content := by
  have horigin : b.tree.origin p.anchor = a.tree.origin p.anchor := by rw [FileTree.origin, FileTree.origin, hhome]
  obtain ⟨_, hmadeA⟩ := makeFolders_made a.tree p.parent
  obtain ⟨_, hmadeB⟩ := makeFolders_made b.tree p.parent
  rw [show (p.parent).anchor = p.anchor from rfl] at hmadeA hmadeB
  rw [horigin, hreach] at hmadeB
  have hfit := h.fit
  refine ⟨h.plain, horigin ▸ hopen, ?_⟩
  generalize (a.tree.makeFolders p.parent).2 = ma at hmadeA hfit hvacancy hplace
  generalize (b.tree.makeFolders p.parent).2 = mb at hmadeB hvacancy hplace
  have horiginA : ma.origin p.anchor = a.tree.origin p.anchor := hmadeA.origin _
  have horiginB : mb.origin p.anchor = a.tree.origin p.anchor := (hmadeB.origin _).trans horigin
  have hplaces (p' : FilePath) (hanchor : p'.anchor = p.anchor) :
      ma.placeOf p' = a.tree.placeOf p' ∧ mb.placeOf p' = a.tree.placeOf p' := by
    rw [placeOf, placeOf, placeOf, hanchor, horiginA, horiginB]
    exact ⟨rfl, rfl⟩
  have hway : ∀ q ∈ FileTree.way (a.tree.origin p.anchor) p.parent.names,
      q ∈ a.tree.reach (a.tree.origin p.anchor) p.parent.names := fun q hq => by
    rw [FileTree.reach_of_open h.way]
    exact hq
  have hslot : mb.slot p = ma.slot p := by
    refine FileTree.slot_congr ?_ (hmadeB.home.trans (hhome.trans hmadeA.home.symm)) ?_
    · rw [horiginA]
      exact hmadeA.stands h.way hway
    · rw [horiginA]
      exact hmadeB.stands hopen hway
  refine ⟨hfit.check, ?_, ?_⟩
  · rw [(hplaces p.parent rfl).2]
    refine hvacancy ?_
    rw [← (hplaces p.parent rfl).1]
    exact hfit.vacancy
  · obtain ⟨dest, hdest, hno⟩ := hfit.slot
    refine ⟨dest, by rw [hslot, hdest], fun hfolder => hno ?_⟩
    obtain ⟨rfl, _⟩ := FileTree.placeOf_of_slot hdest
    rw [(hplaces p rfl).1] at hfolder ⊢
    exact hplace hfolder

/-- What has been written has landed. -/
theorem wrote_of_ok {s' : Store} (hs : s.tree.Sound) (h : s.write check p content = (.ok (), s')) :
    s.Lands check p content ∧ s'.tree.Sound ∧ s.tree.Wrote s'.tree p content ∧ s'.written = s.written ++ [p] ∧
      s'.stamps = s.stamps := by
  by_cases hl : s.Lands check p content
  · obtain ⟨t', hw, hs', hwrote⟩ := write_of_lands hs hl
    rw [hw] at h
    cases h
    exact ⟨hl, hs', hwrote, rfl, rfl⟩
  · obtain ⟨e, t', hw, _⟩ := write_of_not_lands hs hl
    rw [hw] at h
    cases h

/-- Where nothing has been written only folders have been made. -/
theorem made_of_error {s' : Store} {e : WriteFailure} (hs : s.tree.Sound) (h : s.write check p content = (.error e, s')) :
    ¬ s.Lands check p content ∧ s'.tree.Sound ∧ s'.written = s.written ∧ s'.stamps = s.stamps ∧
      ∃ places, s.tree.Made s'.tree places ∧ places ⊆ s.tree.reach (s.tree.origin p.anchor) p.parent.names ∧
        (p.hasNul = false → places = s.tree.reach (s.tree.origin p.anchor) p.parent.names ∧
          (check content = .error e ∨ ∃ r, e = .storage r)) := by
  by_cases hl : s.Lands check p content
  · obtain ⟨t', hw, _⟩ := write_of_lands hs hl
    rw [hw] at h
    cases h
  · obtain ⟨e', t', hw, hs', hmade⟩ := write_of_not_lands hs hl
    rw [hw] at h
    cases h
    exact ⟨hl, hs', rfl, rfl, hmade⟩

end Store

end NoteSchema
