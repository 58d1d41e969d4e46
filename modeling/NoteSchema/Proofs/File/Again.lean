import NoteSchema.Proofs.File.Alike
import NoteSchema.Proofs.File.Growth

namespace NoteSchema

namespace FileTree

variable {t t' : FileTree} {place q : Place} {names : List String}

theorem not_file_of_mem_reach (h : q ∈ t.reach place names) : (t.find? q).any Entry.isFile = false := by
  induction names generalizing place with
  | nil => cases h
  | cons name names ih =>
    rw [reach] at h
    split at h
    next => cases h
    next hb =>
      rcases List.mem_append.mp h with h | h
      · unfold entered at h
        split at h
        next => cases h
        next hup =>
          obtain rfl := List.mem_singleton.mp h
          have hopen : fits name = true ∧ (t.find? (place ++ [name])).any Entry.isFile = false := by
            simpa [blocks, hup] using hb
          exact hopen.2
      · exact ih h

/-- A way is open as far as it was before where all folders that could be made on it are there and files are still files. -/
theorem reach_of_stood (hfolder : ∀ q ∈ t.reach place names, t'.find? q = some .folder)
    (hfile : ∀ q, (t.find? q).any Entry.isFile = true → (t'.find? q).any Entry.isFile = true) :
    t'.reach place names = t.reach place names ∧ (t'.Open place names ↔ t.Open place names) := by
  induction names generalizing place with
  | nil => exact ⟨rfl, .rfl⟩
  | cons name names ih =>
    rw [reach, reach, Open, Open]
    rw [reach] at hfolder
    cases hb : t.blocks place name with
    | true =>
      have hb' : t'.blocks place name = true := by
        simp only [blocks, Bool.and_eq_true, Bool.or_eq_true] at hb ⊢
        exact ⟨hb.1, hb.2.imp_right (hfile _)⟩
      simp [hb']
    | false =>
      rw [hb] at hfolder
      have hb' : t'.blocks place name = false := by
        by_cases hup : name = ".."
        · simp [blocks, hup]
        · have hthere : t'.find? (place ++ [name]) = some .folder :=
            hfolder _ (List.mem_append_left _ (by simp [entered, hup]))
          obtain ⟨hfits, _⟩ : fits name = true ∧ (t.find? (place ++ [name])).any Entry.isFile = false := by
            simpa [blocks, hup] using hb
          simp [blocks, hfits, hthere, Entry.isFile]
      obtain ⟨hreach, hopen⟩ := ih fun q hq => hfolder q (List.mem_append_right _ hq)
      rw [hb', hreach, hopen]
      exact ⟨rfl, .rfl⟩

end FileTree

theorem Text.Utf8.length_encode_append (s s' : String) :
    (encode (s ++ s')).length = (encode s).length + (encode s').length := by
  simp [encode, String.toList_append]

namespace Store

open FileTree (placeOf)

variable {s s' a b a' b' : Store} {t last : FileTree} {check : Check} {p : FilePath} {content : String} {place q : Place}
  {size : Nat} {stamps : List String}

/-- Stamps that are all of one length, one of which makes a name that nothing in a tree has. -/
structure Spare (t : FileTree) (size : Nat) (stamps : List String) : Prop where
  size : ∀ stamp ∈ stamps, (Text.Utf8.encode stamp).length = size
  free : ∃ stamp ∈ stamps, ∀ place p, t.find? (place ++ [temporaryName p stamp]) = none

theorem Spare.of_entries (hstamps : stamps ≠ []) (hsize : ∀ stamp ∈ stamps, (Text.Utf8.encode stamp).length = size)
    (h : ∀ entry ∈ t.entries, ∀ name ∈ entry.1.getLast?, name.toList.reverse.take 4 ≠ ".tmp".toList.reverse) :
    Spare t size stamps := by
  obtain ⟨stamp, hstamp⟩ := List.exists_mem_of_ne_nil stamps hstamps
  refine ⟨hsize, stamp, hstamp, fun place p => ?_⟩
  cases hfound : t.find? (place ++ [temporaryName p stamp]) with
  | none => rfl
  | some e =>
    rw [FileTree.find?, if_neg (by simp)] at hfound
    refine absurd ?_ (h _ (FileTree.mem_of_lookup hfound) (temporaryName p stamp) (by simp))
    simp [temporaryName]

/-- Where a stamp is spare content can be staged unless the temporary names are too long. -/
theorem Spare.vacant_iff (h : Spare last size stamps) (hlast : ∀ q, last.find? q = none → t.find? q = none) :
    vacancy? t place p stamps ≠ none ↔ (Text.Utf8.encode p.name).length + size + 6 ≤ FileTree.nameLimit := by
  obtain ⟨stamp, hstamp, hnone⟩ := h.free
  have hfree := hlast _ (hnone place p)
  have hsize := h.size
  clear h hnone
  induction stamps with
  | nil => cases hstamp
  | cons first rest ih =>
    have hfits : FileTree.fits (temporaryName p first) = true ↔
        (Text.Utf8.encode p.name).length + size + 6 ≤ FileTree.nameLimit := by
      have hpoint : (Text.Utf8.encode ".").length = 1 := by decide
      have hend : (Text.Utf8.encode ".tmp").length = 4 := by decide
      rw [FileTree.fits, decide_eq_true_eq, temporaryName]
      simp only [Text.Utf8.length_encode_append, hpoint, hend, hsize first List.mem_cons_self]
      omega
    rw [vacancy?]
    split
    next hlong =>
      have hlong' : ¬ FileTree.fits (temporaryName p first) = true := by simpa using hlong
      exact iff_of_false (by simp) (mt hfits.mpr hlong')
    next hshort =>
      have hshort' : FileTree.fits (temporaryName p first) = true := by simpa using hshort
      split
      next htaken =>
        have hrest : stamp ∈ rest := by
          refine (List.mem_cons.mp hstamp).resolve_left ?_
          rintro rfl
          simp [hfree] at htaken
        exact ih hrest fun stamp hs => hsize stamp (List.mem_cons_of_mem _ hs)
      next => exact iff_of_true (by simp) (hfits.mp hshort')

/-- What a write has been answered with, but for what the message of a refusal says. -/
inductive SameFate : Except WriteFailure Unit → Except WriteFailure Unit → Prop
  | done : SameFate (.ok ()) (.ok ())
  | refused (e e' : StorageError) : SameFate (.error (.storage e)) (.error (.storage e'))
  | broken (e : WriteFailure) (h : ∀ problem, e ≠ .storage problem) : SameFate (.error e) (.error e)

/-- A store that repeats what another one has done. The tree that this comes to is there from the beginning, except that the
files written so far hold what they have held at this point before. -/
structure Retraces (last : FileTree) (size : Nat) (a b : Store) : Prop where
  first : Kept last a
  second : Kept last b
  spare : Spare last size a.stamps
  spareAgain : Spare last size b.stamps
  written : b.written = a.written
  rest : ∀ q, q ∉ a.written.map last.placeOf → b.tree.find? q = last.find? q
  held : ∀ q ∈ a.written.map last.placeOf, ∃ content, a.tree.find? q = some (.file content) ∧
    b.tree.find? q = some (.file content)

namespace Retraces

variable {changed : Place → Prop}

/-- The second store has folders and files where the last tree has. -/
theorem alike (h : Retraces last size a b) (hgrows : a.tree.Grows changed last) (q : Place) :
    b.tree.find? q = last.find? q ∨
      ∃ content content', b.tree.find? q = some (.file content) ∧ last.find? q = some (.file content') := by
  by_cases hq : q ∈ a.written.map last.placeOf
  · obtain ⟨content, ha, hb⟩ := h.held q hq
    obtain ⟨content', hl, _⟩ := hgrows.file ha
    exact .inr ⟨content, content', hb, hl⟩
  · exact .inl (h.rest q hq)

theorem folder_iff (h : Retraces last size a b) (hgrows : a.tree.Grows changed last) :
    b.tree.find? q = some .folder ↔ last.find? q = some .folder := by
  rcases h.alike hgrows q with hsame | ⟨content, content', hb, hl⟩
  · rw [hsame]
  · simp [hb, hl]

theorem none_iff (h : Retraces last size a b) (hgrows : a.tree.Grows changed last) :
    b.tree.find? q = none ↔ last.find? q = none := by
  rcases h.alike hgrows q with hsame | ⟨content, content', hb, hl⟩
  · rw [hsame]
  · simp [hb, hl]

/-- The second store comes to the same tree. -/
theorem arrived (h : Retraces last size a b) (hlast : a.tree = last) (q : Place) : b.tree.find? q = last.find? q := by
  by_cases hq : q ∈ a.written.map last.placeOf
  · obtain ⟨content, ha, hb⟩ := h.held q hq
    rw [hb, ← hlast, ha]
  · exact h.rest q hq

theorem isFile (h : Retraces last size a b) (hgrows : a.tree.Grows changed last)
    (hq : (a.tree.find? q).any Entry.isFile = true) : (b.tree.find? q).any Entry.isFile = true := by
  obtain ⟨e, he, hfile⟩ := (Option.any_eq_true _ _).mp hq
  cases e with
  | folder => cases hfile
  | file content =>
    obtain ⟨content', hl, _⟩ := hgrows.file he
    rcases h.alike hgrows q with hsame | ⟨content, _, hb, _⟩
    · simp [hsame, hl, Entry.isFile]
    · simp [hb, Entry.isFile]

variable {result result' : Except WriteFailure Unit}

theorem stood (h : Retraces last size a b) (hmade : (a.tree.makeFolders p.parent).2.Grows changed last) :
    b.tree.reach (a.tree.origin p.anchor) p.parent.names = a.tree.reach (a.tree.origin p.anchor) p.parent.names ∧
      (b.tree.Open (a.tree.origin p.anchor) p.parent.names ↔ a.tree.Open (a.tree.origin p.anchor) p.parent.names) ∧
      ∀ q ∈ a.tree.reach (a.tree.origin p.anchor) p.parent.names, b.tree.find? q = some .folder := by
  obtain ⟨_, hfolders⟩ := makeFolders_made a.tree p.parent
  rw [show (p.parent).anchor = p.anchor from rfl] at hfolders
  have hgrows : a.tree.Grows _ last := (hfolders.grows _).trans hmade
  have hthere : ∀ q ∈ a.tree.reach (a.tree.origin p.anchor) p.parent.names, b.tree.find? q = some .folder := by
    intro q hq
    refine (h.folder_iff hgrows).mpr (hmade.folder (hfolders.folder hq fun content hfile => ?_))
    have hno := FileTree.not_file_of_mem_reach hq
    simp [hfile, Entry.isFile] at hno
  obtain ⟨hreach, hopen⟩ := FileTree.reach_of_stood hthere fun q hq => h.isFile hgrows hq
  exact ⟨hreach, hopen, hthere⟩

end Retraces

theorem makeFolders_grows (hs : s.tree.Sound) (hnul : p.parent.hasNul = false) (check : Check) (content : String) :
    (s.tree.makeFolders p.parent).2.Grows (fun _ => True) (s.write check p content).2.tree := by
  obtain ⟨hok, hmade⟩ := makeFolders_made s.tree p.parent
  rw [write_eq, hnul]
  generalize s.tree.makeFolders p.parent = made at hok hmade
  obtain ⟨result, t⟩ := made
  cases result with
  | error r => exact .refl _ _
  | ok done =>
    have hopen : s.tree.Open (s.tree.origin p.anchor) p.parent.names := hok.mp rfl
    cases hplain : p.hasNul with
    | true => exact .refl _ _
    | false =>
      have hs' : t.Sound := hs.made hmade
      have hstands : t.Stands (t.origin p.anchor) p.parent.names := by
        rw [hmade.origin]
        exact hmade.stands hopen fun q hq => by
          rw [show (p.parent).anchor = p.anchor from rfl, FileTree.reach_of_open hopen]
          exact hq
      simp only [Bool.false_eq_true, if_false]
      by_cases hfit : s.Fit check p content t
      · obtain ⟨t', ht', hhome, hfind⟩ := complete_of_fit hs' hstands hfit
        obtain ⟨dest, hdest, hno⟩ := hfit.slot
        obtain ⟨rfl, _⟩ := FileTree.placeOf_of_slot hdest
        rw [ht']
        refine ⟨hhome, fun {q} hq => ?_, fun {q bytes} hq => ?_⟩
        · have hne : q ≠ t.placeOf p := by
            rintro rfl
            exact hno hq
          rw [hfind, if_neg hne, hq]
        · rw [hfind]
          split
          next => exact ⟨_, rfl, .inl trivial⟩
          next => exact ⟨_, hq, .inl trivial⟩
      · obtain ⟨e, t', ht', hhome, hfind, _⟩ := complete_of_not_fit hs' hstands hfit
        rw [ht']
        exact ⟨hhome, fun hq => by rw [hfind, hq], fun hq => ⟨_, by rw [hfind, hq], .inl trivial⟩⟩

theorem error_of_write {e : WriteFailure} (hs : s.tree.Sound) (hnul : p.parent.hasNul = false)
    (hw : s.write Check.json p content = (.error e, s')) :
    (p.hasNul = true ∧ s.tree.Open (s.tree.origin p.anchor) p.parent.names ∧ e = .fault .value) ∨
      ¬ (p.hasNul = true ∧ s.tree.Open (s.tree.origin p.anchor) p.parent.names) ∧ ∃ problem, e = .storage problem := by
  cases hplain : p.hasNul with
  | false =>
    obtain ⟨_, _, _, _, _, _, _, hwhy⟩ := made_of_error hs hw
    refine .inr ⟨by simp, ?_⟩
    rcases (hwhy hplain).2 with hcheck | hstorage
    · unfold Check.json at hcheck
      split at hcheck
      next => cases hcheck
      next =>
        cases hcheck
        exact ⟨_, rfl⟩
    · exact hstorage
  | true =>
    obtain ⟨hok, _⟩ := makeFolders_made s.tree p.parent
    rw [write_eq, hnul, hplain] at hw
    generalize s.tree.makeFolders p.parent = made at hok hw
    obtain ⟨result, t⟩ := made
    cases result with
    | error r =>
      cases hw
      exact .inr ⟨fun hopen => absurd (hok.mpr hopen.2) (by simp), _, rfl⟩
    | ok done =>
      cases hw
      exact .inl ⟨rfl, hok.mp rfl, rfl⟩

namespace Retraces

variable {changed : Place → Prop} {result result' : Except WriteFailure Unit} {e e' : WriteFailure}

/-- Where the second store finds the folders of a path, making them again changes nothing. -/
theorem makes_nothing (h : Retraces last size a b) (hmade : (a.tree.makeFolders p.parent).2.Grows changed last) (q : Place) :
    (b.tree.makeFolders p.parent).2.find? q = b.tree.find? q := by
  obtain ⟨hreach, _, hthere⟩ := h.stood hmade
  obtain ⟨_, hfolders⟩ := makeFolders_made b.tree p.parent
  have horigin : b.tree.origin p.anchor = a.tree.origin p.anchor := by rw [h.first.origin, h.second.origin]
  rw [show (p.parent).anchor = p.anchor from rfl, horigin, hreach] at hfolders
  rw [hfolders.find?, if_neg]
  rintro ⟨hq, hnone⟩
  rw [hthere q hq] at hnone
  cases hnone

/-- What has landed the first time lands again, and nothing else does. -/
theorem lands_iff (h : Retraces last size a b) (hmade : (a.tree.makeFolders p.parent).2.Grows (fun _ => True) last)
    (hw : a.write check p content = (result, a')) (hgrows : a'.tree.Grows changed last) :
    a.Lands check p content ↔ b.Lands check p content := by
  obtain ⟨hreach, hopen, _⟩ := h.stood hmade
  have hnothing := h.makes_nothing hmade
  have hfolders := (makeFolders_made a.tree p.parent).2
  have hstart : a.tree.Grows _ last := (hfolders.grows _).trans hmade
  have hhome : b.tree.home = a.tree.home := h.second.home.trans h.first.home.symm
  have horigin : b.tree.origin p.anchor = a.tree.origin p.anchor := by rw [h.first.origin, h.second.origin]
  have hplace (p' : FilePath) : b.tree.placeOf p' = a.tree.placeOf p' := by rw [h.first.placeOf, h.second.placeOf]
  have hvacant (place : Place) : vacancy? (a.tree.makeFolders p.parent).2 place p a.stamps ≠ none ↔
      vacancy? (b.tree.makeFolders p.parent).2 place p b.stamps ≠ none := by
    rw [h.spare.vacant_iff, h.spareAgain.vacant_iff]
    · exact fun q hq => by rw [hnothing, (h.none_iff hstart).mpr hq]
    · exact fun q hq => by
        by_contra hne
        exact hmade.ne_none hne hq
  constructor
  · intro hlands
    obtain ⟨t', ht', _, hwrote⟩ := write_of_lands h.first.sound hlands
    obtain rfl := (Prod.mk.inj (ht'.symm.trans hw)).2
    refine hlands.transfer hhome hreach (hopen.mpr hlands.way) (hvacant _).mp fun hfolder => ?_
    -- the first write has put a file there, and it has stayed
    obtain ⟨_, hfile, _⟩ := hgrows.file (q := a.tree.placeOf p) hwrote.landed
    rw [hnothing, h.folder_iff hstart, hfile] at hfolder
    cases hfolder
  · intro hlands
    have hway : a.tree.Open (a.tree.origin p.anchor) p.parent.names := hopen.mp (horigin ▸ hlands.way)
    refine hlands.transfer hhome.symm ?_ (horigin ▸ hway) (hvacant _).mpr fun hfolder => ?_
    · rw [horigin, hreach]
    · rw [hplace] at hfolder ⊢
      rw [hnothing, h.folder_iff hstart]
      exact hmade.folder hfolder

theorem refused (h : Retraces last size a b) (hmade : (a.tree.makeFolders p.parent).2.Grows changed last)
    (hw : a.write check p content = (.error e, a')) (hw' : b.write check p content = (.error e', b')) :
    Retraces last size a' b' := by
  obtain ⟨hreach, _, hthere⟩ := h.stood hmade
  obtain ⟨_, hs, hwritten, hstamps, _, hfolders, _⟩ := made_of_error h.first.sound hw
  obtain ⟨_, hs', hwritten', hstamps', _, hfolders', hplaces, _⟩ := made_of_error h.second.sound hw'
  have horigin : b.tree.origin p.anchor = a.tree.origin p.anchor := by rw [h.first.origin, h.second.origin]
  have hsame (q : Place) : b'.tree.find? q = b.tree.find? q := by
    rw [hfolders'.find?, if_neg]
    rintro ⟨hq, hnone⟩
    rw [hthere q (by rw [← hreach, ← horigin]; exact hplaces hq)] at hnone
    cases hnone
  refine ⟨⟨hs, hfolders.home.trans h.first.home⟩, ⟨hs', hfolders'.home.trans h.second.home⟩, hstamps ▸ h.spare,
    hstamps' ▸ h.spareAgain, ?_, fun q hq => ?_, fun q hq => ?_⟩
  · rw [hwritten', hwritten, h.written]
  · rw [hwritten] at hq
    rw [hsame, h.rest q hq]
  · rw [hwritten] at hq
    obtain ⟨content, ha, hb⟩ := h.held q hq
    exact ⟨content, hfolders.kept ha, (hsame q).trans hb⟩

theorem landed (h : Retraces last size a b) (hmade : (a.tree.makeFolders p.parent).2.Grows changed last)
    (hw : a.write check p content = (.ok (), a')) (hw' : b.write check p content = (.ok (), b')) :
    Retraces last size a' b' := by
  obtain ⟨hlands, hs, hwrote, hwritten, hstamps⟩ := wrote_of_ok h.first.sound hw
  obtain ⟨_, hs', hwrote', hwritten', hstamps'⟩ := wrote_of_ok h.second.sound hw'
  obtain ⟨_, _, hthere⟩ := h.stood hmade
  rw [FileTree.reach_of_open hlands.way] at hthere
  have horigin : b.tree.origin p.anchor = a.tree.origin p.anchor := by rw [h.first.origin, h.second.origin]
  have hrest {q : Place} (hq : q ≠ last.placeOf p) : b'.tree.find? q = b.tree.find? q := by
    rw [hwrote'.find?, h.second.placeOf, if_neg hq, horigin, if_neg]
    rintro ⟨hin, hnone⟩
    rw [hthere q hin] at hnone
    cases hnone
  refine ⟨⟨hs, hwrote.home.trans h.first.home⟩, ⟨hs', hwrote'.home.trans h.second.home⟩, hstamps ▸ h.spare,
    hstamps' ▸ h.spareAgain, ?_, fun q hq => ?_, fun q hq => ?_⟩
  · rw [hwritten', hwritten, h.written]
  · rw [hwritten, List.map_append, List.mem_append, not_or] at hq
    rw [hrest (by simpa using hq.2), h.rest q hq.1]
  · by_cases hp : q = last.placeOf p
    · refine ⟨Text.Utf8.encode content, ?_, ?_⟩
      · rw [hwrote.find?, h.first.placeOf, if_pos hp]
      · rw [hwrote'.find?, h.second.placeOf, if_pos hp]
    · rw [hwritten, List.map_append, List.mem_append] at hq
      obtain ⟨bytes, ha, hb⟩ := h.held q (hq.resolve_right (by simpa using hp))
      exact ⟨bytes, hwrote.kept ha (h.first.placeOf p ▸ hp), (hrest hp).trans hb⟩

/-- Writing the same again has the same fate, and keeps the second store repeating the first. -/
theorem write (h : Retraces last size a b) (hw : a.write Check.json p content = (result, a'))
    (hw' : b.write Check.json p content = (result', b')) (hgrows : a'.tree.Grows changed last) :
    SameFate result result' ∧ Retraces last size a' b' := by
  cases hnul : p.parent.hasNul with
  | true =>
    rw [write_eq, hnul] at hw hw'
    cases hw
    cases hw'
    exact ⟨.broken _ (by simp), h⟩
  | false =>
    have hmade : (a.tree.makeFolders p.parent).2.Grows (fun _ => True) last := by
      have hfirst := makeFolders_grows h.first.sound hnul Check.json content
      rw [hw] at hfirst
      exact hfirst.trans (hgrows.mono fun _ _ => trivial)
    have hlands := h.lands_iff hmade hw hgrows
    cases result with
    | ok done =>
      obtain ⟨t', ht', _⟩ := write_of_lands h.second.sound (hlands.mp (wrote_of_ok h.first.sound hw).1)
      rw [ht'] at hw'
      cases hw'
      exact ⟨.done, h.landed hmade hw ht'⟩
    | error e =>
      cases result' with
      | ok done => exact absurd (hlands.mpr (wrote_of_ok h.second.sound hw').1) (made_of_error h.first.sound hw).1
      | error e' =>
        refine ⟨?_, h.refused hmade hw hw'⟩
        obtain ⟨_, hopen, _⟩ := h.stood hmade
        have horigin : b.tree.origin p.anchor = a.tree.origin p.anchor := by rw [h.first.origin, h.second.origin]
        have hwhy := error_of_write h.first.sound hnul hw
        have hwhy' := error_of_write h.second.sound hnul hw'
        rw [horigin, hopen] at hwhy'
        rcases hwhy with ⟨hplain, hway, rfl⟩ | ⟨hno, _, rfl⟩
        · rcases hwhy' with ⟨_, _, rfl⟩ | ⟨hno, _⟩
          · exact .broken _ (by simp)
          · exact absurd ⟨hplain, hway⟩ hno
        · rcases hwhy' with ⟨hplain, hway, _⟩ | ⟨_, _, rfl⟩
          · exact absurd ⟨hplain, hway⟩ hno
          · exact .refused _ _

theorem marks_cons {x y : Except WriteFailure Released}
    (h : y.map (·.map fun m => (m.1, m.2.isSome)) = x.map (·.map fun m => (m.1, m.2.isSome)))
    {m m' : FilePath × Option StorageError} (hm : (m'.1, m'.2.isSome) = (m.1, m.2.isSome)) :
    (y.map (m' :: ·)).map (·.map fun m => (m.1, m.2.isSome)) = (x.map (m :: ·)).map (·.map fun m => (m.1, m.2.isSome)) := by
  cases x <;> cases y <;> simp_all [Except.map]

/-- Writing the same enumerations again has the same fate for each, and keeps the second store repeating the first. -/
theorem enumerations (h : Retraces last size a b) (base : String) (todo : List (FilePath × Enumeration))
    (hgrows : (a.writeEnumerations base todo).2.tree.Grows (fun _ => True) last) :
    (b.writeEnumerations base todo).1.map (·.map fun m => (m.1, m.2.isSome)) =
        (a.writeEnumerations base todo).1.map (·.map fun m => (m.1, m.2.isSome)) ∧
      Retraces last size (a.writeEnumerations base todo).2 (b.writeEnumerations base todo).2 := by
  induction todo generalizing a b with
  | nil => exact ⟨rfl, h⟩
  | cons m rest ih =>
    obtain ⟨destination, e⟩ := m
    obtain ⟨⟨result, a₁⟩, hw⟩ : ∃ x, a.writeDocument destination (e.toDocument base) = x := ⟨_, rfl⟩
    obtain ⟨⟨result', b₁⟩, hw'⟩ : ∃ x, b.writeDocument destination (e.toDocument base) = x := ⟨_, rfl⟩
    have hlater : a₁.tree.Grows (fun _ => True) (a₁.writeEnumerations base rest).2.tree :=
      grows_enumerations (sound_of_write h.first.sound hw) base rest
    simp only [writeEnumerations, Writer.release, hw, hw'] at hgrows ⊢
    have hfirst : a₁.tree.Grows (fun _ => True) last := by
      cases result with
      | ok done => exact hlater.trans hgrows
      | error failure =>
        cases failure with
        | storage problem => exact hlater.trans hgrows
        | unreadable e => exact hgrows
        | fault f => exact hgrows
    obtain ⟨hfate, hnext⟩ := h.write hw hw' hfirst
    cases hfate with
    | done =>
      obtain ⟨hsame, hlast⟩ := ih hnext hgrows
      exact ⟨marks_cons hsame rfl, hlast⟩
    | refused problem problem' =>
      obtain ⟨hsame, hlast⟩ := ih hnext hgrows
      exact ⟨marks_cons hsame rfl, hlast⟩
    | broken failure hother =>
      cases failure with
      | storage problem => exact absurd rfl (hother problem)
      | unreadable e => exact ⟨rfl, hnext⟩
      | fault f => exact ⟨rfl, hnext⟩

end Retraces

end Store

end NoteSchema
