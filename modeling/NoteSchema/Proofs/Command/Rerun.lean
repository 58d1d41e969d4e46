import NoteSchema.Proofs.Command.Again
import NoteSchema.Proofs.Command.Sources
import NoteSchema.Proofs.File.Journal
import NoteSchema.Proofs.File.Rewritten
import NoteSchema.Proofs.File.Unseen

namespace NoteSchema

namespace Layout

variable {l : Layout} {t t' : FileTree} {p : FilePath} {here : Location} {text name : String}

def isSourceName (name : String) : Bool := Text.small (FilePath.suffix ⟨.relative, [name]⟩) == sourceSuffix

theorem not_source_of_suffix {ending : List Char} (hpoint : '.' ∉ ending) (hne : ending ≠ []) {start : List Char}
    (hstart : start ≠ []) (hending : Text.small (String.ofList ('.' :: ending)) ≠ sourceSuffix) :
    isSourceName (String.ofList (start ++ '.' :: ending)) = false := by
  rw [isSourceName, FilePath.suffix_of_ending hpoint hne hstart]
  simpa using hending

theorem not_source_of_document (start : String) : isSourceName (start ++ ".json") = false := by
  by_cases hstart : start.toList = []
  · have hempty : start = "" := String.toList_eq_nil_iff.mp hstart
    subst hempty
    decide
  · have hname : start ++ ".json" = String.ofList (start.toList ++ '.' :: "json".toList) := by
      rw [← String.toList_inj]
      simp
    rw [hname]
    exact not_source_of_suffix (by decide) (by decide) hstart (by decide)

theorem not_source_of_temporary (p : FilePath) (stamp : String) : isSourceName (Store.temporaryName p stamp) = false := by
  have hname : Store.temporaryName p stamp =
      String.ofList (('.' :: (p.name.toList ++ '.' :: stamp.toList)) ++ '.' :: "tmp".toList) := by
    rw [← String.toList_inj]
    simp [Store.temporaryName]
  rw [hname]
  exact not_source_of_suffix (by decide) (by decide) (by simp) (by decide)

/-- The sources of a corpus are told by what is seen of the files that have the names of sources. -/
theorem sources_of_shown {root : Place} (hroot : t.locate l.root = .ok (root, .folder))
    (hroot' : t'.locate l.root = .ok (root, .folder))
    (h : FileTree.shown isSourceName t'.entries = FileTree.shown isSourceName t.entries) : l.sources t' = l.sources t := by
  have hunseen (found : FileTree.Found) (hno : (found.2.isFile && isSourceName (found.1.getLast?.getD "")) = false) :
      (FileTree.kindBelow root (FileTree.kind found)).bind l.sourceAt? = none := by
    rw [FileTree.kindBelow, FileTree.kind]
    cases hnames : FilePath.below? root found.1 with
    | none => rfl
    | some names =>
      rcases names with _ | ⟨segment, _ | ⟨folder, _ | ⟨name, more⟩⟩⟩
      · rfl
      · rfl
      · rfl
      · rw [FilePath.eq_append_of_below? hnames, List.getLast?_append_of_ne_nil _ (List.cons_ne_nil _ _),
          List.getLast?_cons_cons, List.getLast?_cons_cons, isSourceName] at hno
        simp [sourceAt?, hno]
  have hshown {t : FileTree} (hroot : t.locate l.root = .ok (root, .folder)) :
      ((t.below l.root).map FileTree.kind).filterMap l.sourceAt? = (FileTree.shown isSourceName t.entries).filterMap
        fun found => (FileTree.kindBelow root (FileTree.kind found)).bind l.sourceAt? := by
    rw [FileTree.filterMap_shown hunseen, FileTree.map_kind_below_eq hroot, List.filterMap_map, List.filterMap_filterMap]
    rfl
  rw [sources_eq, sources_eq, hshown hroot, hshown hroot', h]

/-- A source that has a location and can be read lies in a folder. -/
theorem folder_of_read (hs : t.Sound) (hcwd : l.cwd = t.home) (hplace : l.locationOf p = .ok here)
    (htext : t.readText p = .ok text) : t.find? (t.placeOf l.root) = some .folder := by
  obtain ⟨bytes, hread⟩ : ∃ bytes, t.read p = .ok bytes := by
    unfold FileTree.readText at htext
    split at htext
    next => cases htext
    next bytes hread => exact ⟨bytes, hread⟩
  obtain ⟨_, hfound⟩ := FileTree.placeOf_of_locate (Store.locate_of_read hread)
  obtain ⟨name, hnames⟩ := absolute_of_locationOf hplace
  rw [hcwd, hs.absolute_eq, hs.absolute_eq] at hnames
  have hplace' : t.placeOf p = (t.placeOf l.root ++ here.segment :: sourceFolder :: here.subpath) ++ [name] := by
    rw [List.append_assoc]
    exact hnames
  rw [hplace'] at hfound
  exact hs.standing (hs.above hfound).1 _ (List.prefix_append _ _)

end Layout

namespace Command

namespace Compile

open Work (Again Echo Repeatable)

variable {P : FilePath → Prop} {s : Settings} {l : Layout} {t last : FileTree} {stamps stamps' files : List String}
  {r : Run} {start : Store} {size : Nat} {p : FilePath}

theorem keepsTo_work (files : List String) (ha : ∀ m ∈ notesRead s l (sourcesOf l r.store.tree files) r, Aims P s l m)
    (h : KeepsTo P start r) :
    KeepsTo P start (Work.reached (work s l files r)) := by
  rcases work_eq s l files r with ⟨refusal, hwork, _⟩ | ⟨hwork, _⟩
  · rw [hwork]
    exact h
  · have hsources := keepsTo_sources ha h
    rw [hwork]
    cases hs : (sourcesOf l r.store.tree files).forM (source s l) r with
    | ok _ r' =>
      rw [hs] at hsources
      rw [Work.bind_of_ok _ hs]
      exact keepsTo_release hsources
    | error e r' =>
      rw [hs] at hsources
      rw [Work.bind_of_error _ hs]
      exact hsources

/-- Where no source can be read nothing is written. -/
theorem store_of_idle (s : Settings) (files : List String)
    (hidle : ∀ p ∈ sourcesOf l r.store.tree files, ∀ here text, l.locationOf p = .ok here → r.store.tree.readText p ≠ .ok text)
    (hpending : r.pending.entries = []) : (Work.reached (work s l files r)).store = r.store := by
  rcases work_eq s l files r with ⟨refusal, hwork, _⟩ | ⟨hwork, _⟩
  · rw [hwork]
    rfl
  · have hsources : (Work.reached ((sourcesOf l r.store.tree files).forM (source s l) r)).store = r.store ∧
        (Work.reached ((sourcesOf l r.store.tree files).forM (source s l) r)).pending = r.pending := by
      refine Work.reached_forM (P := fun r' => r'.store = r.store ∧ r'.pending = r.pending) (fun p hp r' hr' => ?_) ⟨rfl, rfl⟩
      have hturn := sourceTurn s l p r'
      generalize source s l p r' = result at hturn ⊢
      cases hturn with
      | misplaced => exact hr'
      | unreadable => exact hr'
      | unmarked => exact hr'
      | read hplace htext => exact absurd (hr'.1 ▸ htext) (hidle p hp _ _ hplace)
    rw [hwork]
    cases hs : (sourcesOf l r.store.tree files).forM (source s l) r with
    | error e r' =>
      rw [hs] at hsources
      rw [Work.bind_of_error _ hs]
      exact hsources.1
    | ok _ r' =>
      rw [hs] at hsources
      obtain ⟨hstore, hsame⟩ : r'.store = r.store ∧ r'.pending = r.pending := hsources
      have htodo : todo r' = [] := by simp [todo, Pending.inOrder, hsame, hpending]
      rw [Work.bind_of_ok _ hs, ← hstore]
      have hturn := releaseTurn s l r'
      generalize release s l r' = result at hturn ⊢
      cases hturn with
      | closed => rfl
      | released _ hreleased =>
        rw [htodo] at hreleased
        cases hreleased
        rfl
      | broken _ hbroken =>
        rw [htodo] at hbroken
        cases hbroken

/-- What is in the place of a source is no document. -/
theorem not_touched_of_source {front : Place} {name : String} (h : Layout.isSourceName name = true) :
    ¬ Store.Touched IsDocument t (front ++ [name]) := by
  rintro ⟨d, ⟨above, start, hnames⟩, hplace⟩
  have hup : start ++ ".json" ≠ ".." := (FilePath.ne_of_long (by decide) start).2.2
  rw [FileTree.placeOf, hnames, FileTree.endOf_concat, FileTree.onward_name hup] at hplace
  obtain ⟨_, rfl⟩ := List.append_singleton_inj.mp hplace
  rw [Layout.not_source_of_document] at h
  cases h

/-- What is named leads to files that have the names of sources. -/
def NamesSources (t : FileTree) (files : List String) : Prop :=
  ∀ f ∈ files, ∃ front name content, t.locate (FilePath.ofString f) = .ok (front ++ [name], .file content) ∧
    Layout.isSourceName name = true

/-- Where nothing but documents is written the sources stay as they are. -/
theorem lasting_of_mem (hs : t.Sound) (hgrown : t.Grows (Store.Touched IsDocument t) last) (hfiles : NamesSources t files)
    (hp : p ∈ sourcesOf l t files) : Lasting IsDocument { tree := t, stamps } last p := by
  have hlasting {front : Place} {name : String} {e : Entry} (hlocate : t.locate p = .ok (front ++ [name], e))
      (hname : Layout.isSourceName name = true) : Lasting IsDocument { tree := t, stamps } last p :=
    ⟨_, e, hlocate, hgrown.locate hlocate (not_touched_of_source hname), not_touched_of_source hname⟩
  unfold sourcesOf at hp
  split at hp
  next =>
    obtain ⟨front, name, e, hlocate, hsuffix⟩ := Layout.locate_of_mem_sources hs hp
    exact hlasting hlocate (by simpa [Layout.isSourceName] using hsuffix)
  next =>
    obtain ⟨f, hf, rfl⟩ := List.mem_map.mp (List.mem_mergeSort.mp hp)
    obtain ⟨front, name, content, hlocate, hname⟩ := hfiles f hf
    exact hlasting hlocate hname

theorem keepsTo_start (P : FilePath → Prop) (e : Bool) (t : FileTree) (stamps : List String) :
    KeepsTo P { tree := t, stamps } (Run.start "compile" e t stamps) :=
  ⟨.refl _, by simp [Run.start]⟩

theorem sources_left (hs : t.Sound) (s : Settings) (l : Layout) (files : List String) (e : Bool) (stamps : List String)
    (hlast : (Work.reached (work s l files (Run.start "compile" e t stamps))).store.tree = last) :
    sourcesOf l last files = sourcesOf l t files ∧ (files = [] → l.barred? last = l.barred? t) := by
  by_cases hnone : files = []
  · subst hnone
    by_cases hroot : ∃ root, t.locate l.root = .ok (root, .folder)
    · obtain ⟨root, hroot⟩ := hroot
      have hkept := keepsTo_work [] (fun m _ => aims_document s l m) (keepsTo_start IsDocument e t stamps)
      obtain ⟨_, hgrown⟩ := hkept.store.grows hs
      have hshown := hkept.store.shown Layout.isSourceName
        (fun p ⟨front, start, hnames⟩ => ⟨front, _, hnames, Layout.not_source_of_document start⟩)
        Layout.not_source_of_temporary
      rw [hlast] at hgrown hshown
      have hroot' : last.locate l.root = .ok (root, .folder) := by
        refine FileTree.locate_of_stays hroot hgrown.home (fun _ hq => hgrown.folder hq) fun content hfile => ?_
        rw [(hs.find?_of_locate hroot).2] at hfile
        cases hfile
      refine ⟨?_, fun _ => by rw [Layout.barred?, Layout.barred?, hroot, hroot']⟩
      rw [sourcesOf, sourcesOf, if_pos rfl, if_pos rfl]
      exact Layout.sources_of_shown hroot hroot' hshown
    · have hempty : l.sources t = [] := by
        have hbelow : t.below l.root = [] := by
          unfold FileTree.below
          split
          next root hlocate => exact absurd ⟨root, hlocate⟩ hroot
          next => rfl
        simp [Layout.sources, Layout.listing, hbelow]
      have hidle := store_of_idle (l := l) (r := Run.start "compile" e t stamps) s []
        (fun p hp => by simp [sourcesOf, Run.start, hempty] at hp) rfl
      have hsame : last = t := by rw [← hlast, hidle]; rfl
      exact ⟨by rw [hsame], fun _ => by rw [hsame]⟩
  · exact ⟨by rw [sourcesOf, sourcesOf, if_neg hnone, if_neg hnone], fun h => absurd h hnone⟩

/-- Compiling again ends as before. -/
theorem work_again (hs : t.Sound) (hfiles : NamesSources t files) (s : Settings) (l : Layout) (e : Bool)
    (hlast : (Work.reached (work s l files (Run.start "compile" e t stamps))).store.tree = last)
    (hspare : Store.Spare last size stamps) (hspareAgain : Store.Spare last size stamps') :
    Echo last size (work s l files (Run.start "compile" e t stamps))
      (work s l files (Run.start "compile" e last stamps')) := by
  have hkept := keepsTo_work files (fun m _ => aims_document s l m) (keepsTo_start IsDocument e t stamps)
  obtain ⟨hsound, hgrown⟩ := hkept.store.grows hs
  rw [hlast] at hsound hgrown
  have hagain : Again last size (Run.start "compile" e t stamps) (Run.start "compile" e last stamps') :=
    ⟨⟨⟨hs, hgrown.home.symm⟩, ⟨hsound, rfl⟩, hspare, hspareAgain, rfl, fun _ _ => rfl, by simp [Run.start]⟩, rfl, rfl⟩
  obtain ⟨hsources, hbarred⟩ := sources_left hs s l files e stamps hlast
  rcases work_eq s l files (Run.start "compile" e t stamps) with ⟨refusal, hwork, hnone, hrefusal⟩ | ⟨hwork, hfree⟩
  · rcases work_eq s l files (Run.start "compile" e last stamps') with ⟨refusal', hwork', _, hrefusal'⟩ | ⟨_, hfree'⟩
    · obtain rfl : refusal' = refusal := Option.some.inj (hrefusal'.symm.trans ((hbarred hnone).trans hrefusal))
      rw [hwork, hwork']
      exact .stopped _ hagain
    · exact absurd ((hfree' hnone).symm.trans ((hbarred hnone).trans hrefusal)) (by simp)
  · rcases work_eq s l files (Run.start "compile" e last stamps') with ⟨_, _, hnone, hrefusal'⟩ | ⟨hwork', _⟩
    · exact absurd (hrefusal'.symm.trans ((hbarred hnone).trans (hfree hnone))) (by simp)
    · have hall : Repeatable (KeepsTo IsDocument { tree := t, stamps }) last size
          ((sourcesOf l t files).forM (source s l) >>= fun _ => release s l) := by
        refine (Repeatable.forM fun p hp => ?_).bind (repeatable_release hs)
        exact repeatable_source hs rfl (lasting_of_mem hs hgrown hfiles hp) fun m _ => aims_document s l m
      rw [hwork] at hlast ⊢
      rw [hwork', show sourcesOf l (Run.start "compile" e last stamps').store.tree files = sourcesOf l t files from hsources]
      exact hall.again _ _ (keepsTo_start IsDocument e t stamps) hagain (hlast ▸ .refl _ _)

end Compile

end Command

end NoteSchema
