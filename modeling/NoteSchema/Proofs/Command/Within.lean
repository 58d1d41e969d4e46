import NoteSchema.Proofs.Command.Aimed
import NoteSchema.Proofs.Command.Straight
import NoteSchema.Proofs.File.Listing
import NoteSchema.Proofs.Reference.Navigation

namespace NoteSchema

namespace FilePath

/-- Path texts that lead, taken one after another, to no place above the one at which they start: each is relative, and
no step up goes too far. -/
def Inside (parts : List String) : Prop :=
  (∀ part ∈ parts, (ofString part).anchor = .relative) ∧
    Reference.climbAll? [] (parts.flatMap fun part => (ofString part).names) ≠ none

instance (parts : List String) : Decidable (Inside parts) := inferInstanceAs (Decidable (_ ∧ _))

/-- A path leads to a place strictly below a root. -/
def Below (cwd : List String) (root p : FilePath) : Prop :=
  ∃ name names, below? (root.absolute cwd) (p.absolute cwd) = some (name :: names)

variable {cwd parts names stack : List String} {root : FilePath}

theorem not_up_of_collapse (names : List String) : ".." ∉ collapse names := by
  have hgo : ∀ stack : List String, ".." ∉ stack →
      ".." ∉ names.foldl (fun acc n => if n = ".." then acc.tail else n :: acc) stack := by
    induction names with
    | nil => exact fun _ h => h
    | cons name names ih =>
      intro stack h
      refine ih _ ?_
      dsimp only
      split
      next => exact fun hup => h (List.mem_of_mem_tail hup)
      next hup => simp [h, Ne.symm hup]
  simpa [collapse] using hgo [] (by simp)

theorem not_up_of_absolute (cwd : List String) (p : FilePath) : ".." ∉ p.absolute cwd := by
  unfold absolute
  split <;> exact not_up_of_collapse _

theorem ofString_names_ne (part : String) : "" ∉ (ofString part).names ∧ "." ∉ (ofString part).names := by
  simp [ofString]

theorem foldl_append_names (h : ∀ part ∈ parts, (ofString part).anchor = .relative) (anchor : Anchor) :
    parts.foldl (fun p part => p ++ ofString part) ⟨anchor, names⟩ =
      ⟨anchor, names ++ parts.flatMap fun part => (ofString part).names⟩ := by
  induction parts generalizing names with
  | nil => simp
  | cons part parts ih =>
    have hpart : (⟨anchor, names⟩ : FilePath) ++ ofString part = ⟨anchor, names ++ (ofString part).names⟩ := by
      show append _ _ = _
      rw [append, if_pos (h part List.mem_cons_self)]
    rw [List.foldl_cons, hpart, ih fun part hp => h part (List.mem_cons_of_mem _ hp), List.flatMap_cons,
      List.append_assoc]

/-- What no step up leaves is put on top of what was there before. -/
theorem foldl_of_climbAll? (hplain : "" ∉ names ∧ "." ∉ names) {result : List String}
    (h : Reference.climbAll? stack names = some result) (base : List String) :
    names.foldl (fun acc n => if n = ".." then acc.tail else n :: acc) (stack ++ base) = result ++ base := by
  induction names generalizing stack with
  | nil =>
    cases h
    rfl
  | cons name names ih =>
    obtain ⟨hempty, hdot⟩ := hplain
    rw [List.mem_cons, not_or] at hempty hdot
    have hname : ¬ (name = "" ∨ name = ".") := by simp [Ne.symm hempty.1, Ne.symm hdot.1]
    rw [Reference.climbAll?] at h
    rw [List.foldl_cons]
    by_cases hup : name = ".."
    · subst hup
      cases stack with
      | nil => simp [Reference.climb?] at h
      | cons top stack =>
        simp only [Reference.climb?, hname, if_false, if_true] at h
        exact ih ⟨hempty.2, hdot.2⟩ h
    · simp only [Reference.climb?, hname, hup, if_false] at h ⊢
      exact ih ⟨hempty.2, hdot.2⟩ h

/-- Path texts that stay inside lead to a place below the root, wherever that lies. -/
theorem absolute_of_inside (h : Inside parts) (cwd : List String) (root : FilePath) :
    ∃ stack, Reference.climbAll? [] (parts.flatMap fun part => (ofString part).names) = some stack ∧
      (root ++ ofStrings parts).absolute cwd = root.absolute cwd ++ stack.reverse := by
  obtain ⟨hrelative, hclimb⟩ := h
  obtain ⟨stack, hstack⟩ := Option.ne_none_iff_exists'.mp hclimb
  refine ⟨stack, hstack, ?_⟩
  have hpath : root ++ ofStrings parts =
      ⟨root.anchor, root.names ++ parts.flatMap fun part => (ofString part).names⟩ := by
    rw [ofStrings, foldl_append_names hrelative]
    rfl
  have hplain : "" ∉ (parts.flatMap fun part => (ofString part).names) ∧
      "." ∉ (parts.flatMap fun part => (ofString part).names) := by
    simp only [List.mem_flatMap, not_exists, not_and]
    exact ⟨fun part _ => (ofString_names_ne part).1, fun part _ => (ofString_names_ne part).2⟩
  have hfold (base : List String) := foldl_of_climbAll? hplain hstack base
  simp only [List.nil_append] at hfold
  rw [hpath, absolute, absolute]
  split
  next => simp only [collapse, ← List.append_assoc, List.foldl_append, hfold, List.reverse_append]
  next => simp only [collapse, List.foldl_append, hfold, List.reverse_append]

theorem climbAll?_concat {name : String} (hplain : name ≠ "" ∧ name ≠ "." ∧ name ≠ "..") {result : List String}
    (h : Reference.climbAll? stack (names ++ [name]) = some result) : ∃ rest, result = name :: rest := by
  rw [Reference.climbAll?_append] at h
  obtain ⟨rest, _, hlast⟩ := Option.bind_eq_some_iff.mp h
  rw [Reference.climbAll?, Reference.climb?_name hplain] at hlast
  exact ⟨rest, (Option.some.inj hlast).symm⟩

/-- Path texts that stay inside and end with a suffix lead to a place strictly below the root. -/
theorem below_of_inside {suffix stem : String} (h : Inside (parts ++ [stem ++ suffix])) (hsep : '/' ∉ suffix.toList)
    (hlong : 2 < suffix.length) : Below cwd root (root ++ ofStrings (parts ++ [stem ++ suffix])) := by
  obtain ⟨stack, hstack, hplace⟩ := absolute_of_inside h cwd root
  obtain ⟨front, start, hnames⟩ := ofString_append hsep hlong stem
  rw [List.flatMap_append, List.flatMap_singleton, hnames, ← List.append_assoc] at hstack
  obtain ⟨rest, rfl⟩ := climbAll?_concat (ne_of_long hlong start) hstack
  rw [Below, hplace, below?_append]
  cases hrest : ((start ++ suffix) :: rest).reverse with
  | nil => simp at hrest
  | cons name names => exact ⟨name, names, rfl⟩

/-- A text without slashes is one component or none. -/
theorem ofString_plain {part : String} (h : '/' ∉ part.toList) :
    (ofString part).anchor = .relative ∧ ∀ name ∈ (ofString part).names, name = part := by
  constructor
  · have hnone : part.toList.takeWhile (· == '/') = [] := by
      cases hcs : part.toList with
      | nil => rfl
      | cons c cs =>
        have hc : c ≠ '/' := by
          rintro rfl
          exact h (by simp [hcs])
        simp [hc]
    simp [ofString, anchorOf, hnone]
  · intro name hname
    have hin := List.mem_of_mem_filter hname
    rw [Text.split, Text.splitChars_eq_singleton h] at hin
    simpa using hin

theorem climbAll?_plain (h : ".." ∉ names) (stack : List String) : Reference.climbAll? stack names ≠ none := by
  induction names generalizing stack with
  | nil => simp [Reference.climbAll?]
  | cons name names ih =>
    rw [List.mem_cons, not_or] at h
    obtain ⟨next, hnext⟩ : ∃ next, Reference.climb? stack name = some next := by
      unfold Reference.climb?
      rw [if_neg (Ne.symm h.1)]
      split
      next => exact ⟨stack, rfl⟩
      next => exact ⟨name :: stack, rfl⟩
    rw [Reference.climbAll?, hnext]
    exact ih h.2 next

theorem inside_of_plain (h : ∀ part ∈ parts, '/' ∉ part.toList ∧ part ≠ "..") : Inside parts := by
  refine ⟨fun part hp => (ofString_plain (h part hp).1).1, climbAll?_plain ?_ []⟩
  rw [List.mem_flatMap]
  rintro ⟨part, hp, hup⟩
  exact (h part hp).2 ((ofString_plain (h part hp).1).2 _ hup).symm

end FilePath

namespace Reference

variable {path : String} {kind : ArtifactKind} {parts : List String} {id : ArtifactId}

/-- No part of an address that a path relative to its document names is a step up. -/
theorem parts_of_documentRelative {base : String} {here : Location} {target : Target} (hseg : here.segment ≠ "..")
    (hform : PathKind.ofPath (Text.trim path) = .documentRelative) (h : resolve base here path kind = .ok target)
    (hid : target.artifact = some id) : id.kind = kind ∧
      ∀ part ∈ id.segment :: (id.subpath ++ [id.name]), isSegment part = true ∧ part ≠ ".." := by
  cases names_of_resolve h hid with
  | url hurl =>
    rw [hform] at hurl
    cases hurl
  | @placed parts _ hparts hartifact =>
    obtain ⟨hids, hkind, hall⟩ := parts_of_artifactOf hartifact
    refine ⟨hkind, fun part hp => ?_⟩
    have hin : part ∈ parts := hids ▸ hp
    refine ⟨hall part hin, ?_⟩
    simp only [partsOf, hform] at hparts
    split at hparts
    next more hmore =>
      cases hparts
      rcases List.mem_cons.mp hin with rfl | hin
      · exact hseg
      · rintro rfl
        exact (mem_of_normalize hmore hin).2.2.2 rfl
    next => cases hparts

end Reference

namespace Layout

/-- The parts of a destination that a hint asks for. -/
def targetParts? (target : String) : Option (List String) :=
  let parts := (Text.split '/' target).filter (· ≠ "")
  parts.getLast?.map fun name => parts.dropLast ++ [name ++ ".json"]

theorem enumTarget?_eq (l : Layout) (target : String) :
    l.enumTarget? target = (targetParts? target).map fun parts => l.root ++ FilePath.ofStrings parts := by
  simp only [enumTarget?, targetParts?, Option.map_map]
  rfl

/-- The segment of a source is no step up. -/
theorem segment_of_locationOf {l : Layout} {p : FilePath} {here : Location} (h : l.locationOf p = .ok here) :
    here.segment ≠ ".." := by
  obtain ⟨name, hnames⟩ := absolute_of_locationOf h
  have hsegment : here.segment ∈ p.absolute l.cwd := hnames ▸ List.mem_append_right _ List.mem_cons_self
  exact fun hup => FilePath.not_up_of_absolute l.cwd p (hup ▸ hsegment)

end Layout

/-- The texts that the path of an artifact is made of. -/
def ArtifactId.storageParts (c : ArtifactId) : List String := c.segment :: c.kind.folder :: (c.subpath ++ [c.fileName])

namespace Command.Compile

open FilePath (Inside Below)
open Hint (Block Note)
open Schema (Placed Setup)

variable {s : Settings} {l : Layout} {here : Location} {b : Block} {cwd : List String}

/-- An enumeration is placed inside the root: where its hint asks for a destination the parts of that stay inside, else the
parts of its address do, unless its path is relative to the document. -/
def PlacedInside (m : Placed) : Prop :=
  match (Schema.given? m.definition.targetPath).bind Layout.targetParts? with
  | some parts => Inside parts
  | none => Reference.PathKind.ofPath (Text.trim m.definition.path) = .documentRelative ∨ Inside m.id.storageParts

instance (m : Placed) : Decidable (PlacedInside m) := by
  unfold PlacedInside
  split <;> infer_instance

/-- The hints of a block name no destination above the root. -/
structure Confined (s : Settings) (l : Layout) (here : Location) (b : Block) : Prop where
  title : Inside (Schema.idOf here b).storageParts
  enums : ∀ m ∈ placedIn s l here b, PlacedInside m

instance (s : Settings) (l : Layout) (here : Location) (b : Block) : Decidable (Confined s l here b) :=
  decidable_of_iff (Inside (Schema.idOf here b).storageParts ∧ ∀ m ∈ placedIn s l here b, PlacedInside m)
    ⟨fun h => ⟨h.1, h.2⟩, fun h => ⟨h.title, h.enums⟩⟩

theorem artifactPath_below {c : ArtifactId} (h : Inside c.storageParts) : Below cwd l.root (l.artifactPath c) := by
  have hsplit : c.storageParts = c.segment :: c.kind.folder :: c.subpath ++ [c.name ++ "." ++ c.kind.suffix] := rfl
  have hpath : l.artifactPath c = l.root ++ FilePath.ofStrings c.storageParts := rfl
  rw [hpath, hsplit]
  rw [hsplit] at h
  refine FilePath.below_of_inside h ?_ ?_
  · cases c.kind <;> decide
  · cases c.kind <;> decide

theorem target_below {target : String} {parts : List String} (h : Layout.targetParts? target = some parts)
    (hin : Inside parts) : Below cwd l.root (l.root ++ FilePath.ofStrings parts) := by
  obtain ⟨name, _, rfl⟩ := Option.map_eq_some_iff.mp h
  exact FilePath.below_of_inside hin (by decide) (by decide)

theorem inside_of_documentRelative {m : Placed} (hseg : here.segment ≠ "..") (h : m ∈ placedIn s l here b)
    (hform : Reference.PathKind.ofPath (Text.trim m.definition.path) = .documentRelative) : Inside m.id.storageParts := by
  obtain ⟨_, target, ht, hid⟩ := placed_of_mem h
  obtain ⟨hkind, hparts⟩ := Reference.parts_of_documentRelative hseg hform ht hid
  have hplain {part : String} (hp : part ∈ m.id.segment :: (m.id.subpath ++ [m.id.name])) :
      '/' ∉ part.toList ∧ part ≠ ".." :=
    ⟨Reference.not_slash_of_isSegment (hparts part hp).1, (hparts part hp).2⟩
  refine FilePath.inside_of_plain fun part hp => ?_
  simp only [ArtifactId.storageParts, hkind, List.mem_cons, List.mem_append, List.mem_nil_iff, or_false] at hp
  rcases hp with rfl | rfl | hp | rfl
  · exact hplain (by simp)
  · decide
  · exact hplain (by simp [hp])
  · have hname : '/' ∉ m.id.name.toList := (hplain (by simp)).1
    constructor
    · simp [ArtifactId.fileName, hkind, ArtifactKind.suffix, hname]
    · intro hup
      have hlength := congrArg String.length hup
      simp only [ArtifactId.fileName, hkind, ArtifactKind.suffix, String.length_append] at hlength
      have hjson : "json".length = 4 := rfl
      have hdots : "..".length = 2 := rfl
      omega

theorem destination_below {m : Placed} (hseg : here.segment ≠ "..") (hc : Confined s l here b) (h : m ∈ placedIn s l here b) :
    Below cwd l.root m.destination := by
  obtain ⟨hdestination, _⟩ := placed_of_mem h
  have hin := hc.enums m h
  unfold PlacedInside at hin
  rw [hdestination, Schema.destination]
  have htarget : (Schema.given? m.definition.targetPath).bind (Setup.ofSettings s l).layout.enumTarget? =
      ((Schema.given? m.definition.targetPath).bind Layout.targetParts?).map fun parts =>
        l.root ++ FilePath.ofStrings parts := by
    cases Schema.given? m.definition.targetPath with
    | none => rfl
    | some target => exact Layout.enumTarget?_eq l target
  rw [htarget]
  split at hin
  next parts hparts =>
    rw [hparts]
    obtain ⟨target, _, htarget⟩ := Option.bind_eq_some_iff.mp hparts
    exact target_below htarget hin
  next hnone =>
    rw [hnone]
    refine artifactPath_below ?_
    rcases hin with hform | hin
    · exact inside_of_documentRelative hseg h hform
    · exact hin

section Turns

variable {r : Run} {start : Store}

/-- A run has only written below the root so far, and will not write elsewhere. -/
abbrev KeepsBelow (cwd : List String) (root : FilePath) : Store → Run → Prop := KeepsTo (Below cwd root)

/-- The hints of a note that name no destination above the root aim below it. -/
theorem aims_below {m : Location × Note} (hseg : m.1.segment ≠ "..")
    (hc : ∀ b ∈ blockOf? s m.2, Confined s l m.1 b) : Aims (Below cwd l.root) s l m :=
  .of_block (fun b hb => artifactPath_below (hc b hb).title) fun b hb _ hplaced =>
    destination_below hseg (hc b hb) hplaced

theorem keepsBelow_sources {ps : List FilePath}
    (hc : ∀ m ∈ notesRead s l ps r, ∀ b ∈ blockOf? s m.2, Confined s l m.1 b)
    (h : KeepsBelow cwd l.root start r) : KeepsBelow cwd l.root start (Work.reached (ps.forM (source s l) r)) := by
  refine keepsTo_sources (fun m hm => aims_below ?_ (hc m hm)) h
  obtain ⟨p, _, hplace⟩ := exists_location_of_mem hm
  exact Layout.segment_of_locationOf hplace

theorem keepsBelow_release (h : KeepsBelow cwd l.root start r) :
    KeepsBelow cwd l.root start (Work.reached (release s l r)) :=
  keepsTo_release h

end Turns

/-- A run whose hints name no destination above the root writes strictly below the root and nowhere else, also if it ends
early. -/
theorem compile_writes_below_root {t : FileTree} {stamps files : List String}
    (h : ∀ m ∈ notesRead s l (sourcesOf l t files) (Run.start "compile" s.emitEnums.truthy t stamps),
      ∀ b ∈ blockOf? s m.2, Confined s l m.1 b) :
    Store.Writes (Below t.home l.root) { tree := t, stamps }
      (Work.reached (work s l files (Run.start "compile" s.emitEnums.truthy t stamps))).store := by
  have hstart : KeepsBelow t.home l.root { tree := t, stamps } (Run.start "compile" s.emitEnums.truthy t stamps) :=
    ⟨.refl _, by simp [Run.start]⟩
  rcases work_eq s l files (Run.start "compile" s.emitEnums.truthy t stamps) with ⟨refusal, hwork, _⟩ | ⟨hwork, _⟩
  · rw [hwork]
    exact hstart.store
  · have hsources := keepsBelow_sources h hstart
    rw [hwork]
    cases hs : (sourcesOf l t files).forM (source s l) (Run.start "compile" s.emitEnums.truthy t stamps) with
    | ok _ r =>
      rw [hs] at hsources
      rw [show sourcesOf l (Run.start "compile" s.emitEnums.truthy t stamps).store.tree files = sourcesOf l t files
        from rfl, Work.bind_of_ok _ hs]
      exact (keepsBelow_release hsources).store
    | error e r =>
      rw [hs] at hsources
      rw [show sourcesOf l (Run.start "compile" s.emitEnums.truthy t stamps).store.tree files = sourcesOf l t files
        from rfl, Work.bind_of_error _ hs]
      exact hsources.store

/-- A class that is written into a folder, with an enumeration in a place of its own. -/
def filedNote : String :=
  "note of A\nSCHEMAHINTS\ntitle: b/../c/A\nfield k:\n enumDefine:\n  enumId: ./K\n  targetPath: c/l/K\nend note\n"

theorem filedNote_written :
    Store.Writes (Below [] exampleLayout.root) { tree := oneSource filedNote, stamps := ["1"] } (exampleRun filedNote).store ∧
      (exampleRun filedNote).store.written =
        [⟨.relative, ["packages", "core", "schemas", "b", "..", "c", "A.schema.json"]⟩,
          ⟨.relative, ["packages", "c", "l", "K.json"]⟩] := by
  let notes : List Note :=
    [⟨"A", "SCHEMAHINTS\ntitle: b/../c/A\nfield k:\n enumDefine:\n  enumId: ./K\n  targetPath: c/l/K\n", 2⟩]
  have hnotes : Holds filedNote notes := by decide
  have hrun : (straightExample filedNote notes).map (·.store.written) =
      some [⟨.relative, ["packages", "core", "schemas", "b", "..", "c", "A.schema.json"]⟩,
        ⟨.relative, ["packages", "c", "l", "K.json"]⟩] := by decide +kernel
  obtain ⟨r, hr, hwritten⟩ := Option.map_eq_some_iff.mp hrun
  refine ⟨compile_writes_below_root (t := oneSource filedNote) ?_, ?_⟩
  · rw [hnotes.notesRead]
    decide +kernel
  · rw [(hnotes.exampleRun (by simp [notes]) hr).2]
    exact hwritten

/-- A note whose title leads out of the corpus. -/
def strayNote : String := "note of A\nSCHEMAHINTS\ntitle: ../../../A\nend note\n"

/-- A title that climbs is taken as it is: the schema lands beside the root. -/
theorem strayNote_escapes : (exampleRun strayNote).store.written.map (fun p => p.absolute []) = [["A.schema.json"]] ∧
    FilePath.below? (exampleLayout.root.absolute []) ["A.schema.json"] = none := by
  let notes : List Note := [⟨"A", "SCHEMAHINTS\ntitle: ../../../A\n", 2⟩]
  have hnotes : Holds strayNote notes := by decide
  have hrun : (straightExample strayNote notes).map (fun r => r.store.written.map fun p => p.absolute []) =
      some [["A.schema.json"]] := by decide +kernel
  obtain ⟨r, hr, hwritten⟩ := Option.map_eq_some_iff.mp hrun
  rw [(hnotes.exampleRun (by simp [notes]) hr).2]
  exact ⟨hwritten, by decide⟩

end Command.Compile

end NoteSchema
