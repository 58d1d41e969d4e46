import NoteSchema.Command.Run
import NoteSchema.Proofs.Command.Rerun
import NoteSchema.Proofs.Command.Within

namespace NoteSchema

namespace Run

variable {last : FileTree} {size : Nat} {r r' : Run} {w w' : Work Unit}

theorem finish_tree (r : Run) (w : Work Unit) : (r.finish w).tree = (Work.reached (w r)).store.tree := by
  unfold finish
  cases w r <;> rfl

/-- Commands that end in the same way have the same exit code. -/
theorem finish_of_echo (h : Work.Echo last size (w r) (w' r')) :
    (r'.finish w').exit = (r.finish w).exit ∧ (r'.finish w').abort = (r.finish w).abort := by
  unfold finish
  generalize w r = x at h ⊢
  generalize w' r' = x' at h ⊢
  cases h with
  | done h => simp only [Report.failed_eq, h.outline, and_self]
  | stopped a h => exact ⟨rfl, rfl⟩

end Run

namespace Command

theorem read?_compile {t : FileTree} {args : List String} {g : Given} {files : List String}
    (h : read? t args = some (.compile g files)) :
    files = g.values .file ∧ settingsFit t g = true ∧ files.all t.isFileAt = true ∧
      ∀ t', settingsFit t' g = true → files.all (FileTree.isFileAt t') = true → read? t' args = some (.compile g files) := by
  have hnamed : ∀ args, readNamed t args = some (.compile g files) → files = g.values .file ∧ settingsFit t g = true ∧
      files.all t.isFileAt = true ∧ ∀ t', settingsFit t' g = true → files.all (FileTree.isFileAt t') = true →
        readNamed t' args = some (.compile g files) := by
    intro args h
    unfold readNamed at h
    split at h
    next args =>
      obtain ⟨given, hg, h⟩ := Option.bind_eq_some_iff.mp h
      split at h
      next hfit =>
        cases h
        rw [Bool.and_eq_true] at hfit
        refine ⟨rfl, hfit.1, hfit.2, fun t' hfit' hall => ?_⟩
        have hpass : (settingsFit t' g && (g.values .file).all t'.isFileAt) = true := by rw [hfit', hall]; rfl
        simp only [readNamed, readCompile, hg, hpass, bind, Option.bind_some, if_true, pure]
      next => cases h
    next => simp [readBundle, Option.bind_eq_some_iff] at h
    next => simp [readSamples, Option.bind_eq_some_iff] at h
    next => simp [readLint, Option.bind_eq_some_iff] at h
    next => cases h
  unfold read? at h
  split at h
  next args => 
    obtain ⟨hfiles, hfit, hall, hagain⟩ := hnamed _ h
    exact ⟨hfiles, hfit, hall, hagain⟩
  next hdashes =>
    obtain ⟨hfiles, hfit, hall, hagain⟩ := hnamed _ h
    refine ⟨hfiles, hfit, hall, fun t' hfit' hall' => ?_⟩
    rw [read?]
    · exact hagain t' hfit' hall'
    · exact hdashes

/-- The settings of a compile command and the layout of its corpus, if it has both. -/
def setup? (t : FileTree) (g : Given) : Option (Settings × Layout) :=
  match Settings.load t (g.value? .config) (givenSettings g (g.has .strict)) with
  | .error _ => none
  | .ok s =>
    match s.layout t.home with
    | .error _ => none
    | .ok l => some (s, l)

/-- How far a compile command comes, early end or not. -/
def compiled (s : Settings) (l : Layout) (files : List String) (t : FileTree) (stamps : List String) : Run :=
  Work.reached (Compile.work s l files (Run.start "compile" s.emitEnums.truthy t stamps))

/-- What a compile command reports of its units, in order. -/
def reported (t : FileTree) (stamps args : List String) : List (Outcome × String) :=
  match read? t args with
  | some (.compile g files) =>
    match setup? t g with
    | some (s, l) => (compiled s l files t stamps).report.outline
    | none => []
  | _ => []

/-- Where a compile command places its artifacts, those that it fails to write included. -/
def destinations (t : FileTree) (stamps : List String) (g : Given) (files : List String) : List FilePath :=
  match setup? t g with
  | some (s, l) =>
    let notes := Compile.notesRead s l (Compile.sourcesOf l t files) (Run.start "compile" s.emitEnums.truthy t stamps)
    Compile.schemaPathsOf s l notes ++ Compile.enumPathsOf s l notes
  | none => []

variable {t last : FileTree} {stamps stamps' args files : List String} {g : Given} {s : Settings} {l : Layout}
  {path : String} {size : Nat}

theorem isFileAt_iff : t.isFileAt path = true ↔
    path ≠ "" ∧ (Text.split '/' path).getLast?.getD "" ≠ "" ∧ (Text.split '/' path).getLast?.getD "" ≠ "." ∧
      ∃ q content, t.locate (FilePath.ofString path) = .ok (q, .file content) := by
  unfold FileTree.isFileAt FileTree.status
  by_cases hempty : path = ""
  · simp [hempty]
  · rw [if_neg hempty]
    cases hlocate : t.locate (FilePath.ofString path) with
    | error c => simp
    | ok found =>
      obtain ⟨q, e⟩ := found
      generalize (Text.split '/' path).getLast?.getD "" = tail
      cases e with
      | folder => simp
      | file content =>
        by_cases hslash : tail = ""
        · simp [hslash]
        · by_cases hpoint : tail = "."
          · simp [hpoint]
          · simp [hempty, hslash, hpoint]

theorem ofMembers_of_load {given : Members String} {file : Option String} (h : Settings.load t file given = .ok s) :
    ∃ values, Settings.ofMembers (Members.update values given) = .ok s := by
  have hmap {values : Members String}
      (h : (Settings.ofMembers (Members.update values given)).mapError Abort.fault = .ok s) :
      Settings.ofMembers (Members.update values given) = .ok s := by
    cases hs : Settings.ofMembers (Members.update values given) with
    | error f =>
      rw [hs] at h
      cases h
    | ok s' =>
      rw [hs] at h
      exact congrArg Except.ok (Except.ok.inj h)
  unfold Settings.load at h
  cases file with
  | none => exact ⟨[], hmap h⟩
  | some path =>
    cases hvalues : Settings.readFile t path with
    | error a =>
      simp only [hvalues, bind, Except.bind] at h
      cases h
    | ok values =>
      simp only [hvalues, bind, Except.bind] at h
      exact ⟨values, hmap h⟩

theorem givenSettings_root (strict : Bool) (hroot : g.value? .root = some path) :
    (givenSettings g strict).keys.Nodup ∧ Members.find? "root" (givenSettings g strict) = some (.str path) := by
  unfold givenSettings
  rw [hroot]
  generalize (g.value? .base).map Json.str = base
  generalize (g.switch? .emitEnums .noEmitEnums).map Json.bool = enums
  generalize ((g.value? .maxDepth).bind depth?).map Json.int = depth
  cases base <;> cases enums <;> cases depth <;> cases strict <;> exact ⟨by simp [member, Members.keys], rfl⟩

/-- A root that is given is that of the settings. -/
theorem root_of_load {file : Option String} {strict : Bool} (h : Settings.load t file (givenSettings g strict) = .ok s)
    (hroot : g.value? .root = some path) : s.root = .str path := by
  obtain ⟨values, hs⟩ := ofMembers_of_load h
  obtain ⟨hnodup, hfound⟩ := givenSettings_root strict hroot
  have hvalue : Members.find? "root" (Members.update values (givenSettings g strict)) = some (.str path) := by
    rw [Members.find?_update hnodup, hfound]
    rfl
  unfold Settings.ofMembers at hs
  simp only [bind, Except.bind] at hs
  split at hs
  next => cases hs
  next =>
    split at hs
    next => cases hs
    next =>
      cases hs
      rw [hvalue]
      rfl

/-- Settings are loaded as before where the settings file reads as before. -/
theorem load_congr (file : Option String) (given : Members String)
    (h : ∀ path ∈ file, last.read (FilePath.ofString path) = t.read (FilePath.ofString path)) :
    Settings.load last file given = Settings.load t file given := by
  cases file with
  | none => rfl
  | some path => simp only [Settings.load, Settings.readFile, h path rfl]

theorem setup?_eq_some (h : setup? t g = some (s, l)) :
    Settings.load t (g.value? .config) (givenSettings g (g.has .strict)) = .ok s ∧ s.layout t.home = .ok l := by
  unfold setup? at h
  split at h
  next => cases h
  next hload =>
    split at h
    next => cases h
    next hlayout =>
      cases h
      exact ⟨hload, hlayout⟩

theorem answer_of_setup (stamps : List String) (hread : read? t args = some (.compile g files))
    (hsetup : setup? t g = some (s, l)) :
    answer t stamps args = (Run.start "compile" s.emitEnums.truthy t stamps).finish (Compile.work s l files) := by
  obtain ⟨hload, hlayout⟩ := setup?_eq_some hsetup
  simp only [answer, hread, run, withSettings, hload, Compile.run, hlayout]

/-- A command that lacks its settings changes nothing. -/
theorem answer_of_no_setup (hread : read? t args = some (.compile g files)) (hsetup : setup? t g = none) :
    ∃ a, ∀ stamps, answer t stamps args = { exit := 1, output := "", tree := t, abort := some a } := by
  unfold setup? at hsetup
  split at hsetup
  next a hload =>
    exact ⟨a, fun stamps => by simp only [answer, hread, run, withSettings, hload]⟩
  next s hload =>
    split at hsetup
    next f hlayout =>
      refine ⟨.fault f, fun stamps => ?_⟩
      simp only [answer, hread, run, withSettings, hload, Compile.run, hlayout]
      rfl
    next => cases hsetup

/-- What is named exists and has the suffix of sources. -/
theorem namesSources (hall : files.all t.isFileAt = true)
    (hsuffix : ∀ f ∈ files, Text.small (FilePath.ofString f).suffix = Layout.sourceSuffix) :
    Compile.NamesSources t files := by
  intro f hf
  obtain ⟨_, _, _, q, content, hlocate⟩ := isFileAt_iff.mp (List.all_eq_true.mp hall f hf)
  obtain ⟨front, name, hnames, _, _, _, rfl, _⟩ := FileTree.stands_of_follow_file hlocate
  refine ⟨_, name, content, hlocate, ?_⟩
  have hsame : (FilePath.ofString f).suffix = FilePath.suffix ⟨.relative, [name]⟩ := by
    unfold FilePath.suffix FilePath.name
    rw [hnames]
    simp
  rw [Layout.isSourceName, ← hsame, hsuffix f hf]
  exact beq_self_eq_true _

/-- A path to a file is one still where the file is still found there. -/
theorem isFileAt_of_locate (h : t.isFileAt path = true) {q : Place} {content : Text.Bytes}
    (hlocate : last.locate (FilePath.ofString path) = .ok (q, .file content)) : last.isFileAt path = true := by
  obtain ⟨hempty, hslash, hpoint, _⟩ := isFileAt_iff.mp h
  exact isFileAt_iff.mpr ⟨hempty, hslash, hpoint, q, content, hlocate⟩

/-- The options that commands share are fit if the settings file exists and the root is no file. -/
theorem settingsFit_iff : settingsFit t g = true ↔
    (∀ path ∈ g.value? .config, t.isFileAt path = true) ∧ ∀ path ∈ g.value? .root, t.isFileAt path ≠ true := by
  rw [settingsFit, Bool.and_eq_true, Bool.not_eq_true', Bool.not_eq_true']
  refine and_congr ?_ ?_
  · cases g.value? .config <;> simp [spoils, existing]
  · cases g.value? .root <;> simp [spoils, notFile]

section Left

variable (hs : t.Sound) (hread : read? t args = some (.compile g files)) (hsetup : setup? t g = some (s, l))
include hs hsetup

/-- A run only changes what it places artifacts at. -/
theorem grows_compiled (stamps : List String) (hlast : (compiled s l files t stamps).store.tree = last) :
    last.Sound ∧ t.Grows (fun q => ∃ d ∈ destinations t stamps g files, t.placeOf d = q) last := by
  have haims : ∀ m ∈ Compile.notesRead s l (Compile.sourcesOf l t files) (Run.start "compile" s.emitEnums.truthy t stamps),
      Compile.Aims (· ∈ destinations t stamps g files) s l m := by
    intro m hm
    rw [destinations, hsetup]
    exact ⟨fun d hd => List.mem_append_left _ (List.mem_filterMap.mpr ⟨m, hm, hd⟩),
      fun d hd => List.mem_append_right _ (List.mem_flatMap.mpr ⟨m, hm, hd⟩)⟩
  have hkept := Compile.keepsTo_work files haims (Compile.keepsTo_start _ s.emitEnums.truthy t stamps)
  have hgrown := hkept.store.grows hs
  rw [compiled] at hlast
  rw [hlast] at hgrown
  exact hgrown

/-- A file that is named is one still where a run has ended. -/
theorem isFileAt_left (stamps : List String) (hlast : (compiled s l files t stamps).store.tree = last)
    (hfile : t.isFileAt path = true) : last.isFileAt path = true := by
  obtain ⟨_, hgrown⟩ := grows_compiled hs hsetup stamps hlast
  obtain ⟨_, _, _, q, content, hlocate⟩ := isFileAt_iff.mp hfile
  obtain ⟨content', hfound, _⟩ := hgrown.file (FileTree.placeOf_of_locate hlocate).2
  exact isFileAt_of_locate hfile
    (FileTree.locate_of_kept hlocate hgrown.home (fun _ hq => hgrown.folder hq) hfound)

/-- A file reads as before where a run has ended, if no artifact is placed at it. -/
theorem read_left (stamps : List String) (hlast : (compiled s l files t stamps).store.tree = last)
    (hfile : t.isFileAt path = true)
    (haway : ∀ d ∈ destinations t stamps g files, d.absolute t.home ≠ (FilePath.ofString path).absolute t.home) :
    last.read (FilePath.ofString path) = t.read (FilePath.ofString path) := by
  obtain ⟨_, hgrown⟩ := grows_compiled hs hsetup stamps hlast
  obtain ⟨_, _, _, q, content, hlocate⟩ := isFileAt_iff.mp hfile
  obtain ⟨rfl, _⟩ := FileTree.placeOf_of_locate hlocate
  have hfar : ¬ ∃ d ∈ destinations t stamps g files, t.placeOf d = t.placeOf (FilePath.ofString path) := by
    rintro ⟨d, hd, hplace⟩
    refine haway d hd ?_
    rw [hs.absolute_eq, hs.absolute_eq]
    exact hplace
  have hlocate' := hgrown.locate hlocate hfar
  rw [FileTree.read, FileTree.read, hlocate, hlocate']

/-- A root that is given is no file where a run has ended, unless it was one before. -/
theorem root_left (stamps : List String) (hlast : (compiled s l files t stamps).store.tree = last)
    (hroot : g.value? .root = some path) (hfile : last.isFileAt path = true) : t.isFileAt path = true := by
  obtain ⟨hload, hlayout⟩ := setup?_eq_some hsetup
  rw [Settings.layout, root_of_load hload hroot] at hlayout
  obtain rfl := Except.ok.inj hlayout
  obtain ⟨_, hgrown⟩ := grows_compiled hs hsetup stamps hlast
  by_cases hfolder : t.find? (t.placeOf (FilePath.ofString path)) = some .folder
  · obtain ⟨_, _, _, q, content, hlocate⟩ := isFileAt_iff.mp hfile
    obtain ⟨rfl, hfound⟩ := FileTree.placeOf_of_locate hlocate
    rw [hgrown.placeOf, hgrown.folder hfolder] at hfound
    cases hfound
  · have hpending : (Run.start "compile" s.emitEnums.truthy t stamps).pending.entries = [] := rfl
    have hidle := Compile.store_of_idle s files
      (fun p _ here text hplace htext =>
        hfolder (Layout.folder_of_read (l := ⟨FilePath.ofString path, t.home⟩) hs rfl hplace htext)) hpending
    have hsame : last = t := by
      rw [← hlast, compiled, hidle]
      rfl
    rwa [← hsame]

include hread

/-- The tree that a run leaves is read with the same arguments as the same command with the same settings, unless the file
that holds these has been written to. -/
theorem command_left (stamps : List String) (hlast : (compiled s l files t stamps).store.tree = last)
    (hconfig : ∀ path ∈ g.value? .config, ∀ d ∈ destinations t stamps g files,
      d.absolute t.home ≠ (FilePath.ofString path).absolute t.home) :
    read? last args = some (.compile g files) ∧ setup? last g = some (s, l) := by
  obtain ⟨_, hfit, hall, hagain⟩ := read?_compile hread
  obtain ⟨hsettings, hroot⟩ := settingsFit_iff.mp hfit
  obtain ⟨hload, hlayout⟩ := setup?_eq_some hsetup
  constructor
  · refine hagain last (settingsFit_iff.mpr ⟨fun path hpath => ?_, fun path hpath hfile => ?_⟩)
      (List.all_eq_true.mpr fun f hf => ?_)
    · exact isFileAt_left hs hsetup stamps hlast (hsettings path hpath)
    · exact hroot path hpath (root_left hs hsetup stamps hlast hpath hfile)
    · exact isFileAt_left hs hsetup stamps hlast (List.all_eq_true.mp hall f hf)
  · have hsame : Settings.load last (g.value? .config) (givenSettings g (g.has .strict)) = Settings.load t _ _ :=
      load_congr (g.value? .config) (givenSettings g (g.has .strict)) fun path hpath =>
        read_left hs hsetup stamps hlast (hsettings path hpath) (hconfig path hpath)
    rw [setup?, hsame, hload]
    simp only [(grows_compiled hs hsetup stamps hlast).2.home, hlayout]

end Left

/-- Compiling is idempotent. A compile command that is given again, after it has ended in whatever way, leaves every file and
folder as it is, and reports the same of the same units. -/
theorem compile_idempotent (hs : t.Sound) (hread : read? t args = some (.compile g files))
    (hsuffix : ∀ f ∈ files, Text.small (FilePath.ofString f).suffix = Layout.sourceSuffix)
    (hconfig : ∀ path ∈ g.value? .config, ∀ d ∈ destinations t stamps g files,
      d.absolute t.home ≠ (FilePath.ofString path).absolute t.home)
    (hspare : Store.Spare (answer t stamps args).tree size stamps)
    (hspareAgain : Store.Spare (answer t stamps args).tree size stamps') :
    (∀ q, (answer (answer t stamps args).tree stamps' args).tree.find? q = (answer t stamps args).tree.find? q) ∧
      (answer (answer t stamps args).tree stamps' args).exit = (answer t stamps args).exit ∧
      (answer (answer t stamps args).tree stamps' args).abort = (answer t stamps args).abort ∧
      reported (answer t stamps args).tree stamps' args = reported t stamps args := by
  cases hsetup : setup? t g with
  | none =>
    obtain ⟨a, ha⟩ := answer_of_no_setup hread hsetup
    rw [ha stamps]
    dsimp only
    rw [ha stamps']
    refine ⟨fun _ => rfl, rfl, rfl, ?_⟩
    simp only [reported, hread, hsetup]
  | some found =>
    obtain ⟨s, l⟩ := found
    have hanswer := answer_of_setup stamps hread hsetup
    obtain ⟨last, hlast⟩ : ∃ last, (compiled s l files t stamps).store.tree = last := ⟨_, rfl⟩
    have htree : (answer t stamps args).tree = last := by
      rw [hanswer, Run.finish_tree]
      exact hlast
    rw [htree] at hspare hspareAgain ⊢
    obtain ⟨hread', hsetup'⟩ := command_left hs hread hsetup stamps hlast hconfig
    have hfiles := namesSources (read?_compile hread).2.2.1 hsuffix
    have hecho := Compile.work_again hs hfiles s l s.emitEnums.truthy hlast hspare hspareAgain
    have hsame := hecho.reached
    have hanswer' := answer_of_setup stamps' hread' hsetup'
    refine ⟨fun q => ?_, ?_, ?_, ?_⟩
    · rw [hanswer', Run.finish_tree]
      exact hsame.store.arrived hlast q
    · rw [hanswer, hanswer']
      exact (Run.finish_of_echo hecho).1
    · rw [hanswer, hanswer']
      exact (Run.finish_of_echo hecho).2
    · simp only [reported, hread, hread', hsetup, hsetup']
      exact hsame.outline

/-- Settings that were printed are read back. -/
theorem readFile_of_printed {d : Document} (h : t.read (FilePath.ofString path) = .ok (Text.Utf8.encode (Json.text d)))
    (hw : Json.Whole d) (hs : Json.Short d) (hd : Json.Distinct d) :
    Settings.readFile t path = ((Settings.ofDocument d).map Settings.toMembers).mapError .fault := by
  have hdocument := FileTree.readDocument_of_printed h hw hd (Check.json_text hw hs)
  have htext := FileTree.readText_of_encoded h (Json.not_return_mem_text hw)
  rw [FileTree.readDocument, htext] at hdocument
  cases hread : Json.read (Json.text d) with
  | error e => simp [hread, Except.mapError] at hdocument
  | ok v =>
    simp only [hread, Except.mapError, Except.ok.injEq] at hdocument
    subst hdocument
    unfold Settings.readFile
    rw [h]
    simp only [Text.Utf8.decode_encode, Text.plainBreaks_eq_self (Json.not_return_mem_text hw), String.ofList_toList, hread]

/-- The values of a settings file. -/
def exampleValues : Document :=
  .obj [("base_id", .str "http://a/"), ("dialect", .str "2020-12"), ("emit_enums", .bool true)]

/-- A corpus with one source, beside a settings file. -/
def exampleTree : FileTree where
  home := []
  entries := (["cfg"], .file (Text.Utf8.encode (Json.text exampleValues))) :: (Compile.oneSource Compile.filedNote).entries

def exampleArgs : List String := ["compile", "--config", "cfg", "--file", "packages/core/puml/A.puml"]

def exampleGiven : Given := [(.config, "cfg"), (.file, "packages/core/puml/A.puml")]

theorem sound_exampleTree : exampleTree.Sound := by
  refine .of_entries rfl ?_
  intro entry hentry
  simp only [exampleTree, Compile.oneSource, List.mem_cons, List.not_mem_nil, or_false] at hentry
  rcases hentry with rfl | rfl | rfl | rfl | rfl
  all_goals
    refine ⟨rfl, ?_⟩
    rintro _ ⟨⟩
    decide

theorem setup?_exampleTree : setup? exampleTree exampleGiven = some (Compile.exampleSettings, Compile.exampleLayout) := by
  have hfile : exampleTree.read (FilePath.ofString "cfg") = .ok (Text.Utf8.encode (Json.text exampleValues)) := by
    rw [show FilePath.ofString "cfg" = ⟨.relative, ["cfg"]⟩ by decide]
    rfl
  have hvalues := readFile_of_printed hfile (by decide) (by decide) (by decide)
  have hload : Settings.load exampleTree (some "cfg") [] = .ok Compile.exampleSettings := by
    simp only [Settings.load, hvalues]
    rfl
  have hgiven : exampleGiven.value? .config = some "cfg" := rfl
  have hnone : givenSettings exampleGiven (exampleGiven.has .strict) = [] := rfl
  rw [setup?, hgiven, hnone, hload]
  rfl

theorem filedNote_compiled_again :
    (∀ q, (answer (answer exampleTree ["1"] exampleArgs).tree ["2"] exampleArgs).tree.find? q =
        (answer exampleTree ["1"] exampleArgs).tree.find? q) ∧
      reported (answer exampleTree ["1"] exampleArgs).tree ["2"] exampleArgs =
        [(.wrote, "core/schemas/c/A.schema.json"), (.wrote, "c/l/K.json")] := by
  let files := ["packages/core/puml/A.puml"]
  let notes : List Hint.Note :=
    [⟨"A", "SCHEMAHINTS\ntitle: b/../c/A\nfield k:\n enumDefine:\n  enumId: ./K\n  targetPath: c/l/K\n", 2⟩]
  have hread : read? exampleTree exampleArgs = some (.compile exampleGiven files) := rfl
  have hsources : Compile.sourcesOf Compile.exampleLayout exampleTree files = [Compile.exampleSource] := by
    have hpath : FilePath.ofString "packages/core/puml/A.puml" = Compile.exampleSource := by decide
    simp [Compile.sourcesOf, files, hpath]
  have hnotes : Compile.Holds Compile.filedNote notes := by decide
  have htext : exampleTree.readText Compile.exampleSource = .ok Compile.filedNote :=
    FileTree.readText_of_encoded rfl hnotes.1
  have hrun : (Compile.straight Compile.exampleSettings Compile.exampleLayout Compile.exampleSource ⟨"core", []⟩ notes
      (Run.start "compile" true exampleTree ["1"])).map (fun r => (r.store.tree.entries.map (·.1), r.report.outline)) =
      some (exampleTree.entries.map (·.1) ++ [["packages", "core", "schemas"], ["packages", "core", "schemas", "b"],
          ["packages", "core", "schemas", "c"], ["packages", "core", "schemas", "c", "A.schema.json"], ["packages", "c"],
          ["packages", "c", "l"], ["packages", "c", "l", "K.json"]],
        [(.wrote, "core/schemas/c/A.schema.json"), (.wrote, "c/l/K.json")]) := by decide +kernel
  obtain ⟨r, hr, hleft⟩ := Option.map_eq_some_iff.mp hrun
  obtain ⟨hentries, houtline⟩ := Prod.mk.inj hleft
  have hcompiled : compiled Compile.exampleSettings Compile.exampleLayout files exampleTree ["1"] = r := by
    have hwork : Compile.work Compile.exampleSettings Compile.exampleLayout files
        (Run.start "compile" true exampleTree ["1"]) = _ :=
      Compile.work_of_source (by simp [files]) hsources Compile.exampleSource_location htext (by rw [hnotes.2]; simp [notes])
    rw [hnotes.2, Compile.run_of_straight hr] at hwork
    exact congrArg Work.reached hwork
  have htree : (answer exampleTree ["1"] exampleArgs).tree = r.store.tree := by
    rw [answer_of_setup ["1"] hread setup?_exampleTree, Run.finish_tree]
    exact congrArg (·.store.tree) hcompiled
  have hspare (stamp : String) (hsize : (Text.Utf8.encode stamp).length = 1) :
      Store.Spare (answer exampleTree ["1"] exampleArgs).tree 1 [stamp] := by
    refine .of_entries (List.cons_ne_nil _ _) (by simpa using hsize) fun entry hentry => ?_
    rw [htree] at hentry
    have hplaces : ∀ place ∈ r.store.tree.entries.map (·.1), ∀ name ∈ place.getLast?,
        name.toList.reverse.take 4 ≠ ".tmp".toList.reverse := by
      rw [hentries]
      decide
    exact hplaces _ (List.mem_map_of_mem hentry)
  have hconfig : ∀ path ∈ exampleGiven.value? .config, ∀ d ∈ destinations exampleTree ["1"] exampleGiven files,
      d.absolute exampleTree.home ≠ (FilePath.ofString path).absolute exampleTree.home := by
    have hat : Compile.notesAt Compile.exampleLayout
        (Run.start "compile" Compile.exampleSettings.emitEnums.truthy exampleTree ["1"]).store.tree Compile.exampleSource =
          notes.map (⟨"core", []⟩, ·) := by
      simp only [Compile.notesAt, Compile.exampleSource_location, Run.start, htext, hnotes.2]
    rw [destinations, setup?_exampleTree]
    dsimp only
    rw [hsources, Compile.notesRead_single, hat]
    rintro _ ⟨⟩
    decide +kernel
  obtain ⟨hsame, _, _, hreported⟩ := compile_idempotent sound_exampleTree hread (by decide) hconfig
    (hspare "1" (by decide)) (hspare "2" (by decide))
  refine ⟨hsame, hreported.trans ?_⟩
  simp only [reported, hread, setup?_exampleTree, hcompiled, houtline]

end Command

end NoteSchema
