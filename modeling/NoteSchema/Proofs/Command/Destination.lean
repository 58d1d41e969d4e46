import NoteSchema.Proofs.Command.Turn
import NoteSchema.Proofs.File.Sound
import NoteSchema.Proofs.Itemwise
import NoteSchema.Proofs.Schema.Independent

namespace NoteSchema

namespace Command.Compile

open Hint (Block Note)
open Schema (Compiled Setup Placed)

variable {s : Settings} {l : Layout} {here : Location} {n : Note}

theorem takes_of_request {requests : List Emission} {r r' : Run} (h : request requests r = .ok () r') :
    r.pending.Takes requests r'.pending := by
  rw [request_eq] at h
  cases h
  exact Pending.takes_requested r.pending requests

/-- The enumerations of a block that are to be written. -/
def placedIn (s : Settings) (l : Layout) (here : Location) (b : Block) : List Placed :=
  (Schema.definitionsOfFields b.fields).filterMap (Schema.placed? (Setup.ofSettings s l) here)

/-- Where an enumeration is written, and how its address has come about. -/
theorem placed_of_mem {b : Block} {m : Placed} (h : m ∈ placedIn s l here b) :
    m.destination = Schema.destination (Setup.ofSettings s l) m.definition m.id ∧
      ∃ target, Reference.resolve s.base here m.definition.path .enumeration = .ok target ∧ target.artifact = some m.id := by
  obtain ⟨d, _, hd⟩ := List.mem_filterMap.mp h
  unfold Schema.placed? at hd
  split at hd
  next =>
    split at hd
    next target ht =>
      obtain ⟨id, hid, rfl⟩ := Option.map_eq_some_iff.mp hd
      exact ⟨rfl, target, ht, hid⟩
    next => cases hd
  next => cases hd

/-- The block that a note is read as, if it can be read. -/
def blockOf? (s : Settings) (n : Note) : Option Block := (Block.ofNote s.strictness n).toOption.map (·.1)

/-- Where the schema of a note is written. -/
def schemaPath? (s : Settings) (l : Layout) (here : Location) (n : Note) : Option FilePath :=
  (blockOf? s n).map fun b => l.artifactPath (Schema.idOf here b)

/-- Where the enumerations of a note are written. -/
def enumPaths (s : Settings) (l : Layout) (here : Location) (n : Note) : List FilePath :=
  ((blockOf? s n).map fun b => (placedIn s l here b).map (·.destination)).getD []

/-- Where the schemas of some notes are written. -/
def schemaPathsOf (s : Settings) (l : Layout) (notes : List (Location × Note)) : List FilePath :=
  notes.filterMap fun m => schemaPath? s l m.1 m.2

/-- Where the enumerations of some notes are written. -/
def enumPathsOf (s : Settings) (l : Layout) (notes : List (Location × Note)) : List FilePath :=
  notes.flatMap fun m => enumPaths s l m.1 m.2

namespace Yields

variable {found : List Diagnostic} {c : Compiled}

theorem schemaPath (h : Yields s l here n found c) : schemaPath? s l here n = some (l.artifactPath c.schema.id) := by
  obtain ⟨b, hread, hcompile⟩ := h
  simp [schemaPath?, blockOf?, hread, Except.toOption, Schema.id_of_compile hcompile]

theorem enumPaths (h : Yields s l here n found c) {e : Emission} (he : e ∈ c.emissions) :
    e.destination ∈ enumPaths s l here n := by
  obtain ⟨b, hread, hcompile⟩ := h
  obtain ⟨m, hm, hstems⟩ := forall₂_mem_left (Schema.emissions_of_compile hcompile).flip he
  simp only [Compile.enumPaths, blockOf?, hread, Except.toOption, Option.map_some, Option.getD_some]
  exact List.mem_map.mpr ⟨m, hm, hstems.destination.symm⟩

end Yields

/-- The notes of a source, with where it lies. -/
def notesAt (l : Layout) (t : FileTree) (p : FilePath) : List (Location × Note) :=
  match l.locationOf p, t.readText p with
  | .ok here, .ok text => (Note.extract text).map (here, ·)
  | _, _ => []

/-- The notes that a run reads, source by source, each source as it is when its turn comes. -/
def notesRead (s : Settings) (l : Layout) : List FilePath → Run → List (Location × Note)
  | [], _ => []
  | p :: ps, r =>
    notesAt l r.store.tree p ++
      match source s l p r with
      | .ok _ r => notesRead s l ps r
      | .error _ _ => []

theorem notesRead_single (s : Settings) (l : Layout) (p : FilePath) (r : Run) :
    notesRead s l [p] r = notesAt l r.store.tree p := by
  rw [notesRead]
  split <;> exact List.append_nil _

/-- The settings of the examples, and the layout of a corpus below `packages`. -/
def exampleSettings : Settings where
  base := "http://a/"
  root := .str "packages"
  dialect := .str "2020-12"
  emitEnums := .bool true
  generateEnums := .bool true
  strictness := .tolerant
  maxDepth := .int 6

def exampleLayout : Layout := ⟨⟨.relative, ["packages"]⟩, []⟩

def exampleSource : FilePath := ⟨.relative, ["packages", "core", "puml", "A.puml"]⟩

/-- A corpus with one source. -/
def oneSource (text : String) : FileTree where
  home := []
  entries :=
    [(["packages"], .folder), (["packages", "core"], .folder), (["packages", "core", "puml"], .folder),
      (["packages", "core", "puml", "A.puml"], .file (Text.Utf8.encode text))]

theorem sound_oneSource (text : String) : (oneSource text).Sound := by
  refine .of_entries rfl ?_
  intro entry hentry
  simp only [oneSource, List.mem_cons, List.not_mem_nil, or_false] at hentry
  rcases hentry with rfl | rfl | rfl | rfl
  all_goals
    refine ⟨rfl, ?_⟩
    rintro _ ⟨⟩
    decide

/-- The run that compiles the corpus with one source. -/
def exampleRun (text : String) : Run :=
  Work.reached (work exampleSettings exampleLayout []
    (Run.start "compile" exampleSettings.emitEnums.truthy (oneSource text) ["1"]))

theorem sourcesOf_oneSource (text : String) : sourcesOf exampleLayout (oneSource text) [] = [exampleSource] := by
  have hbelow : (oneSource text).below exampleLayout.root =
      [(["core"], .folder), (["core", "puml"], .folder),
        (["core", "puml", "A.puml"], .file (Text.Utf8.encode text))] := rfl
  have hsuffix : Text.small (FilePath.suffix ⟨.relative, ["A.puml"]⟩) = Layout.sourceSuffix := by decide
  simp [sourcesOf, Layout.sources, Layout.listing, hbelow, Layout.sourceFolder, Entry.isFile, hsuffix]
  rfl

end Command.Compile

end NoteSchema
