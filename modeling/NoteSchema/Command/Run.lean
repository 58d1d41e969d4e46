import NoteSchema.Command.Bundle
import NoteSchema.Command.Lint
import NoteSchema.Command.Samples
import NoteSchema.Number.Decimal

namespace NoteSchema

/-- A command with what was asked of it. -/
inductive Command
  | compile (settings : Given) (files : List String)
  | bundle (settings : Given) (mode : Command.Mode) (top out : String)
  | samples (settings : Given) (strict : Bool)
  | lint (root : String) (format : Command.Lint.Format) (out : Option String) (strict : Bool)

namespace Command

def common : List Opt := [.config, .base, .root, .debug]

/-- A path that must lead to a file. -/
def existing (t : FileTree) (path : String) : Option String :=
  if t.isFileAt path then some path else none

/-- A path that must not lead to a folder. -/
def notFolder (t : FileTree) (path : String) : Option String :=
  if t.isFolderAt path then none else some path

/-- A path that must not lead to a file. -/
def notFile (t : FileTree) (path : String) : Option String :=
  if t.isFileAt path then none else some path

/-- Whether a value is given that does not pass. -/
def spoils {α : Type} (pass : String → Option α) (value : Option String) : Bool :=
  match value with
  | some s => (pass s).isNone
  | none => false

/-- Whether the options that commands share are what they should be. -/
def settingsFit (t : FileTree) (g : Given) : Bool :=
  !spoils (existing t) (g.value? .config) && !spoils (notFile t) (g.value? .root)

/-- A depth is a whole number that is not negative. -/
def depth? (s : String) : Option Int := (Decimal.whole? s).filter (0 ≤ ·)

def lintRoot : String := "packages"

def readCompile (t : FileTree) (args : List String) : Option Command := do
  let g ← Given.read? (common ++ [.file, .emitEnums, .noEmitEnums, .strict]) args
  if settingsFit t g && (g.values .file).all t.isFileAt then return .compile g (g.values .file)
  else none

def readBundle (t : FileTree) (args : List String) : Option Command := do
  let g ← Given.read? (common ++ [.top, .out, .mode]) args
  let top ← g.value? .top
  let out := ((FilePath.ofString (← g.value? .out)).straight t.home).toString
  let mode ← Mode.ofText? ((g.value? .mode).getD Mode.bundle.text)
  if settingsFit t g && !t.isFolderAt out then return .bundle g mode top out else none

def readSamples (t : FileTree) (args : List String) : Option Command := do
  let g ← Given.read? (common ++ [.maxDepth, .strict]) args
  if settingsFit t g && !spoils depth? (g.value? .maxDepth) then
    return .samples g (g.has .strict)
  else none

def readLint (t : FileTree) (args : List String) : Option Command := do
  let g ← Given.read? [.root, .format, .out, .strict, .debug] args
  let root ← notFile t ((g.value? .root).getD lintRoot)
  let format ← Lint.Format.ofText? ((g.value? .format).getD "text")
  if spoils (notFolder t) (g.value? .out) then none
  else return .lint root format (g.value? .out) (g.has .strict)

/-- The command that is named first, with its options. -/
def readNamed (t : FileTree) : List String → Option Command
  | "compile" :: args => readCompile t args
  | "bundle" :: args => readBundle t args
  | "samples" :: args => readSamples t args
  | "lint" :: args => readLint t args
  | _ => none

/-- The command that arguments ask for, if they make sense; two dashes may come first. -/
def read? (t : FileTree) : List String → Option Command
  | "--" :: args => readNamed t args
  | args => readNamed t args

def member (name : String) (value : Option Document) : Members String :=
  match value with
  | some d => [(name, d)]
  | none => []

/-- The settings that were given with the command. -/
def givenSettings (g : Given) (strict : Bool) : Members String :=
  member "base_id" ((g.value? .base).map .str) ++ member "root" ((g.value? .root).map .str) ++
    member "emit_enums" ((g.switch? .emitEnums .noEmitEnums).map .bool) ++
    (if strict then [("parse_mode", .str (Strictness.text .strict))] else []) ++
    member "max_depth" (((g.value? .maxDepth).bind depth?).map .int)

/-- Runs a command with its settings, or ends it where there are none. -/
def withSettings (t : FileTree) (g : Given) (strict : Bool) (run : Settings → Answer) : Answer :=
  match Settings.load t (g.value? .config) (givenSettings g strict) with
  | .ok s => run s
  | .error a => { exit := 1, output := "", tree := t, abort := some a }

def run (t : FileTree) (stamps : List String) : Command → Answer
  | .compile g files =>
    withSettings t g (g.has .strict) fun s => Compile.run s files t stamps
  | .bundle g mode top out =>
    withSettings t g false fun s => Bundle.run s mode top (FilePath.ofString out) t stamps
  | .samples g strict => withSettings t g false fun s => Samples.run s strict t stamps
  | .lint root format out strict => Lint.run root format out strict t stamps

/-- The root of the corpus that a command works on. -/
def root? (t : FileTree) : Command → Option FilePath
  | .lint root _ _ _ => some (FilePath.ofString root)
  | .compile g _ | .bundle g _ _ _ | .samples g _ =>
    match Settings.load t (g.value? .config) (givenSettings g false) with
    | .ok s => (s.layout t.home).toOption.map Layout.root
    | .error _ => none

/-- Does what arguments ask for. -/
def answer (t : FileTree) (stamps : List String) (args : List String) : Answer :=
  match read? t args with
  | some c => c.run t stamps
  | none => .misused t

end Command

end NoteSchema
