import NoteSchema.Command.Run
import NoteSchema.File.Change

open NoteSchema

namespace NoteSchema.Main

def pathTo (place : List String) : String := "/" ++ Text.join "/" place

def above (place : List String) : List (List String) :=
  (List.range (place.length - 1)).map fun n => place.take (n + 1)

/-- Adds what stands at a place and below it; links are not followed. -/
partial def addFrom (place : List String) (t : FileTree) : IO FileTree := do
  let here ← IO.FS.realPath (pathTo place)
  if here.toString != pathTo place || !(← here.pathExists) then return t
  if ← here.isDir then
    let mut t := if place.isEmpty then t else t.set place .folder
    for entry in ← here.readDir do
      t ← addFrom (place ++ [entry.fileName]) t
    return t
  else
    return t.set place (.file (← IO.FS.readBinFile here).toList)

def addPlace (t : FileTree) (place : List String) : IO FileTree := do
  let t := (above place).foldl (fun t folder => t.set folder .folder) t
  if (t.find? place).isSome then return t
  addFrom place t

def texts (args : List String) : List String :=
  args.flatMap fun arg => arg :: (Text.split '=' arg).drop 1

/-- Adds the place that a path leads to, unless nothing is there. -/
def addPath (t : FileTree) (path : String) : IO FileTree := do
  let place := (FilePath.ofString path).absolute t.home
  if place.isEmpty then return t
  try addPlace t place catch _ => return t

/-- Writes an entry where it belongs; a file takes the place of the old one at once. -/
def store (stamp : String) (place : List String) : Entry → IO Unit
  | .folder => IO.FS.createDirAll (pathTo place)
  | .file content => do
    let path := FilePath.ofString (pathTo place)
    let temporary := pathTo (place.dropLast ++ [Store.temporaryName path stamp])
    IO.FS.writeBinFile temporary (ByteArray.mk content.toArray)
    IO.FS.rename temporary (pathTo place)

def letters : List Char := "abcdefghijklmnopqrstuvwxyz0123456789_".toList

def randomStamp : IO String := do
  let indices ← (List.range 8).mapM fun _ => IO.rand 0 (letters.length - 1)
  return String.ofList (indices.filterMap fun i => letters[i]?)

def usage : String := "usage: compile | bundle | samples | lint, with options"

/-- Runs a command on the files below the working directory and those that it names. -/
def run (args : List String) : IO UInt32 := do
  let here ← IO.FS.realPath "."
  let home := (FilePath.ofString here.toString).names
  let t ← addPlace ⟨home, []⟩ home
  let t ← (texts args).foldlM addPath t
  let t ←
    match (Command.read? t args).bind (Command.root? t) with
    | some root => addPath t root.toString
    | none => pure t
  let stamps ← (List.range 16).mapM fun _ => randomStamp
  let answer := Command.answer t stamps args
  for (place, entry) in FileTree.changes t answer.tree do
    store (stamps.headD "new") place entry
  (← IO.getStdout).putStr answer.output
  match answer.abort with
  | some a => (← IO.getStderr).putStrLn a.message
  | none => if answer.exit = 2 ∧ answer.output = "" then (← IO.getStderr).putStrLn usage
  return UInt32.ofNat answer.exit

end NoteSchema.Main

def main (args : List String) : IO UInt32 := NoteSchema.Main.run args
