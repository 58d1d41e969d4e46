import NoteSchema.File.Tree

namespace NoteSchema.FileTree

/-- The entries that are new, or not what they were before. -/
def changes (before after : FileTree) : List Found :=
  after.entries.filter fun (place, e) => before.find? place ≠ some e

/-- The new or changed files below the folder in which relative paths start. -/
def changedFiles (before after : FileTree) : List (List String × Text.Bytes) :=
  (changes before after).filterMap fun (place, e) =>
    match FilePath.below? after.home place, e with
    | some names, .file content => some (names, content)
    | _, _ => none

end NoteSchema.FileTree
