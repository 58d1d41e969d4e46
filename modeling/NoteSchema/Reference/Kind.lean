import NoteSchema.Text.Letter
import NoteSchema.Text.Split

namespace NoteSchema.Reference

/-- The forms in which a hint writes a path. -/
inductive PathKind
  | fragment
  | absoluteUrl
  | namespaceRooted
  | projectRooted
  | documentRelative
  | bare
deriving DecidableEq, Repr

namespace PathKind

def text : PathKind → String
  | fragment => "fragment"
  | absoluteUrl => "absolute_url"
  | namespaceRooted => "namespace_rooted"
  | projectRooted => "project_rooted"
  | documentRelative => "document_relative"
  | bare => "bare"

/-- Whether a text starts with the scheme of a web address. -/
def isUrl (cs : List Char) : Bool :=
  match Text.afterWord? "http".toList cs with
  | none => false
  | some rest =>
    (Text.afterWord? "s://".toList rest).isSome || (Text.afterWord? "://".toList rest).isSome

def ofChars (cs : List Char) : PathKind :=
  match cs with
  | '#' :: _ => fragment
  | _ =>
    if isUrl cs then absoluteUrl
    else
      match cs with
      | '/' :: _ => namespaceRooted
      | '@' :: _ => projectRooted
      | '.' :: '/' :: _ => documentRelative
      | '.' :: '.' :: '/' :: _ => documentRelative
      | _ => bare

def ofPath (path : String) : PathKind := ofChars path.toList

end PathKind

/-- A reference split at its first `#` into the document part and the fragment. -/
def cut (ref : String) : String × String :=
  let (document, fragment) := Text.cutChars '#' ref.toList
  (String.ofList document, String.ofList (fragment.getD []))

end NoteSchema.Reference
