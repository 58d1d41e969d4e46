import NoteSchema.Hint.Line
import NoteSchema.Hint.Reading
import NoteSchema.Hint.Value

namespace NoteSchema.Hint

inductive Opening
  | nothing
  | list
  | mapping
deriving DecidableEq, Repr

/-- The first line that says something decides what is below a key: a bullet opens a list, any other
deeper line a mapping. -/
def Opening.of (indent : Nat) (lines : List Line) : Opening :=
  match Line.dropSkipped lines with
  | [] => .nothing
  | l :: _ =>
    if l.indent ≤ indent || l.isEnd then .nothing
    else if l.bullet?.isSome then .list
    else .mapping

/-- The text of a list item: trimmed, without one comma at its end, unquoted. -/
def itemText (cs : List Char) : String :=
  let item := Text.trimChars cs
  let item :=
    match Text.beforeLast? ',' item with
    | some rest => Text.trimChars rest
    | none => item
  Text.stripQuotes (String.ofList item)

/-- The items of a list, one a line; a bullet may be missing. -/
def readList (mode : Strictness) : List Line → Reading (List String)
  | [] => Noted.pure []
  | l :: rest =>
    if l.isSkipped then readList mode rest
    else do
      Noted.when l.bullet?.isNone
        (Reading.warning mode "List item without bullet" l.number "")
      let items ← readList mode rest
      return itemText (l.bullet?.getD l.content) :: items

def readScalar (cs : List Char) : Reading Value :=
  Noted.lift ((Value.ofText (String.ofList cs)).mapError fun _ => Fault.value)

def unrecognized (mode : Strictness) (l : Line) : Reading Unit :=
  Reading.error mode ("Unrecognized line: " ++ l.shown) l.number ""

theorem length_dropSkipped (lines : List Line) :
    (Line.dropSkipped lines).length ≤ lines.length :=
  (List.dropWhile_sublist _).length_le

theorem length_block (indent : Nat) (lines : List Line) :
    (Line.block indent lines).length ≤ lines.length :=
  (List.takeWhile_sublist _).length_le

theorem length_afterBlock (indent : Nat) (lines : List Line) :
    (Line.afterBlock indent lines).length ≤ lines.length :=
  (List.dropWhile_sublist _).length_le

/-- Reads the directives of a block onto `acc`. The lines after the block tell what a key at its end
opens and whether a blank line is inside it, which is reported in nested blocks. -/
def readEntries (mode : Strictness) (nested : Bool) (parent : Nat) (after : List Line) :
    List Line → List Entry → Reading (List Entry)
  | [], acc => Noted.pure acc
  | l :: rest, acc =>
    if l.isBlank then do
      Noted.when (nested && Line.continues parent (rest ++ after))
        (Reading.warning mode "Blank line inside nested block" l.number "")
      readEntries mode nested parent after rest acc
    else if l.isComment then readEntries mode nested parent after rest acc
    else
      match l.directive? with
      | none => do
        unrecognized mode l
        readEntries mode nested parent after rest acc
      | some (key, []) =>
        match Opening.of l.indent (rest ++ after) with
        | .nothing =>
          readEntries mode nested parent after rest (Entry.put (.mk key (.text "") l.number) acc)
        | .list => do
          let items ← readList mode (Line.block l.indent (Line.dropSkipped rest))
          readEntries mode nested parent after (Line.afterBlock l.indent (Line.dropSkipped rest))
            (Entry.put (.mk key (.list items) l.number) acc)
        | .mapping => do
          let more := Line.afterBlock l.indent (Line.dropSkipped rest)
          let entries ← readEntries mode true l.indent (more ++ after)
            (Line.block l.indent (Line.dropSkipped rest)) []
          readEntries mode nested parent after more (Entry.put (.mk key (.mapping entries) l.number) acc)
      | some (key, value) => do
        let value ← readScalar value
        readEntries mode nested parent after rest (Entry.put (.mk key value l.number) acc)
termination_by lines => lines.length
decreasing_by
  all_goals simp only [List.length_cons]
  all_goals have hs := length_dropSkipped rest
  all_goals have hb := length_block l.indent (Line.dropSkipped rest)
  all_goals have ha := length_afterBlock l.indent (Line.dropSkipped rest)
  all_goals omega

def readBelow (mode : Strictness) (nested : Bool) (indent : Nat) (lines : List Line) : Reading Value :=
  let body := Line.dropSkipped lines
  match Opening.of indent lines with
  | .nothing => Noted.pure (.text "")
  | .list => do
    let items ← readList mode (Line.block indent body)
    return .list items
  | .mapping => do
    let entries ← readEntries mode nested indent (Line.afterBlock indent body)
      (Line.block indent body) []
    return .mapping entries

/-- The lines after the value below a key; all of them where there is no deeper line. -/
def afterBelow (indent : Nat) (lines : List Line) : List Line :=
  match Opening.of indent lines with
  | .nothing => lines
  | _ => Line.afterBlock indent (Line.dropSkipped lines)

theorem length_afterBelow (indent : Nat) (lines : List Line) :
    (afterBelow indent lines).length ≤ lines.length := by
  have hd := length_dropSkipped lines
  have ha := length_afterBlock indent (Line.dropSkipped lines)
  unfold afterBelow
  split
  · exact Nat.le_refl _
  · omega

end NoteSchema.Hint
