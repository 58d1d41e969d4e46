import NoteSchema.Proofs.Hint.Composed
import NoteSchema.Proofs.Hint.Said

namespace NoteSchema.Text

/-- Whether a line is blank or a comment, whose first character that is not blank is a single quote. -/
def isRemark (s : String) : Bool := allBlank s || (dropBlanks s.toList).head? == some '\''

/-- Lines with blank lines and comments put in among them. -/
inductive Padded : List String → List String → Prop
  | nil : Padded [] []
  | keep (s : String) {ss ts : List String} (h : Padded ss ts) : Padded (s :: ss) (s :: ts)
  | remark {s : String} {ss ts : List String} (hs : isRemark s = true) (h : Padded ss ts) : Padded ss (s :: ts)

theorem Padded.refl : (ss : List String) → Padded ss ss
  | [] => .nil
  | s :: ss => .keep s (.refl ss)

/-- A remark that is kept may as well have been put in. -/
theorem Padded.tail {s : String} {ss ts : List String} (hs : isRemark s = true) (h : Padded (s :: ss) ts) :
    Padded ss ts := by
  generalize hall : s :: ss = all at h
  induction h with
  | nil => cases hall
  | keep _ h =>
    cases hall
    exact .remark hs h
  | remark ht _ ih => exact .remark ht (ih hall)

theorem padded_cons_self {s : String} {ss ts : List String} : Padded (s :: ss) (s :: ts) ↔ Padded ss ts := by
  refine ⟨fun h => ?_, .keep s⟩
  cases h with
  | keep _ h => exact h
  | remark hs h => exact h.tail hs

theorem padded_cons_of_ne {t : String} {ss ts : List String} (h : ss.head? ≠ some t) :
    Padded ss (t :: ts) ↔ isRemark t = true ∧ Padded ss ts := by
  refine ⟨fun hp => ?_, fun hp => .remark hp.1 hp.2⟩
  cases hp with
  | keep _ _ => exact absurd rfl h
  | remark ht hp => exact ⟨ht, hp⟩

instance decidablePadded : (ss ts : List String) → Decidable (Padded ss ts)
  | [], [] => .isTrue .nil
  | _ :: _, [] => .isFalse fun h => nomatch h
  | [], t :: ts =>
    have := decidablePadded [] ts
    decidable_of_iff (isRemark t = true ∧ Padded [] ts) (padded_cons_of_ne (by simp)).symm
  | s :: ss, t :: ts =>
    if h : s = t then
      have := decidablePadded ss ts
      decidable_of_iff (Padded ss ts) (by rw [h, padded_cons_self])
    else
      have := decidablePadded (s :: ss) ts
      decidable_of_iff (isRemark t = true ∧ Padded (s :: ss) ts) (padded_cons_of_ne (by simpa using h)).symm

/-- Lines put together to a text, each with a line feed behind it. -/
def unlines (ss : List String) : String := String.ofList (ss.flatMap fun s => s.toList ++ ['\n'])

theorem lineChars_append_lineFeed {cs : List Char} (h : cs.any isLineEnd = false) (rest : List Char) :
    lineChars (cs ++ '\n' :: rest) = cs :: lineChars rest := by
  induction cs with
  | nil =>
    have hend : isLineEnd '\n' = true := by decide
    rw [List.nil_append, lineChars_cons (by simp), hend, if_pos rfl]
  | cons c cs ih =>
    obtain ⟨hc, hcs⟩ := Bool.or_eq_false_iff.mp (List.any_cons ▸ h)
    have hne : c ≠ '\r' := by
      rintro rfl
      exact absurd hc (by decide)
    rw [List.cons_append, lineChars_cons fun hr => absurd hr hne, hc, ih hcs]
    rfl

/-- Lines that are put together are read back. -/
theorem lines_unlines {ss : List String} (h : ∀ s ∈ ss, s.toList.any isLineEnd = false) :
    lines (unlines ss) = ss := by
  rw [lines, unlines, String.toList_ofList]
  induction ss with
  | nil => rfl
  | cons s ss ih =>
    obtain ⟨hs, hss⟩ := List.forall_mem_cons.mp h
    rw [List.flatMap_cons, List.append_assoc, List.singleton_append, lineChars_append_lineFeed hs, List.map_cons, ih hss,
      String.ofList_toList]

theorem dropBlanks_expandTabs (cs : List Char) : dropBlanks (expandTabs cs) = expandTabs (dropBlanks cs) := by
  have hspace : isBlank ' ' = true := by decide
  have htab : isBlank '\t' = true := by decide
  induction cs with
  | nil => rfl
  | cons c cs ih =>
    by_cases hc : c = '\t'
    · subst hc
      rw [expandTabs, dropBlanks, List.dropWhile_cons_of_pos hspace, List.dropWhile_cons_of_pos hspace, dropBlanks,
        List.dropWhile_cons_of_pos htab]
      exact ih
    · rw [expandTabs_cons hc, dropBlanks, dropBlanks, List.dropWhile_cons, List.dropWhile_cons]
      split
      · exact ih
      · rw [expandTabs_cons hc]

end NoteSchema.Text

namespace NoteSchema.Hint

open Line (said said_cons said_cons_of_skipped)
open Text (Padded)

/-- Tabs do not change how the text of a line starts. -/
theorem head?_content_ofText (n : Int) (s : String) :
    (Line.ofText n s).content.head? = (Text.dropBlanks s.toList).head? := by
  have hcontent : (Line.ofText n s).content = Text.expandTabs (Text.dropBlanks s.toList) :=
    Text.dropBlanks_expandTabs s.toList
  rw [hcontent]
  cases h : Text.dropBlanks s.toList with
  | nil => rfl
  | cons c cs =>
    have hc : c ≠ '\t' := by
      rintro rfl
      have htab : Text.isBlank '\t' = false := eq_false_of_dropWhile_eq_cons h
      exact absurd htab (by decide)
    rw [Text.expandTabs_cons hc]
    rfl

theorem isBlank_ofText (n : Int) (s : String) : (Line.ofText n s).isBlank = Text.allBlank s := by
  rw [Bool.eq_iff_iff, Line.isBlank, List.isEmpty_iff, ← List.head?_eq_none_iff, head?_content_ofText,
    List.head?_eq_none_iff, Text.allBlank, List.all_eq_true]
  exact List.dropWhile_eq_nil_iff

theorem isSkipped_ofText (n : Int) (s : String) : (Line.ofText n s).isSkipped = Text.isRemark s := by
  rw [Line.isSkipped, isBlank_ofText, Line.isComment, head?_content_ofText, Text.isRemark]

/-- Remarks put in among lines say nothing. -/
theorem said_ofTexts {ss ts : List String} (h : Padded ss ts) (m n : Int) :
    said (Line.ofTexts n ts) = said (Line.ofTexts m ss) := by
  induction h generalizing m n with
  | nil => rfl
  | keep s _ ih =>
    rw [Line.ofTexts, Line.ofTexts]
    cases hs : Text.isRemark s with
    | true =>
      rw [said_cons_of_skipped ((isSkipped_ofText n s).trans hs), said_cons_of_skipped ((isSkipped_ofText m s).trans hs)]
      exact ih _ _
    | false =>
      rw [said_cons ((isSkipped_ofText n s).trans hs), said_cons ((isSkipped_ofText m s).trans hs)]
      exact congrArg _ (ih _ _)
  | remark hs _ ih =>
    rw [Line.ofTexts, said_cons_of_skipped ((isSkipped_ofText n _).trans hs)]
    exact ih _ _

/-- A note with blank lines and comments put in below the line of the marker, which is the first that is not blank. -/
def Remarked (body body' : String) : Prop :=
  ∃ (above : List String) (mark : String) (below below' : List String),
    Text.lines body = above ++ mark :: below ∧ Text.lines body' = above ++ mark :: below' ∧
      above.all Text.allBlank = true ∧ Text.allBlank mark = false ∧ Padded below below'

/-- The sections of the text of a note; there are none without the marker. -/
def sectionsOf (body : String) : List (Except Fault Section) :=
  match afterMarker? (Line.ofBody body 0) with
  | some lines => sections .tolerant lines
  | none => []

theorem afterMarker?_ofBody {body mark : String} {above below : List String}
    (hbody : Text.lines body = above ++ mark :: below) (habove : above.all Text.allBlank = true)
    (hmark : Text.allBlank mark = false) (first : Int) :
    afterMarker? (Line.ofBody body first) =
      if startsWithMarker (Line.ofText 0 mark).content then some (Line.ofTexts (first + above.length + 1) below)
      else none := by
  have hdrop (n : Int) : (Line.ofTexts n (above ++ mark :: below)).dropWhile Line.isBlank =
      Line.ofTexts (n + above.length) (mark :: below) := by
    rw [ofTexts_append, List.dropWhile_append_of_pos, Line.ofTexts, List.dropWhile_cons_of_neg]
    · rw [isBlank_ofText, hmark]
      exact Bool.false_ne_true
    · intro l hl
      obtain ⟨i, s, hs, rfl⟩ := mem_ofTexts hl
      rw [isBlank_ofText]
      exact List.all_eq_true.mp habove s (List.mem_of_getElem? hs)
  rw [ofBody_eq, hbody, afterMarker?, hdrop, Line.ofTexts]
  rfl

/-- Blank lines and comments carry no meaning: put in below the marker they change neither the block that is read nor
how reading fails, unless a mapping is given to a directive that keeps it as a value, with the lines it stands on. -/
theorem parse_remarked {body body' : String} (h : Remarked body body')
    (hnested : ∀ s, .ok s ∈ sectionsOf body → s.wellNested = true) (owner : String) (first first' : Int) :
    Block.parse .tolerant owner body' first' = Block.parse .tolerant owner body first := by
  obtain ⟨above, mark, below, below', hbody, hbody', habove, hmark, hpadded⟩ := h
  unfold sectionsOf at hnested
  rw [parse_tolerant, parse_tolerant]
  rw [afterMarker?_ofBody hbody habove hmark] at hnested ⊢
  rw [afterMarker?_ofBody hbody' habove hmark]
  cases hmarker : startsWithMarker (Line.ofText 0 mark).content with
  | false => rfl
  | true =>
    simp only [hmarker, if_true] at hnested ⊢
    -- the hypothesis is about lines numbered from nought on, which say the same as those of either note
    have hbare (m : Int) := wellNested_of_said (said_ofTexts (.refl below) _ m) hnested
    rw [outcome_of_said (said_ofTexts hpadded _ _) (hbare _)]

/-- A list, an alternative, and a field with an enumeration and fields inside it. -/
def bareLines : List String :=
  ["required:", "  - a", "  - b", "oneOf:", "  kind: x", "field a:", "  enumDefine:", "    enumId: /core/E",
    "    enum: [1, 2]", "  items:", "    properties:", "      p:", "        type: string", "      q: integer"]

/-- The same lines with remarks between a key and its block, inside blocks and to the left of them, some of which look
like other lines. -/
def remarkedLines : List String :=
  ["' field z:", "required:", "", "      ' - c", "  - a", "' end note", "  - b", "oneOf:", " ", "' title: T", "  kind: x",
    "field a:", "' type: number", "", "  enumDefine:", "        ' enumId: /core/F", "    enumId: /core/E", "'",
    "    enum: [1, 2]", "  items:", " ", "    properties:", "      p:", "  'field y:", "", "        type: string",
    "\t' r: string", "      q: integer", "' - d"]

/-- A note with these lines below its marker. -/
def noteOf (below : List String) : String := Text.unlines ("" :: marker :: below)

theorem lines_noteOf {below : List String} (h : ∀ s ∈ below, s.toList.any Text.isLineEnd = false) :
    Text.lines (noteOf below) = [""] ++ marker :: below := by
  have hmarker : marker.toList.any Text.isLineEnd = false := by decide
  exact Text.lines_unlines (List.forall_mem_cons.mpr ⟨rfl, List.forall_mem_cons.mpr ⟨hmarker, h⟩⟩)

theorem afterMarker?_noteOf (below : List String) (h : ∀ s ∈ below, s.toList.any Text.isLineEnd = false) (first : Int) :
    afterMarker? (Line.ofBody (noteOf below) first) = some (Line.ofTexts (first + 1 + 1) below) := by
  rw [afterMarker?_ofBody (lines_noteOf h) (by decide) (by decide)]
  rfl

theorem remarkedLines_parsed : Remarked (noteOf bareLines) (noteOf remarkedLines) ∧
    (∀ s, .ok s ∈ sectionsOf (noteOf bareLines) → s.wellNested = true) ∧
      ∃ b, Block.parse .tolerant "C" (noteOf bareLines) 3 = .ok (b, []) ∧ b.required = ["a", "b"] ∧
        b.oneOf.length = 1 ∧ b.names = ["a"] ∧ Block.parse .tolerant "C" (noteOf remarkedLines) 7 = .ok (b, []) := by
  have hbare : Text.lines (noteOf bareLines) = [""] ++ marker :: bareLines := lines_noteOf (by decide)
  have hother : Text.lines (noteOf remarkedLines) = [""] ++ marker :: remarkedLines := lines_noteOf (by decide)
  have hpadded : Padded bareLines remarkedLines := by decide
  have hafter := afterMarker?_noteOf bareLines (by decide)
  have hnested : ∀ s, .ok s ∈ sectionsOf (noteOf bareLines) → s.wellNested = true := by
    have hall : (sections .tolerant (Line.ofTexts 2 bareLines)).all
        (fun s => s.toOption.all Section.wellNested) = true := by
      decide +kernel
    intro s hs
    rw [sectionsOf, hafter] at hs
    exact List.all_eq_true.mp hall _ hs
  have hread : (Block.parse .tolerant "C" (noteOf bareLines) 3).toOption.map
      (fun p => (p.1.required, p.1.oneOf.length, p.1.names, p.2)) = some (["a", "b"], 1, ["a"], []) := by
    rw [Block.parse, Block.read?, hafter]
    decide +kernel
  have hremarked : Remarked (noteOf bareLines) (noteOf remarkedLines) :=
    ⟨[""], marker, bareLines, remarkedLines, hbare, hother, by decide, by decide, hpadded⟩
  refine ⟨hremarked, hnested, ?_⟩
  rw [parse_remarked hremarked hnested "C" 3 7]
  cases hp : Block.parse .tolerant "C" (noteOf bareLines) 3 with
  | error e =>
    rw [hp] at hread
    cases hread
  | ok p =>
    obtain ⟨b, ds⟩ := p
    rw [hp] at hread
    obtain ⟨hrequired, halternatives, hnames, rfl⟩ :
        b.required = ["a", "b"] ∧ b.oneOf.length = 1 ∧ b.names = ["a"] ∧ ds = [] := by
      simpa [Except.toOption] using hread
    exact ⟨b, rfl, hrequired, halternatives, hnames, rfl⟩

end NoteSchema.Hint
