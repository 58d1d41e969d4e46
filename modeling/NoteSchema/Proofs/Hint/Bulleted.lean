import NoteSchema.Proofs.Hint.ListDirective
import NoteSchema.Proofs.Hint.Remarks

namespace NoteSchema.Hint

theorem ended_ofTexts (indent : Nat) (ss : List String) (m n : Int) :
    Line.ended indent (Line.ofTexts n ss) = Line.ended indent (Line.ofTexts m ss) := by
  induction ss generalizing m n with
  | nil => rfl
  | cons s ss ih =>
    have hskip : (Line.ofText n s).isSkipped = (Line.ofText m s).isSkipped := rfl
    have hstops : (Line.ofText n s).stops indent = (Line.ofText m s).stops indent := rfl
    rw [Line.ofTexts, Line.ofTexts, Line.ended, Line.ended, hskip, hstops, ih (m + 1) (n + 1)]

theorem all_inside_ofTexts (indent : Nat) (ss : List String) (m n : Int) :
    (Line.ofTexts n ss).all (Line.inside indent) = (Line.ofTexts m ss).all (Line.inside indent) := by
  induction ss generalizing m n with
  | nil => rfl
  | cons s ss ih =>
    have hinside : Line.inside indent (Line.ofText n s) = Line.inside indent (Line.ofText m s) := rfl
    rw [Line.ofTexts, Line.ofTexts, List.all_cons, List.all_cons, hinside, ih (m + 1) (n + 1)]

/-- Whether a list is open around a line does not depend on the numbers of the lines above it. -/
theorem listed_ofTexts (indent : Nat) (ss : List String) (m n : Int) :
    Line.listed indent (Line.ofTexts n ss) = Line.listed indent (Line.ofTexts m ss) := by
  induction ss generalizing m n with
  | nil => rfl
  | cons s ss ih =>
    have hopening (i : Nat) : Opening.of i (Line.ofTexts (n + 1) ss) = Opening.of i (Line.ofTexts (m + 1) ss) := by
      rw [← Opening.of_said, said_ofTexts (.refl ss) (m + 1) (n + 1), Opening.of_said]
    have hopens : (Line.ofText n s).opensList (Line.ofTexts (n + 1) ss) =
        (Line.ofText m s).opensList (Line.ofTexts (m + 1) ss) := by
      rw [Bool.eq_iff_iff, Line.opensList_iff, Line.opensList_iff, hopening]
      rfl
    have hindent : (Line.ofText n s).indent = (Line.ofText m s).indent := rfl
    rw [Line.ofTexts, Line.ofTexts, Line.listed, Line.listed, hopens, hindent, all_inside_ofTexts _ ss (m + 1) (n + 1),
      ih (m + 1) (n + 1)]

/-- The lines of a note below the line of its marker. -/
def belowMarker (lines : List String) : List String := (lines.dropWhile Text.allBlank).tail

/-- Reading a note is reading what is below its marker. -/
theorem parse_below {body mark : String} {above below : List String} (hbody : Text.lines body = above ++ mark :: below)
    (habove : above.all Text.allBlank = true) (hmark : Text.allBlank mark = false) (owner : String) (first : Int) :
    Block.parse .tolerant owner body first =
      if startsWithMarker (Line.ofText 0 mark).content then
        ((readSections .tolerant { owner } (Line.ofTexts (first + above.length + 1) below)).outcome.map
          fun b => (b, [])).mapError .fault
      else .error (.noMarker owner) := by
  rw [parse_tolerant, afterMarker?_ofBody hbody habove hmark]
  cases startsWithMarker (Line.ofText 0 mark).content <;> rfl

/-- A note whose first line that is not blank has the key of a list is not read. -/
theorem parse_key_first (d : ListDirective) {body mark : String} {above below : List String} {value : List Char}
    (hbody : Text.lines body = above ++ mark :: below) (habove : above.all Text.allBlank = true)
    (hmark : (Line.ofText 0 mark).content = d.key.toList ++ ':' :: value) (owner : String) (first : Int) :
    Block.parse .tolerant owner body first = .error (.noMarker owner) := by
  have hsaid : Text.allBlank mark = false := by
    rw [← isBlank_ofText 0, Line.isBlank, hmark]
    cases d.key.toList <;> rfl
  rw [parse_below hbody habove hsaid, hmark, d.startsWithMarker_key]
  rfl

theorem padded_append_left {ss ts : List String} (h : Text.Padded ss ts) :
    (xs : List String) → Text.Padded (xs ++ ss) (xs ++ ts)
  | [] => h
  | x :: xs => .keep x (padded_append_left h xs)

theorem padded_replicate (ss : List String) : (n : Nat) → Text.Padded ss (List.replicate n "" ++ ss)
  | 0 => .refl ss
  | n + 1 => .remark (by decide) (padded_replicate ss n)

section Spellings

variable {d : ListDirective} {above below : List String}
  (hlast : (d.tokens.map Text.stripQuotes).getLast? ≠ some "")
  (hended : Line.ended (width d.pad) (Line.ofTexts 0 below) = true)

include hlast hended

/-- Bullets below a key that is in no list come to the same as the list behind it, with blank lines in their place. -/
theorem outcome_bulleted (hfree : Line.listed (width d.pad) (Line.ofTexts 0 above) = false) (mode : Strictness)
    (b : Block) (n : Int) :
    (readSections mode b (Line.ofTexts n (above ++ d.opener :: (d.bullets ++ below)))).outcome =
      (readSections mode b
        (Line.ofTexts n (above ++ d.inline :: (List.replicate d.items.length "" ++ below)))).outcome := by
  have hlength : d.bullets.length = d.items.length := List.length_map _
  have hindent (m : Int) : (Line.ofText m d.opener).indent = width d.pad := by rw [d.ofText_opener]
  have hgaps (m : Int) : ∀ l ∈ Line.ofTexts m (List.replicate d.items.length ""), l.isBlank = true := by
    intro l hl
    obtain ⟨i, s, hs, rfl⟩ := mem_ofTexts hl
    rw [isBlank_ofText, List.eq_of_mem_replicate (List.mem_of_getElem? hs)]
    rfl
  rw [ofTexts_append, ofTexts_append, Line.ofTexts, Line.ofTexts, ofTexts_append, ofTexts_append, hlength,
    List.length_replicate]
  refine (Noted.Maps.iff_outcome.mp (readSections_respelled b ((d.spelled hlast _ _).respelled (hgaps _) ?_ ?_))).symm
  · rw [hindent, ended_ofTexts _ below 0]
    exact hended
  · rw [hindent, listed_ofTexts _ above 0]
    exact hfree

/-- A list in brackets behind its key and the same list below it, one bullet for each text, give the same block, where
the key is in no list that a line above it opens and the next line that says something is none of the list. The numbers
of the lines below are the same if blank lines stand in the place of the bullets, and matter only where a mapping is given
to a directive that keeps it as a value, with the lines it stands on. -/
theorem parse_bulleted {inline bulleted : String} (hinline : Text.lines inline = above ++ d.inline :: below)
    (hbulleted : Text.lines bulleted = above ++ d.opener :: (d.bullets ++ below))
    (hfree : Line.listed (width d.pad) (Line.ofTexts 0 (belowMarker above)) = false) (owner : String) (first : Int) :
    (∀ spaced, Text.lines spaced = above ++ d.inline :: (List.replicate d.items.length "" ++ below) →
        Block.parse .tolerant owner bulleted first = Block.parse .tolerant owner spaced first) ∧
      ((∀ s, .ok s ∈ sectionsOf inline → s.wellNested = true) → ∀ first',
        Block.parse .tolerant owner bulleted first' = Block.parse .tolerant owner inline first) := by
  have hopener := congrArg Line.content (d.ofText_opener 0)
  have hbrackets := congrArg Line.content (d.ofText_inline 0)
  cases habove : above.dropWhile Text.allBlank with
  | nil =>
    -- the key stands where the marker should
    have hblank : above.all Text.allBlank = true := List.all_eq_true.mpr (List.dropWhile_eq_nil_iff.mp habove)
    have hfails (n : Int) := parse_key_first d hbulleted hblank hopener owner n
    refine ⟨fun spaced hspaced => ?_, fun _ first' => ?_⟩
    · rw [hfails, parse_key_first d hspaced hblank hbrackets]
    · rw [hfails, parse_key_first d hinline hblank hbrackets]
  | cons mark upper =>
    obtain ⟨front, rfl, hfront⟩ : ∃ front, above = front ++ mark :: upper ∧ front.all Text.allBlank = true :=
      ⟨above.takeWhile Text.allBlank, by rw [← habove, List.takeWhile_append_dropWhile], List.all_takeWhile⟩
    have hmark : Text.allBlank mark = false := eq_false_of_dropWhile_eq_cons habove
    rw [belowMarker, habove, List.tail_cons] at hfree
    rw [List.append_assoc, List.cons_append] at hinline hbulleted
    have houtcome := outcome_bulleted hlast hended hfree .tolerant { owner }
    have hread (n : Int) := parse_below hbulleted hfront hmark owner n
    refine ⟨fun spaced hspaced => ?_, fun hnested first' => ?_⟩
    · rw [List.append_assoc, List.cons_append] at hspaced
      rw [hread, parse_below hspaced hfront hmark, houtcome]
    · rw [hread, parse_below hinline hfront hmark, houtcome]
      cases hmarker : startsWithMarker (Line.ofText 0 mark).content with
      | false => rfl
      | true =>
        unfold sectionsOf at hnested
        rw [afterMarker?_ofBody hinline hfront hmark, hmarker] at hnested
        simp only [if_true] at hnested ⊢
        have hgaps : Text.Padded (upper ++ d.inline :: below)
            (upper ++ d.inline :: (List.replicate d.items.length "" ++ below)) :=
          padded_append_left (.keep _ (padded_replicate below _)) upper
        have hbare (m : Int) := wellNested_of_said (said_ofTexts (.refl (upper ++ d.inline :: below)) _ m) hnested
        rw [outcome_of_said (said_ofTexts hgaps _ _) (hbare _)]

end Spellings

/-- The values of a field, two texts of which one has a blank in its quotes. -/
def sizes : ListDirective where
  pad := "  "
  key := "Enum"
  items := [("    ", "[x"), ("\t\t", "''"), ("   ", "'y z'")]
  blank := by decide
  named := by decide
  ne := by decide
  deeper := by decide
  token := by decide

def aboveSizes : List String := ["required:", "  - a", "field a:"]

def belowSizes : List String := ["  type: string", "xor: a|b"]

theorem sizes_bulleted : ∃ b,
    Block.parse .tolerant "C" (noteOf (aboveSizes ++ sizes.inline :: belowSizes)) 3 = .ok (b, []) ∧
      Block.parse .tolerant "C" (noteOf (aboveSizes ++ sizes.opener :: (sizes.bullets ++ belowSizes))) 3 = .ok (b, []) ∧
      b.required = ["a"] ∧ b.xor = ["a", "b"] ∧
      b.fields.map (fun p => p.2.enum.map (·.map (·.display))) = [some ["[x", "", "y z"]] := by
  have hinline : Text.lines (noteOf (aboveSizes ++ sizes.inline :: belowSizes)) =
      ["", marker] ++ aboveSizes ++ sizes.inline :: belowSizes := lines_noteOf (by decide)
  have hbulleted : Text.lines (noteOf (aboveSizes ++ sizes.opener :: (sizes.bullets ++ belowSizes))) =
      ["", marker] ++ aboveSizes ++ sizes.opener :: (sizes.bullets ++ belowSizes) := lines_noteOf (by decide)
  have hafter := afterMarker?_noteOf (aboveSizes ++ sizes.inline :: belowSizes) (by decide)
  have hnested : ∀ s, .ok s ∈ sectionsOf (noteOf (aboveSizes ++ sizes.inline :: belowSizes)) → s.wellNested = true := by
    have hall : (sectionsOf (noteOf (aboveSizes ++ sizes.inline :: belowSizes))).all
        (fun s => s.toOption.all Section.wellNested) = true := by
      rw [sectionsOf, hafter]
      decide +kernel
    exact fun s hs => List.all_eq_true.mp hall _ hs
  have hsame := (parse_bulleted (d := sizes) (by decide) (by decide) hinline hbulleted (by decide)
    "C" 3).2 hnested 3
  have hread : (Block.parse .tolerant "C" (noteOf (aboveSizes ++ sizes.inline :: belowSizes)) 3).toOption.map
      (fun p => (p.1.required, p.1.xor, p.1.fields.map (fun p => p.2.enum.map (·.map (·.display))), p.2.length)) =
      some (["a"], ["a", "b"], [some ["[x", "", "y z"]], 0) := by
    rw [Block.parse, Block.read?, hafter]
    decide +kernel
  rw [hsame]
  cases hp : Block.parse .tolerant "C" (noteOf (aboveSizes ++ sizes.inline :: belowSizes)) 3 with
  | error e =>
    rw [hp] at hread
    cases hread
  | ok p =>
    rw [hp] at hread
    simp only [Except.toOption, Option.map_some, Option.some.injEq, Prod.mk.injEq, List.length_eq_zero_iff] at hread
    obtain ⟨hrequired, hxor, henum, hnone⟩ := hread
    exact ⟨p.1, by rw [← hnone], by rw [← hnone], hrequired, hxor, henum⟩

def names : ListDirective where
  pad := ""
  key := "required"
  items := [("    ", "a")]
  blank := by decide
  named := by decide
  ne := by decide
  deeper := by decide
  token := by decide

/-- The numbers of the lines in the mappings that fields keep as constants. -/
def Block.constantLines (b : Block) : List Int :=
  b.fields.flatMap fun p =>
    match p.2.const with
    | some (.mapping entries) => entries.map Entry.line
    | _ => []

/-- A deeper line below is one more text for the bullets alone, and a mapping below that is kept has the numbers of its
lines with it. -/
theorem spellings_differ :
    (Block.parse .tolerant "C" (noteOf (names.inline :: ["  oneOf: [b]"])) 1).toOption.map (·.1.required) = some ["a"] ∧
      (Block.parse .tolerant "C" (noteOf (names.opener :: (names.bullets ++ ["  oneOf: [b]"]))) 1).toOption.map
          (·.1.required) = some ["a", "oneOf: [b]"] ∧
      (Block.parse .tolerant "C" (noteOf (names.inline :: ["field f:", "  const:", "    k: v"])) 1).toOption.map
          (·.1.constantLines) = some [6] ∧
      (Block.parse .tolerant "C" (noteOf (names.opener :: (names.bullets ++ ["field f:", "  const:", "    k: v"]))) 1).toOption.map
          (·.1.constantLines) = some [7] := by
  refine ⟨?_, ?_, ?_, ?_⟩
  all_goals
    rw [Block.parse, Block.read?, afterMarker?_noteOf _ (by decide)]
    decide +kernel

end NoteSchema.Hint
