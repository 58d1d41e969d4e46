import NoteSchema.Proofs.Hint.Indentation
import NoteSchema.Proofs.Hint.Keyed
import NoteSchema.Proofs.Hint.Section

namespace NoteSchema.Hint

open Noted (Maps)
open Reading (maps_report maps_when_report)

variable {mode : Strictness}

namespace Line

/-- A line with no number. -/
def bare (l : Line) : Line := { l with number := 0 }

/-- The lines that say something, with no numbers. -/
def said (lines : List Line) : List Line := (lines.filter fun l => !l.isSkipped).map bare

@[simp] theorem indent_bare (l : Line) : l.bare.indent = l.indent := rfl

@[simp] theorem isBlank_bare (l : Line) : l.bare.isBlank = l.isBlank := rfl

@[simp] theorem isComment_bare (l : Line) : l.bare.isComment = l.isComment := rfl

@[simp] theorem isSkipped_bare (l : Line) : l.bare.isSkipped = l.isSkipped := rfl

@[simp] theorem isEnd_bare (l : Line) : l.bare.isEnd = l.isEnd := rfl

@[simp] theorem fieldName?_bare (l : Line) : l.bare.fieldName? = l.fieldName? := rfl

@[simp] theorem directive?_bare (l : Line) : l.bare.directive? = l.directive? := rfl

variable {l : Line}

theorem said_cons_of_skipped (h : l.isSkipped = true) (rest : List Line) : said (l :: rest) = said rest := by
  rw [said, List.filter_cons_of_neg (by simp [h]), said]

theorem said_cons (h : l.isSkipped = false) (rest : List Line) : said (l :: rest) = l.bare :: said rest := by
  rw [said, List.filter_cons_of_pos (by simp [h]), List.map_cons, said]

theorem said_append (xs ys : List Line) : said (xs ++ ys) = said xs ++ said ys := by
  rw [said, List.filter_append, List.map_append, said, said]

/-- Remarks are inside every block, so that no block ends at one. -/
theorem said_block (indent : Nat) (lines : List Line) : said (block indent lines) = block indent (said lines) := by
  induction lines with
  | nil => rfl
  | cons l rest ih =>
    cases h : l.isSkipped with
    | true =>
      have hin : inside indent l = true := by simp [inside, h]
      rw [said_cons_of_skipped h, ← ih, block, List.takeWhile_cons_of_pos hin, said_cons_of_skipped h, block]
    | false =>
      have hbare : inside indent l.bare = inside indent l := rfl
      rw [said_cons h, block, block, List.takeWhile_cons, List.takeWhile_cons, hbare]
      split
      · rw [said_cons h]
        exact congrArg _ ih
      · rfl

theorem said_afterBlock (indent : Nat) (lines : List Line) :
    said (afterBlock indent lines) = afterBlock indent (said lines) := by
  induction lines with
  | nil => rfl
  | cons l rest ih =>
    cases h : l.isSkipped with
    | true =>
      have hin : inside indent l = true := by simp [inside, h]
      rw [said_cons_of_skipped h, ← ih, afterBlock, List.dropWhile_cons_of_pos hin, afterBlock]
    | false =>
      have hbare : inside indent l.bare = inside indent l := rfl
      rw [said_cons h, afterBlock, afterBlock, List.dropWhile_cons, List.dropWhile_cons, hbare]
      split
      · exact ih
      · exact said_cons h rest

theorem said_dropSkipped (lines : List Line) : said (dropSkipped lines) = said lines := by
  induction lines with
  | nil => rfl
  | cons l rest ih =>
    cases h : l.isSkipped with
    | true => rw [dropSkipped, List.dropWhile_cons_of_pos h, said_cons_of_skipped h, ← ih, dropSkipped]
    | false => rw [dropSkipped, List.dropWhile_cons_of_neg (by simp [h])]

theorem dropSkipped_said (lines : List Line) : dropSkipped (said lines) = said lines := by
  induction lines with
  | nil => rfl
  | cons l rest ih =>
    cases h : l.isSkipped with
    | true => rw [said_cons_of_skipped h, ih]
    | false =>
      have hbare : l.bare.isSkipped = false := h
      rw [said_cons h, dropSkipped, List.dropWhile_cons_of_neg (by simp [hbare])]

end Line

open Line (said said_cons said_cons_of_skipped said_append said_block said_afterBlock said_dropSkipped dropSkipped_said)

theorem Opening.of_said (indent : Nat) (lines : List Line) : Opening.of indent (said lines) = Opening.of indent lines := by
  unfold Opening.of
  rw [dropSkipped_said, ← said_dropSkipped]
  cases h : Line.dropSkipped lines with
  | nil => rfl
  | cons l rest =>
    rw [said_cons (eq_false_of_dropWhile_eq_cons h)]
    rfl

theorem readList_said (mode : Strictness) (lines : List Line) :
    Maps id (readList mode lines) (readList mode (said lines)) := by
  induction lines with
  | nil => exact .refl _
  | cons l rest ih =>
    cases h : l.isSkipped with
    | true =>
      rw [said_cons_of_skipped h, readList, if_pos h]
      exact ih
    | false =>
      have hbare : l.bare.isSkipped = false := h
      rw [said_cons h, readList, readList, h, hbare]
      exact maps_when_report.bind fun _ => ih.bind fun _ => .refl _

theorem readScalar_bare (cs : List Char) : Maps Value.bare (readScalar cs) (readScalar cs) := by
  unfold readScalar
  cases h : Value.ofText (String.ofList cs) with
  | error e => rfl
  | ok v => exact congrArg Except.ok (Value.bare_of_not_mapping (isMapping_ofText h)).symm

/-- What is read of a block depends on the lines that say something alone, but for the numbers in it. -/
theorem readEntries_said (mode : Strictness) (nested : Bool) (parent : Nat) (after lines : List Line)
    (acc : List Entry) :
    Maps Entry.bareAll (readEntries mode nested parent after lines acc)
      (readEntries mode nested parent (said after) (said lines) (Entry.bareAll acc)) := by
  -- a remark adds a report at most; any other line is in both, and so is what is said below it and after it
  fun_induction readEntries mode nested parent after lines acc with
  | case1 nested parent after acc =>
    have hnil : said [] = [] := rfl
    rw [hnil, readEntries]
    exact .pure
  | case2 nested parent after l rest acc hblank ih =>
    rw [said_cons_of_skipped (by simp [Line.isSkipped, hblank])]
    exact .of_remarks (Noted.outcome_when _ Reading.outcome_report) ih
  | case3 nested parent after l rest acc hblank hcomment ih =>
    rw [said_cons_of_skipped (by simp [Line.isSkipped, hcomment])]
    exact ih
  | case4 nested parent after l rest acc hblank hcomment hnone ih =>
    have hbare : l.bare.directive? = none := hnone
    rw [said_cons (by simp [Line.isSkipped, hblank, hcomment]), readEntries, Line.isBlank_bare, if_neg hblank,
      Line.isComment_bare, if_neg hcomment, hbare]
    exact maps_report.bind fun _ => ih
  | case5 nested parent after l rest acc hblank hcomment key hkey hopen ih =>
    have hbare : l.bare.directive? = some (key, []) := hkey
    rw [said_cons (by simp [Line.isSkipped, hblank, hcomment]), readEntries, Line.isBlank_bare, if_neg hblank,
      Line.isComment_bare, if_neg hcomment, hbare]
    rw [Entry.bareAll_put] at ih
    simp only [Line.indent_bare, ← said_append, Opening.of_said, hopen]
    exact ih
  | case6 nested parent after l rest acc hblank hcomment key hkey hopen ih =>
    have hbare : l.bare.directive? = some (key, []) := hkey
    have hlist := readList_said mode (Line.block l.indent (Line.dropSkipped rest))
    rw [said_cons (by simp [Line.isSkipped, hblank, hcomment]), readEntries, Line.isBlank_bare, if_neg hblank,
      Line.isComment_bare, if_neg hcomment, hbare]
    simp only [said_block, said_afterBlock, said_dropSkipped, Entry.bareAll_put] at hlist ih
    simp only [Line.indent_bare, ← said_append, Opening.of_said, hopen, dropSkipped_said]
    exact hlist.bind fun items => ih items
  | case7 nested parent after l rest acc hblank hcomment key hkey hopen more ihBelow ih =>
    have hbare : l.bare.directive? = some (key, []) := hkey
    rw [said_cons (by simp [Line.isSkipped, hblank, hcomment]), readEntries, Line.isBlank_bare, if_neg hblank,
      Line.isComment_bare, if_neg hcomment, hbare]
    simp only [more, said_block, said_afterBlock, said_dropSkipped, said_append, Entry.bareAll_put] at ihBelow ih
    simp only [Line.indent_bare, ← said_append, Opening.of_said, hopen, dropSkipped_said]
    exact ihBelow.bind fun entries => ih entries
  | case8 nested parent after l rest acc hblank hcomment key value hvalue hkey ih =>
    obtain ⟨c, cs, rfl⟩ := List.exists_cons_of_ne_nil hvalue
    have hbare : l.bare.directive? = some (key, c :: cs) := hkey
    rw [said_cons (by simp [Line.isSkipped, hblank, hcomment]), readEntries, Line.isBlank_bare, if_neg hblank,
      Line.isComment_bare, if_neg hcomment, hbare]
    simp only [Entry.bareAll_put] at ih
    exact (readScalar_bare (c :: cs)).bind fun v => ih v

theorem readBelow_said (mode : Strictness) (nested : Bool) (indent : Nat) (lines : List Line) :
    Maps Value.bare (readBelow mode nested indent lines) (readBelow mode nested indent (said lines)) := by
  have hlist := readList_said mode (Line.block indent (Line.dropSkipped lines))
  have hentries := readEntries_said mode nested indent (Line.afterBlock indent (Line.dropSkipped lines))
    (Line.block indent (Line.dropSkipped lines)) []
  unfold readBelow
  rw [Opening.of_said, dropSkipped_said]
  simp only [said_block, said_afterBlock, said_dropSkipped] at hlist hentries
  cases Opening.of indent lines with
  | nothing => exact .pure
  | list => exact hlist.bind fun items => .pure
  | mapping => exact hentries.bind fun entries => .pure

theorem said_afterBelow (indent : Nat) (lines : List Line) :
    said (afterBelow indent lines) = afterBelow indent (said lines) := by
  unfold afterBelow
  rw [Opening.of_said, dropSkipped_said]
  split
  · rfl
  · rw [said_afterBlock, said_dropSkipped]

/-- The sections of a note are in the lines that say something. -/
theorem sections_said (lines : List Line) :
    sections mode (said lines) = (sections mode lines).map (Except.map Section.bare) := by
  fun_induction sections mode lines with
  | case1 =>
    have hnil : said [] = [] := rfl
    rw [hnil, sections]
    rfl
  | case2 l rest hskip ih => rw [said_cons_of_skipped hskip, ih]
  | case3 l rest hskip hend =>
    rw [said_cons (Bool.eq_false_iff.mpr hskip), sections, Line.isSkipped_bare, if_neg hskip, Line.isEnd_bare, if_pos hend]
    rfl
  | case4 l rest hskip hend name hname ih =>
    have hread := readEntries_said mode false l.indent (Line.afterBlock l.indent rest) (Line.block l.indent rest) []
    rw [said_cons (Bool.eq_false_iff.mpr hskip), sections, Line.isSkipped_bare, if_neg hskip, Line.isEnd_bare, if_neg hend,
      Line.fieldName?_bare, hname]
    simp only [said_block, said_afterBlock] at hread ih
    simp only [Line.indent_bare, List.map_cons, ih]
    exact congrArg (· :: _) (hread.outcome_map fun _ => rfl)
  | case5 l rest hskip hend hname hnone ih =>
    rw [said_cons (Bool.eq_false_iff.mpr hskip), sections, Line.isSkipped_bare, if_neg hskip, Line.isEnd_bare, if_neg hend,
      Line.fieldName?_bare, hname, Line.directive?_bare, hnone]
    exact ih
  | case6 l rest hskip hend hname key hkey ih =>
    have hread := readBelow_said mode false l.indent rest
    rw [said_cons (Bool.eq_false_iff.mpr hskip), sections, Line.isSkipped_bare, if_neg hskip, Line.isEnd_bare, if_neg hend,
      Line.fieldName?_bare, hname, Line.directive?_bare, hkey]
    simp only [said_afterBelow] at ih
    simp only [Line.indent_bare, List.map_cons, ih]
    exact congrArg (· :: _) (hread.outcome_map fun _ => rfl)
  | case7 l rest hskip hend hname key value hvalue hkey ih =>
    obtain ⟨c, cs, rfl⟩ := List.exists_cons_of_ne_nil hvalue
    rw [said_cons (Bool.eq_false_iff.mpr hskip), sections, Line.isSkipped_bare, if_neg hskip, Line.isEnd_bare, if_neg hend,
      Line.fieldName?_bare, hname, Line.directive?_bare, hkey]
    simp only [List.map_cons, ih]
    exact congrArg (· :: _) ((readScalar_bare (c :: cs)).outcome_map fun _ => rfl)

theorem applySections_bare (b : Block) {found : List (Except Fault Section)}
    (h : ∀ s, .ok s ∈ found → s.wellNested = true) :
    applySections mode b (found.map (Except.map Section.bare)) = applySections mode b found := by
  induction found generalizing b with
  | nil => rfl
  | cons s rest ih =>
    have hrest (b : Block) := ih b fun s hs => h s (List.mem_cons_of_mem _ hs)
    rw [List.map_cons, applySections_cons, applySections_cons, funext hrest]
    cases s with
    | error e => rfl
    | ok s =>
      have hs : s.bare.apply mode b = s.apply mode b := Section.apply_bare (h s List.mem_cons_self) mode b
      exact congrArg (· >>= fun b => applySections mode b rest) hs

section Said

variable {lines lines' : List Line} (hsaid : said lines' = said lines)
  (h : ∀ s, .ok s ∈ sections mode lines → s.wellNested = true)

include hsaid h

/-- Notes that say the same are well nested together. -/
theorem wellNested_of_said : ∀ s, .ok s ∈ sections mode lines' → s.wellNested = true := by
  intro s hs
  have hbare : Except.ok s.bare ∈ (sections mode lines').map (Except.map Section.bare) :=
    List.mem_map.mpr ⟨_, hs, rfl⟩
  rw [← sections_said, hsaid, sections_said] at hbare
  obtain ⟨t, ht, hts⟩ := List.mem_map.mp hbare
  cases t with
  | error e => cases hts
  | ok t =>
    have htbare : t.bare = s.bare := Except.ok.inj hts
    rw [← Section.wellNested_bare, ← htbare, Section.wellNested_bare]
    exact h t ht

/-- Notes that say the same come to the same block. -/
theorem outcome_of_said (b : Block) : (readSections mode b lines').outcome = (readSections mode b lines).outcome := by
  calc (readSections mode b lines').outcome
      = applySections mode b (sections mode lines') := outcome_readSections b lines'
    _ = applySections mode b ((sections mode lines').map (Except.map Section.bare)) :=
        (applySections_bare b (wellNested_of_said hsaid h)).symm
    _ = applySections mode b ((sections mode lines).map (Except.map Section.bare)) := by
        rw [← sections_said, hsaid, sections_said]
    _ = applySections mode b (sections mode lines) := applySections_bare b h
    _ = (readSections mode b lines).outcome := (outcome_readSections b lines).symm

end Said

end NoteSchema.Hint
