import NoteSchema.Hint.Block
import NoteSchema.Proofs.Hint.Boundary
import NoteSchema.Proofs.Text.Split
import Mathlib.Data.List.Forall2
import Mathlib.Data.List.TakeWhile
import Mathlib.Order.Monotone.Basic

namespace NoteSchema.Hint

theorem eq_false_of_dropWhile_eq_cons {α : Type} {p : α → Bool} {x : α} {xs rest : List α}
    (h : xs.dropWhile p = x :: rest) : p x = false := by
  have hne : xs.dropWhile p ≠ [] := by simp [h]
  have hhead := List.head_dropWhile_not p hne
  simpa only [h, List.head_cons] using hhead

namespace Line

variable {φ : Nat → Nat}

/-- A line with another indentation. Where nothing follows it the indentation says nothing and is dropped. -/
def reindent (φ : Nat → Nat) (l : Line) : Line :=
  ⟨l.number, if l.isBlank then 0 else φ l.indent, l.content⟩

@[simp] theorem number_reindent (l : Line) : (l.reindent φ).number = l.number := rfl

@[simp] theorem isBlank_reindent (l : Line) : (l.reindent φ).isBlank = l.isBlank := rfl

@[simp] theorem isComment_reindent (l : Line) : (l.reindent φ).isComment = l.isComment := rfl

@[simp] theorem isSkipped_reindent (l : Line) : (l.reindent φ).isSkipped = l.isSkipped := rfl

@[simp] theorem isEnd_reindent (l : Line) : (l.reindent φ).isEnd = l.isEnd := rfl

@[simp] theorem fieldName?_reindent (l : Line) : (l.reindent φ).fieldName? = l.fieldName? := rfl

@[simp] theorem isField_reindent (l : Line) : (l.reindent φ).isField = l.isField := rfl

@[simp] theorem directive?_reindent (l : Line) : (l.reindent φ).directive? = l.directive? := rfl

theorem indent_reindent {l : Line} (h : l.isBlank = false) : (l.reindent φ).indent = φ l.indent := by
  simp [reindent, h]

theorem indent_reindent_of_not_skipped {l : Line} (h : l.isSkipped = false) : (l.reindent φ).indent = φ l.indent := by
  simp only [isSkipped, Bool.or_eq_false_iff] at h
  exact indent_reindent h.1

section Order

variable (hφ : StrictMono φ)

include hφ

/-- Whether a line is inside a block depends on the order of indentations alone. -/
theorem inside_reindent (indent : Nat) (l : Line) : inside (φ indent) (l.reindent φ) = inside indent l := by
  cases h : l.isSkipped with
  | true => simp [inside, h]
  | false =>
    have hindent := indent_reindent_of_not_skipped (φ := φ) h
    simp [inside, stops, h, hindent, hφ.le_iff_le]

theorem block_reindent (indent : Nat) (lines : List Line) :
    block (φ indent) (lines.map (reindent φ)) = (block indent lines).map (reindent φ) := by
  have hinside : inside (φ indent) ∘ reindent φ = inside indent := funext (inside_reindent hφ indent)
  rw [block, List.takeWhile_map, hinside, block]

theorem afterBlock_reindent (indent : Nat) (lines : List Line) :
    afterBlock (φ indent) (lines.map (reindent φ)) = (afterBlock indent lines).map (reindent φ) := by
  have hinside : inside (φ indent) ∘ reindent φ = inside indent := funext (inside_reindent hφ indent)
  rw [afterBlock, List.dropWhile_map, hinside, afterBlock]

theorem continues_reindent (indent : Nat) (lines : List Line) :
    continues (φ indent) (lines.map (reindent φ)) = continues indent lines := by
  induction lines with
  | nil => rfl
  | cons l rest ih =>
    cases h : l.isBlank with
    | true => simp [continues, h, ih]
    | false => simp [continues, h, indent_reindent h, hφ.lt_iff_lt]

end Order

theorem dropSkipped_reindent (φ : Nat → Nat) (lines : List Line) :
    dropSkipped (lines.map (reindent φ)) = (dropSkipped lines).map (reindent φ) := by
  rw [dropSkipped, List.dropWhile_map]
  rfl

end Line

variable {mode : Strictness}

/-- What is read of a list does not depend on the indentations in it. -/
theorem readList_reindent (φ : Nat → Nat) (lines : List Line) :
    readList mode (lines.map (Line.reindent φ)) = readList mode lines := by
  induction lines with
  | nil => rfl
  | cons l rest ih =>
    rw [List.map_cons, readList, readList, ih]
    rfl

section Order

variable {φ : Nat → Nat} (hφ : StrictMono φ)

include hφ

theorem Opening.of_reindent (indent : Nat) (lines : List Line) :
    Opening.of (φ indent) (lines.map (Line.reindent φ)) = Opening.of indent lines := by
  unfold Opening.of
  rw [Line.dropSkipped_reindent]
  cases h : Line.dropSkipped lines with
  | nil => rfl
  | cons l rest =>
    have hindent := Line.indent_reindent_of_not_skipped (φ := φ) (eq_false_of_dropWhile_eq_cons h)
    have hbullet : (l.reindent φ).bullet? = l.bullet? := rfl
    simp only [List.map_cons, hindent, hφ.le_iff_le, Line.isEnd_reindent, hbullet]

/-- What is read of a block depends on the order of the indentations in and after it alone. -/
theorem readEntries_reindent (nested : Bool) (parent : Nat) (after lines : List Line) (acc : List Entry) :
    readEntries mode nested (φ parent) (after.map (Line.reindent φ)) (lines.map (Line.reindent φ)) acc =
      readEntries mode nested parent after lines acc := by
  fun_induction readEntries mode nested parent after lines acc with
  | case1 => rw [List.map_nil, readEntries]
  | case2 nested parent after l rest acc hblank ih =>
    rw [List.map_cons, readEntries, Line.isBlank_reindent, if_pos hblank, ← List.map_append,
      Line.continues_reindent hφ, ih]
    rfl
  | case3 nested parent after l rest acc hblank hcomment ih =>
    rw [List.map_cons, readEntries, Line.isBlank_reindent, if_neg hblank, Line.isComment_reindent,
      if_pos hcomment, ih]
  | case4 nested parent after l rest acc hblank hcomment hnone ih =>
    rw [List.map_cons, readEntries, Line.isBlank_reindent, if_neg hblank, Line.isComment_reindent,
      if_neg hcomment, Line.directive?_reindent, hnone, ih]
    rfl
  | case5 nested parent after l rest acc hblank hcomment key hkey hopen ih =>
    have hindent := Line.indent_reindent (φ := φ) (Bool.eq_false_iff.mpr hblank)
    rw [List.map_cons, readEntries, Line.isBlank_reindent, if_neg hblank, Line.isComment_reindent,
      if_neg hcomment, Line.directive?_reindent, hkey]
    simp only [← List.map_append, hindent, Opening.of_reindent hφ, hopen, Line.number_reindent, ih]
  | case6 nested parent after l rest acc hblank hcomment key hkey hopen ih =>
    have hindent := Line.indent_reindent (φ := φ) (Bool.eq_false_iff.mpr hblank)
    rw [List.map_cons, readEntries, Line.isBlank_reindent, if_neg hblank, Line.isComment_reindent,
      if_neg hcomment, Line.directive?_reindent, hkey]
    simp only [← List.map_append, hindent, Opening.of_reindent hφ, hopen, Line.dropSkipped_reindent,
      Line.block_reindent hφ, Line.afterBlock_reindent hφ, readList_reindent, Line.number_reindent, ih]
  | case7 nested parent after l rest acc hblank hcomment key hkey hopen more ihBelow ih =>
    have hindent := Line.indent_reindent (φ := φ) (Bool.eq_false_iff.mpr hblank)
    rw [List.map_cons, readEntries, Line.isBlank_reindent, if_neg hblank, Line.isComment_reindent,
      if_neg hcomment, Line.directive?_reindent, hkey]
    simp only [more] at ihBelow ih
    simp only [← List.map_append, hindent, Opening.of_reindent hφ, hopen, Line.dropSkipped_reindent,
      Line.block_reindent hφ, Line.afterBlock_reindent hφ, Line.number_reindent, ihBelow, ih, more]
  | case8 nested parent after l rest acc hblank hcomment key value hvalue hkey ih =>
    rw [List.map_cons, readEntries, Line.isBlank_reindent, if_neg hblank, Line.isComment_reindent,
      if_neg hcomment, Line.directive?_reindent, hkey]
    simp only [Line.number_reindent, ih]

theorem readBelow_reindent (nested : Bool) (indent : Nat) (lines : List Line) :
    readBelow mode nested (φ indent) (lines.map (Line.reindent φ)) = readBelow mode nested indent lines := by
  unfold readBelow
  simp only [Opening.of_reindent hφ, Line.dropSkipped_reindent, Line.block_reindent hφ, Line.afterBlock_reindent hφ,
    readList_reindent, readEntries_reindent hφ]

theorem afterBelow_reindent (indent : Nat) (lines : List Line) :
    afterBelow (φ indent) (lines.map (Line.reindent φ)) = (afterBelow indent lines).map (Line.reindent φ) := by
  unfold afterBelow
  rw [Opening.of_reindent hφ, Line.dropSkipped_reindent, Line.afterBlock_reindent hφ]
  split <;> rfl

theorem readField_reindent (b : Block) (name : String) {header : Line} (lines : List Line)
    (h : header.isBlank = false) :
    readField mode b name (header.reindent φ) (lines.map (Line.reindent φ)) = readField mode b name header lines := by
  have hgap : noteGap mode name (lines.map (Line.reindent φ)) = noteGap mode name lines := by cases lines <;> rfl
  unfold readField
  rw [hgap, Line.indent_reindent h, Line.block_reindent hφ, Line.afterBlock_reindent hφ, readEntries_reindent hφ,
    Line.number_reindent]

/-- What is read of the sections of a block depends on the order of indentations alone. -/
theorem readSections_reindent (b : Block) (lines : List Line) :
    readSections mode b (lines.map (Line.reindent φ)) = readSections mode b lines := by
  fun_induction readSections mode b lines with
  | case1 b => rw [List.map_nil, readSections]
  | case2 b l rest hskip ih => rw [List.map_cons, readSections, Line.isSkipped_reindent, if_pos hskip, ih]
  | case3 b l rest hskip hend =>
    rw [List.map_cons, readSections, Line.isSkipped_reindent, if_neg hskip, Line.isEnd_reindent, if_pos hend]
  | case4 b l rest hskip hend name hname ih =>
    have hindent := Line.indent_reindent_of_not_skipped (φ := φ) (Bool.eq_false_iff.mpr hskip)
    have hblank : l.isBlank = false := by
      simp only [Line.isSkipped, Bool.or_eq_true, not_or, Bool.not_eq_true] at hskip
      exact hskip.1
    rw [List.map_cons, readSections, Line.isSkipped_reindent, if_neg hskip, Line.isEnd_reindent,
      if_neg hend, Line.fieldName?_reindent, hname]
    simp only [hindent, readField_reindent hφ b name rest hblank, Line.afterBlock_reindent hφ, ih]
  | case5 b l rest hskip hend hname hkey ih =>
    rw [List.map_cons, readSections, Line.isSkipped_reindent, if_neg hskip, Line.isEnd_reindent,
      if_neg hend, Line.fieldName?_reindent, hname, Line.directive?_reindent, hkey, ih]
    rfl
  | case6 b l rest hskip hend hname key hkey ih =>
    have hindent := Line.indent_reindent_of_not_skipped (φ := φ) (Bool.eq_false_iff.mpr hskip)
    rw [List.map_cons, readSections, Line.isSkipped_reindent, if_neg hskip, Line.isEnd_reindent,
      if_neg hend, Line.fieldName?_reindent, hname, Line.directive?_reindent, hkey]
    simp only [hindent, readBelow_reindent hφ, afterBelow_reindent hφ, Line.number_reindent, ih]
  | case7 b l rest hskip hend hname key value hvalue hkey ih =>
    rw [List.map_cons, readSections, Line.isSkipped_reindent, if_neg hskip, Line.isEnd_reindent,
      if_neg hend, Line.fieldName?_reindent, hname, Line.directive?_reindent, hkey]
    simp only [Line.number_reindent, ih]

end Order

theorem afterMarker?_reindent (φ : Nat → Nat) (lines : List Line) :
    afterMarker? (lines.map (Line.reindent φ)) = (afterMarker? lines).map (List.map (Line.reindent φ)) := by
  have hdrop : (lines.map (Line.reindent φ)).dropWhile Line.isBlank =
      (lines.dropWhile Line.isBlank).map (Line.reindent φ) := List.dropWhile_map
  unfold afterMarker?
  rw [hdrop]
  cases lines.dropWhile Line.isBlank with
  | nil => rfl
  | cons l rest =>
    have hcontent : (l.reindent φ).content = l.content := rfl
    simp only [List.map_cons, hcontent]
    split <;> rfl

end NoteSchema.Hint

namespace NoteSchema.Text

/-- A line is written again with another indentation: as many spaces as `φ` makes of its leading blanks. A blank line
stays blank. -/
def ReindentedLine (φ : Nat → Nat) (cs cs' : List Char) : Prop :=
  if cs.all isBlank then cs'.all isBlank = true
  else cs' = List.replicate (φ (cs.takeWhile isBlank).length) ' ' ++ dropBlanks cs

instance (φ : Nat → Nat) : DecidableRel (ReindentedLine φ) := fun cs cs' =>
  inferInstanceAs (Decidable (if cs.all isBlank then cs'.all isBlank = true
    else cs' = List.replicate (φ (cs.takeWhile isBlank).length) ' ' ++ dropBlanks cs))

/-- A text is written again with each of its lines indented anew, after tabs are expanded. -/
def Reindented (φ : Nat → Nat) (s s' : String) : Prop :=
  List.Forall₂ (ReindentedLine φ) (lineChars (expandTabs s.toList)) (lineChars (expandTabs s'.toList))

instance (φ : Nat → Nat) : DecidableRel (Reindented φ) := fun s s' =>
  inferInstanceAs (Decidable (List.Forall₂ (ReindentedLine φ) (lineChars (expandTabs s.toList))
    (lineChars (expandTabs s'.toList))))

end NoteSchema.Text

namespace NoteSchema.Hint

open Text (ReindentedLine Reindented)

variable {φ : Nat → Nat}

theorem isBlank_ofChars (n : Int) (cs : List Char) : (Line.ofChars n cs).isBlank = cs.all Text.isBlank := by
  rw [Bool.eq_iff_iff, List.all_eq_true]
  exact List.isEmpty_iff.trans List.dropWhile_eq_nil_iff

theorem dropBlanks_eq_cons {cs : List Char} (h : cs.all Text.isBlank = false) :
    ∃ c rest, Text.dropBlanks cs = c :: rest ∧ Text.isBlank c = false := by
  have hne : Text.dropBlanks cs ≠ [] := fun hnil => by
    have hall := List.dropWhile_eq_nil_iff.mp hnil
    rw [List.all_eq_true.mpr hall] at h
    cases h
  obtain ⟨c, rest, hcons⟩ := List.exists_cons_of_ne_nil hne
  exact ⟨c, rest, hcons, eq_false_of_dropWhile_eq_cons hcons⟩

/-- A text behind a number of spaces has this number of leading blanks. -/
theorem ofChars_spaces (n : Int) (k : Nat) {cs : List Char} (h : cs.all Text.isBlank = false) :
    Line.ofChars n (List.replicate k ' ' ++ Text.dropBlanks cs) = ⟨n, k, Text.dropBlanks cs⟩ := by
  obtain ⟨c, rest, hcons, hc⟩ := dropBlanks_eq_cons h
  have hspaces : ∀ d ∈ List.replicate k ' ', Text.isBlank d = true := by
    intro d hd
    rw [List.eq_of_mem_replicate hd]
    decide
  rw [hcons, Line.ofChars, Text.dropBlanks, List.takeWhile_append_of_pos hspaces,
    List.dropWhile_append_of_pos hspaces]
  simp [hc]

/-- A line that is indented anew is the line with the new indentation. -/
theorem reindent_ofChars (n : Int) {cs cs' : List Char} (h : ReindentedLine φ cs cs') :
    (Line.ofChars n cs').reindent id = (Line.ofChars n cs).reindent φ := by
  have hcontent {ds : List Char} (hds : ds.all Text.isBlank = true) : Text.dropBlanks ds = [] :=
    List.dropWhile_eq_nil_iff.mpr (List.all_eq_true.mp hds)
  unfold ReindentedLine at h
  split at h
  next hblank =>
    simp only [Line.reindent, isBlank_ofChars, hblank, h, if_true]
    simp only [Line.ofChars, hcontent hblank, hcontent h]
  next hblank =>
    have htext : cs.all Text.isBlank = false := Bool.eq_false_iff.mpr hblank
    have hline : (Line.ofChars n cs).isBlank = false := (isBlank_ofChars n cs).trans htext
    rw [h, ofChars_spaces n _ htext]
    have hline' : (⟨n, φ (cs.takeWhile Text.isBlank).length, Text.dropBlanks cs⟩ : Line).isBlank = false := hline
    simp only [Line.reindent, hline, hline']
    rfl

theorem map_reindent_numbered {css css' : List (List Char)} (h : List.Forall₂ (ReindentedLine φ) css css')
    (n : Int) : (Line.numbered n css').map (Line.reindent id) = (Line.numbered n css).map (Line.reindent φ) := by
  induction h generalizing n with
  | nil => rfl
  | cons hline _ ih =>
    rw [Line.numbered, Line.numbered, List.map_cons, List.map_cons, reindent_ofChars n hline, ih]

/-- Indentations in the same order give the same reading. -/
theorem map_readSections_reindent (hφ : StrictMono φ) (b : Block) (lines : List Line) :
    (afterMarker? (lines.map (Line.reindent φ))).map (readSections mode b) =
      (afterMarker? lines).map (readSections mode b) := by
  rw [afterMarker?_reindent, Option.map_map]
  congr 1
  exact funext (readSections_reindent hφ b)

theorem read?_reindented (hφ : StrictMono φ) {body body' : String} (h : Reindented φ body body') (owner : String)
    (first : Int) : Block.read? mode owner body' first = Block.read? mode owner body first := by
  have hlines : (Line.ofBody body' first).map (Line.reindent id) = (Line.ofBody body first).map (Line.reindent φ) :=
    map_reindent_numbered h first
  calc Block.read? mode owner body' first
      = (afterMarker? ((Line.ofBody body' first).map (Line.reindent id))).map (readSections mode { owner }) :=
        (map_readSections_reindent strictMono_id _ _).symm
    _ = (afterMarker? ((Line.ofBody body first).map (Line.reindent φ))).map (readSections mode { owner }) := by
      rw [hlines]
    _ = Block.read? mode owner body first := map_readSections_reindent hφ _ _

/-- What a note gives, with all reports, and how it fails depend on the order of its indentations alone. -/
theorem parse_reindented (hφ : StrictMono φ) {body body' : String} (h : Reindented φ body body')
    (strictness : Strictness) (owner : String) (first : Int) :
    Block.parse strictness owner body' first = Block.parse strictness owner body first := by
  unfold Block.parse
  rw [read?_reindented hφ h]

/-- A note with a nested list, a tab, a comment, blank lines and a line that says nothing. -/
def steppedNote : String :=
  "SCHEMAHINTS\nrequired:\n  - a\n \n  b\nfield a:\n\tenumDefine:\n    path: /core/E\n\n      ' remark\n" ++
    "     oops\n  \n   type: string\n"

/-- The same note moved by three columns, with two columns for one. -/
def movedNote : String :=
  "   SCHEMAHINTS\n   required:\n       - a\n\n       b\n   field a:\n       enumDefine:\n" ++
    "           path: /core/E\n  \n               ' remark\n             oops\n\n         type: string\n"

theorem movedNote_parsed : StrictMono (fun n => 2 * n + 3) ∧ Reindented (fun n => 2 * n + 3) steppedNote movedNote ∧
    ∃ b ds, Block.parse .strict "C" steppedNote 3 = .ok (b, ds) ∧ b.required = ["a", "b"] ∧ ds.length = 4 ∧
      Block.parse .strict "C" movedNote 3 = .ok (b, ds) := by
  have hφ : StrictMono (fun n => 2 * n + 3) := fun m n h => by
    dsimp only
    omega
  have hstepped : steppedNote.toList = _ := Text.toList_ofList_append _ _
  have hmoved : Reindented (fun n => 2 * n + 3) steppedNote movedNote := by
    have hchars : movedNote.toList = _ := Text.toList_ofList_append _ _
    rw [Reindented, hstepped, hchars]
    decide
  have hread : (Block.parse .strict "C" steppedNote 3).toOption.map (fun p => (p.1.required, p.2.length)) =
      some (["a", "b"], 4) := by
    unfold Block.parse Block.read? Line.ofBody
    rw [hstepped]
    decide +kernel
  refine ⟨hφ, hmoved, ?_⟩
  rw [parse_reindented hφ hmoved]
  cases hp : Block.parse .strict "C" steppedNote 3 with
  | error e => simp [hp, Except.toOption] at hread
  | ok p =>
    obtain ⟨hrequired, hlength⟩ : p.1.required = ["a", "b"] ∧ p.2.length = 4 := by
      simpa [hp, Except.toOption] using hread
    exact ⟨p.1, p.2, rfl, hrequired, hlength, rfl⟩

end NoteSchema.Hint
