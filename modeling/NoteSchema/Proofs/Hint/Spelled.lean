import NoteSchema.Proofs.Hint.Section
import Mathlib.Data.List.TakeWhile

namespace NoteSchema.Hint

open Noted (Maps)
open Reading (maps_report maps_when_report)

variable {mode : Strictness}

namespace Line

/-- Whether a line is a key that opens a list. -/
def opensList (l : Line) (below : List Line) : Bool :=
  match l.directive? with
  | some (_, []) => Opening.of l.indent below = .list
  | _ => false

/-- Whether the first line that says something, if there is one, cannot belong to a block below a key of the given
indentation. -/
def ended (indent : Nat) : List Line → Bool
  | [] => true
  | l :: rest => if l.isSkipped then ended indent rest else l.stops indent

/-- What the first line that says something shows to the keys above it. -/
def front (lines : List Line) : Option (Nat × Bool × Bool) :=
  (dropSkipped lines).head?.map fun l => (l.indent, l.isEnd, l.bullet?.isSome)

variable {l : Line} {indent : Nat} {xs ys lines : List Line}

theorem isSkipped_of_isBlank (h : l.isBlank = true) : l.isSkipped = true := by rw [isSkipped, h, Bool.true_or]

theorem dropSkipped_cons_of_skipped (h : l.isSkipped = true) (rest : List Line) :
    dropSkipped (l :: rest) = dropSkipped rest := List.dropWhile_cons_of_pos h

theorem dropSkipped_cons (h : l.isSkipped = false) (rest : List Line) : dropSkipped (l :: rest) = l :: rest :=
  List.dropWhile_cons_of_neg (by simp [h])

theorem front_cons_of_skipped (h : l.isSkipped = true) (rest : List Line) : front (l :: rest) = front rest := by
  rw [front, dropSkipped_cons_of_skipped h, front]

theorem front_cons (h : l.isSkipped = false) (rest : List Line) :
    front (l :: rest) = some (l.indent, l.isEnd, l.bullet?.isSome) := by
  rw [front, dropSkipped_cons h]
  rfl

theorem front_append (xs ys : List Line) : front (xs ++ ys) = (front xs).or (front ys) := by
  induction xs with
  | nil => rfl
  | cons l rest ih =>
    cases h : l.isSkipped with
    | true => rw [List.cons_append, front_cons_of_skipped h, front_cons_of_skipped h, ih]
    | false => rw [List.cons_append, front_cons h, front_cons h, Option.some_or]

theorem inside_of_skipped (h : l.isSkipped = true) : inside indent l = true := by rw [inside, h, Bool.true_or]

theorem inside_of_blank (h : ∀ l ∈ xs, l.isBlank = true) : ∀ l ∈ xs, inside indent l = true :=
  fun l hl => inside_of_skipped (isSkipped_of_isBlank (h l hl))

theorem block_cons (h : inside indent l = true) (rest : List Line) :
    block indent (l :: rest) = l :: block indent rest := List.takeWhile_cons_of_pos h

theorem afterBlock_cons (h : inside indent l = true) (rest : List Line) :
    afterBlock indent (l :: rest) = afterBlock indent rest := List.dropWhile_cons_of_pos h

theorem block_cons_of_not (h : inside indent l = false) (rest : List Line) : block indent (l :: rest) = [] :=
  List.takeWhile_cons_of_neg (by simp [h])

theorem afterBlock_cons_of_not (h : inside indent l = false) (rest : List Line) :
    afterBlock indent (l :: rest) = l :: rest := List.dropWhile_cons_of_neg (by simp [h])

theorem block_append_inside (h : ∀ l ∈ xs, inside indent l = true) (ys : List Line) :
    block indent (xs ++ ys) = xs ++ block indent ys := List.takeWhile_append_of_pos h

theorem afterBlock_append_inside (h : ∀ l ∈ xs, inside indent l = true) (ys : List Line) :
    afterBlock indent (xs ++ ys) = afterBlock indent ys := List.dropWhile_append_of_pos h

theorem dropSkipped_block (indent : Nat) (lines : List Line) :
    dropSkipped (block indent lines) = block indent (dropSkipped lines) := by
  induction lines with
  | nil => rfl
  | cons l rest ih =>
    cases h : l.isSkipped with
    | true => rw [block_cons (inside_of_skipped h), dropSkipped_cons_of_skipped h, dropSkipped_cons_of_skipped h, ih]
    | false =>
      rw [dropSkipped_cons h]
      cases hin : inside indent l with
      | true => rw [block_cons hin, dropSkipped_cons h]
      | false =>
        rw [block_cons_of_not hin]
        rfl

/-- Blocks of two indentations are cut off one after the other in either order. -/
theorem block_block (i j : Nat) (lines : List Line) : block i (block j lines) = block j (block i lines) := by
  simp only [block, List.takeWhile_takeWhile, and_comm]

/-- A block opens with the lines that it is cut off. -/
theorem front_block (h : front (block indent lines) ≠ none) : front (block indent lines) = front lines := by
  induction lines with
  | nil => rfl
  | cons l rest ih =>
    cases hin : inside indent l with
    | true =>
      rw [block_cons hin] at h ⊢
      cases hskip : l.isSkipped with
      | true =>
        rw [front_cons_of_skipped hskip] at h ⊢
        rw [front_cons_of_skipped hskip, ih h]
      | false => rw [front_cons hskip, front_cons hskip]
    | false =>
      rw [block_cons_of_not hin] at h
      exact absurd rfl h

theorem ended_block (h : ended indent lines = true) (i : Nat) : ended indent (block i lines) = true := by
  induction lines with
  | nil => rfl
  | cons l rest ih =>
    cases hin : inside i l with
    | false =>
      rw [block_cons_of_not hin]
      rfl
    | true =>
      rw [block_cons hin]
      rw [ended] at h ⊢
      split at h
      next hskip => exact (if_pos hskip).trans (ih h)
      next hskip => exact (if_neg hskip).trans h

/-- A block that has ended takes nothing but what is skipped. -/
theorem afterBlock_of_ended (h : ended indent lines = true) : afterBlock indent lines = dropSkipped lines := by
  induction lines with
  | nil => rfl
  | cons l rest ih =>
    rw [ended] at h
    split at h
    next hskip => rw [afterBlock_cons (inside_of_skipped hskip), dropSkipped_cons_of_skipped hskip, ih h]
    next hskip =>
      have hskip := Bool.eq_false_iff.mpr hskip
      rw [afterBlock_cons_of_not (by simp [inside, hskip, h]), dropSkipped_cons hskip]

theorem isSkipped_of_mem_block (h : ended indent lines = true) : ∀ l ∈ block indent lines, l.isSkipped = true := by
  induction lines with
  | nil => exact fun _ hl => absurd hl List.not_mem_nil
  | cons l rest ih =>
    rw [ended] at h
    split at h
    next hskip =>
      rw [block_cons (inside_of_skipped hskip)]
      exact List.forall_mem_cons.mpr ⟨hskip, ih h⟩
    next hskip =>
      rw [block_cons_of_not (by simp [inside, hskip, h])]
      exact fun _ hl => absurd hl List.not_mem_nil

end Line

open Line (block afterBlock dropSkipped front)

theorem Opening.of_front {xs ys : List Line} (h : front xs = front ys) (indent : Nat) :
    Opening.of indent xs = Opening.of indent ys := by
  unfold Opening.of
  unfold Line.front at h
  cases hx : Line.dropSkipped xs with
  | nil =>
    cases hy : Line.dropSkipped ys with
    | nil => rfl
    | cons l' ys' => simp [hx, hy] at h
  | cons l xs' =>
    cases hy : Line.dropSkipped ys with
    | nil => simp [hx, hy] at h
    | cons l' ys' =>
      obtain ⟨hindent, hend, hbullet⟩ : l.indent = l'.indent ∧ l.isEnd = l'.isEnd ∧ l.bullet?.isSome = l'.bullet?.isSome := by
        simpa [hx, hy] using h
      simp only [hindent, hend, hbullet]

theorem Line.opensList_iff {l : Line} {below : List Line} :
    l.opensList below = true ↔ (∃ key, l.directive? = some (key, [])) ∧ Opening.of l.indent below = .list := by
  unfold Line.opensList
  split
  next key hkey => simp [hkey]
  next hnone => exact ⟨fun h => (nomatch h), fun ⟨⟨key, hkey⟩, _⟩ => absurd hkey (hnone key)⟩

/-- A list opens below a key in what is cut off for a block only if it opens in all lines. -/
theorem Line.opensList_of_block {l : Line} {i : Nat} {lines : List Line} (h : l.opensList (block i lines) = true) :
    l.opensList lines = true := by
  rw [Line.opensList_iff] at h ⊢
  refine ⟨h.1, ?_⟩
  rw [← h.2]
  refine (Opening.of_front (Line.front_block fun hnone => ?_) l.indent).symm
  have hnothing : Opening.of l.indent (block i lines) = Opening.of l.indent [] := Opening.of_front hnone l.indent
  rw [h.2] at hnothing
  cases hnothing

/-- A line that stands at its own place, as a key does: neither skipped nor the end nor a field header nor a bullet. -/
structure Line.Plain (l : Line) : Prop where
  said : l.isSkipped = false
  notEnd : l.isEnd = false
  notField : l.fieldName? = none
  notBullet : l.bullet? = none

/-- A bullet below a key of the given indentation. -/
structure Line.Bullet (indent : Nat) (l : Line) : Prop where
  said : l.isSkipped = false
  deeper : indent < l.indent
  notEnd : l.isEnd = false
  notField : l.isField = false
  isBullet : l.bullet?.isSome = true

/-- A list behind a key in one line and below the key as bullets. -/
structure Spelled (k k' : Line) (bullets : List Line) : Prop where
  number : k'.number = k.number
  indent : k'.indent = k.indent
  plain : k.Plain
  plain' : k'.Plain
  ne : bullets ≠ []
  bullet : ∀ l ∈ bullets, l.Bullet k.indent
  same : ∃ key value items, k.directive? = some (key, []) ∧ k'.directive? = some (key, value) ∧ value ≠ [] ∧
    readScalar value = pure (.list items) ∧ ∀ mode, readList mode bullets = pure items

theorem Line.Plain.inside_eq {l : Line} (h : l.Plain) (i : Nat) : Line.inside i l = decide (i < l.indent) := by
  have hfield : l.isField = false := by rw [Line.isField, h.notField]; rfl
  rw [Bool.eq_iff_iff]
  simp only [Line.inside, Line.stops, h.said, h.notEnd, hfield, Bool.or_false, Bool.false_or, Bool.not_eq_true',
    decide_eq_false_iff_not, decide_eq_true_iff]
  omega

theorem Line.Bullet.inside {i indent : Nat} {l : Line} (h : l.Bullet indent) (hi : i ≤ indent) :
    Line.inside i l = true := by
  have hdeeper := h.deeper
  simp only [Line.inside, Line.stops, h.said, h.notEnd, h.notField, Bool.or_false, Bool.false_or, Bool.not_eq_true',
    decide_eq_false_iff_not]
  omega

theorem readList_append_skipped (lines : List Line) {more : List Line} (h : ∀ l ∈ more, l.isSkipped = true) :
    readList mode (lines ++ more) = readList mode lines := by
  induction lines with
  | nil =>
    induction more with
    | nil => rfl
    | cons l rest ih =>
      obtain ⟨hl, hrest⟩ := List.forall_mem_cons.mp h
      rw [List.nil_append, ← ih hrest, List.nil_append, readList, if_pos hl]
  | cons l rest ih => rw [List.cons_append, readList, readList, ih]

namespace Spelled

variable {k k' : Line} {bullets : List Line} {i : Nat}

theorem inside_eq (h : Spelled k k' bullets) (i : Nat) : Line.inside i k' = Line.inside i k := by
  rw [h.plain'.inside_eq, h.plain.inside_eq, h.indent]

/-- The bullets are in every block that their key is in. -/
theorem inside_bullets (h : Spelled k k' bullets) (hk : Line.inside i k = true) :
    ∀ l ∈ bullets, Line.inside i l = true := by
  rw [h.plain.inside_eq, decide_eq_true_iff] at hk
  exact fun l hl => (h.bullet l hl).inside hk.le

/-- The bullets are all that is said in the block below their key. -/
theorem readBlock (h : Spelled k k' bullets) {below : List Line} (hend : Line.ended k.indent below = true) :
    readList mode (block k.indent (bullets ++ below)) = readList mode bullets := by
  rw [Line.block_append_inside fun l hl => (h.bullet l hl).inside (le_refl k.indent)]
  exact readList_append_skipped bullets (Line.isSkipped_of_mem_block hend)

theorem afterBlock_eq (h : Spelled k k' bullets) {below : List Line} (hend : Line.ended k.indent below = true) :
    afterBlock k.indent (bullets ++ below) = dropSkipped below := by
  rw [Line.afterBlock_append_inside fun l hl => (h.bullet l hl).inside (le_refl k.indent), Line.afterBlock_of_ended hend]

/-- A bullet opens the block below the key. -/
theorem opens (h : Spelled k k' bullets) (lines : List Line) : Opening.of k.indent (bullets ++ lines) = .list := by
  obtain ⟨l, rest, rfl⟩ := List.exists_cons_of_ne_nil h.ne
  have hbullet := h.bullet l List.mem_cons_self
  have hdeeper := Nat.not_le.mpr hbullet.deeper
  rw [Opening.of, List.cons_append, Line.dropSkipped_cons hbullet.said]
  simp [hdeeper, hbullet.notEnd, hbullet.isBullet]

theorem dropSkipped_eq (h : Spelled k k' bullets) (lines : List Line) :
    dropSkipped (bullets ++ lines) = bullets ++ lines := by
  obtain ⟨l, rest, rfl⟩ := List.exists_cons_of_ne_nil h.ne
  exact Line.dropSkipped_cons (h.bullet l List.mem_cons_self).said _

end Spelled

/-- Lines in which one list is spelled in the other way, with blank lines in the place of its bullets. The key of the
list is in no list that a line above it opens. -/
inductive Respelled : List Line → List Line → Prop
  | refl (lines : List Line) : Respelled lines lines
  | here {k k' : Line} {bullets gaps below : List Line} (h : Spelled k k' bullets)
      (hgaps : ∀ l ∈ gaps, l.isBlank = true) (hend : Line.ended k.indent below = true) :
      Respelled (k :: (bullets ++ below)) (k' :: (gaps ++ below))
  | cons (l : Line) {lines lines' : List Line} (h : Respelled lines lines')
      (hfree : l.opensList lines = true → block l.indent (dropSkipped lines) = block l.indent (dropSkipped lines')) :
      Respelled (l :: lines) (l :: lines')

namespace Respelled

variable {lines lines' : List Line}

theorem cases_cons {l : Line} {rest : List Line} (h : Respelled (l :: rest) lines') :
    (∃ rest', lines' = l :: rest' ∧ Respelled rest rest' ∧ (l.opensList rest = true →
        block l.indent (Hint.Line.dropSkipped rest) = block l.indent (Hint.Line.dropSkipped rest'))) ∨
      ∃ k' bullets gaps below, rest = bullets ++ below ∧ lines' = k' :: (gaps ++ below) ∧ Spelled l k' bullets ∧
        (∀ l ∈ gaps, l.isBlank = true) ∧ Line.ended l.indent below = true := by
  cases h with
  | refl => exact .inl ⟨rest, rfl, .refl rest, fun _ => rfl⟩
  | here h hgaps hend => exact .inr ⟨_, _, _, _, rfl, rfl, h, hgaps, hend⟩
  | cons _ h hfree => exact .inl ⟨_, rfl, h, hfree⟩

/-- A line is the same in both spellings if the list is none that opens there. -/
theorem exists_tail {l : Line} {rest : List Line} (h : Respelled (l :: rest) lines')
    (hno : ∀ k' bullets below, rest = bullets ++ below → ¬ Spelled l k' bullets) :
    ∃ rest', lines' = l :: rest' ∧ Respelled rest rest' := by
  rcases h.cases_cons with ⟨rest', hl, hrest, -⟩ | ⟨k', bullets, gaps, below, hrest, -, hspelled, -⟩
  · exact ⟨rest', hl, hrest⟩
  · exact absurd hspelled (hno k' bullets below hrest)

theorem exists_tail_of_not_plain {l : Line} {rest : List Line} (h : Respelled (l :: rest) lines') (hno : ¬ l.Plain) :
    ∃ rest', lines' = l :: rest' ∧ Respelled rest rest' :=
  h.exists_tail fun _ _ _ _ hspelled => hno hspelled.plain

theorem exists_tail_of_directive {l : Line} {rest : List Line} (h : Respelled (l :: rest) lines')
    (hno : ∀ key, l.directive? ≠ some (key, [])) : ∃ rest', lines' = l :: rest' ∧ Respelled rest rest' := by
  refine h.exists_tail fun _ _ _ _ hspelled => ?_
  obtain ⟨key, _, _, hkey, _⟩ := hspelled.same
  exact hno key hkey

theorem exists_tail_of_opening {l : Line} {rest : List Line} (h : Respelled (l :: rest) lines') (after : List Line)
    (hno : Opening.of l.indent (rest ++ after) ≠ .list) : ∃ rest', lines' = l :: rest' ∧ Respelled rest rest' := by
  refine h.exists_tail fun _ bullets below hrest hspelled => hno ?_
  rw [hrest, List.append_assoc]
  exact hspelled.opens (below ++ after)

theorem front_eq (h : Respelled lines lines') : front lines = front lines' := by
  induction h with
  | refl => rfl
  | here h =>
    rw [Line.front_cons h.plain.said, Line.front_cons h.plain'.said, h.indent, h.plain.notEnd, h.plain'.notEnd, h.plain.notBullet,
      h.plain'.notBullet]
  | cons l _ _ ih =>
    cases hskip : l.isSkipped with
    | true => rw [Line.front_cons_of_skipped hskip, Line.front_cons_of_skipped hskip, ih]
    | false => rw [Line.front_cons hskip, Line.front_cons hskip]

theorem dropSkipped (h : Respelled lines lines') : Respelled (dropSkipped lines) (dropSkipped lines') := by
  induction h with
  | refl => exact .refl _
  | here h hgaps hend =>
    rw [Line.dropSkipped_cons h.plain.said, Line.dropSkipped_cons h.plain'.said]
    exact .here h hgaps hend
  | cons l h hfree ih =>
    cases hskip : l.isSkipped with
    | true =>
      rw [Line.dropSkipped_cons_of_skipped hskip, Line.dropSkipped_cons_of_skipped hskip]
      exact ih
    | false =>
      rw [Line.dropSkipped_cons hskip, Line.dropSkipped_cons hskip]
      exact .cons l h hfree

/-- Blocks are cut off alike, and what they open is free of the key as well. -/
theorem block (h : Respelled lines lines') (i : Nat) : Respelled (block i lines) (block i lines') := by
  induction h with
  | refl => exact .refl _
  | @here k k' bullets gaps below h hgaps hend =>
    have hk' := h.inside_eq i
    cases hk : Line.inside i k with
    | false =>
      rw [hk] at hk'
      rw [Line.block_cons_of_not hk, Line.block_cons_of_not hk']
      exact .refl []
    | true =>
      rw [hk] at hk'
      rw [Line.block_cons hk, Line.block_cons hk', Line.block_append_inside (h.inside_bullets hk),
        Line.block_append_inside (Line.inside_of_blank hgaps)]
      exact .here h hgaps (Line.ended_block hend i)
  | @cons l lines lines' h hfree ih =>
    cases hl : Line.inside i l with
    | false =>
      rw [Line.block_cons_of_not hl, Line.block_cons_of_not hl]
      exact .refl []
    | true =>
      rw [Line.block_cons hl, Line.block_cons hl]
      refine .cons l ih fun hopens => ?_
      rw [Line.dropSkipped_block, Line.dropSkipped_block, Line.block_block, Line.block_block _ i, hfree]
      exact Line.opensList_of_block hopens

theorem afterBlock (h : Respelled lines lines') (i : Nat) : Respelled (afterBlock i lines) (afterBlock i lines') := by
  induction h with
  | refl => exact .refl _
  | @here k k' bullets gaps below h hgaps hend =>
    have hk' := h.inside_eq i
    cases hk : Line.inside i k with
    | false =>
      rw [hk] at hk'
      rw [Line.afterBlock_cons_of_not hk, Line.afterBlock_cons_of_not hk']
      exact .here h hgaps hend
    | true =>
      rw [hk] at hk'
      rw [Line.afterBlock_cons hk, Line.afterBlock_cons hk', Line.afterBlock_append_inside (h.inside_bullets hk),
        Line.afterBlock_append_inside (Line.inside_of_blank hgaps)]
      exact .refl _
  | @cons l lines lines' h hfree ih =>
    cases hl : Line.inside i l with
    | false =>
      rw [Line.afterBlock_cons_of_not hl, Line.afterBlock_cons_of_not hl]
      exact .cons l h hfree
    | true =>
      rw [Line.afterBlock_cons hl, Line.afterBlock_cons hl]
      exact ih

end Respelled

/-- What is skipped comes to nothing. -/
theorem readEntries_dropSkipped (mode : Strictness) (nested : Bool) (parent : Nat) (after lines : List Line)
    (acc : List Entry) : Maps id (readEntries mode nested parent after lines acc)
      (readEntries mode nested parent after (dropSkipped lines) acc) := by
  induction lines generalizing acc with
  | nil => exact .refl _
  | cons l rest ih =>
    cases hskip : l.isSkipped with
    | false =>
      rw [Line.dropSkipped_cons hskip]
      exact .refl _
    | true =>
      rw [Line.dropSkipped_cons_of_skipped hskip, readEntries.eq_2]
      split
      next => exact .of_remarks (Noted.outcome_when _ Reading.outcome_report) (ih acc)
      next hblank =>
        have hcomment : l.isComment = true := by simpa [Line.isSkipped, hblank] using hskip
        rw [if_pos hcomment]
        exact ih acc

theorem dropSkipped_append_blank {gaps : List Line} (h : ∀ l ∈ gaps, l.isBlank = true) (lines : List Line) :
    dropSkipped (gaps ++ lines) = dropSkipped lines :=
  List.dropWhile_append_of_pos fun l hl => Line.isSkipped_of_isBlank (h l hl)

theorem front_append_congr {xs ys xs' ys' : List Line} (hx : front xs = front xs') (hy : front ys = front ys') :
    front (xs ++ ys) = front (xs' ++ ys') := by
  rw [Line.front_append, Line.front_append, hx, hy]

/-- The list that opens below a line is the same in both spellings. -/
theorem block_of_opening {l : Line} {rest rest' : List Line} {key : String} (after : List Line)
    (hkey : l.directive? = some (key, [])) (hopen : Opening.of l.indent (rest ++ after) = .list)
    (hrest : Respelled rest rest')
    (hfree : l.opensList rest = true → block l.indent (dropSkipped rest) = block l.indent (dropSkipped rest')) :
    block l.indent (dropSkipped rest) = block l.indent (dropSkipped rest') := by
  cases hfront : front rest with
  | none =>
    have hnil {lines : List Line} (h : front lines = none) : dropSkipped lines = [] := by simpa [front] using h
    rw [hnil hfront, hnil (hrest.front_eq ▸ hfront)]
  | some shown =>
    have hsame : front (rest ++ after) = front rest := by rw [Line.front_append, hfront, Option.some_or]
    exact hfree (Line.opensList_iff.mpr ⟨⟨key, hkey⟩, (Opening.of_front hsame l.indent).symm.trans hopen⟩)

/-- The line that spells a list is read as the list is below its key, and the reading goes on below it. -/
theorem Spelled.exists_entry {k k' : Line} {bullets gaps : List Line} (h : Spelled k k' bullets)
    (hgaps : ∀ l ∈ gaps, l.isBlank = true) :
    ∃ key items, k.directive? = some (key, []) ∧ readList mode bullets = pure items ∧
      ∀ nested parent after below acc, (readEntries mode nested parent after (k' :: (gaps ++ below)) acc).outcome =
        (readEntries mode nested parent after (dropSkipped below)
          ((Entry.mk key (.list items) k.number).put acc)).outcome := by
  obtain ⟨key, value, items, hkey, hvalue, hne, hscalar, hlist⟩ := h.same
  obtain ⟨c, cs, rfl⟩ := List.exists_cons_of_ne_nil hne
  obtain ⟨hblank, hcomment⟩ := Bool.or_eq_false_iff.mp h.plain'.said
  refine ⟨key, items, hkey, hlist mode, fun nested parent after below acc => ?_⟩
  rw [readEntries, hblank, hcomment, hvalue]
  simp only [hscalar, h.number]
  have hskipped := readEntries_dropSkipped mode nested parent after (gaps ++ below)
    ((Entry.mk key (.list items) k.number).put acc)
  rw [dropSkipped_append_blank hgaps, Maps.iff_outcome] at hskipped
  exact hskipped.symm

/-- What is read of a block does not depend on how a list in it or after it is spelled. -/
theorem readEntries_respelled (mode : Strictness) (nested : Bool) (parent : Nat) (after lines : List Line)
    (acc : List Entry) {after' lines' : List Line} (hafter : front after = front after') (h : Respelled lines lines') :
    Maps id (readEntries mode nested parent after lines acc) (readEntries mode nested parent after' lines' acc) := by
  fun_induction readEntries mode nested parent after lines acc generalizing after' lines' with
  | case1 nested parent after acc =>
    cases h
    rw [readEntries]
    exact .refl _
  | case2 nested parent after l rest acc hblank ih =>
    obtain ⟨rest', rfl, hrest⟩ := h.exists_tail_of_not_plain fun hplain => by simpa [Line.isSkipped, hblank] using hplain.said
    rw [readEntries, if_pos hblank]
    exact maps_when_report.bind fun _ => ih hafter hrest
  | case3 nested parent after l rest acc hblank hcomment ih =>
    obtain ⟨rest', rfl, hrest⟩ := h.exists_tail_of_not_plain fun hplain => by simpa [Line.isSkipped, hcomment] using hplain.said
    rw [readEntries, if_neg hblank, if_pos hcomment]
    exact ih hafter hrest
  | case4 nested parent after l rest acc hblank hcomment hnone ih =>
    obtain ⟨rest', rfl, hrest⟩ := h.exists_tail_of_directive (by simp [hnone])
    rw [readEntries, if_neg hblank, if_neg hcomment, hnone]
    exact maps_report.bind fun _ => ih hafter hrest
  | case5 nested parent after l rest acc hblank hcomment key hkey hopen ih =>
    obtain ⟨rest', rfl, hrest⟩ := h.exists_tail_of_opening after (by simp [hopen])
    have hfront := Opening.of_front (front_append_congr hrest.front_eq hafter) l.indent
    rw [readEntries, if_neg hblank, if_neg hcomment, hkey]
    simp only [← hfront, hopen]
    exact ih hafter hrest
  | case6 nested parent after l rest acc hblank hcomment key hkey hopen ih =>
    rcases h.cases_cons with ⟨rest', rfl, hrest, hfree⟩ | ⟨k', bullets, gaps, below, rfl, rfl, hspelled, hgaps, hend⟩
    · have hfront := Opening.of_front (front_append_congr hrest.front_eq hafter) l.indent
      have hblock := block_of_opening after hkey hopen hrest hfree
      rw [readEntries, if_neg hblank, if_neg hcomment, hkey]
      simp only [← hfront, hopen, ← hblock]
      exact (Maps.refl _).bind fun items => ih items hafter (hrest.dropSkipped.afterBlock l.indent)
    · obtain ⟨key', items, hkey', hlist, hline⟩ := hspelled.exists_entry hgaps
      rw [hkey] at hkey'
      cases hkey'
      rw [hspelled.dropSkipped_eq, hspelled.afterBlock_eq hend] at ih
      rw [hspelled.dropSkipped_eq, hspelled.readBlock hend, hspelled.afterBlock_eq hend, hlist]
      have hbelow := ih items hafter (.refl (dropSkipped below))
      exact Maps.iff_outcome.mpr ((hline nested parent after' below acc).trans (Maps.iff_outcome.mp hbelow))
  | case7 nested parent after l rest acc hblank hcomment key hkey hopen more ihBelow =>
    rename_i ih
    obtain ⟨rest', rfl, hrest⟩ := h.exists_tail_of_opening after (by simp [hopen])
    have hfront := Opening.of_front (front_append_congr hrest.front_eq hafter) l.indent
    have hmore := hrest.dropSkipped.afterBlock l.indent
    rw [readEntries, if_neg hblank, if_neg hcomment, hkey]
    simp only [← hfront, hopen]
    exact (ihBelow (front_append_congr hmore.front_eq hafter) (hrest.dropSkipped.block l.indent)).bind fun entries =>
      ih entries hafter hmore
  | case8 nested parent after l rest acc hblank hcomment key value hvalue hkey ih =>
    obtain ⟨rest', rfl, hrest⟩ := h.exists_tail_of_directive (by simpa [hkey] using hvalue)
    obtain ⟨c, cs, rfl⟩ := List.exists_cons_of_ne_nil hvalue
    rw [readEntries, if_neg hblank, if_neg hcomment, hkey]
    exact (Maps.refl _).bind fun v => ih v hafter hrest

theorem readBelow_respelled {l : Line} {rest rest' : List Line} {key : String} (hkey : l.directive? = some (key, []))
    (hrest : Respelled rest rest')
    (hfree : l.opensList rest = true → block l.indent (dropSkipped rest) = block l.indent (dropSkipped rest')) :
    Maps id (readBelow mode false l.indent rest) (readBelow mode false l.indent rest') := by
  have hfront := Opening.of_front hrest.front_eq l.indent
  have hmore := hrest.dropSkipped.afterBlock l.indent
  unfold readBelow
  rw [← hfront]
  cases hopen : Opening.of l.indent rest with
  | nothing => exact .refl _
  | list =>
    have hblock := block_of_opening [] hkey (by rwa [List.append_nil]) hrest hfree
    simp only [hblock]
    exact .refl _
  | mapping =>
    have hbelow := readEntries_respelled mode false l.indent _ _ [] hmore.front_eq (hrest.dropSkipped.block l.indent)
    exact hbelow.bind fun entries =>
      .refl _

theorem Respelled.afterBelow {lines lines' : List Line} (h : Respelled lines lines') (i : Nat) :
    Respelled (afterBelow i lines) (afterBelow i lines') := by
  unfold Hint.afterBelow
  rw [← Opening.of_front h.front_eq i]
  split
  next => exact h
  next => exact h.dropSkipped.afterBlock i

theorem readField_respelled (b : Block) (name : String) (header : Line) {rest rest' : List Line}
    (h : Respelled rest rest') : Maps id (readField mode b name header rest) (readField mode b name header rest') := by
  have hentries := readEntries_respelled mode false header.indent _ _ [] (h.afterBlock header.indent).front_eq
    (h.block header.indent)
  rw [Maps.iff_outcome] at hentries ⊢
  rw [outcome_readField, outcome_readField, hentries]

theorem readSections_dropSkipped (b : Block) (lines : List Line) :
    readSections mode b (dropSkipped lines) = readSections mode b lines := by
  induction lines with
  | nil => rfl
  | cons l rest ih =>
    cases hskip : l.isSkipped with
    | false => rw [Line.dropSkipped_cons hskip]
    | true => rw [Line.dropSkipped_cons_of_skipped hskip, readSections, if_pos hskip, ih]

/-- Between sections, too, a list is read alike below its key and in one line with it. -/
theorem Spelled.exists_root {k k' : Line} {bullets gaps below : List Line} (h : Spelled k k' bullets)
    (hgaps : ∀ l ∈ gaps, l.isBlank = true) (hend : Line.ended k.indent below = true) :
    ∃ key items, k.directive? = some (key, []) ∧ readBelow mode false k.indent (bullets ++ below) = pure (.list items) ∧
      afterBelow k.indent (bullets ++ below) = dropSkipped below ∧ ∀ b,
        readSections mode b (k' :: (gaps ++ below)) =
          (pure (.list items) >>= fun v => applyRoot mode b key v k.number >>= fun b =>
            readSections mode b (dropSkipped below)) := by
  obtain ⟨key, value, items, hkey, hvalue, hne, hscalar, hlist⟩ := h.same
  obtain ⟨c, cs, rfl⟩ := List.exists_cons_of_ne_nil hne
  have hopens := h.opens below
  refine ⟨key, items, hkey, ?_, ?_, fun b => ?_⟩
  · rw [readBelow, hopens, h.dropSkipped_eq, h.readBlock hend, hlist mode]
    rfl
  · rw [afterBelow, hopens, h.dropSkipped_eq, h.afterBlock_eq hend]
  · rw [readSections, h.plain'.said, h.plain'.notEnd, h.plain'.notField, hvalue]
    have hgone (b : Block) : readSections mode b (gaps ++ below) = readSections mode b (dropSkipped below) := by
      rw [← dropSkipped_append_blank hgaps, readSections_dropSkipped]
    simp only [hscalar, h.number, hgone]
    rfl

/-- A note comes to the same block however a list in it is spelled. -/
theorem readSections_respelled (b : Block) {lines lines' : List Line} (h : Respelled lines lines') :
    Maps id (readSections mode b lines) (readSections mode b lines') := by
  fun_induction readSections mode b lines generalizing lines' with
  | case1 b =>
    cases h
    rw [readSections]
    exact .refl _
  | case2 b l rest hskip ih =>
    obtain ⟨rest', rfl, hrest⟩ := h.exists_tail_of_not_plain fun hplain => by simp [hplain.said] at hskip
    rw [readSections, if_pos hskip]
    exact ih hrest
  | case3 b l rest hskip hend =>
    obtain ⟨rest', rfl, hrest⟩ := h.exists_tail_of_not_plain fun hplain => by simp [hplain.notEnd] at hend
    rw [readSections, if_neg hskip, if_pos hend]
    exact .refl _
  | case4 b l rest hskip hend name hname ih =>
    obtain ⟨rest', rfl, hrest⟩ := h.exists_tail_of_not_plain fun hplain => by simp [hplain.notField] at hname
    rw [readSections, if_neg hskip, if_neg hend, hname]
    exact (readField_respelled b name l hrest).bind fun b => ih b (hrest.afterBlock l.indent)
  | case5 b l rest hskip hend hname hnone ih =>
    obtain ⟨rest', rfl, hrest⟩ := h.exists_tail_of_directive (by simp [hnone])
    rw [readSections, if_neg hskip, if_neg hend, hname, hnone]
    exact maps_report.bind fun _ => ih hrest
  | case6 b l rest hskip hend hname key hkey ih =>
    rcases h.cases_cons with ⟨rest', rfl, hrest, hfree⟩ | ⟨k', bullets, gaps, below, rfl, rfl, hspelled, hgaps, hended⟩
    · rw [readSections, if_neg hskip, if_neg hend, hname, hkey]
      exact (readBelow_respelled hkey hrest hfree).bind fun v => (Maps.refl _).bind fun b => ih b (hrest.afterBelow l.indent)
    · obtain ⟨key', items, hkey', hread, hafter, hline⟩ := hspelled.exists_root hgaps hended
      rw [hkey] at hkey'
      cases hkey'
      rw [hread, hafter, hline]
      exact .refl _
  | case7 b l rest hskip hend hname key value hvalue hkey ih =>
    obtain ⟨rest', rfl, hrest⟩ := h.exists_tail_of_directive (by simpa [hkey] using hvalue)
    obtain ⟨c, cs, rfl⟩ := List.exists_cons_of_ne_nil hvalue
    rw [readSections, if_neg hskip, if_neg hend, hname, hkey]
    exact (Maps.refl _).bind fun v => (Maps.refl _).bind fun b => ih b hrest

/-- Whether a line of the given indentation below some lines is in a list that one of them opens. -/
def Line.listed (indent : Nat) : List Line → Bool
  | [] => false
  | l :: rest => (l.opensList rest && decide (l.indent < indent) && rest.all (inside l.indent)) || listed indent rest

/-- A key opens no list that only shows from the line of another key on. -/
theorem Line.Plain.opensList_append {k l : Line} (hk : k.Plain) {above more : List Line}
    (h : l.opensList (above ++ k :: more) = true) : l.opensList above = true := by
  rw [Line.opensList_iff] at h ⊢
  refine ⟨h.1, ?_⟩
  cases hfront : front above with
  | none =>
    have hkey : front (above ++ k :: more) = front [k] := by
      rw [Line.front_append, hfront, Option.none_or, Line.front_cons hk.said, Line.front_cons hk.said]
    have hopen := (Opening.of_front hkey l.indent).symm.trans h.2
    rw [Opening.of, Line.dropSkipped_cons hk.said] at hopen
    simp only [hk.notBullet] at hopen
    split at hopen <;> cases hopen
  | some shown =>
    have hsame : front (above ++ k :: more) = front above := by rw [Line.front_append, hfront, Option.some_or]
    exact (Opening.of_front hsame l.indent).symm.trans h.2

/-- Above a line that is not in a block the block ends alike, whatever comes from the line on. -/
theorem Spelled.block_above {k k' : Line} {bullets : List Line} (h : Spelled k k' bullets) {i : Nat} {above : List Line}
    (hfree : i < k.indent → above.all (Line.inside i) = false) (more more' : List Line) :
    block i (above ++ k :: more) = block i (above ++ k' :: more') := by
  cases hall : above.all (Line.inside i) with
  | true =>
    have hk : Line.inside i k = false := by
      rw [h.plain.inside_eq, decide_eq_false_iff_not]
      intro hi
      rw [hfree hi] at hall
      cases hall
    have hk' : Line.inside i k' = false := (h.inside_eq i).trans hk
    have hinside := List.all_eq_true.mp hall
    rw [Line.block_append_inside hinside, Line.block_append_inside hinside, Line.block_cons_of_not hk,
      Line.block_cons_of_not hk']
  | false =>
    obtain ⟨l, hl, hout⟩ := List.all_eq_false.mp hall
    obtain ⟨front, back, rfl⟩ := List.append_of_mem hl
    have hout : Line.inside i l = false := Bool.eq_false_iff.mpr hout
    simp only [block, List.append_assoc, List.cons_append, takeWhile_append_stop hout]

/-- A list is spelled in the other way below lines that open no list around it. -/
theorem Spelled.respelled {k k' : Line} {bullets gaps below : List Line} (h : Spelled k k' bullets)
    (hgaps : ∀ l ∈ gaps, l.isBlank = true) (hend : Line.ended k.indent below = true) {above : List Line}
    (hfree : Line.listed k.indent above = false) :
    Respelled (above ++ k :: (bullets ++ below)) (above ++ k' :: (gaps ++ below)) := by
  induction above with
  | nil => exact .here h hgaps hend
  | cons l rest ih =>
    obtain ⟨hl, hrest⟩ := Bool.or_eq_false_iff.mp hfree
    refine .cons l (ih hrest) fun hopens => ?_
    rw [← Line.dropSkipped_block, ← Line.dropSkipped_block]
    refine congrArg dropSkipped (h.block_above (fun hi => ?_) _ _)
    simpa [h.plain.opensList_append hopens, hi] using hl

end NoteSchema.Hint
