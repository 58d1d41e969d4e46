import NoteSchema.Hint.Block
import NoteSchema.Proofs.Noted

namespace NoteSchema.Hint

section Stop

variable {α : Type} {p : α → Bool} {x : α}

theorem takeWhile_append_stop (h : p x = false) (xs rest : List α) :
    (xs ++ x :: rest).takeWhile p = xs.takeWhile p := by
  induction xs with
  | nil => simp [h]
  | cons y xs ih => simp only [List.cons_append, List.takeWhile_cons, ih]

theorem dropWhile_append_stop (h : p x = false) (xs rest : List α) :
    (xs ++ x :: rest).dropWhile p = xs.dropWhile p ++ x :: rest := by
  induction xs with
  | nil => simp [h]
  | cons y xs ih =>
    simp only [List.cons_append, List.dropWhile_cons, ih]
    split <;> rfl

end Stop

/-- Lines that start with one that says something and has no indentation. -/
def Unindented (lines : List Line) : Prop :=
  ∃ l rest, lines = l :: rest ∧ l.isSkipped = false ∧ l.indent = 0

theorem afterBelow_subset (indent : Nat) (lines : List Line) : afterBelow indent lines ⊆ lines := by
  unfold afterBelow
  split
  · exact List.Subset.refl _
  · exact ((List.dropWhile_sublist _).trans (List.dropWhile_sublist _)).subset

section Boundary

variable {mode : Strictness} {ys : List Line} (hy : Unindented ys)

include hy

theorem dropSkipped_append (xs : List Line) : Line.dropSkipped (xs ++ ys) = Line.dropSkipped xs ++ ys := by
  obtain ⟨l, rest, rfl, hskip, _⟩ := hy
  exact dropWhile_append_stop hskip xs rest

theorem block_append (indent : Nat) (xs : List Line) : Line.block indent (xs ++ ys) = Line.block indent xs := by
  obtain ⟨l, rest, rfl, hskip, hindent⟩ := hy
  exact takeWhile_append_stop (by simp [Line.inside, hskip, Line.stops, hindent]) xs rest

theorem afterBlock_append (indent : Nat) (xs : List Line) :
    Line.afterBlock indent (xs ++ ys) = Line.afterBlock indent xs ++ ys := by
  obtain ⟨l, rest, rfl, hskip, hindent⟩ := hy
  exact dropWhile_append_stop (by simp [Line.inside, hskip, Line.stops, hindent]) xs rest

theorem continues_append (indent : Nat) (xs : List Line) :
    Line.continues indent (xs ++ ys) = Line.continues indent xs := by
  induction xs with
  | nil =>
    obtain ⟨l, rest, rfl, hskip, hindent⟩ := hy
    have hblank : l.isBlank = false := by
      simp only [Line.isSkipped, Bool.or_eq_false_iff] at hskip
      exact hskip.1
    simp [Line.continues, hblank, hindent]
  | cons x xs ih =>
    simp only [List.cons_append, Line.continues, ih]

theorem Opening.of_append (indent : Nat) (xs : List Line) :
    Opening.of indent (xs ++ ys) = Opening.of indent xs := by
  unfold Opening.of
  rw [dropSkipped_append hy]
  cases Line.dropSkipped xs with
  | nil =>
    obtain ⟨l, rest, rfl, _, hindent⟩ := hy
    simp [hindent]
  | cons x xs => rfl

/-- What is read from a block does not depend on what comes from an unindented line on. -/
theorem readEntries_append (nested : Bool) (parent : Nat) (after lines : List Line) (acc : List Entry) :
    readEntries mode nested parent (after ++ ys) lines acc = readEntries mode nested parent after lines acc := by
  -- the lines after the block are only looked at, and what is looked for ends at the unindented line
  fun_induction readEntries mode nested parent after lines acc with
  | case1 => rw [readEntries]
  | case2 nested parent after l rest acc hblank ih =>
    rw [readEntries, if_pos hblank, ← List.append_assoc, continues_append hy, ih]
  | case3 nested parent after l rest acc hblank hcomment ih =>
    rw [readEntries, if_neg hblank, if_pos hcomment, ih]
  | case4 nested parent after l rest acc hblank hcomment hnone ih =>
    rw [readEntries, if_neg hblank, if_neg hcomment, hnone, ih]
  | case5 nested parent after l rest acc hblank hcomment key hkey hopen ih =>
    rw [readEntries, if_neg hblank, if_neg hcomment, hkey]
    simp only [← List.append_assoc, Opening.of_append hy, hopen, ih]
  | case6 nested parent after l rest acc hblank hcomment key hkey hopen ih =>
    rw [readEntries, if_neg hblank, if_neg hcomment, hkey]
    simp only [← List.append_assoc, Opening.of_append hy, hopen, ih]
  | case7 nested parent after l rest acc hblank hcomment key hkey hopen more ihBelow ih =>
    rw [readEntries, if_neg hblank, if_neg hcomment, hkey]
    simp only [more] at ihBelow ih
    simp only [← List.append_assoc, Opening.of_append hy, hopen, ihBelow, ih, more]
  | case8 nested parent after l rest acc hblank hcomment key value hvalue hkey ih =>
    rw [readEntries, if_neg hblank, if_neg hcomment, hkey]
    simp only [ih]

theorem readBelow_append (nested : Bool) (indent : Nat) (xs : List Line) :
    readBelow mode nested indent (xs ++ ys) = readBelow mode nested indent xs := by
  unfold readBelow
  simp only [Opening.of_append hy, dropSkipped_append hy, block_append hy, afterBlock_append hy,
    readEntries_append hy]

theorem afterBelow_append (indent : Nat) (xs : List Line) :
    afterBelow indent (xs ++ ys) = afterBelow indent xs ++ ys := by
  unfold afterBelow
  rw [Opening.of_append hy, dropSkipped_append hy, afterBlock_append hy]
  split <;> rfl

theorem noteGap_append (name : String) (xs : List Line) : noteGap mode name (xs ++ ys) = noteGap mode name xs := by
  cases xs with
  | nil =>
    obtain ⟨l, rest, rfl, hskip, _⟩ := hy
    simp only [Line.isSkipped, Bool.or_eq_false_iff] at hskip
    simp [noteGap, hskip.1, Noted.when]
  | cons x xs => rfl

theorem readField_append (b : Block) (name : String) (header : Line) (xs : List Line) :
    readField mode b name header (xs ++ ys) = readField mode b name header xs := by
  unfold readField
  rw [noteGap_append hy, block_append hy, afterBlock_append hy, readEntries_append hy]

/-- Reading sections up to an unindented line and reading on from there is reading all of them, unless the note ends
before. -/
theorem readSections_append (b : Block) {xs : List Line} (hx : ∀ l ∈ xs, l.isEnd = true → l.isSkipped = true) :
    readSections mode b (xs ++ ys) = readSections mode b xs >>= fun b => readSections mode b ys := by
  fun_induction readSections mode b xs with
  | case1 b => rfl
  | case2 b l rest hskip ih =>
    rw [List.cons_append, readSections, if_pos hskip]
    exact ih fun m hm => hx m (List.mem_cons_of_mem _ hm)
  | case3 b l rest hskip hend => exact absurd (hx l List.mem_cons_self hend) hskip
  | case4 b l rest hskip hend name hname ih =>
    have hafter : ∀ m ∈ Line.afterBlock l.indent rest, m.isEnd = true → m.isSkipped = true := fun m hm =>
      hx m (List.mem_cons_of_mem _ ((List.dropWhile_sublist _).subset hm))
    rw [List.cons_append, readSections, if_neg hskip, if_neg hend, hname]
    simp only [readField_append hy, afterBlock_append hy, ih _ hafter, bind_assoc]
  | case5 b l rest hskip hend hname hkey ih =>
    rw [List.cons_append, readSections, if_neg hskip, if_neg hend, hname, hkey]
    simp only [ih fun m hm => hx m (List.mem_cons_of_mem _ hm), bind_assoc]
  | case6 b l rest hskip hend hname key hkey ih =>
    have hafter : ∀ m ∈ afterBelow l.indent rest, m.isEnd = true → m.isSkipped = true := fun m hm =>
      hx m (List.mem_cons_of_mem _ (afterBelow_subset l.indent rest hm))
    rw [List.cons_append, readSections, if_neg hskip, if_neg hend, hname, hkey]
    simp only [readBelow_append hy, afterBelow_append hy, ih _ hafter, bind_assoc]
  | case7 b l rest hskip hend hname key value hvalue hkey ih =>
    rw [List.cons_append, readSections, if_neg hskip, if_neg hend, hname, hkey]
    simp only [ih _ fun m hm => hx m (List.mem_cons_of_mem _ hm), bind_assoc]

end Boundary

end NoteSchema.Hint
