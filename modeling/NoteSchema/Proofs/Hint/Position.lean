import NoteSchema.Proofs.Hint.Extracted
import NoteSchema.Proofs.Hint.Remarks
import NoteSchema.Proofs.Hint.Traced

namespace NoteSchema.Text

variable {cs : List Char}

/-- No piece up to the given one holds a character that ends a line. -/
def Unbroken (k : Nat) (cs : List Char) : Prop :=
  ∀ piece ∈ (splitChars '\n' cs).take (k + 1), piece.any isLineEnd = false

instance (k : Nat) (cs : List Char) : Decidable (Unbroken k cs) := inferInstanceAs (Decidable (∀ piece ∈ _, _))

theorem getElem?_lineChars {k : Nat} (h : Unbroken k cs) : (lineChars (cs ++ ['\n']))[k]? = (splitChars '\n' cs)[k]? := by
  induction k generalizing cs with
  | zero =>
    by_cases hline : '\n' ∈ cs
    · obtain ⟨piece, rest, rfl, hpiece⟩ := List.eq_append_cons_of_mem hline
      rw [Unbroken, splitChars_append_sep hpiece] at h
      rw [List.append_assoc, List.cons_append, lineChars_append_lineFeed (h piece (by simp)), splitChars_append_sep hpiece]
      rfl
    · rw [Unbroken, splitChars_eq_singleton hline] at h
      rw [lineChars_append_lineFeed (h cs (by simp)), splitChars_eq_singleton hline]
      rfl
  | succ k ih =>
    by_cases hline : '\n' ∈ cs
    · obtain ⟨piece, rest, rfl, hpiece⟩ := List.eq_append_cons_of_mem hline
      rw [Unbroken, splitChars_append_sep hpiece, List.take_succ_cons, List.forall_mem_cons] at h
      rw [List.append_assoc, List.cons_append, lineChars_append_lineFeed h.1, splitChars_append_sep hpiece]
      exact ih h.2
    · rw [Unbroken, splitChars_eq_singleton hline] at h
      rw [lineChars_append_lineFeed (h cs (by simp)), splitChars_eq_singleton hline]
      rfl

end NoteSchema.Text

namespace NoteSchema.Hint

theorem getElem?_numbered (first : Int) (lines : List (List Char)) (k : Nat) :
    (Line.numbered first lines)[k]? = lines[k]?.map (Line.ofChars (first + k)) := by
  induction lines generalizing first k with
  | nil => rfl
  | cons cs rest ih =>
    cases k with
    | zero => simp [Line.numbered]
    | succ k =>
      have hnumber : first + ((k + 1 : Nat) : Int) = first + 1 + k := by
        push_cast
        omega
      rw [Line.numbered, List.getElem?_cons_succ, List.getElem?_cons_succ, ih, hnumber]

theorem getElem?_ofBody (body : String) (first : Int) (k : Nat) : (Line.ofBody body first)[k]? =
    (Text.lineChars body.toList)[k]?.map fun raw => Line.ofChars (first + k) (Text.expandTabs raw) := by
  rw [Line.ofBody, getElem?_numbered, Text.lineChars_expandTabs, List.getElem?_map, Option.map_map]
  rfl

theorem number_of_getElem? {body : String} {first : Int} {k : Nat} {l : Line}
    (h : (Line.ofBody body first)[k]? = some l) : l.number = first + k := by
  rw [getElem?_ofBody, Option.map_eq_some_iff] at h
  obtain ⟨raw, -, rfl⟩ := h
  rfl

/-- Where only line feeds end lines, the lines of a note are lines of its source. -/
theorem Note.Within.line {n : Note} {cs : List Char} (h : n.Within cs 1) {k : Nat} {l : Line}
    (hl : (Line.ofBody n.body n.line)[k]? = some l) (hunbroken : Text.Unbroken k n.body.toList) :
    ∃ raw, (Text.splitChars '\n' cs)[n.line - 1 + k]? = some raw ∧
      l = Line.ofChars (n.line + k) (Text.expandTabs raw) := by
  obtain ⟨above, below, rfl, hline⟩ := h.place
  rw [getElem?_ofBody, Option.map_eq_some_iff] at hl
  obtain ⟨raw, hraw, rfl⟩ := hl
  refine ⟨raw, ?_, rfl⟩
  obtain hbody | ⟨front, hbody⟩ := h.ends
  · rw [hbody] at hraw
    cases hraw
  rw [hbody, Text.Unbroken, Text.splitChars_append, List.take_append] at hunbroken
  have hupper : Text.Unbroken k front := fun piece hpiece => hunbroken piece (List.mem_append_left _ hpiece)
  rw [hbody, Text.getElem?_lineChars hupper] at hraw
  have hfirst : n.line - 1 + k = (Text.splitChars '\n' above).length + k := by
    rw [Text.length_splitChars]
    omega
  have hlength : k < (Text.splitChars '\n' front).length := (List.getElem?_eq_some_iff.mp hraw).1
  rw [Text.splitChars_append, hbody, List.append_assoc, List.singleton_append, Text.splitChars_append, hfirst,
    List.getElem?_append_right (Nat.le_add_right _ _), Nat.add_sub_cancel_left, List.getElem?_append_left hlength, hraw]

/-- A message is about a line: about the line itself, or about the directive on it. -/
inductive Shows (lines : List Line) (l : Line) : String → Prop
  | line {message : String} (h : l.Blamed message) : Shows lines l message
  | entry {e : Entry} {text : List Char} {message : String} (he : Stands lines e) (hline : e.line = l.number)
    (hkey : l.directive? = some (e.key, text)) (h : e.Blamed message) : Shows lines l message
  | pattern {e : Entry} {text : List Char} {pattern : String} {f : Pattern.Flaw} {offset : Option Nat}
    (he : Stands lines e) (hline : e.line = l.number) (hkey : l.directive? = some (e.key, text))
    (h : e.Patterned pattern) (hflaw : Pattern.check pattern = .error (.flaw f offset)) :
    Shows lines l ("Pattern is not a valid regex: " ++ pattern ++ " (" ++ Pattern.flawText f offset ++ ")")

theorem Stands.exists_line {lines : List Line} {e : Entry} (h : Stands lines e) :
    ∃ l ∈ lines, e.line = l.number ∧ ∃ text, l.directive? = some (e.key, text) := by
  cases h with
  | scalar hl hkey _ => exact ⟨_, hl, rfl, _, hkey⟩
  | list hlines hkey _ => exact ⟨_, hlines ▸ List.mem_append_right _ List.mem_cons_self, rfl, _, hkey⟩
  | mapping hl hkey _ => exact ⟨_, hl, rfl, _, hkey⟩

/-- A finding has the number of a line that it is about. -/
theorem Reports.shows {lines : List Line} {r : Finding} (h : Reports lines r) :
    ∃ l ∈ lines, r.line = l.number ∧ Shows lines l r.message := by
  cases h with
  | line hl h => exact ⟨_, hl, rfl, .line h⟩
  | entry he h =>
    obtain ⟨l, hl, hline, text, hkey⟩ := he.exists_line
    exact ⟨l, hl, hline, .entry he hline hkey h⟩
  | pattern he h hflaw =>
    obtain ⟨l, hl, hline, text, hkey⟩ := he.exists_line
    exact ⟨l, hl, hline, .pattern he hline hkey h hflaw⟩

/-- The lines of a note are numbered as lines of its source, and each report of strict reading has the number of a line
that it is about. The line with that number in the source is this one, unless a line above it or the line itself holds
another character that ends a line when the note is read. -/
theorem reports_on_lines {source : String} {n : Note} (hn : n ∈ Note.extract source) :
    (∀ (k : Nat) (l : Line), (Line.ofBody n.body n.line)[k]? = some l → l.number = n.line + k ∧
      (Text.Unbroken k n.body.toList → ∃ raw, (Text.splitChars '\n' source.toList)[n.line - 1 + k]? = some raw ∧
        l = Line.ofChars (n.line + k) (Text.expandTabs raw))) ∧
    ∀ (b : Block) (ds : List Diagnostic), Block.parse .strict n.owner n.body n.line = .ok (b, ds) → ∀ d ∈ ds,
      ∃ (k : Nat) (l : Line), (Line.ofBody n.body n.line)[k]? = some l ∧ d.line = some (n.line + k : Int) ∧
        Shows (Line.ofBody n.body n.line) l d.message := by
  refine ⟨fun k l hl => ⟨number_of_getElem? hl, (Note.within_of_mem_extract hn).line hl⟩, fun b ds hparse d hd => ?_⟩
  obtain ⟨rs, hread, rfl⟩ := parse_eq_ok.mp hparse
  obtain ⟨r, hr, rfl⟩ := List.mem_map.mp hd
  obtain ⟨l, hl, hline, hshows⟩ := ((read?_traces hread).remarks r hr).shows
  obtain ⟨k, hk⟩ := List.getElem?_of_mem hl
  exact ⟨k, l, hk, congrArg some (hline.trans (number_of_getElem? hk)), hshows⟩

/-- A source whose note has a line that is no directive. -/
def strayLine : String := "@startuml\nnote of A\nSCHEMAHINTS\n\tbogus\nend note\n"

theorem strayLine_reported : ⟨"A", "SCHEMAHINTS\n\tbogus\n", 3⟩ ∈ Note.extract strayLine ∧
    (Text.splitChars '\n' strayLine.toList)[3]? = some "\tbogus".toList ∧
    ∃ b d, Block.parse .strict "A" "SCHEMAHINTS\n\tbogus\n" 3 = .ok (b, [d]) ∧ d.line = some 4 ∧
      Shows (Line.ofBody "SCHEMAHINTS\n\tbogus\n" 3) (Line.ofChars 4 (Text.expandTabs "\tbogus".toList)) d.message := by
  have hn : (⟨"A", "SCHEMAHINTS\n\tbogus\n", 3⟩ : Note) ∈ Note.extract strayLine := by decide
  obtain ⟨hlines, hreports⟩ := reports_on_lines hn
  have hread : (Block.parse .strict "A" "SCHEMAHINTS\n\tbogus\n" 3).toOption.map (·.2.map (·.line)) =
      some [some 4] := by
    decide +kernel
  have hline : (Line.ofBody "SCHEMAHINTS\n\tbogus\n" 3)[1]? = some ⟨4, 2, "bogus".toList⟩ := by decide
  obtain ⟨raw, hraw, hl⟩ := (hlines 1 _ hline).2 (by decide)
  have hsource : (Text.splitChars '\n' strayLine.toList)[3]? = some "\tbogus".toList := by decide
  obtain rfl : "\tbogus".toList = raw := Option.some.inj (hsource.symm.trans hraw)
  cases hparse : Block.parse .strict "A" "SCHEMAHINTS\n\tbogus\n" 3 with
  | error e => simp [hparse, Except.toOption] at hread
  | ok p =>
    obtain ⟨b, ds⟩ := p
    obtain ⟨d, rfl, hd⟩ : ∃ d, ds = [d] ∧ d.line = some 4 := by
      simpa [hparse, Except.toOption, List.map_eq_singleton_iff] using hread
    obtain ⟨k, l, hk, hnumber, hshows⟩ := hreports b [d] hparse d List.mem_cons_self
    obtain rfl : k = 1 := by
      have h4 : (4 : Int) = 3 + k := Option.some.inj (hd.symm.trans hnumber)
      omega
    obtain rfl := Option.some.inj (hline.symm.trans hk)
    exact ⟨hn, hsource, b, d, rfl, hd, hl ▸ hshows⟩

/-- A source whose note has a comment that ends with a form feed, and below it a line that is no directive. -/
def brokenPage : String := "note of A\nSCHEMAHINTS\n' page\x0c\nbogus\nend note\n"

/-- The form feed ends a line when the note is read and none when it is found. -/
theorem brokenPage_misplaced : ∃ n ∈ Note.extract brokenPage, ∃ l, (Line.ofBody n.body n.line)[3]? = some l ∧
    (∃ raw, (Text.splitChars '\n' brokenPage.toList)[n.line - 1 + 3]? = some raw ∧
      l.content ≠ (Line.ofChars (n.line + 3) (Text.expandTabs raw)).content) ∧
    (Block.parse .strict n.owner n.body n.line).toOption.map (·.2) =
      some [⟨.error, "Unrecognized line: bogus", some 5, "A", ""⟩] ∧
    (Text.splitChars '\n' brokenPage.toList)[3]? = some "bogus".toList := by
  refine ⟨⟨"A", "SCHEMAHINTS\n' page\x0c\nbogus\n", 2⟩, by decide, ⟨5, 0, "bogus".toList⟩, by decide,
    ⟨"end note".toList, by decide, by decide⟩, ?_, by decide⟩
  decide +kernel

end NoteSchema.Hint
