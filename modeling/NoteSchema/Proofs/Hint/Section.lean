import NoteSchema.Proofs.Hint.Boundary
import NoteSchema.Proofs.Hint.Unnumbered

namespace NoteSchema.Hint

/-- One section of a note: the directives of a field, or a directive outside the fields. -/
inductive Section
  | field (name : String) (line : Int) (entries : List Entry)
  | directive (key : String) (value : Value) (line : Int)

namespace Section

/-- What a section makes of a block, the remarks on it left aside. -/
def apply (mode : Strictness) (b : Block) : Section → Except Fault Block
  | .field name line entries =>
    (Field.ofEntries mode name line entries).outcome.map fun f => { b with fields := putField name f b.fields }
  | .directive key value line => (applyRoot mode b key value line).outcome

/-- A section with no line numbers in it. -/
def bare : Section → Section
  | .field name _ entries => .field name 0 (Entry.bareAll entries)
  | .directive key value _ => .directive key value.bare 0

/-- Whether only the directives that may hold others take a mapping in a section: `items`, `properties` and `enumDefine`
in a field, `oneOf`, `anyOf` and `allOf` outside. -/
def wellNested : Section → Bool
  | .field _ _ entries => Entry.wellNestedAll entries
  | .directive key value _ => value.wellNestedRoot key

theorem wellNested_bare (s : Section) : s.bare.wellNested = s.wellNested := by
  cases s with
  | field name line entries => exact Entry.wellNestedAll_bareAll entries
  | directive key value line =>
    rw [bare, wellNested, wellNested, Value.wellNestedRoot, Value.wellNestedRoot, Value.isMapping_bare]

/-- A section that is well nested comes to the same wherever it stands. -/
theorem apply_bare {s : Section} (h : s.wellNested = true) (mode : Strictness) (b : Block) :
    s.bare.apply mode b = s.apply mode b := by
  cases s with
  | field name line entries =>
    have hfield : (Field.ofEntries mode name 0 (Entry.bareAll entries)).outcome =
        (Field.ofEntries mode name line entries).outcome.map id := ofEntries_bare name line 0 h
    rw [Except.map_id] at hfield
    rw [bare, apply, apply, hfield]
    rfl
  | directive key value line =>
    have hroot : (applyRoot mode b key value.bare 0).outcome = (applyRoot mode b key value line).outcome.map id :=
      applyRoot_bare b key line 0 h
    rw [Except.map_id] at hroot
    exact hroot

end Section

/-- The sections of a note in order, up to its end; one whose values cannot be held is a fault. -/
def sections (mode : Strictness) : List Line → List (Except Fault Section)
  | [] => []
  | l :: rest =>
    if l.isSkipped then sections mode rest
    else if l.isEnd then []
    else
      match l.fieldName? with
      | some name =>
        (readEntries mode false l.indent (Line.afterBlock l.indent rest) (Line.block l.indent rest) []).outcome.map
          (.field name l.number) :: sections mode (Line.afterBlock l.indent rest)
      | none =>
        match l.directive? with
        | none => sections mode rest
        | some (key, []) =>
          (readBelow mode false l.indent rest).outcome.map (.directive key · l.number) ::
            sections mode (afterBelow l.indent rest)
        | some (key, value) => (readScalar value).outcome.map (.directive key · l.number) :: sections mode rest
termination_by lines => lines.length
decreasing_by
  all_goals simp only [List.length_cons]
  all_goals have ha := length_afterBlock l.indent rest
  all_goals have hb := length_afterBelow l.indent rest
  all_goals omega

/-- Sections applied to a block one after another. -/
def applySections (mode : Strictness) (b : Block) (found : List (Except Fault Section)) : Except Fault Block :=
  found.foldlM (fun b s => s >>= Section.apply mode b) b

section Outcome

variable {mode : Strictness}

theorem applySections_cons (b : Block) (s : Except Fault Section) (rest : List (Except Fault Section)) :
    applySections mode b (s :: rest) = (s >>= Section.apply mode b) >>= fun b => applySections mode b rest := rfl

theorem outcome_noteGap (name : String) (lines : List Line) : (noteGap mode name lines).outcome = pure () := by
  cases lines with
  | nil => rfl
  | cons l rest => exact Noted.outcome_when _ Reading.outcome_report

theorem outcome_readField (b : Block) (name : String) (header : Line) (rest : List Line) :
    (readField mode b name header rest).outcome =
      (readEntries mode false header.indent (Line.afterBlock header.indent rest)
          (Line.block header.indent rest) []).outcome.map (.field name header.number) >>= Section.apply mode b := by
  simp only [readField, Noted.outcome_bind, outcome_noteGap, Reading.warning,
    Noted.outcome_when _ Reading.outcome_report, pure_bind]
  cases (readEntries mode false header.indent (Line.afterBlock header.indent rest)
    (Line.block header.indent rest) []).outcome with
  | error e => rfl
  | ok entries =>
    change (Field.ofEntries mode name header.number entries).outcome >>= _ = Except.map _ _
    cases (Field.ofEntries mode name header.number entries).outcome <;> rfl

theorem outcome_applyRoot (b : Block) (key : String) (line : Int) (x : Reading Value) :
    (x >>= fun value => applyRoot mode b key value line).outcome =
      x.outcome.map (.directive key · line) >>= Section.apply mode b := by
  rw [Noted.outcome_bind]
  cases x.outcome <;> rfl

/-- A note comes to what its sections come to. -/
theorem outcome_readSections (b : Block) (lines : List Line) :
    (readSections mode b lines).outcome = applySections mode b (sections mode lines) := by
  fun_induction readSections mode b lines with
  | case1 b =>
    rw [sections]
    rfl
  | case2 b l rest hskip ih => rw [sections, if_pos hskip, ih]
  | case3 b l rest hskip hend =>
    rw [sections, if_neg hskip, if_pos hend]
    rfl
  | case4 b l rest hskip hend name hname ih =>
    rw [sections, if_neg hskip, if_neg hend, hname, Noted.outcome_bind, outcome_readField]
    simp only [ih, applySections_cons]
  | case5 b l rest hskip hend hname hnone ih =>
    have hreport : (unrecognized mode l).outcome = pure () := Reading.outcome_report
    rw [sections, if_neg hskip, if_neg hend, hname, hnone, Noted.outcome_bind, hreport]
    exact ih
  | case6 b l rest hskip hend hname key hkey ih =>
    rw [sections, if_neg hskip, if_neg hend, hname, hkey, ← bind_assoc, Noted.outcome_bind, outcome_applyRoot]
    simp only [ih, applySections_cons]
  | case7 b l rest hskip hend hname key value hvalue hkey ih =>
    rw [sections, if_neg hskip, if_neg hend, hname, hkey, ← bind_assoc, Noted.outcome_bind, outcome_applyRoot]
    simp only [ih, applySections_cons]

end Outcome

end NoteSchema.Hint
