import Mathlib.Data.List.DropRight
import NoteSchema.Proofs.Hint.Position

namespace NoteSchema.Text

theorem afterWord?_expandTabs {word : List Char} (h : ∀ a ∈ word, isLetterOf a ' ' = false ∧ isLetterOf a '\t' = false)
    (cs : List Char) : afterWord? word (expandTabs cs) = (afterWord? word cs).map expandTabs := by
  induction word generalizing cs with
  | nil => simp [afterWord?]
  | cons a word ih =>
    obtain ⟨⟨hspace, htab⟩, hword⟩ := List.forall_mem_cons.mp h
    cases cs with
    | nil => rfl
    | cons c cs =>
      by_cases hc : c = '\t'
      · subst hc
        simp [expandTabs, afterWord?, hspace, htab]
      · rw [expandTabs_cons hc, afterWord?, afterWord?]
        split
        · exact ih hword cs
        · rfl

theorem atWordEnd_expandTabs (cs : List Char) : atWordEnd (expandTabs cs) = atWordEnd cs := by
  cases cs with
  | nil => rfl
  | cons c cs =>
    by_cases hc : c = '\t'
    · subst hc
      exact (by decide : (!isWordChar ' ') = !isWordChar '\t')
    · rw [expandTabs_cons hc]
      rfl

end NoteSchema.Text

namespace NoteSchema.Hint

/-- The marker is read in the same way on a line as it stands in the source and on it as it is read. -/
theorem startsWithMarker_ofText (n : Int) (s : String) :
    startsWithMarker (Line.ofText n s).content = startsWithMarker s.toList := by
  have hmarker : Note.IsPlain (Text.small marker).toList := by decide
  have hplain : ∀ a ∈ (Text.small marker).toList, Text.isLetterOf a ' ' = false ∧ Text.isLetterOf a '\t' = false :=
    fun a ha => ⟨hmarker a ha ' ' (by simp), hmarker a ha '\t' (by simp)⟩
  have hcontent : (Line.ofText n s).content = Text.expandTabs (Text.dropBlanks s.toList) :=
    Text.dropBlanks_expandTabs s.toList
  have htwice : Text.dropBlanks (Text.dropBlanks s.toList) = Text.dropBlanks s.toList :=
    List.dropWhile_idempotent Text.isBlank _
  rw [startsWithMarker, startsWithMarker, hcontent, Text.dropBlanks_expandTabs, htwice, Text.afterWord?_expandTabs hplain]
  cases Text.afterWord? (Text.small marker).toList (Text.dropBlanks s.toList) with
  | none => rfl
  | some rest => exact Text.atWordEnd_expandTabs rest

/-- A note that is found as a hint note is read as one. -/
theorem read?_of_isMarked {body : String} (h : Note.isMarked body.toList = true) (mode : Strictness) (owner : String)
    (first : Int) : ∃ noted, Block.read? mode owner body first = some noted := by
  unfold Note.isMarked at h
  split at h
  next line hfind =>
    obtain ⟨hline, above, below, hbody, habove⟩ := List.find?_eq_some_iff_append.mp hfind
    have hlines : Text.lines body = above.map String.ofList ++ String.ofList line :: below.map String.ofList := by
      rw [Text.lines, hbody, List.map_append, List.map_cons]
    have hblank : (above.map String.ofList).all Text.allBlank = true := by
      rw [List.all_map, List.all_eq_true]
      exact fun raw hraw => by simpa [Text.allBlank] using habove raw hraw
    have hmark : Text.allBlank (String.ofList line) = false := by simpa [Text.allBlank] using hline
    rw [Block.read?, afterMarker?_ofBody hlines hblank hmark, startsWithMarker_ofText, String.toList_ofList, if_pos h]
    exact ⟨_, rfl⟩
  next => cases h

/-- Every note that is found is read to a block, in both ways of reading and whatever its lines hold, but for values and
patterns that ask for more than can be held. It is never refused for want of the marker. -/
theorem parse_returns {source : String} {n : Note} (hn : n ∈ Note.extract source) (strictness : Strictness) :
    (∃ b ds, Block.parse strictness n.owner n.body n.line = .ok (b, ds)) ∨
      ∃ f, Block.parse strictness n.owner n.body n.line = .error (.fault f) ∧
        Unread strictness (Line.ofBody n.body n.line) f := by
  obtain ⟨noted, hread⟩ := read?_of_isMarked (Note.within_of_mem_extract hn).marked strictness n.owner n.line
  have htraces := read?_traces hread
  obtain ⟨rs, o⟩ := noted
  cases o with
  | ok b => exact .inl ⟨b, _, parse_eq_ok.mpr ⟨rs, hread, rfl⟩⟩
  | error f => exact .inr ⟨f, parse_eq_fault.mpr ⟨rs, hread⟩, htraces.fault f rfl⟩

/-- A note with a line that is no directive, a bound that is no number and a pattern that is not closed. -/
def malformed : Note where
  owner := "A"
  body := "SCHEMAHINTS\nrequired\nfield x:\n  range: [a]\n  pattern: (\n"
  line := 2

theorem malformed_read : malformed ∈ Note.extract ("note of A\n" ++ malformed.body ++ "end note\n") ∧ ∀ strictness,
    ∃ b ds, Block.parse strictness malformed.owner malformed.body malformed.line = .ok (b, ds) := by
  have hmem : malformed ∈ Note.extract ("note of A\n" ++ malformed.body ++ "end note\n") := by decide
  refine ⟨hmem, fun strictness => (parse_returns hmem strictness).resolve_right ?_⟩
  rintro ⟨f, hfault, -⟩
  have hread : (Block.parse strictness malformed.owner malformed.body malformed.line).toOption.isSome = true := by
    cases strictness <;> decide +kernel
  rw [hfault] at hread
  cases hread

/-- A note with a pattern that asks for more repeats than are counted. -/
def endlessRepeat : Note where
  owner := "A"
  body := "SCHEMAHINTS\nfield x:\n  pattern: a\x7b4294967295\x7d\n"
  line := 2

theorem endlessRepeat_faults : endlessRepeat ∈ Note.extract ("note of A\n" ++ endlessRepeat.body ++ "end note\n") ∧
    Block.parse .strict endlessRepeat.owner endlessRepeat.body endlessRepeat.line = .error (.fault .range) := by
  refine ⟨by decide, ?_⟩
  have hfault : (match Block.parse .strict endlessRepeat.owner endlessRepeat.body endlessRepeat.line with
      | .error e => some e
      | .ok _ => none) = some (.fault .range) := by
    decide +kernel
  split at hfault
  next h => rw [h, Option.some.inj hfault]
  next => cases hfault

end NoteSchema.Hint
