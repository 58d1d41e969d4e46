import NoteSchema.Command.Lint
import NoteSchema.Proofs.Hint.Boundary

namespace NoteSchema.Hint

/-- What tolerant reading makes of what strict reading looks at: nothing is left to report, and the result is the same
unless strict reading ends at a pattern that it cannot check. -/
structure Relaxes {α : Type} (strict tolerant : Reading α) : Prop where
  silent : tolerant.remarks = []
  outcome : tolerant.outcome = strict.outcome ∨
    ∃ text f, Pattern.check text = .error (.fault f) ∧ strict.outcome = .error f

namespace Relaxes

variable {α β : Type}

theorem pure (a : α) : Relaxes (Pure.pure a) (Pure.pure a) := ⟨rfl, .inl rfl⟩

theorem lift (r : Except Fault α) : Relaxes (Noted.lift r) (Noted.lift r) := ⟨rfl, .inl rfl⟩

theorem bind {x y : Reading α} {f g : α → Reading β} (h : Relaxes x y) (hf : ∀ a, Relaxes (f a) (g a)) :
    Relaxes (x >>= f) (y >>= g) := by
  obtain ⟨rs, o⟩ := x
  obtain ⟨ss, o'⟩ := y
  obtain rfl : ss = [] := h.silent
  rcases h.outcome with hsame | ⟨text, e, hcheck, hfault⟩
  · obtain rfl : o' = o := hsame
    cases o' with
    | error e => exact ⟨rfl, .inl rfl⟩
    | ok a => exact ⟨(hf a).silent, (hf a).outcome⟩
  · obtain rfl : o = .error e := hfault
    refine ⟨?_, .inr ⟨text, e, hcheck, rfl⟩⟩
    cases o' with
    | error e' => rfl
    | ok a => exact (hf a).silent

theorem when (b : Bool) {x y : Reading Unit} (h : Relaxes x y) : Relaxes (Noted.when b x) (Noted.when b y) := by
  cases b
  · exact .pure ()
  · exact h

end Relaxes

section Readers

/-- Only strict reading reports, and a report is no part of the result. -/
theorem report_relaxes (severity : Severity) (message : String) (line : Int) (field : String) :
    Relaxes (Reading.report .strict severity message line field)
      (Reading.report .tolerant severity message line field) :=
  ⟨rfl, .inl rfl⟩

/-- Only strict reading checks patterns, and only a pattern that cannot be checked ends it. -/
theorem checkPattern_relaxes (text : String) (line : Int) (field : String) :
    Relaxes (Reading.checkPattern .strict text line field) (Reading.checkPattern .tolerant text line field) := by
  refine ⟨rfl, ?_⟩
  cases hcheck : Pattern.check text with
  | ok =>
    left
    simp only [Reading.checkPattern, hcheck]
    rfl
  | error e =>
    cases e with
    | flaw =>
      left
      simp only [Reading.checkPattern, hcheck]
      rfl
    | fault f =>
      refine .inr ⟨text, f, hcheck, ?_⟩
      simp only [Reading.checkPattern, hcheck]
      rfl

theorem readList_relaxes (lines : List Line) : Relaxes (readList .strict lines) (readList .tolerant lines) := by
  induction lines with
  | nil => exact .pure []
  | cons l rest ih =>
    rw [readList, readList]
    split
    next => exact ih
    next => exact (Relaxes.when _ (report_relaxes _ _ _ _)).bind fun _ => ih.bind fun items => .pure _

theorem unrecognized_relaxes (l : Line) : Relaxes (unrecognized .strict l) (unrecognized .tolerant l) :=
  report_relaxes _ _ _ _

/-- A report on a line changes neither the entries nor where the reading goes on. -/
theorem readEntries_relaxes (nested : Bool) (parent : Nat) (after lines : List Line) (acc : List Entry) :
    Relaxes (readEntries .strict nested parent after lines acc)
      (readEntries .tolerant nested parent after lines acc) := by
  fun_induction readEntries .strict nested parent after lines acc with
  | case1 =>
    rw [readEntries]
    exact .pure _
  | case2 nested parent after l rest acc hblank ih =>
    rw [readEntries, if_pos hblank]
    exact (Relaxes.when _ (report_relaxes _ _ _ _)).bind fun _ => ih
  | case3 nested parent after l rest acc hblank hcomment ih =>
    rw [readEntries, if_neg hblank, if_pos hcomment]
    exact ih
  | case4 nested parent after l rest acc hblank hcomment hnone ih =>
    rw [readEntries, if_neg hblank, if_neg hcomment, hnone]
    exact (unrecognized_relaxes l).bind fun _ => ih
  | case5 nested parent after l rest acc hblank hcomment key hkey hopen ih =>
    rw [readEntries, if_neg hblank, if_neg hcomment, hkey]
    simp only [hopen]
    exact ih
  | case6 nested parent after l rest acc hblank hcomment key hkey hopen ih =>
    rw [readEntries, if_neg hblank, if_neg hcomment, hkey]
    simp only [hopen]
    exact (readList_relaxes _).bind ih
  | case7 nested parent after l rest acc hblank hcomment key hkey hopen more ihBelow ih =>
    rw [readEntries, if_neg hblank, if_neg hcomment, hkey]
    simp only [hopen]
    exact ihBelow.bind ih
  | case8 nested parent after l rest acc hblank hcomment key value hvalue hkey ih =>
    obtain ⟨c, cs, rfl⟩ := List.exists_cons_of_ne_nil hvalue
    rw [readEntries, if_neg hblank, if_neg hcomment, hkey]
    exact (Relaxes.lift _).bind ih

theorem readBelow_relaxes (nested : Bool) (indent : Nat) (lines : List Line) :
    Relaxes (readBelow .strict nested indent lines) (readBelow .tolerant nested indent lines) := by
  unfold readBelow
  cases Opening.of indent lines with
  | nothing => exact .pure _
  | list => exact (readList_relaxes _).bind fun _ => .pure _
  | mapping => exact (readEntries_relaxes _ _ _ _ _).bind fun _ => .pure _

section Projection

variable (name key field : String) (value : Value) (line : Int)

theorem readBound_relaxes (token : String) :
    Relaxes (readBound .strict token line field) (readBound .tolerant token line field) := by
  unfold readBound
  split
  next => exact .pure _
  next =>
    split
    next => exact .lift _
    next => exact (report_relaxes _ _ _ _).bind fun _ => .pure _

theorem applyRange_relaxes (f : Field) :
    Relaxes (applyRange .strict f value line field) (applyRange .tolerant f value line field) := by
  unfold applyRange
  split
  next => exact (report_relaxes _ _ _ _).bind fun _ => .pure _
  next =>
    exact (readBound_relaxes _ _ _).bind fun _ => (readBound_relaxes _ _ _).bind fun _ => .pure _

theorem readNumber_relaxes :
    Relaxes (readNumber .strict key value line field) (readNumber .tolerant key value line field) := by
  unfold readNumber
  split
  next => exact .pure _
  next => exact (report_relaxes _ _ _ _).bind fun _ => .pure _

theorem readWhole_relaxes :
    Relaxes (readWhole .strict key value line field) (readWhole .tolerant key value line field) := by
  refine (readNumber_relaxes _ _ _ _).bind fun n => ?_
  cases n with
  | none => exact .pure _
  | some n => exact .lift _

theorem applyEnumDirective_relaxes (d : EnumDefinition) (e : Entry) :
    Relaxes (applyEnumDirective .strict field d key e) (applyEnumDirective .tolerant field d key e) := by
  unfold applyEnumDirective
  split
  next => exact (report_relaxes _ _ _ _).bind fun _ => .pure _
  next =>
    cases EnumDirective.ofKey? key with
    | none => exact (report_relaxes _ _ _ _).bind fun _ => .pure _
    | some directive =>
      cases directive with
      | valuePattern => exact (checkPattern_relaxes _ _ _).bind fun _ => .pure _
      | path | targetPath | sourcePath | title | type | generate | values | names | descriptions | description
      | reserved => exact .pure _

theorem applyEnumDirectives_relaxes (d : EnumDefinition) (all : List (String × Entry)) :
    Relaxes (applyEnumDirectives .strict field d all) (applyEnumDirectives .tolerant field d all) := by
  induction all generalizing d with
  | nil => exact .pure d
  | cons p rest ih => exact (applyEnumDirective_relaxes _ _ _ _).bind ih

theorem EnumDefinition.ofEntries_relaxes (entries : List Entry) :
    Relaxes (ofEntries .strict field line entries) (ofEntries .tolerant field line entries) := by
  unfold ofEntries
  dsimp only
  split
  next => exact (report_relaxes _ _ _ _).bind fun _ => applyEnumDirectives_relaxes _ _ _
  next => exact applyEnumDirectives_relaxes _ _ _

theorem applyDirective_relaxes (d : Draft) (directive : Directive) :
    Relaxes (applyDirective .strict name key value line d directive)
      (applyDirective .tolerant name key value line d directive) := by
  cases directive with
  | type | format | description | ref | enumFrom | const | default | enum | required | itemsRef | itemsType
  | itemsEnumFrom => exact .pure _
  | pattern => exact (checkPattern_relaxes _ _ _).bind fun _ => .pure _
  | range => exact (applyRange_relaxes _ _ _ _).bind fun _ => .pure _
  | minimum | maximum => exact (readNumber_relaxes _ _ _ _).bind fun _ => .pure _
  | minLength | maxLength | minItems | maxItems => exact (readWhole_relaxes _ _ _ _).bind fun _ => .pure _
  | properties => exact (report_relaxes _ _ _ _).bind fun _ => .pure _
  | items =>
    unfold applyDirective
    dsimp only
    split <;> exact .pure _
  | enumDefine =>
    cases value with
    | mapping entries => exact (EnumDefinition.ofEntries_relaxes _ _ _).bind fun _ => .pure _
    | text | flag | number | list => exact (report_relaxes _ _ _ _).bind fun _ => .pure _

theorem finish_relaxes (d : Draft) : Relaxes (d.finish .strict name line) (d.finish .tolerant name line) :=
  (Relaxes.when _ (report_relaxes _ _ _ _)).bind fun _ => .pure _

end Projection

mutual
theorem applyEntries_relaxes (name : String) : (entries : List Entry) → ∀ d : Draft,
    Relaxes (applyEntries .strict name entries d) (applyEntries .tolerant name entries d)
  | [], d => by
    rw [applyEntries, applyEntries]
    exact .pure d
  | e :: rest, d => by
    rw [applyEntries, applyEntries]
    exact (applyEntry_relaxes name e d).bind fun d => applyEntries_relaxes name rest d

theorem applyEntry_relaxes (name : String) : (e : Entry) → ∀ d : Draft,
    Relaxes (applyEntry .strict name e d) (applyEntry .tolerant name e d)
  | .mk key value line, d => by
    rw [applyEntry.eq_def, applyEntry.eq_def .tolerant]
    dsimp only
    split
    next => exact (report_relaxes _ _ _ _).bind fun _ => .pure _
    next =>
      split
      next entries =>
        exact (applyEntries_relaxes name entries {}).bind fun inner =>
          (finish_relaxes name line inner).bind fun _ => .pure _
      next => exact applyDirective_relaxes _ _ _ _ _ _
    next =>
      split
      next entries => exact (projectProperties_relaxes name entries).bind fun _ => .pure _
      next => exact applyDirective_relaxes _ _ _ _ _ _
    next => exact applyDirective_relaxes _ _ _ _ _ _

theorem projectProperties_relaxes (name : String) : (entries : List Entry) →
    Relaxes (projectProperties .strict name entries) (projectProperties .tolerant name entries)
  | [] => by
    rw [projectProperties, projectProperties]
    exact .pure []
  | .mk key value line :: rest => by
    rw [projectProperties.eq_def, projectProperties.eq_def .tolerant]
    dsimp only
    split
    next entries =>
      exact (applyEntries_relaxes (name ++ "." ++ key) entries {}).bind fun inner =>
        (finish_relaxes (name ++ "." ++ key) line inner).bind fun _ =>
          (projectProperties_relaxes name rest).bind fun _ => .pure _
    next => exact (projectProperties_relaxes name rest).bind fun _ => .pure _
end

theorem Field.ofEntries_relaxes (name : String) (line : Int) (entries : List Entry) :
    Relaxes (ofEntries .strict name line entries) (ofEntries .tolerant name line entries) :=
  (applyEntries_relaxes name entries {}).bind fun d => finish_relaxes name line d

theorem applyRoot_relaxes (b : Block) (key : String) (value : Value) (line : Int) :
    Relaxes (applyRoot .strict b key value line) (applyRoot .tolerant b key value line) := by
  unfold applyRoot
  cases RootDirective.ofKey? (Text.small key) with
  | none => exact (report_relaxes _ _ _ _).bind fun _ => .pure _
  | some directive =>
    cases directive with
    | title | description | required | oneOf | anyOf | allOf | xor => exact .pure _
    | additionalProperties =>
      cases value with
      | flag allowed => exact .pure _
      | text | number | list | mapping => exact (report_relaxes _ _ _ _).bind fun _ => .pure _

theorem readField_relaxes (b : Block) (name : String) (header : Line) (rest : List Line) :
    Relaxes (readField .strict b name header rest) (readField .tolerant b name header rest) := by
  have hgap : Relaxes (noteGap .strict name rest) (noteGap .tolerant name rest) := by
    cases rest with
    | nil => exact .pure ()
    | cons l rest => exact .when _ (report_relaxes _ _ _ _)
  exact hgap.bind fun _ => (readEntries_relaxes _ _ _ _ _).bind fun entries =>
    (Relaxes.when _ (report_relaxes _ _ _ _)).bind fun _ =>
      (Field.ofEntries_relaxes _ _ _).bind fun _ => .pure _

/-- Reading sections strictly and tolerantly goes through the same lines and comes to the same block. -/
theorem readSections_relaxes (b : Block) (lines : List Line) :
    Relaxes (readSections .strict b lines) (readSections .tolerant b lines) := by
  fun_induction readSections .strict b lines with
  | case1 b =>
    rw [readSections]
    exact .pure b
  | case2 b l rest hskip ih =>
    rw [readSections, if_pos hskip]
    exact ih
  | case3 b l rest hskip hend =>
    rw [readSections, if_neg hskip, if_pos hend]
    exact .pure b
  | case4 b l rest hskip hend name hname ih =>
    rw [readSections, if_neg hskip, if_neg hend, hname]
    exact (readField_relaxes b name l rest).bind ih
  | case5 b l rest hskip hend hname hkey ih =>
    rw [readSections, if_neg hskip, if_neg hend, hname, hkey]
    exact (unrecognized_relaxes l).bind fun _ => ih
  | case6 b l rest hskip hend hname key hkey ih =>
    rw [readSections, if_neg hskip, if_neg hend, hname, hkey]
    exact (readBelow_relaxes _ _ _).bind fun value => (applyRoot_relaxes _ _ _ _).bind ih
  | case7 b l rest hskip hend hname key value hvalue hkey ih =>
    obtain ⟨c, cs, rfl⟩ := List.exists_cons_of_ne_nil hvalue
    rw [readSections, if_neg hskip, if_neg hend, hname, hkey]
    exact (Relaxes.lift _).bind fun value => (applyRoot_relaxes _ _ _ _).bind ih

end Readers

section Parse

variable {strictness : Strictness} {owner body : String} {first : Int} {b : Block} {ds : List Diagnostic}

/-- A block comes from a reading without a fault, and its diagnostics are the findings on the way. -/
theorem parse_eq_ok : Block.parse strictness owner body first = .ok (b, ds) ↔
    ∃ rs, Block.read? strictness owner body first = some ⟨rs, .ok b⟩ ∧ ds = rs.map (Finding.diagnostic owner) := by
  unfold Block.parse
  cases Block.read? strictness owner body first with
  | none => simp
  | some noted =>
    obtain ⟨rs, _ | a⟩ := noted
    · simp
    · constructor
      · intro h
        cases h
        exact ⟨rs, rfl, rfl⟩
      · rintro ⟨_, h, rfl⟩
        cases h
        rfl

theorem parse_eq_fault {f : Fault} : Block.parse strictness owner body first = .error (.fault f) ↔
    ∃ rs, Block.read? strictness owner body first = some ⟨rs, .error f⟩ := by
  unfold Block.parse
  cases Block.read? strictness owner body first with
  | none => simp
  | some noted => obtain ⟨rs, _ | a⟩ := noted <;> simp

/-- Whether a note has the marker does not depend on how it is read. -/
theorem parse_eq_noMarker {o : String} : Block.parse strictness owner body first = .error (.noMarker o) ↔
    afterMarker? (Line.ofBody body first) = none ∧ o = owner := by
  unfold Block.parse Block.read?
  cases afterMarker? (Line.ofBody body first) with
  | none => simp [eq_comm]
  | some lines =>
    simp only [Option.map_some, reduceCtorEq, false_and, iff_false]
    split <;> simp_all

end Parse

section Modes

variable {owner body : String} {first : Int} {b : Block} {ds es : List Diagnostic}

/-- Where a note has the marker, both ways of reading go through the lines below it. -/
theorem read?_relaxes {x y : Reading Block} (hs : Block.read? .strict owner body first = some x)
    (ht : Block.read? .tolerant owner body first = some y) : Relaxes x y := by
  unfold Block.read? at hs ht
  obtain ⟨lines, hlines, rfl⟩ := Option.map_eq_some_iff.mp hs
  obtain ⟨_, hlines', rfl⟩ := Option.map_eq_some_iff.mp ht
  obtain rfl := Option.some.inj (hlines.symm.trans hlines')
  exact readSections_relaxes _ _

/-- Tolerant reading is what it comes to. -/
theorem parse_tolerant (owner body : String) (first : Int) : Block.parse .tolerant owner body first =
    match afterMarker? (Line.ofBody body first) with
    | none => .error (.noMarker owner)
    | some lines => ((readSections .tolerant { owner } lines).outcome.map fun b => (b, [])).mapError .fault := by
  unfold Block.parse Block.read?
  cases afterMarker? (Line.ofBody body first) with
  | none => rfl
  | some lines =>
    have hsilent := (readSections_relaxes { owner } lines).silent
    rw [Option.map_some]
    cases hread : readSections .tolerant { owner } lines with
    | mk rs o =>
      rw [hread] at hsilent
      obtain rfl : rs = [] := hsilent
      dsimp only
      rw [hread]
      cases o <;> rfl

theorem exists_read? {strictness : Strictness} {x : Reading Block}
    (h : Block.read? strictness owner body first = some x) (other : Strictness) :
    ∃ y, Block.read? other owner body first = some y := by
  obtain ⟨lines, hlines, -⟩ := Option.map_eq_some_iff.mp h
  exact ⟨_, Option.map_eq_some_iff.mpr ⟨lines, hlines, rfl⟩⟩

/-- A block that is read strictly is read tolerantly as well, without a report. -/
theorem parse_tolerant_of_strict (h : Block.parse .strict owner body first = .ok (b, ds)) :
    Block.parse .tolerant owner body first = .ok (b, []) := by
  obtain ⟨rs, hread, -⟩ := parse_eq_ok.mp h
  obtain ⟨⟨ss, o⟩, hread'⟩ := exists_read? hread .tolerant
  have hrelaxes := read?_relaxes hread hread'
  obtain rfl : ss = [] := hrelaxes.silent
  rcases hrelaxes.outcome with hsame | ⟨_, _, -, hfault⟩
  · obtain rfl : o = .ok b := hsame
    exact parse_eq_ok.mpr ⟨[], hread', rfl⟩
  · cases hfault

/-- A block that is read tolerantly comes without a report, and is read strictly as well unless a pattern cannot be
checked. -/
theorem parse_strict_of_tolerant (h : Block.parse .tolerant owner body first = .ok (b, es)) :
    es = [] ∧ ((∃ ds, Block.parse .strict owner body first = .ok (b, ds)) ∨
      ∃ text f, Pattern.check text = .error (.fault f) ∧ Block.parse .strict owner body first = .error (.fault f)) := by
  obtain ⟨ss, hread, rfl⟩ := parse_eq_ok.mp h
  obtain ⟨⟨rs, o⟩, hread'⟩ := exists_read? hread .strict
  have hrelaxes := read?_relaxes hread' hread
  obtain rfl : ss = [] := hrelaxes.silent
  refine ⟨rfl, ?_⟩
  rcases hrelaxes.outcome with hsame | ⟨text, f, hcheck, hfault⟩
  · obtain rfl : .ok b = o := hsame
    exact .inl ⟨_, parse_eq_ok.mpr ⟨rs, hread', rfl⟩⟩
  · obtain rfl : o = .error f := hfault
    exact .inr ⟨text, f, hcheck, parse_eq_fault.mpr ⟨rs, hread'⟩⟩

end Modes

/-- Where the notes of a source are judged, the problems are those of the blocks that are read from them, note by
note, and every note is read or passed over for want of the marker. -/
theorem problems_eq_ok {notes : List Note} {found : List Diagnostic} (h : Command.Lint.problems notes = .ok found) :
    found = (notes.filterMap fun n => (Block.ofNote .strict n).toOption).flatMap (·.2) ∧
      ∀ n ∈ notes, (∃ b ds, Block.ofNote .strict n = .ok (b, ds)) ∨
        Block.ofNote .strict n = .error (.noMarker n.owner) := by
  induction notes generalizing found with
  | nil =>
    cases h
    exact ⟨rfl, by simp⟩
  | cons n rest ih =>
    rw [Command.Lint.problems] at h
    cases hn : Block.ofNote .strict n with
    | error e =>
      rw [hn] at h
      cases e with
      | fault f => cases h
      | noMarker o =>
        obtain ⟨hfound, hrest⟩ := ih h
        obtain ⟨_, rfl⟩ := parse_eq_noMarker.mp hn
        exact ⟨by simp [hn, Except.toOption, hfound], List.forall_mem_cons.mpr ⟨Or.inr hn, hrest⟩⟩
    | ok p =>
      obtain ⟨b, ds⟩ := p
      rw [hn] at h
      cases hp : Command.Lint.problems rest with
      | error e => simp [hp, Except.map] at h
      | ok others =>
        obtain ⟨hothers, hrest⟩ := ih hp
        simp only [hp, Except.map, Except.ok.injEq] at h
        exact ⟨by simp [hn, Except.toOption, ← h, hothers], List.forall_mem_cons.mpr ⟨Or.inl ⟨b, ds, hn⟩, hrest⟩⟩

/-- Strict and tolerant reading give the same block, and only strict reading reports; each returns where the other does,
but for a pattern that strict reading cannot check. What is judged of a source is what strict reading reports of the
blocks in it, and these are the blocks that any reading gives. -/
theorem strictness_keeps_block :
    (∀ owner body first b ds b' es, Block.parse .strict owner body first = .ok (b, ds) →
      Block.parse .tolerant owner body first = .ok (b', es) → b' = b ∧ es = []) ∧
    (∀ owner body first,
      ((∃ b ds, Block.parse .strict owner body first = .ok (b, ds)) →
        ∃ b es, Block.parse .tolerant owner body first = .ok (b, es)) ∧
      ((∃ b es, Block.parse .tolerant owner body first = .ok (b, es)) →
        (∃ b ds, Block.parse .strict owner body first = .ok (b, ds)) ∨
          ∃ text f, Pattern.check text = .error (.fault f) ∧
            Block.parse .strict owner body first = .error (.fault f))) ∧
    ∀ notes found, Command.Lint.problems notes = .ok found →
      found = (notes.filterMap fun n => (Block.ofNote .strict n).toOption).flatMap (·.2) ∧
        ∀ n ∈ notes, ∀ strictness,
          (Block.ofNote strictness n).map Prod.fst = (Block.ofNote .strict n).map Prod.fst := by
  refine ⟨fun owner body first b ds b' es hs ht => ?_, fun owner body first => ⟨?_, ?_⟩, fun notes found h => ?_⟩
  · cases ht.symm.trans (parse_tolerant_of_strict hs)
    exact ⟨rfl, rfl⟩
  · rintro ⟨b, ds, hs⟩
    exact ⟨b, [], parse_tolerant_of_strict hs⟩
  · rintro ⟨b, es, ht⟩
    exact (parse_strict_of_tolerant ht).2.imp_left fun ⟨ds, hs⟩ => ⟨b, ds, hs⟩
  · obtain ⟨hfound, hread⟩ := problems_eq_ok h
    refine ⟨hfound, fun n hn strictness => ?_⟩
    cases strictness with
    | strict => rfl
    | tolerant =>
      rcases hread n hn with ⟨b, ds, hb⟩ | hnone
      · have ht : Block.ofNote .tolerant n = .ok (b, []) := parse_tolerant_of_strict hb
        rw [hb, ht]
        rfl
      · have ht : Block.ofNote .tolerant n = .error (.noMarker n.owner) :=
          parse_eq_noMarker.mpr (parse_eq_noMarker.mp hnone)
        rw [hnone, ht]

/-- A note with a line that says nothing and a pattern that is none. -/
def flawedNote : Note where
  owner := "C"
  body := "SCHEMAHINTS\ntitle: A\nfield f:\n  oops\n  pattern: (\n"
  line := 3

theorem flawedNote_judged : ∃ b ds, Block.ofNote .strict flawedNote = .ok (b, ds) ∧ ds.length = 2 ∧
    (∃ b' es, Block.ofNote .tolerant flawedNote = .ok (b', es) ∧ b' = b ∧ es = []) ∧
      ∃ found, Command.Lint.problems [flawedNote] = .ok found ∧
        found = ([flawedNote].filterMap fun n => (Block.ofNote .strict n).toOption).flatMap (·.2) := by
  have hlength : (Block.ofNote .strict flawedNote).toOption.map (·.2.length) = some 2 := by decide +kernel
  have htolerant : (Block.ofNote .tolerant flawedNote).toOption.isSome = true := by decide +kernel
  cases hs : Block.ofNote .strict flawedNote with
  | error e => simp [hs, Except.toOption] at hlength
  | ok p =>
    cases ht : Block.ofNote .tolerant flawedNote with
    | error e => simp [ht, Except.toOption] at htolerant
    | ok q =>
      have htwo : p.2.length = 2 := by
        rw [hs] at hlength
        exact Option.some.inj hlength
      have hproblems : Command.Lint.problems [flawedNote] = .ok (p.2 ++ []) := by
        rw [Command.Lint.problems, hs]
        rfl
      exact ⟨p.1, p.2, rfl, htwo,
        ⟨q.1, q.2, rfl, strictness_keeps_block.1 _ _ _ p.1 p.2 q.1 q.2 hs ht⟩,
        _, hproblems, (strictness_keeps_block.2.2 _ _ hproblems).1⟩

end NoteSchema.Hint
