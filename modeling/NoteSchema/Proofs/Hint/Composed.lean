import NoteSchema.Proofs.Hint.Followed
import NoteSchema.Proofs.Hint.Strictness

namespace NoteSchema.Text

theorem lineChars_cons {c : Char} {cs : List Char} (h : c = '\r' → cs.head? ≠ some '\n') :
    lineChars (c :: cs) = if isLineEnd c then [] :: lineChars cs else consLine c (lineChars cs) := by
  rw [lineChars]
  rintro rest rfl rfl
  exact h rfl rfl

theorem expandTabs_cons {c : Char} (h : c ≠ '\t') (cs : List Char) : expandTabs (c :: cs) = c :: expandTabs cs := by
  rw [expandTabs]
  exact h

theorem head?_expandTabs_ne {cs : List Char} (h : cs.head? ≠ some '\n') : (expandTabs cs).head? ≠ some '\n' := by
  cases cs with
  | nil => simp [expandTabs]
  | cons c cs =>
    by_cases ht : c = '\t'
    · subst ht
      simp [expandTabs]
    · rwa [expandTabs_cons ht]

theorem map_expandTabs_consLine {c : Char} (h : c ≠ '\t') (lines : List (List Char)) :
    (consLine c lines).map expandTabs = consLine c (lines.map expandTabs) := by
  cases lines <;> simp [consLine, expandTabs_cons h, expandTabs]

theorem map_expandTabs_consTab (lines : List (List Char)) :
    (consLine '\t' lines).map expandTabs = consLine ' ' (consLine ' ' (lines.map expandTabs)) := by
  cases lines <;> simp [consLine, expandTabs]

theorem head?_ne_of_not {c : Char} {cs : List Char} (h : ∀ rest, c = '\r' → cs = '\n' :: rest → False)
    (hc : c = '\r') : cs.head? ≠ some '\n' := by
  intro hhead
  obtain ⟨rest, hrest⟩ := List.head?_eq_some_iff.mp hhead
  exact h rest hc hrest

/-- Tabs are expanded within lines. -/
theorem lineChars_expandTabs (cs : List Char) : lineChars (expandTabs cs) = (lineChars cs).map expandTabs := by
  fun_induction lineChars cs with
  | case1 => rfl
  | case2 cs ih =>
    rw [expandTabs_cons (by decide), expandTabs_cons (by decide), lineChars, ih]
    rfl
  | case3 c cs hnot hend ih =>
    have ht : c ≠ '\t' := by
      rintro rfl
      revert hend
      decide
    rw [expandTabs_cons ht, lineChars_cons fun hc => head?_expandTabs_ne (head?_ne_of_not hnot hc), if_pos hend, ih]
    rfl
  | case4 c cs hnot hend ih =>
    by_cases ht : c = '\t'
    · subst ht
      have hspace : isLineEnd ' ' = false := by decide
      rw [expandTabs, lineChars_cons (by simp), lineChars_cons (by simp), hspace, map_expandTabs_consTab, ih]
      rfl
    · rw [expandTabs_cons ht, lineChars_cons fun hc => head?_expandTabs_ne (head?_ne_of_not hnot hc), if_neg hend, ih,
        map_expandTabs_consLine ht]

theorem toList_lines (s : String) : (lines s).map String.toList = lineChars s.toList := by
  simp [lines, Function.comp_def]

end NoteSchema.Text

namespace NoteSchema.Hint

/-- A line of a text, with its tabs expanded. -/
def Line.ofText (number : Int) (s : String) : Line := .ofChars number (Text.expandTabs s.toList)

/-- The lines of a text that are numbered from the given one on. -/
def Line.ofTexts (first : Int) : List String → List Line
  | [] => []
  | s :: rest => .ofText first s :: Line.ofTexts (first + 1) rest

theorem ofBody_eq (body : String) (first : Int) : Line.ofBody body first = Line.ofTexts first (Text.lines body) := by
  have h : ∀ (ss : List String) (n : Int),
      Line.numbered n ((ss.map String.toList).map Text.expandTabs) = Line.ofTexts n ss := by
    intro ss
    induction ss with
    | nil => exact fun _ => rfl
    | cons s ss ih =>
      intro n
      rw [List.map_cons, List.map_cons, Line.numbered, ih]
      rfl
  rw [Line.ofBody, Text.lineChars_expandTabs, ← Text.toList_lines, h]

theorem ofTexts_append (first : Int) (ss ts : List String) :
    Line.ofTexts first (ss ++ ts) = Line.ofTexts first ss ++ Line.ofTexts (first + ss.length) ts := by
  induction ss generalizing first with
  | nil => simp [Line.ofTexts]
  | cons s ss ih =>
    rw [List.cons_append, Line.ofTexts, Line.ofTexts, ih, List.length_cons, List.cons_append]
    congr 3
    omega

/-- A line of numbered texts comes from the text at its place, and its number tells the place. -/
theorem mem_ofTexts {first : Int} {ss : List String} {l : Line} (h : l ∈ Line.ofTexts first ss) :
    ∃ (i : Nat) (s : String), ss[i]? = some s ∧ l = .ofText (first + i) s := by
  induction ss generalizing first with
  | nil => simp [Line.ofTexts] at h
  | cons s ss ih =>
    rcases List.mem_cons.mp h with rfl | h
    · exact ⟨0, s, rfl, by simp⟩
    · obtain ⟨i, t, ht, rfl⟩ := ih h
      refine ⟨i + 1, t, ht, ?_⟩
      congr 1
      push_cast
      omega

theorem read?_eq {mode : Strictness} {owner body mark : String} {first : Int} {rest : List String}
    (h : Text.lines body = mark :: rest) (hmark : startsWithMarker (Line.ofText 0 mark).content = true) :
    Block.read? mode owner body first = some (readSections mode { owner } (Line.ofTexts (first + 1) rest)) := by
  have hblank : (Line.ofText first mark).isBlank = false := by
    cases hc : (Line.ofText 0 mark).content with
    | nil =>
      rw [hc] at hmark
      cases hmark
    | cons c cs =>
      have hcontent : (Line.ofText first mark).content = c :: cs := hc
      rw [Line.isBlank, hcontent]
      rfl
  have hopens : startsWithMarker (Line.ofText first mark).content = true := hmark
  rw [Block.read?, ofBody_eq, h, Line.ofTexts, afterMarker?, List.dropWhile_cons, hblank]
  simp [hopens]

/-- The report on a field that a block has already. -/
def twiceReported (owner name : String) (line : Int) : Diagnostic :=
  ⟨.warning, "Field '" ++ name ++ "' declared twice; later block wins", some line, owner, name⟩

/-- Remarks on repeated fields among others add their reports and leave the other reports in order. -/
theorem Interleaves.reports {owner : String} {twice : List (String × Int)} {rs rs' : List Finding}
    (h : Interleaves rs (twice.map fun p => declaredTwice p.1 p.2) rs') :
    Interleaves (rs.map (Finding.diagnostic owner)) (twice.map fun p => twiceReported owner p.1 p.2)
      (rs'.map (Finding.diagnostic owner)) := by
  have hmapped := h.map (Finding.diagnostic owner)
  rwa [List.map_map] at hmapped

/-- The names of the fields that strict reading reports as declared twice where a block follows another one. -/
def Block.repeated (a b : Block) : Strictness → List String
  | .strict => b.names.filter a.hasField
  | .tolerant => []

theorem Block.repeated_eq (a b : Block) (mode : Strictness) :
    a.repeated b mode = b.names.filter fun name => mode.isStrict && a.hasField name := by
  cases mode with
  | strict => rfl
  | tolerant => exact (List.filter_eq_nil_iff.mpr fun _ _ => Bool.false_ne_true).symm

/-- A field header is neither blank nor a comment. -/
theorem isSkipped_of_isField {l : Line} (h : l.isField = true) : l.isSkipped = false := by
  obtain ⟨number, indent, content⟩ := l
  cases content with
  | nil => cases h
  | cons c cs =>
    have hc : c ≠ '\'' := by
      rintro rfl
      have hletter : Text.isLetterOf 'f' '\'' = false := by decide
      simp [Line.isField, Line.fieldName?, Text.afterWord?, hletter] at h
    simp [Line.isSkipped, Line.isBlank, Line.isComment, hc]

/-- The text of a note that goes on with a field header gives the block of the text above the header, followed by the
block of the text from the header on. Added to the reports on the two are only those on fields of the first that the
second declares again. -/
theorem parse_followedBy {strictness : Strictness} {owner whole upper lower mark head : String} {first : Int}
    {above below : List String} {a b : Block} {ds es : List Diagnostic}
    (hwhole : Text.lines whole = mark :: (above ++ head :: below)) (hupper : Text.lines upper = mark :: above)
    (hlower : Text.lines lower = mark :: head :: below)
    (hmark : startsWithMarker (Line.ofText 0 mark).content = true)
    (habove : ∀ s ∈ above, (Line.ofText 0 s).isEnd = true → (Line.ofText 0 s).isComment = true)
    (hfield : (Line.ofText 0 head).isField = true) (hindent : (Line.ofText 0 head).indent = 0)
    (ha : Block.parse strictness owner upper first = .ok (a, ds))
    (hb : Block.parse strictness owner lower (first + above.length) = .ok (b, es)) :
    ∃ (more : List Diagnostic) (twice : List (String × Int)),
      Block.parse strictness owner whole first = .ok (a.followedBy b, ds ++ more) ∧
        twice.map (·.1) = a.repeated b strictness ∧
        (∀ p ∈ twice, ∃ (i : Nat) (s : String), (head :: below)[i]? = some s ∧
          (Line.ofText 0 s).fieldName? = some p.1 ∧ p.2 = first + above.length + 1 + i) ∧
        Interleaves es (twice.map fun p => twiceReported owner p.1 p.2) more := by
  obtain ⟨rs, hreadA, rfl⟩ := parse_eq_ok.mp ha
  obtain ⟨ss, hreadB, rfl⟩ := parse_eq_ok.mp hb
  rw [read?_eq hupper hmark, Option.some.injEq] at hreadA
  rw [read?_eq hlower hmark, Option.some.injEq] at hreadB
  have hstart : first + 1 + above.length = first + above.length + 1 := by omega
  have hskip : (Line.ofText 0 head).isSkipped = false := isSkipped_of_isField hfield
  have hbelow : Unindented (Line.ofTexts (first + above.length + 1) (head :: below)) := ⟨_, _, rfl, hskip, hindent⟩
  have hends : ∀ l ∈ Line.ofTexts (first + 1) above, l.isEnd = true → l.isSkipped = true := by
    intro l hl hend
    obtain ⟨i, s, hs, rfl⟩ := mem_ofTexts hl
    have hcomment : (Line.ofText (first + 1 + i) s).isComment = true := habove s (List.mem_of_getElem? hs) hend
    rw [Line.isSkipped, hcomment, Bool.or_true]
  obtain ⟨ss', hread, new, twice, hnames, hnew, hat, hinter⟩ :=
    readSections_followedBy a (by simp [Block.names]) hreadB
  rw [Block.followedBy_empty] at hread
  have hall : b.names = new := by
    rw [hnames]
    rfl
  -- the header ends what is above it, and the rest is read onto the block that this gives
  refine ⟨_, twice, parse_eq_ok.mpr ⟨rs ++ ss', ?_, List.map_append.symm⟩, ?_, fun p hp => ?_, hinter.reports⟩
  · rw [read?_eq hwhole hmark, ofTexts_append, hstart, readSections_append hbelow _ hends, hreadA, Noted.bind_of_ok,
      hread]
  · rw [Block.repeated_eq, hall, hnew]
  · obtain ⟨l, hl, hname, hnumber⟩ := hat p hp
    obtain ⟨i, s, hs, rfl⟩ := mem_ofTexts hl
    exact ⟨i, s, hs, hname, hnumber.symm⟩

/-- A note whose third field section, with a line that says nothing, has the name of the first. -/
def repeatedHeader : String :=
  "SCHEMAHINTS\ntitle: A\nfield a:\n  type: string\nfield b:\nfield a:\n  foo\n  type: integer\nfield c:\n"

/-- The lines above that section. -/
def aboveHeader : String := "SCHEMAHINTS\ntitle: A\nfield a:\n  type: string\nfield b:\n"

/-- The lines of that section and below it. -/
def fromHeader : String := "SCHEMAHINTS\nfield a:\n  foo\n  type: integer\nfield c:\n"

theorem repeatedHeader_parsed : ∃ (a b : Block) (ds es more : List Diagnostic) (twice : List (String × Int)),
    Block.parse .strict "C" aboveHeader 3 = .ok (a, ds) ∧ Block.parse .strict "C" fromHeader 7 = .ok (b, es) ∧
      a.names = ["a", "b"] ∧ b.names = ["a", "c"] ∧ es.length = 2 ∧
      Block.parse .strict "C" repeatedHeader 3 = .ok (a.followedBy b, ds ++ more) ∧ twice.map (·.1) = ["a"] ∧
      Interleaves es (twice.map fun p => twiceReported "C" p.1 p.2) more := by
  have hwhole : Text.lines repeatedHeader = "SCHEMAHINTS" ::
      (["title: A", "field a:", "  type: string", "field b:"] ++
        "field a:" :: ["  foo", "  type: integer", "field c:"]) := by
    decide
  have hupper : Text.lines aboveHeader =
      "SCHEMAHINTS" :: ["title: A", "field a:", "  type: string", "field b:"] := by
    decide
  have hlower : Text.lines fromHeader =
      "SCHEMAHINTS" :: "field a:" :: ["  foo", "  type: integer", "field c:"] := by
    decide
  have hreadA : (Block.parse .strict "C" aboveHeader 3).toOption.map (·.1.names) = some ["a", "b"] := by
    decide +kernel
  have hreadB : (Block.parse .strict "C" fromHeader 7).toOption.map (fun p => (p.1.names, p.2.length)) =
      some (["a", "c"], 2) := by
    decide +kernel
  cases ha : Block.parse .strict "C" aboveHeader 3 with
  | error e => simp [ha, Except.toOption] at hreadA
  | ok p =>
    cases hb : Block.parse .strict "C" fromHeader 7 with
    | error e => simp [hb, Except.toOption] at hreadB
    | ok q =>
      obtain ⟨a, ds⟩ := p
      obtain ⟨b, es⟩ := q
      have hnamesA : a.names = ["a", "b"] := by simpa [ha, Except.toOption] using hreadA
      obtain ⟨hnamesB, hlength⟩ : b.names = ["a", "c"] ∧ es.length = 2 := by
        simpa [hb, Except.toOption] using hreadB
      have hhas (name : String) : a.hasField name = decide (name ∈ ["a", "b"]) := by
        rw [Bool.eq_iff_iff, hasField_iff, hnamesA, decide_eq_true_iff]
      have hrepeated : a.repeated b .strict = ["a"] := by
        rw [Block.repeated, hnamesB, funext hhas]
        decide
      obtain ⟨more, twice, hparsed, hnames, _, hinter⟩ := parse_followedBy hwhole hupper hlower (by decide)
        (by decide) (by decide) (by decide) ha hb
      exact ⟨a, b, ds, es, more, twice, rfl, rfl, hnamesA, hnamesB, hlength, hparsed, hnames.trans hrepeated, hinter⟩

end NoteSchema.Hint
