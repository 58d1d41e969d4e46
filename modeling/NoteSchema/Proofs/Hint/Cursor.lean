import NoteSchema.Proofs.Hint.Indentation
import NoteSchema.Proofs.Hint.Spelled
import NoteSchema.Proofs.Hint.Traced

namespace NoteSchema.Hint

open Line (block afterBlock dropSkipped)

/-- Reading line by line within a number of turns; nothing is read when the turns run out. -/
abbrev Walk := OptionT Reading

variable {α β : Type}

/-- What a reading comes to, and the lines after it. -/
def leaving (rest : List Line) (x : Reading α) : Walk (α × List Line) := OptionT.lift x >>= fun a => pure (a, rest)

theorem lift_bind (x : Reading α) (f : α → Reading β) :
    (OptionT.lift (x >>= f) : Walk β) = OptionT.lift x >>= fun a => OptionT.lift (f a) := by
  apply OptionT.ext
  simp

theorem leaving_bind (rest : List Line) (x : Reading α) (f : α × List Line → Walk β) :
    leaving rest x >>= f = OptionT.lift x >>= fun a => f (a, rest) := by
  simp only [leaving, bind_assoc, pure_bind]

theorem bind_leaving (rest : List Line) (x : Reading α) (f : α → Reading β) :
    leaving rest (x >>= f) = OptionT.lift x >>= fun a => leaving rest (f a) := by
  simp only [leaving, lift_bind, bind_assoc]

theorem leaving_pure (rest : List Line) (a : α) : leaving rest (pure a : Reading α) = pure (a, rest) := by
  simp only [leaving, OptionT.lift_pure, pure_bind]

theorem outcome_leaving (rest : List Line) (x : Reading α) :
    (leaving rest x).run.outcome = x.outcome.map fun a => some (a, rest) := by
  obtain ⟨rs, e | a⟩ := x <;> rfl

/-- The items from a line on, and the lines from the one that ends the list. -/
def listFrom (mode : Strictness) : Nat → Nat → List Line → Walk (List String × List Line)
  | 0, _, _ => failure
  | _ + 1, _, [] => pure ([], [])
  | turns + 1, indent, l :: rest =>
    if l.isSkipped then listFrom mode turns indent rest
    else if l.stops indent then pure ([], l :: rest)
    else do
      OptionT.lift (Noted.when l.bullet?.isNone (Reading.warning mode "List item without bullet" l.number ""))
      let found ← listFrom mode turns indent rest
      pure (l.item :: found.1, found.2)

/-- The value below a key of the given indentation, and the lines after it; `readMapping` reads a mapping. -/
def valueFrom (mode : Strictness) (readMapping : List Line → Walk (List Entry × List Line)) (turns indent : Nat)
    (lines : List Line) : Walk (Value × List Line) :=
  match Opening.of indent lines with
  | .nothing => pure (.text "", lines)
  | .list => do
    let found ← listFrom mode turns indent (dropSkipped lines)
    pure (.list found.1, found.2)
  | .mapping => do
    let found ← readMapping (dropSkipped lines)
    pure (.mapping found.1, found.2)

/-- The directives from a line on, onto those there are, and the lines from the one that ends the mapping. -/
def mappingFrom (mode : Strictness) : Nat → Bool → Nat → List Line → List Entry → Walk (List Entry × List Line)
  | 0, _, _, _, _ => failure
  | _ + 1, _, _, [], acc => pure (acc, [])
  | turns + 1, nested, parent, l :: rest, acc =>
    if l.isBlank then do
      OptionT.lift (Noted.when (nested && Line.continues parent rest)
        (Reading.warning mode "Blank line inside nested block" l.number ""))
      mappingFrom mode turns nested parent rest acc
    else if l.isComment then mappingFrom mode turns nested parent rest acc
    else if l.stops parent then pure (acc, l :: rest)
    else
      match l.directive? with
      | none => do
        OptionT.lift (unrecognized mode l)
        mappingFrom mode turns nested parent rest acc
      | some (key, []) => do
        let found ← valueFrom mode (mappingFrom mode turns true l.indent · []) turns l.indent rest
        mappingFrom mode turns nested parent found.2 (Entry.put (.mk key found.1 l.number) acc)
      | some (key, value) => do
        let value ← OptionT.lift (readScalar value)
        mappingFrom mode turns nested parent rest (Entry.put (.mk key value l.number) acc)

/-- The sections of a block from a line on. -/
def sectionsFrom (mode : Strictness) : Nat → Block → List Line → Walk Block
  | 0, _, _ => failure
  | _ + 1, b, [] => pure b
  | turns + 1, b, l :: rest =>
    if l.isSkipped then sectionsFrom mode turns b rest
    else if l.isEnd then pure b
    else
      match l.fieldName? with
      | some name => do
        OptionT.lift (noteGap mode name rest)
        let found ← mappingFrom mode turns false l.indent rest []
        OptionT.lift (Noted.when (b.hasField name)
          (Reading.warning mode ("Field '" ++ name ++ "' declared twice; later block wins") l.number name))
        let f ← OptionT.lift (Field.ofEntries mode name l.number found.1)
        sectionsFrom mode turns { b with fields := putField name f b.fields } found.2
      | none =>
        match l.directive? with
        | none => do
          OptionT.lift (unrecognized mode l)
          sectionsFrom mode turns b rest
        | some (key, []) => do
          let found ← valueFrom mode (mappingFrom mode turns false l.indent · []) turns l.indent rest
          let b ← OptionT.lift (applyRoot mode b key found.1 l.number)
          sectionsFrom mode turns b found.2
        | some (key, value) => do
          let value ← OptionT.lift (readScalar value)
          let b ← OptionT.lift (applyRoot mode b key value l.number)
          sectionsFrom mode turns b rest

section Ends

variable {mode : Strictness} {indent parent turns : Nat} {l : Line} {lines : List Line}

theorem inside_iff : Line.inside indent l = true ↔ l.isSkipped = true ∨ l.stops indent = false := by
  simp [Line.inside]

/-- What is inside a block is inside one that is indented less. -/
theorem inside_of_le (hle : parent ≤ indent) (h : Line.inside indent l = true) : Line.inside parent l = true := by
  simp only [Line.inside, Line.stops, Bool.or_eq_true, Bool.not_eq_true', Bool.or_eq_false_iff,
    decide_eq_false_iff_not] at h ⊢
  rcases h with hskip | ⟨⟨hindent, hend⟩, hfield⟩
  · exact .inl hskip
  · exact .inr ⟨⟨by omega, hend⟩, hfield⟩

/-- A block below a key lies in the block that the key is in, which goes on behind it. -/
theorem block_eq_append (hle : parent ≤ indent) (lines : List Line) :
    block parent lines = block indent lines ++ block parent (afterBlock indent lines) := by
  have hsplit : block indent lines ++ afterBlock indent lines = lines := List.takeWhile_append_dropWhile
  have hinside : ∀ l ∈ block indent lines, Line.inside parent l = true := fun l hl =>
    inside_of_le hle (List.mem_takeWhile_imp hl)
  calc block parent lines = block parent (block indent lines ++ afterBlock indent lines) := by rw [hsplit]
    _ = _ := Line.block_append_inside hinside _

theorem afterBlock_eq (hle : parent ≤ indent) (lines : List Line) :
    afterBlock parent lines = afterBlock parent (afterBlock indent lines) := by
  have hsplit : block indent lines ++ afterBlock indent lines = lines := List.takeWhile_append_dropWhile
  have hinside : ∀ l ∈ block indent lines, Line.inside parent l = true := fun l hl =>
    inside_of_le hle (List.mem_takeWhile_imp hl)
  calc afterBlock parent lines = afterBlock parent (block indent lines ++ afterBlock indent lines) := by rw [hsplit]
    _ = _ := Line.afterBlock_append_inside hinside _

theorem afterBlock_dropSkipped (indent : Nat) (lines : List Line) :
    afterBlock indent (dropSkipped lines) = afterBlock indent lines := by
  induction lines with
  | nil => rfl
  | cons l rest ih =>
    cases hskip : l.isSkipped with
    | true => rw [Line.dropSkipped_cons_of_skipped hskip, ih, Line.afterBlock_cons (Line.inside_of_skipped hskip)]
    | false => rw [Line.dropSkipped_cons hskip]

theorem block_append_afterBlock (indent : Nat) (lines : List Line) :
    block indent lines ++ afterBlock indent lines = lines := List.takeWhile_append_dropWhile

theorem block_block_below (hle : parent ≤ indent) (lines : List Line) :
    block indent (block parent lines) = block indent lines := by
  rw [Line.block_block]
  exact List.takeWhile_eq_self_iff.mpr fun l hl => inside_of_le hle (List.mem_takeWhile_imp hl)

/-- What is left of a block behind a block in it is what is behind that block, up to the end of the outer one. -/
theorem afterBlock_block (hle : parent ≤ indent) (lines : List Line) :
    afterBlock indent (block parent lines) = block parent (afterBlock indent lines) := by
  have hinside : ∀ l ∈ block indent lines, Line.inside indent l = true := fun l hl => List.mem_takeWhile_imp hl
  rw [block_eq_append hle, Line.afterBlock_append_inside hinside]
  cases hafter : afterBlock indent lines with
  | nil => rfl
  | cons m more =>
    have hout : Line.inside indent m = false := eq_false_of_dropWhile_eq_cons hafter
    cases hin : Line.inside parent m with
    | true => rw [Line.block_cons hin, Line.afterBlock_cons_of_not hout]
    | false =>
      rw [Line.block_cons_of_not hin]
      rfl

/-- The lines below a key are the same whether or not the block that the key is in is cut off before. -/
theorem afterBlock_afterBelow (hle : parent ≤ indent) (lines : List Line) :
    afterBlock parent (afterBelow indent lines) = afterBlock parent lines := by
  unfold afterBelow
  split
  · rfl
  · rw [← afterBlock_eq hle, afterBlock_dropSkipped]

/-- A key in a block is read with what is below it, wherever the block ends. -/
theorem readEntries_key {key : String} (hskip : ¬ l.isSkipped = true) (hkey : l.directive? = some (key, []))
    (hparent : parent ≤ l.indent) (nested : Bool) (rest : List Line) (acc : List Entry) :
    readEntries mode nested parent (afterBlock parent rest) (l :: block parent rest) acc =
      readBelow mode true l.indent rest >>= fun value =>
        readEntries mode nested parent (afterBlock parent rest) (block parent (afterBelow l.indent rest))
          (Entry.put (.mk key value l.number) acc) := by
  simp only [Line.isSkipped, Bool.or_eq_true, not_or] at hskip
  rw [readEntries, if_neg hskip.1, if_neg hskip.2, hkey, readBelow, afterBelow]
  simp only [block_append_afterBlock]
  have hblock := block_block_below hparent (dropSkipped rest)
  have hafter := afterBlock_block hparent (dropSkipped rest)
  rw [← Line.dropSkipped_block] at hblock hafter
  cases Opening.of l.indent rest with
  | nothing => rfl
  | list => simp only [hblock, hafter, bind_assoc, pure_bind]
  | mapping =>
    have hend : afterBlock parent rest = afterBlock parent (afterBlock l.indent (dropSkipped rest)) := by
      rw [← afterBlock_eq hparent, afterBlock_dropSkipped]
    simp only [hblock, hafter, hend, block_append_afterBlock, bind_assoc, pure_bind]

theorem listFrom_eq (h : lines.length < turns) :
    listFrom mode turns indent lines = leaving (afterBlock indent lines) (readList mode (block indent lines)) := by
  induction lines generalizing turns with
  | nil =>
    obtain ⟨turns, rfl⟩ := Nat.exists_eq_succ_of_ne_zero (Nat.ne_of_gt h)
    exact (leaving_pure [] []).symm
  | cons l rest ih =>
    obtain ⟨turns, rfl⟩ := Nat.exists_eq_succ_of_ne_zero (Nat.ne_of_gt (Nat.lt_of_le_of_lt (Nat.zero_le _) h))
    have hrest : rest.length < turns := Nat.lt_of_succ_lt_succ h
    rw [listFrom]
    split_ifs with hskip hstop
    · have hinside : Line.inside indent l = true := Line.inside_of_skipped hskip
      rw [ih hrest, Line.afterBlock_cons hinside, Line.block_cons hinside, readList, if_pos hskip]
    · have hout : Line.inside indent l = false := by simp [Line.inside, hskip, hstop]
      rw [Line.afterBlock_cons_of_not hout, Line.block_cons_of_not hout, readList]
      exact (leaving_pure _ _).symm
    · have hinside : Line.inside indent l = true := by simp [Line.inside, hstop]
      rw [Line.afterBlock_cons hinside, Line.block_cons hinside, readList, if_neg hskip, ih hrest, bind_leaving]
      simp only [leaving_bind, bind_leaving, leaving_pure, Line.item]

theorem valueFrom_eq (mode : Strictness) (indent : Nat) {readMapping : List Line → Walk (List Entry × List Line)}
    (nested : Bool)
    (hmapping : ∀ below : List Line, below.length < turns → readMapping below =
      leaving (afterBlock indent below)
        (readEntries mode nested indent (afterBlock indent below) (block indent below) []))
    (h : lines.length < turns) :
    valueFrom mode readMapping turns indent lines =
      leaving (afterBelow indent lines) (readBelow mode nested indent lines) := by
  have hdrop : (dropSkipped lines).length < turns := Nat.lt_of_le_of_lt (length_dropSkipped lines) h
  unfold valueFrom readBelow afterBelow
  cases Opening.of indent lines with
  | nothing => exact (leaving_pure _ _).symm
  | list => simp only [listFrom_eq hdrop, leaving_bind, bind_leaving, leaving_pure]
  | mapping => simp only [hmapping _ hdrop, leaving_bind, bind_leaving, leaving_pure]

/-- A mapping that is read line by line is the mapping of its block, and what is left are the lines after it. -/
theorem mappingFrom_eq (mode : Strictness) (h : lines.length < turns) (nested : Bool) (acc : List Entry) :
    mappingFrom mode turns nested parent lines acc =
      leaving (afterBlock parent lines)
        (readEntries mode nested parent (afterBlock parent lines) (block parent lines) acc) := by
  induction turns generalizing nested parent lines acc with
  | zero => exact absurd h (Nat.not_lt_zero _)
  | succ turns ih =>
    cases lines with
    | nil =>
      have hnil : readEntries mode nested parent [] [] acc = pure acc := by
        rw [readEntries]
        rfl
      rw [mappingFrom]
      exact (leaving_pure [] acc).symm.trans (congrArg _ hnil.symm)
    | cons l rest =>
      have hrest : rest.length < turns := Nat.lt_of_succ_lt_succ h
      rw [mappingFrom]
      split_ifs with hblank hcomment hstop
      · have hinside : Line.inside parent l = true := Line.inside_of_skipped (Line.isSkipped_of_isBlank hblank)
        rw [ih hrest, Line.afterBlock_cons hinside, Line.block_cons hinside, readEntries, if_pos hblank,
          block_append_afterBlock, bind_leaving]
      · have hinside : Line.inside parent l = true := by simp [Line.inside, Line.isSkipped, hcomment]
        rw [ih hrest, Line.afterBlock_cons hinside, Line.block_cons hinside, readEntries, if_neg hblank, if_pos hcomment]
      · have hout : Line.inside parent l = false := by simp [Line.inside, Line.isSkipped, hblank, hcomment, hstop]
        have hnil : readEntries mode nested parent (l :: rest) [] acc = pure acc := by
          rw [readEntries]
          rfl
        rw [Line.afterBlock_cons_of_not hout, Line.block_cons_of_not hout, hnil, leaving_pure]
      · have hskip : ¬ l.isSkipped = true := by simp [Line.isSkipped, hblank, hcomment]
        have hinside : Line.inside parent l = true := by simp [Line.inside, hstop]
        rw [Line.afterBlock_cons hinside, Line.block_cons hinside]
        rcases hkey : l.directive? with _ | ⟨key, _ | ⟨c, value⟩⟩
        · rw [readEntries, if_neg hblank, if_neg hcomment, hkey]
          simp only [ih hrest, bind_leaving]
        · -- the key stands deeper than the block, so that the block goes on behind what is below the key
          have hparent : parent ≤ l.indent := by
            have hdeeper : ¬ l.indent ≤ parent := by
              simp only [Line.stops, Bool.or_eq_true, not_or, decide_eq_true_eq] at hstop
              exact hstop.1.1
            omega
          have hbelow : (afterBelow l.indent rest).length < turns :=
            Nat.lt_of_le_of_lt (length_afterBelow l.indent rest) hrest
          have hvalue := valueFrom_eq mode l.indent true (fun below hbelow => ih hbelow true []) hrest
          rw [readEntries_key hskip hkey hparent, bind_leaving]
          simp only [hvalue, leaving_bind, ih hbelow, afterBlock_afterBelow hparent]
        · rw [readEntries, if_neg hblank, if_neg hcomment, hkey]
          simp only [ih hrest, bind_leaving]

/-- Sections that are read line by line are the sections of the note. -/
theorem sectionsFrom_eq (h : lines.length < turns) (b : Block) :
    sectionsFrom mode turns b lines = OptionT.lift (readSections mode b lines) := by
  induction turns generalizing lines b with
  | zero => exact absurd h (Nat.not_lt_zero _)
  | succ turns ih =>
    cases lines with
    | nil =>
      rw [sectionsFrom, readSections]
      exact (OptionT.lift_pure b).symm
    | cons l rest =>
      have hrest : rest.length < turns := Nat.lt_of_succ_lt_succ h
      have hafter : (afterBlock l.indent rest).length < turns :=
        Nat.lt_of_le_of_lt (length_afterBlock l.indent rest) hrest
      have hbelow : (afterBelow l.indent rest).length < turns :=
        Nat.lt_of_le_of_lt (length_afterBelow l.indent rest) hrest
      have hvalue := valueFrom_eq mode l.indent false (fun below hbelow => mappingFrom_eq mode hbelow false []) hrest
      rw [sectionsFrom, readSections]
      split_ifs with hskip hend
      · exact ih hrest b
      · exact (OptionT.lift_pure b).symm
      · cases l.fieldName? with
        | some name =>
          simp only [readField, lift_bind, bind_assoc, mappingFrom_eq mode hrest, leaving_bind, ih hafter, pure_bind]
        | none =>
          rcases l.directive? with _ | ⟨key, _ | ⟨c, value⟩⟩
          · simp only [lift_bind, ih hrest]
          · simp only [lift_bind, hvalue, leaving_bind, ih hbelow]
          · simp only [lift_bind, ih hrest]

end Ends

/-- A line with a directive whose value is a numeral that is too long to be held. -/
def Line.HoldsOverlong (l : Line) : Prop :=
  ∃ key text, l.directive? = some (key, text) ∧ Overlong (Text.trimChars text)

theorem Line.holdsOverlong_iff {l : Line} : l.HoldsOverlong ↔ ∃ d ∈ l.directive?,
    ∃ n ∈ Number.numeral? (Text.trimChars d.2), n.2.2 = none ∧ Decimal.digitLimit < n.2.1.length := by
  constructor
  · rintro ⟨key, text, hkey, negative, digits, hnumeral, hlong⟩
    exact ⟨_, hkey, _, hnumeral, rfl, hlong⟩
  · rintro ⟨⟨key, text⟩, hkey, ⟨negative, digits, fraction⟩, hnumeral, rfl, hlong⟩
    exact ⟨key, text, hkey, negative, digits, hnumeral, hlong⟩

instance (l : Line) : Decidable l.HoldsOverlong := decidable_of_iff _ Line.holdsOverlong_iff.symm

section Faults

variable {mode : Strictness} {lines : List Line}

/-- If a reading fails, it does so for a numeral in these lines. -/
abbrev Fails (lines : List Line) (x : Reading α) : Prop :=
  Noted.Keeps (fun _ => True) (fun f => f = .value ∧ ∃ l ∈ lines, l.HoldsOverlong) (fun _ => True) x

theorem report_fails {severity : Severity} {message : String} {line : Int} {field : String} :
    Fails lines (Reading.report mode severity message line field) :=
  .when fun _ => .note trivial

theorem readScalar_fails {l : Line} {key : String} {text : List Char} (hl : l ∈ lines)
    (hkey : l.directive? = some (key, text)) : Fails lines (readScalar text) := by
  refine .lift (fun f hf => ?_) fun _ _ => trivial
  cases h : Value.ofText (String.ofList text) with
  | error e =>
    rw [h] at hf
    have hlong := overlong_of_ofText h
    rw [String.toList_ofList] at hlong
    exact ⟨(Except.error.inj hf).symm, l, hl, key, text, hkey, hlong⟩
  | ok v =>
    rw [h] at hf
    cases hf

theorem readList_fails (block : List Line) : Fails lines (readList mode block) := by
  induction block with
  | nil => exact .done _
  | cons l rest ih =>
    rw [readList]
    split
    next => exact ih
    next => exact (Noted.Keeps.when fun _ => report_fails).bind fun _ _ => ih.bind fun _ _ => .done _

theorem readEntries_fails (nested : Bool) (parent : Nat) (after block : List Line) (acc : List Entry)
    (hblock : block ⊆ lines) : Fails lines (readEntries mode nested parent after block acc) := by
  fun_induction readEntries mode nested parent after block acc with
  | case1 => exact .done _
  | case2 nested parent after l rest acc hblank ih =>
    exact (Noted.Keeps.when fun _ => report_fails).bind fun _ _ => ih (List.subset_of_cons_subset hblock)
  | case3 nested parent after l rest acc hblank hcomment ih => exact ih (List.subset_of_cons_subset hblock)
  | case4 nested parent after l rest acc hblank hcomment hnone ih =>
    exact report_fails.bind fun _ _ => ih (List.subset_of_cons_subset hblock)
  | case5 nested parent after l rest acc hblank hcomment key hkey hopening ih =>
    exact ih (List.subset_of_cons_subset hblock)
  | case6 nested parent after l rest acc hblank hcomment key hkey hopening ih =>
    have hrest : rest ⊆ lines := List.subset_of_cons_subset hblock
    refine (readList_fails _).bind fun items _ => ih items ?_
    exact List.Subset.trans ((List.dropWhile_sublist _).trans (List.dropWhile_sublist _)).subset hrest
  | case7 nested parent after l rest acc hblank hcomment key hkey hopening more ihBelow ih =>
    have hrest : rest ⊆ lines := List.subset_of_cons_subset hblock
    refine (ihBelow (List.Subset.trans (below_subset l rest) hrest)).bind fun entries _ => ih entries ?_
    exact List.Subset.trans ((List.dropWhile_sublist _).trans (List.dropWhile_sublist _)).subset hrest
  | case8 nested parent after l rest acc hblank hcomment key value hvalue hkey ih =>
    exact (readScalar_fails (hblock List.mem_cons_self) hkey).bind fun v _ =>
      ih v (List.subset_of_cons_subset hblock)

end Faults

/-- Where a block below a key of the given indentation ends: going on from line `i`, line `j` is the first one that says
something and cannot belong to the block, or there is none. -/
structure EndsAt (indent : Nat) (lines : List Line) (i j : Nat) : Prop where
  le : i ≤ j
  le_length : j ≤ lines.length
  stopped : j = lines.length ∨ ∃ l, lines[j]? = some l ∧ l.isSkipped = false ∧ l.stops indent = true
  unstopped : ∀ k l, i ≤ k → k < j → lines[k]? = some l → l.isSkipped = false → l.stops indent = false

/-- Reading goes through and leaves these lines. -/
def Leaves (rest : List Line) (x : Walk (α × List Line)) : Prop := ∃ a, x.run.outcome = .ok (some (a, rest))

/-- The value below a key has been read to the end of its block, or nothing is there: then nothing has been read, and the
next line that says something, if there is one, is one that stops it. -/
def LeavesValue (indent : Nat) (lines rest : List Line) (x : Walk (Value × List Line)) : Prop :=
  (x.run.outcome = .ok (some (.text "", lines)) ∧
    ∀ l, (dropSkipped lines).head? = some l → l.stops indent = true) ∨ Leaves rest x

/-- Reading line by line from line `i` on takes the lines up to line `j`, and leaves those from there on. -/
structure Reads (mode : Strictness) (turns indent : Nat) (lines : List Line) (i j : Nat) : Prop where
  list_eq : listFrom mode turns indent (lines.drop i) = leaving (lines.drop j) (readList mode ((lines.take j).drop i))
  mapping_eq : ∀ nested acc, mappingFrom mode turns nested indent (lines.drop i) acc =
    leaving (lines.drop j) (readEntries mode nested indent (lines.drop j) ((lines.take j).drop i) acc)
  list : Leaves (lines.drop j) (listFrom mode turns indent (lines.drop i))
  mapping : (∀ l ∈ (lines.take j).drop i, ¬ l.HoldsOverlong) → ∀ nested acc,
    Leaves (lines.drop j) (mappingFrom mode turns nested indent (lines.drop i) acc)
  value : (∀ l ∈ (lines.take j).drop i, ¬ l.HoldsOverlong) → ∀ nested,
    LeavesValue indent (lines.drop i) (lines.drop j)
      (valueFrom mode (mappingFrom mode turns nested indent · []) turns indent (lines.drop i))

theorem outcome_readList (mode : Strictness) (lines : List Line) :
    ∃ items, (readList mode lines).outcome = .ok items := by
  induction lines with
  | nil => exact ⟨[], rfl⟩
  | cons l rest ih =>
    obtain ⟨items, hitems⟩ := ih
    rw [readList]
    split
    next => exact ⟨items, hitems⟩
    next =>
      have hwarned : (Noted.when l.bullet?.isNone
          (Reading.warning mode "List item without bullet" l.number "")).outcome = pure () :=
        Noted.outcome_when _ Reading.outcome_report
      refine ⟨itemText (l.bullet?.getD l.content) :: items, ?_⟩
      rw [Noted.outcome_bind, hwarned, Noted.outcome_bind, hitems]
      rfl

section Cursor

variable {mode : Strictness} {lines : List Line} {indent i j turns : Nat}

/-- A block ends at one line. -/
theorem EndsAt.unique {j' : Nat} (h : EndsAt indent lines i j) (h' : EndsAt indent lines i j') : j = j' := by
  have hle {m n : Nat} (hm : EndsAt indent lines i m) (hn : EndsAt indent lines i n) : n ≤ m := by
    by_contra hlt
    rcases hm.stopped with hm' | ⟨l, hl, hskip, hstop⟩
    · have := hn.le_length
      omega
    · have hgoes := hn.unstopped m l hm.le (by omega) hl hskip
      rw [hstop] at hgoes
      cases hgoes
  exact Nat.le_antisymm (hle h' h) (hle h h')

theorem exists_endsAt (hi : i ≤ lines.length) (indent : Nat) :
    ∃ j, EndsAt indent lines i j ∧ lines.drop j = afterBlock indent (lines.drop i) ∧
      (lines.take j).drop i = block indent (lines.drop i) := by
  have hsplit := block_append_afterBlock indent (lines.drop i)
  have hlength := length_block indent (lines.drop i)
  rw [List.length_drop] at hlength
  obtain ⟨n, hn⟩ : ∃ n, n = (block indent (lines.drop i)).length := ⟨_, rfl⟩
  have htake : (lines.drop i).take n = block indent (lines.drop i) := by
    conv_lhs => rw [← hsplit, hn]
    exact List.take_left
  have hdrop : lines.drop (i + n) = afterBlock indent (lines.drop i) := by
    rw [← List.drop_drop]
    conv_lhs => rw [← hsplit, hn]
    exact List.drop_left
  refine ⟨i + n, ⟨by omega, by omega, ?_, ?_⟩, hdrop, by rw [List.drop_take, Nat.add_sub_cancel_left, htake]⟩
  · cases hafter : afterBlock indent (lines.drop i) with
    | nil =>
      rw [hafter, List.drop_eq_nil_iff] at hdrop
      exact .inl (by omega)
    | cons m rest =>
      have hm : lines[i + n]? = some m := by rw [← List.head?_drop, hdrop, hafter, List.head?_cons]
      have hout : Line.inside indent m = false := eq_false_of_dropWhile_eq_cons hafter
      simp only [Line.inside, Bool.or_eq_false_iff, Bool.not_eq_false'] at hout
      exact .inr ⟨m, hm, hout⟩
  · intro k l hik hkj hl hskip
    have hget : (block indent (lines.drop i))[k - i]? = some l := by
      rw [← htake, List.getElem?_take_of_lt (by omega), List.getElem?_drop, Nat.add_sub_cancel' hik, hl]
    have hinside : Line.inside indent l = true := List.mem_takeWhile_imp (List.mem_of_getElem? hget)
    exact (inside_iff.mp hinside).resolve_left (by simp [hskip])

theorem leaves_of_fails {x : Reading α} {rest between : List Line} (hx : Fails between x)
    (hbetween : ∀ l ∈ between, ¬ l.HoldsOverlong) : Leaves rest (leaving rest x) := by
  cases h : x.outcome with
  | ok a => exact ⟨a, by rw [outcome_leaving, h]; rfl⟩
  | error f =>
    obtain ⟨_, l, hl, hlong⟩ := hx.fault f h
    exact absurd hlong (hbetween l hl)

theorem readBelow_fails (nested : Bool) (indent : Nat) (below : List Line) :
    Fails (block indent below) (readBelow mode nested indent below) := by
  have hblock : block indent (dropSkipped below) ⊆ block indent below := by
    rw [← Line.dropSkipped_block]
    exact (List.dropWhile_sublist _).subset
  unfold readBelow
  cases Opening.of indent below with
  | nothing => exact .done _
  | list => exact (readList_fails _).bind fun items _ => .done _
  | mapping => exact (readEntries_fails _ _ _ _ _ hblock).bind fun entries _ => .done _

/-- Nothing is below a key exactly if the next line that says something, if there is one, does not belong there. -/
theorem stops_of_nothing {below : List Line} (h : Opening.of indent below = .nothing) {l : Line}
    (hl : (dropSkipped below).head? = some l) : l.stops indent = true := by
  obtain ⟨rest, hrest⟩ := List.head?_eq_some_iff.mp hl
  unfold Opening.of at h
  rw [hrest] at h
  dsimp only at h
  split at h
  next hstop => simp only [Line.stops, hstop, Bool.true_or]
  next =>
    split at h
    · cases h
    · cases h

/-- What is below a key is read to the end of its block, or nothing is there and nothing is read. -/
theorem valueFrom_leaves (h : lines.length < turns) (nested : Bool)
    (hlines : ∀ l ∈ block indent lines, ¬ l.HoldsOverlong) :
    LeavesValue indent lines (afterBlock indent lines)
      (valueFrom mode (mappingFrom mode turns nested indent · []) turns indent lines) := by
  have hvalue := valueFrom_eq mode indent nested (fun below hbelow => mappingFrom_eq mode hbelow nested []) h
  by_cases hopening : Opening.of indent lines = .nothing
  · refine .inl ⟨?_, fun l hl => stops_of_nothing hopening hl⟩
    rw [valueFrom, hopening]
    rfl
  · have hafter : afterBelow indent lines = afterBlock indent lines := by
      rw [← afterBlock_dropSkipped, afterBelow]
      split
      next hnothing => exact absurd hnothing hopening
      next => rfl
    rw [hvalue, hafter]
    exact .inr (leaves_of_fails (readBelow_fails nested indent lines) hlines)

/-- Reading line by line stays with its block: a list and a mapping end exactly at the first line that says something and
cannot belong to them, whatever is nested in them, or where the lines end. What is below a key ends there too, or there is
nothing below it, and the next line that says something is one that stops it. Only a numeral that is too long to be held
keeps a mapping from being read to its end. No more turns are needed than there are lines left, and one to see that there
are none, so that reading a note ends, and it comes to what its sections come to. -/
theorem readers_end_blocks (mode : Strictness) (lines : List Line) :
    (∀ i ≤ lines.length, ∀ indent, ∃ j, EndsAt indent lines i j ∧
      ∀ turns, lines.length - i < turns → Reads mode turns indent lines i j) ∧
    ∀ turns, lines.length < turns → ∀ b,
      sectionsFrom mode turns b lines = OptionT.lift (readSections mode b lines) := by
  refine ⟨fun i hi indent => ?_, fun turns hturns b => sectionsFrom_eq hturns b⟩
  obtain ⟨j, hends, hdrop, hblock⟩ := exists_endsAt hi indent
  refine ⟨j, hends, fun turns hturns => ?_⟩
  rw [← List.length_drop] at hturns
  constructor
  · rw [hdrop, hblock]
    exact listFrom_eq hturns
  · intro nested acc
    rw [hdrop, hblock]
    exact mappingFrom_eq mode hturns nested acc
  · obtain ⟨items, hitems⟩ := outcome_readList mode (block indent (lines.drop i))
    rw [hdrop, listFrom_eq hturns]
    exact ⟨items, by rw [outcome_leaving, hitems]; rfl⟩
  · intro hlines nested acc
    rw [hblock] at hlines
    rw [hdrop, mappingFrom_eq mode hturns]
    exact leaves_of_fails (readEntries_fails _ _ _ _ _ (List.Subset.refl _)) hlines
  · intro hlines nested
    rw [hblock] at hlines
    rw [hdrop]
    exact valueFrom_leaves hturns nested hlines

/-- A key with a list and another key below it, and the header behind them. -/
def nestedLines : List Line :=
  [⟨3, 2, "enumDefine:".toList⟩, ⟨4, 4, "enum:".toList⟩, ⟨5, 0, []⟩, ⟨6, 6, "- a".toList⟩, ⟨7, 4, "title: T".toList⟩,
    ⟨8, 0, "field y:".toList⟩]

theorem nestedLines_read : EndsAt 2 nestedLines 1 5 ∧ Reads .strict 7 2 nestedLines 1 5 ∧
    Leaves (nestedLines.drop 5) (mappingFrom .strict 7 true 2 (nestedLines.drop 1) []) := by
  have hinside : ∀ k < 5, ∀ l ∈ nestedLines[k]?, 1 ≤ k → l.isSkipped = false → l.stops 2 = false := by decide
  have hheader : nestedLines[5]? = some ⟨8, 0, "field y:".toList⟩ := rfl
  have hends : EndsAt 2 nestedLines 1 5 :=
    ⟨by decide, by decide, .inr ⟨_, hheader, by decide, by decide⟩, fun k l hk hlt hl => hinside k hlt l hl hk⟩
  have hshort : ∀ l ∈ (nestedLines.take 5).drop 1, ¬ l.HoldsOverlong := by decide
  obtain ⟨j, hends', hreads⟩ := (readers_end_blocks .strict nestedLines).1 1 (by decide) 2
  obtain rfl : j = 5 := hends'.unique hends
  have hread := hreads 7 (by decide)
  exact ⟨hends, hread, hread.mapping hshort true []⟩

/-- A directive of a field with a number. -/
def serialLine (digits : List Char) : Line := ⟨3, 2, "serial: ".toList ++ digits⟩

theorem mappingFrom_overlong {digits : List Char} (hdigits : ∀ c ∈ digits, '0' ≤ c ∧ c ≤ '9')
    (hlong : Decimal.digitLimit < digits.length) :
    (mappingFrom .tolerant 2 false 0 [serialLine digits] []).run.outcome = .error .value := by
  obtain ⟨c, cs, rfl⟩ := List.exists_cons_of_length_pos (Nat.lt_of_le_of_lt (Nat.zero_le _) hlong)
  have hscalar : readScalar (c :: cs) = Noted.lift (.error .value) := by
    have hread := ofText_of_digits (List.cons_ne_nil c cs) hdigits false
    rw [Decimal.readInt, if_pos hlong] at hread
    exact congrArg (fun r => Noted.lift (r.mapError fun _ => Fault.value)) hread
  have hkey : (serialLine (c :: cs)).directive? = some ("serial", c :: cs) := by
    have htrim := Text.trimChars_of_not_blank fun c hc => (plainDigit_cases (hdigits c hc)).2.1
    rw [← Text.trimChars_cons_of_blank (show Text.isBlank ' ' = true by decide)] at htrim
    exact congrArg (fun value => some ("serial", value)) htrim
  have hplain : (serialLine (c :: cs)).isBlank = false ∧ (serialLine (c :: cs)).isComment = false ∧
      (serialLine (c :: cs)).stops 0 = false := ⟨rfl, rfl, rfl⟩
  obtain ⟨hblank, hcomment, hstop⟩ := hplain
  rw [mappingFrom, if_neg (by simp [hblank]), if_neg (by simp [hcomment]), if_neg (by simp [hstop]), hkey]
  simp only [hscalar]
  rfl

theorem long_serial_faults : ¬ ∃ j, Leaves ([serialLine (List.replicate 4301 '1')].drop j)
    (mappingFrom .tolerant 2 false 0 [serialLine (List.replicate 4301 '1')] []) := by
  have hdigits : ∀ c ∈ List.replicate 4301 '1', '0' ≤ c ∧ c ≤ '9' := fun c hc => by
    rw [List.eq_of_mem_replicate hc]
    decide
  have hlong : Decimal.digitLimit < (List.replicate 4301 '1').length := by
    rw [List.length_replicate]
    decide
  rintro ⟨j, found, hfound⟩
  rw [mappingFrom_overlong hdigits hlong] at hfound
  cases hfound

end Cursor

end NoteSchema.Hint
