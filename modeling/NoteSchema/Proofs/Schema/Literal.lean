import NoteSchema.Proofs.Hint.ListDirective
import NoteSchema.Proofs.Hint.Returned
import NoteSchema.Proofs.Json.Token
import NoteSchema.Proofs.Schema.Independent
import NoteSchema.Proofs.Schema.Metadata
import NoteSchema.Proofs.Schema.Origins

namespace NoteSchema

namespace Text

/-- A text that can stand on a line as it is: it has no tabs and no ends of lines. -/
def Verbatim (s : String) : Prop := '\t' ∉ s.toList ∧ s.toList.any isLineEnd = false

instance (s : String) : Decidable (Verbatim s) := inferInstanceAs (Decidable (_ ∧ _))

variable {q : Char}

theorem Verbatim.append {s t : String} (hs : Verbatim s) (ht : Verbatim t) : Verbatim (s ++ t) := by
  refine ⟨?_, ?_⟩
  · rw [String.toList_append, List.mem_append, not_or]
    exact ⟨hs.1, ht.1⟩
  · rw [String.toList_append, List.any_append, hs.2, ht.2]
    rfl

theorem verbatim_quoted (hq : q = '"' ∨ q = '\'') {s : String} (hs : Verbatim s) : Verbatim (quoted q s) := by
  have hquote : q ≠ '\t' ∧ isLineEnd q = false := by rcases hq with rfl | rfl <;> decide
  have htab : '\t' ∉ s.toList := hs.1
  have hends : s.toList.any isLineEnd = false := hs.2
  constructor
  · simp [quoted, htab, Ne.symm hquote.1]
  · simp only [quoted, String.toList_ofList, List.any_cons, List.any_append, hquote.2, hends, List.any_nil, Bool.or_false]

theorem isBlank_of_isLineEnd {c : Char} (h : isLineEnd c = true) : isBlank c = true := by
  have hall : ∀ n ∈ [0x0A, 0x0B, 0x0C, 0x0D, 0x1C, 0x1D, 0x1E, 0x85, 0x2028, 0x2029], blanks.contains n = true := by
    decide
  refine hall c.toNat ?_
  simp only [isLineEnd, Bool.or_eq_true, Bool.and_eq_true, decide_eq_true_eq, beq_iff_eq] at h
  simp only [List.mem_cons, List.not_mem_nil, or_false]
  omega

/-- Characters that are not blank are none that a line cannot hold. -/
theorem verbatim_of_not_blank {s : String} (h : ∀ c ∈ s.toList, isBlank c = false) : Verbatim s := by
  refine ⟨fun htab => absurd (h '\t' htab) (by decide), List.any_eq_false.mpr fun c hc hend => ?_⟩
  have hblank := h c hc
  rw [isBlank_of_isLineEnd hend] at hblank
  cases hblank

end Text

namespace Hint

/-- A reading that comes to a value, whatever it reports of the lines. -/
abbrev Yields {α : Type} (a : α) (x : Reading α) : Prop :=
  Noted.Keeps (fun _ => True) (fun _ => False) (· = a) x

theorem Yields.outcome_eq {α : Type} {a : α} {x : Reading α} (h : Yields a x) : x.outcome = .ok a := by
  cases hx : x.outcome with
  | error e => exact (h.fault e hx).elim
  | ok b => rw [h.result b hx]

theorem yields_report {b : Bool} {mode : Strictness} {severity : Severity} {message : String} {line : Int}
    {field : String} : Yields () (Noted.when b (Reading.report mode severity message line field)) :=
  .mono (.when fun _ => .when fun _ => .note trivial) fun _ _ => rfl

variable {q : Char} {written : String} {f : Field}

theorem range_of_mem_natChars {n : Nat} {c : Char} (hc : c ∈ Decimal.natChars n) : '0' ≤ c ∧ c ≤ '9' := by
  simpa [Json.isPlainDigit] using Decimal.isPlainDigit_of_mem_natChars hc

/-- The text of a whole number is read as the number. -/
theorem ofText_intText {n : Int} (hn : (Decimal.natChars n.natAbs).length ≤ Decimal.digitLimit) :
    Value.ofText (Decimal.intText n) = .ok (.number (.int n)) := by
  obtain ⟨c, cs, hcs, _⟩ := Decimal.natChars_eq_cons n.natAbs
  have hne : Decimal.natChars n.natAbs ≠ [] := by simp [hcs]
  have hdigits : ∀ c ∈ Decimal.natChars n.natAbs, '0' ≤ c ∧ c ≤ '9' := fun c hc => range_of_mem_natChars hc
  have hread (negative : Bool) : Decimal.readInt negative (Decimal.natChars n.natAbs) =
      .ok (if negative then -(n.natAbs : Int) else n.natAbs) := by
    rw [Decimal.readInt, if_neg (Nat.not_lt.mpr hn), Decimal.natValue_natChars]
  cases n with
  | ofNat n =>
    have h := ofText_of_digits hne hdigits false
    rw [hread] at h
    exact h
  | negSucc n =>
    have h := ofText_of_digits hne hdigits true
    rw [hread] at h
    exact h

/-- The keys of literals, each with the field that it makes of a value. -/
inductive LiteralKey : String → (Value → Field) → Prop
  | const : LiteralKey "const" fun v => { const := some v }
  | default : LiteralKey "default" fun v => { default := some v }

/-- A directive as it is written on a line, and the field that it makes where it is the only one. -/
structure Directs (written : String) (f : Field) : Prop where
  verbatim : Text.Verbatim written
  starts : ∃ c cs, written.toList = c :: cs ∧ Text.isBlank c = false
  plain : ∀ n i, Line.Plain ⟨n, i, written.toList⟩
  read : ∃ key c text value, (∀ n i, Line.directive? ⟨n, i, written.toList⟩ = some (key, c :: text)) ∧
    readScalar (c :: text) = pure value ∧
      ∀ mode name line n, Field.ofEntries mode name line [.mk key value n] = pure f

section Keys

variable {key text : String} {make : Value → Field} {v : Value}

theorem directive?_literal (hkey : LiteralKey key make) (n : Int) (i : Nat) (text : String) :
    Line.directive? ⟨n, i, (key ++ ": " ++ text).toList⟩ = some (key, Text.trimChars text.toList) := by
  have hblank : Text.isBlank ' ' = true := by decide
  rw [← Text.trimChars_cons_of_blank hblank, String.toList_append]
  cases hkey <;> rfl

theorem plain_literal (hkey : LiteralKey key make) (n : Int) (i : Nat) (text : String) :
    Line.Plain ⟨n, i, (key ++ ": " ++ text).toList⟩ := by
  rw [String.toList_append]
  cases hkey <;> exact ⟨rfl, rfl, rfl, rfl⟩

theorem ofEntries_literal (hkey : LiteralKey key make) (v : Value) (mode : Strictness) (name : String) (line n : Int) :
    Field.ofEntries mode name line [.mk key v n] = pure (make v) := by
  cases hkey <;> rfl

theorem directs_literal (hkey : LiteralKey key make) (hverbatim : Text.Verbatim text) (hne : text ≠ "")
    (htrim : Text.trimChars text.toList = text.toList) (hvalue : Value.ofText text = .ok v) :
    Directs (key ++ ": " ++ text) (make v) := by
  obtain ⟨c, cs, hcs⟩ := List.exists_cons_of_ne_nil (l := text.toList) (by simpa using hne)
  have hstart : Text.Verbatim (key ++ ": ") ∧ ∃ d ds, (key ++ ": ").toList = d :: ds ∧ Text.isBlank d = false := by
    cases hkey with
    | const => exact ⟨by decide, 'c', _, rfl, by decide⟩
    | default => exact ⟨by decide, 'd', _, rfl, by decide⟩
  obtain ⟨hopen, d, ds, hds, hblank⟩ := hstart
  refine ⟨hopen.append hverbatim, ⟨d, ds ++ text.toList, by rw [String.toList_append, hds]; rfl, hblank⟩,
    fun n i => plain_literal hkey n i text, key, c, cs, v, fun n i => ?_, ?_, ofEntries_literal hkey v⟩
  · rw [directive?_literal hkey, htrim, hcs]
  · rw [readScalar, ← hcs, String.ofList_toList, hvalue]
    rfl

theorem directs_quoted (hkey : LiteralKey key make) (hq : q = '"' ∨ q = '\'') {s : String} (hs : Text.Verbatim s) :
    Directs (key ++ ": " ++ Text.quoted q s) (make (.text (Text.quoted q s))) := by
  have hblank : Text.isBlank q = false := by rcases hq with rfl | rfl <;> decide
  have hchars : (Text.quoted q s).toList = q :: (s.toList ++ [q]) := String.toList_ofList
  refine directs_literal hkey (Text.verbatim_quoted hq hs) (fun hempty => ?_) ?_ (ofText_quoted hq s)
  · rw [hempty] at hchars
    cases hchars
  · exact Text.trimChars_eq_self hchars (hchars.trans (List.cons_append ..).symm) hblank hblank

theorem directs_number (hkey : LiteralKey key make) {n : Int}
    (hn : (Decimal.natChars n.natAbs).length ≤ Decimal.digitLimit) :
    Directs (key ++ ": " ++ Decimal.intText n) (make (.number (.int n))) := by
  have hdigits (k : Nat) : ∀ c ∈ Decimal.natChars k, Text.isBlank c = false := fun c hc =>
    (plainDigit_cases (range_of_mem_natChars hc)).2.1
  have hchars : ∀ c ∈ (Decimal.intText n).toList, Text.isBlank c = false := by
    rw [Decimal.intText, String.toList_ofList]
    cases n with
    | ofNat n => exact hdigits n
    | negSucc n => exact List.forall_mem_cons.mpr ⟨by decide, hdigits (n + 1)⟩
  refine directs_literal hkey (Text.verbatim_of_not_blank hchars) (fun hempty => ?_) (Text.trimChars_of_not_blank hchars)
    (ofText_intText hn)
  have hread := ofText_intText hn
  rw [hempty] at hread
  cases hread

end Keys

section Block

variable {mode : Strictness} {header l : Line} {name key : String} {above gap rest : List Line} {parent : Nat}
  {value : Value}

theorem inside_of_isField (h : header.isField = true) (indent : Nat) : Line.inside indent header = false := by
  simp [Line.inside, isSkipped_of_isField h, Line.stops, h]

theorem isEnd_of_fieldName? (h : header.fieldName? = some name) : header.isEnd = false := by
  have hword : Text.afterWord? "end".toList header.content = none := by
    cases hcontent : header.content with
    | nil => rfl
    | cons c cs =>
      have hletter : Text.isLetterOf 'f' c = true := by
        by_contra hnot
        rw [Line.fieldName?, hcontent] at h
        have hother : Text.isLetterOf 'f' c = false := by simpa using hnot
        have hnone : Text.afterWord? "field".toList (c :: cs) = none := Text.afterWord?_of_head hother _ _
        rw [hnone] at h
        cases h
      have hlower : c.toLower = 'f' := by simpa [Text.isLetterOf] using hletter
      have hother : Text.isLetterOf 'e' c = false := by simp [Text.isLetterOf, hlower]
      exact Text.afterWord?_of_head hother _ _
  rw [Line.isEnd, hword]

/-- A header ends what is below a key above it. -/
theorem exists_afterBelow_append (hfield : header.isField = true) (indent : Nat) (above rest : List Line) :
    ∃ tail, afterBelow indent (above ++ header :: rest) = tail ++ header :: rest ∧ tail.Sublist above := by
  have hdrop : Line.dropSkipped (above ++ header :: rest) = Line.dropSkipped above ++ header :: rest :=
    dropWhile_append_stop (isSkipped_of_isField hfield) above rest
  have hafter := dropWhile_append_stop (inside_of_isField hfield indent) (Line.dropSkipped above) rest
  unfold afterBelow
  split
  · exact ⟨above, rfl, List.Sublist.refl above⟩
  · rw [hdrop]
    exact ⟨_, hafter, (List.dropWhile_sublist _).trans (List.dropWhile_sublist _)⟩

/-- A header ends every block above it, so that what is above it comes to sections of its own. -/
theorem exists_sections_append (hname : header.fieldName? = some name)
    (habove : ∀ l ∈ above, l.isEnd = true → l.isSkipped = true) :
    ∃ found, sections mode (above ++ header :: rest) = found ++ sections mode (header :: rest) := by
  have hfield : header.isField = true := by rw [Line.isField, hname]; rfl
  have hskip : header.isSkipped = false := isSkipped_of_isField hfield
  induction hlength : above.length using Nat.strong_induction_on generalizing above with
  | _ length ih =>
    have hgo {more : List Line} (hmore : more.Sublist above) (hlt : more.length < length) :
        ∃ found, sections mode (more ++ header :: rest) = found ++ sections mode (header :: rest) :=
      ih more.length hlt (fun l hl => habove l (hmore.subset hl)) rfl
    cases above with
    | nil => exact ⟨[], rfl⟩
    | cons l more =>
      have hlt {tail : List Line} (htail : tail.Sublist more) : tail.length < length := by
        have := htail.length_le
        rw [List.length_cons] at hlength
        omega
      have hmore : more.Sublist (l :: more) := List.sublist_cons_self l more
      rw [List.cons_append, sections]
      by_cases hl : l.isSkipped = true
      · rw [if_pos hl]
        exact hgo hmore (hlt (List.Sublist.refl more))
      · rw [if_neg hl, if_neg fun hend => hl (habove l List.mem_cons_self hend)]
        have hafter (indent : Nat) : Line.afterBlock indent (more ++ header :: rest) =
            Line.afterBlock indent more ++ header :: rest :=
          dropWhile_append_stop (inside_of_isField hfield indent) more rest
        cases l.fieldName? with
        | some other =>
          have htail : (Line.afterBlock l.indent more).Sublist more := List.dropWhile_sublist _
          obtain ⟨found, hfound⟩ := hgo (htail.trans hmore) (hlt htail)
          simp only [hafter, hfound]
          exact ⟨_ :: found, rfl⟩
        | none =>
          rcases l.directive? with _ | ⟨key, _ | ⟨c, value⟩⟩
          · exact hgo hmore (hlt (List.Sublist.refl more))
          · obtain ⟨tail, htail, hsub⟩ := exists_afterBelow_append hfield l.indent more rest
            obtain ⟨found, hfound⟩ := hgo (hsub.trans hmore) (hlt hsub)
            simp only [htail, hfound]
            exact ⟨_ :: found, rfl⟩
          · obtain ⟨found, hfound⟩ := hgo hmore (hlt (List.Sublist.refl more))
            simp only [hfound]
            exact ⟨_ :: found, rfl⟩

/-- A line below a header that gives nothing to its field. -/
def Line.Mute (parent : Nat) (l : Line) : Prop :=
  l.isSkipped = true ∨ l.stops parent = false ∧ l.directive? = none

instance (parent : Nat) (l : Line) : Decidable (l.Mute parent) := inferInstanceAs (Decidable (_ ∨ _))

theorem Line.Mute.inside (h : l.Mute parent) : Line.inside parent l = true := by
  rcases h with hskip | ⟨hstop, _⟩
  · exact Line.inside_of_skipped hskip
  · simp [Line.inside, hstop]

theorem readEntries_mute {after lines : List Line} {acc entries : List Entry} (hgap : ∀ m ∈ gap, m.Mute parent)
    (h : Yields entries (readEntries mode false parent after lines acc)) :
    Yields entries (readEntries mode false parent after (gap ++ lines) acc) := by
  induction gap with
  | nil => exact h
  | cons m gap ih =>
    obtain ⟨hm, hrest⟩ := List.forall_mem_cons.mp hgap
    have ih := ih hrest
    rw [List.cons_append, readEntries]
    by_cases hblank : m.isBlank = true
    · rw [if_pos hblank]
      exact yields_report.bind fun _ _ => ih
    · rw [if_neg hblank]
      by_cases hcomment : m.isComment = true
      · rwa [if_pos hcomment]
      · have hkey : m.directive? = none := (hm.resolve_left (by simp [Line.isSkipped, hblank, hcomment])).2
        rw [if_neg hcomment, hkey]
        exact (yields_report (b := true)).bind fun _ _ => ih

/-- A block with one directive is read to its entry. -/
theorem readEntries_sole {c : Char} {text : List Char} (hgap : ∀ m ∈ gap, m.Mute parent) (hplain : l.Plain)
    (hkey : l.directive? = some (key, c :: text)) (hvalue : readScalar (c :: text) = pure value)
    (hrest : ∀ m ∈ rest, m.Mute parent) (after : List Line) :
    Yields [.mk key value l.number] (readEntries mode false parent after (gap ++ l :: rest) []) := by
  have hsaid := hplain.said
  simp only [Line.isSkipped, Bool.or_eq_false_iff] at hsaid
  have hdone : Yields [Entry.mk key value l.number]
      (readEntries mode false parent after [] [.mk key value l.number]) := by
    rw [readEntries]
    exact .pure rfl
  have hlast := readEntries_mute hrest hdone
  rw [List.append_nil] at hlast
  refine readEntries_mute hgap ?_
  rw [readEntries, if_neg (by simp [hsaid]), if_neg (by simp [hsaid]), hkey]
  simp only [hvalue, pure_bind]
  exact hlast

theorem readSections_skipped (habove : ∀ l ∈ above, l.isSkipped = true) (b : Block) (rest : List Line) :
    readSections mode b (above ++ rest) = readSections mode b rest := by
  have hdrop : Line.dropSkipped (above ++ rest) = Line.dropSkipped rest := List.dropWhile_append_of_pos habove
  rw [← readSections_dropSkipped b (above ++ rest), hdrop, readSections_dropSkipped]

theorem sections_header (hname : header.fieldName? = some name) (rest : List Line) :
    sections mode (header :: rest) =
      (readEntries mode false header.indent (Line.afterBlock header.indent rest)
          (Line.block header.indent rest) []).outcome.map (.field name header.number) ::
        sections mode (Line.afterBlock header.indent rest) := by
  have hfield : header.isField = true := by rw [Line.isField, hname]; rfl
  rw [sections, if_neg (by simp [isSkipped_of_isField hfield]), if_neg (by simp [isEnd_of_fieldName? hname]), hname]

/-- Sections of fields come from headers. -/
theorem header_of_mem_sections {lines : List Line} {line : Int} {entries : List Entry}
    (h : .ok (.field name line entries) ∈ sections mode lines) : ∃ l ∈ lines, l.fieldName? = some name := by
  fun_induction sections mode lines with
  | case1 => cases h
  | case2 l rest hskip ih => exact (ih h).imp fun _ hm => ⟨List.mem_cons_of_mem l hm.1, hm.2⟩
  | case3 => cases h
  | case4 l rest hskip hend other hother ih =>
    rcases List.mem_cons.mp h with hown | h
    · cases hentries : (readEntries mode false l.indent (Line.afterBlock l.indent rest)
          (Line.block l.indent rest) []).outcome with
      | error e =>
        rw [hentries] at hown
        cases hown
      | ok es =>
        rw [hentries] at hown
        cases hown
        exact ⟨l, List.mem_cons_self, hother⟩
    · exact (ih h).imp fun _ hm => ⟨List.mem_cons_of_mem l ((List.dropWhile_sublist _).subset hm.1), hm.2⟩
  | case5 l rest hskip hend hname hnone ih =>
    exact (ih h).imp fun _ hm => ⟨List.mem_cons_of_mem l hm.1, hm.2⟩
  | case6 l rest hskip hend hname key hkey ih =>
    rcases List.mem_cons.mp h with hown | h
    · cases hvalue : (readBelow mode false l.indent rest).outcome <;> rw [hvalue] at hown <;> cases hown
    · exact (ih h).imp fun _ hm => ⟨List.mem_cons_of_mem l (afterBelow_subset l.indent rest hm.1), hm.2⟩
  | case7 l rest hskip hend hname key value hvalue hkey ih =>
    rcases List.mem_cons.mp h with hown | h
    · cases hread : (readScalar value).outcome <;> rw [hread] at hown <;> cases hown
    · exact (ih h).imp fun _ hm => ⟨List.mem_cons_of_mem l hm.1, hm.2⟩

end Block

section Fields

variable {mode : Strictness} {b b' : Block} {name : String} {f : Field} {found : List (Except Fault Section)}

theorem fields_applyRoot {key : String} {value : Value} {line : Int}
    (h : (applyRoot mode b key value line).outcome = .ok b') : b'.fields = b.fields := by
  unfold applyRoot at h
  cases hkey : RootDirective.ofKey? (Text.small key) with
  | none =>
    rw [hkey] at h
    obtain rfl : b = b' := Except.ok.inj (Reading.outcome_report_bind.symm.trans h)
    rfl
  | some directive =>
    rw [hkey] at h
    cases directive with
    | additionalProperties =>
      cases value with
      | flag =>
        cases h
        rfl
      | text | number | list | mapping =>
        obtain rfl : b = b' := Except.ok.inj (Reading.outcome_report_bind.symm.trans h)
        rfl
    | title | description | required | oneOf | anyOf | allOf | xor =>
      cases h
      rfl

theorem mem_putField_self (name : String) (f : Field) (fields : List (String × Field)) :
    (name, f) ∈ putField name f fields := by
  induction fields with
  | nil => exact List.mem_singleton_self _
  | cons p rest ih =>
    obtain ⟨n, g⟩ := p
    rw [putField]
    split
    next hn =>
      subst hn
      exact List.mem_cons_self
    next => exact List.mem_cons_of_mem _ ih

theorem mem_putField_of_ne {other : String} (hne : other ≠ name) {fields : List (String × Field)}
    (h : (name, f) ∈ fields) (g : Field) : (name, f) ∈ putField other g fields := by
  induction fields with
  | nil => cases h
  | cons p rest ih =>
    obtain ⟨n, k⟩ := p
    rw [putField]
    split
    next hn =>
      rcases List.mem_cons.mp h with heq | h
      · cases heq
        exact absurd hn.symm hne
      · exact List.mem_cons_of_mem _ h
    next =>
      rcases List.mem_cons.mp h with heq | h
      · exact heq ▸ List.mem_cons_self
      · exact List.mem_cons_of_mem _ (ih h)

/-- A field stays in a block that no section of its name is applied to. -/
theorem mem_fields_applySections (h : applySections mode b found = .ok b')
    (hfound : ∀ line entries, .ok (.field name line entries) ∉ found) (hf : (name, f) ∈ b.fields) :
    (name, f) ∈ b'.fields := by
  induction found generalizing b with
  | nil =>
    cases h
    exact hf
  | cons s rest ih =>
    rw [applySections_cons] at h
    obtain ⟨next, hnext, hrest⟩ := Fault.bind_eq_ok.mp h
    obtain ⟨own, rfl, happly⟩ := Fault.bind_eq_ok.mp hnext
    refine ih hrest (fun line entries hmem => hfound line entries (List.mem_cons_of_mem _ hmem)) ?_
    cases own with
    | directive key value line => rwa [fields_applyRoot happly]
    | field other line entries =>
      have hne : other ≠ name := by
        rintro rfl
        exact hfound line entries List.mem_cons_self
      rw [Section.apply] at happly
      cases hown : (Field.ofEntries mode other line entries).outcome with
      | error e =>
        rw [hown] at happly
        cases happly
      | ok g =>
        rw [hown] at happly
        cases happly
        exact mem_putField_of_ne hne hf g

end Fields

/-- The lines of a note in which a field has one directive: those down to the marker, what is above the header of the
field, the header, its block, and what is below the block, where the field is not declared again. The directive stands
in the block behind its indentation, among lines that give nothing to the field. -/
structure SoleNote (written : String) where
  front : List String
  mark : String
  upper : List String
  header : String
  name : String
  gap : List String
  pad : String
  tail : List String
  lower : List String
  blank : front.all Text.allBlank = true
  marked : startsWithMarker (Line.ofText 0 mark).content = true
  reached : ∀ t ∈ upper, (Line.ofText 0 t).isEnd = true → Text.isRemark t = true
  named : (Line.ofText 0 header).fieldName? = some name
  mute : ∀ t ∈ gap ++ tail, (Line.ofText 0 t).Mute (Line.ofText 0 header).indent
  padded : Text.allBlank pad = true
  deeper : (Line.ofText 0 header).indent < width pad
  stopped : ∀ t ∈ lower.head?, Line.inside (Line.ofText 0 header).indent (Line.ofText 0 t) = false
  last : ∀ t ∈ lower, (Line.ofText 0 t).fieldName? ≠ some name

namespace SoleNote

/-- The lines of the block of the field. -/
def block (n : SoleNote written) : List String := n.gap ++ (n.pad ++ written) :: n.tail

def lines (n : SoleNote written) : List String := n.front ++ n.mark :: (n.upper ++ n.header :: (n.block ++ n.lower))

/-- A note that says nothing besides the field. -/
def Bare (n : SoleNote written) : Prop := (∀ t ∈ n.upper, Text.isRemark t = true) ∧ n.lower = []

section Parts

variable {mode : Strictness} {body owner : String} {first : Int} (n : SoleNote written)

include n

theorem fieldName?_header (m : Int) : (Line.ofText m n.header).fieldName? = some n.name := n.named

theorem indent_header (m : Int) : (Line.ofText m n.header).indent = (Line.ofText 0 n.header).indent := rfl

theorem mute_ofTexts {texts : List String} (h : texts ⊆ n.gap ++ n.tail) (m : Int) :
    ∀ l ∈ Line.ofTexts m texts, l.Mute (Line.ofText 0 n.header).indent := by
  intro l hl
  obtain ⟨i, t, ht, rfl⟩ := mem_ofTexts hl
  exact n.mute t (h (List.mem_of_getElem? ht))

/-- The line of the directive, behind its indentation. -/
theorem ofText_written (h : Directs written f) (m : Int) :
    Line.ofText m (n.pad ++ written) = ⟨m, width n.pad, written.toList⟩ := by
  obtain ⟨c, cs, hcs, hc⟩ := h.starts
  exact ofText_append n.padded hcs hc h.verbatim.1 m

theorem inside_block (h : Directs written f) (m : Int) :
    ∀ l ∈ Line.ofTexts m n.block, Line.inside (Line.ofText 0 n.header).indent l = true := by
  intro l hl
  obtain ⟨i, t, ht, rfl⟩ := mem_ofTexts hl
  have hmem : t ∈ n.gap ++ (n.pad ++ written) :: n.tail := List.mem_of_getElem? ht
  simp only [List.mem_append, List.mem_cons] at hmem
  rcases hmem with hgap | rfl | htail
  · exact (n.mute t (List.mem_append_left _ hgap)).inside
  · rw [n.ofText_written h, (h.plain _ _).inside_eq]
    exact decide_eq_true n.deeper
  · exact (n.mute t (List.mem_append_right _ htail)).inside

theorem not_inside_lower {m : Int} {l : Line} {rest : List Line} (h : Line.ofTexts m n.lower = l :: rest) :
    Line.inside (Line.ofText 0 n.header).indent l = false := by
  cases hlower : n.lower with
  | nil =>
    rw [hlower] at h
    cases h
  | cons t below =>
    rw [hlower] at h
    cases h
    exact n.stopped t (by rw [hlower]; rfl)

/-- The block of the field goes down to the lines below it. -/
theorem split_block (h : Directs written f) (m k : Int) :
    Line.block (Line.ofText 0 n.header).indent (Line.ofTexts m n.block ++ Line.ofTexts k n.lower) =
        Line.ofTexts m n.block ∧
      Line.afterBlock (Line.ofText 0 n.header).indent (Line.ofTexts m n.block ++ Line.ofTexts k n.lower) =
        Line.ofTexts k n.lower := by
  rw [Line.block_append_inside (n.inside_block h m), Line.afterBlock_append_inside (n.inside_block h m)]
  cases hlower : Line.ofTexts k n.lower with
  | nil => exact ⟨List.append_nil _, rfl⟩
  | cons l rest =>
    have hout := n.not_inside_lower hlower
    rw [Line.block_cons_of_not hout, Line.afterBlock_cons_of_not hout, List.append_nil]
    exact ⟨rfl, rfl⟩

/-- The block of the field is read to one entry, which makes the field. -/
theorem exists_entry (h : Directs written f) (m : Int) (after : List Line) :
    ∃ entry, Yields [entry] (readEntries mode false (Line.ofText 0 n.header).indent after (Line.ofTexts m n.block) []) ∧
      ∀ name line, Field.ofEntries mode name line [entry] = pure f := by
  obtain ⟨key, d, text, value, hkey, hvalue, hfield⟩ := h.read
  rw [block, ofTexts_append, Line.ofTexts, n.ofText_written h]
  exact ⟨_, readEntries_sole (n.mute_ofTexts (List.subset_append_left _ _) _) (h.plain _ _) (hkey _ _) hvalue
    (n.mute_ofTexts (List.subset_append_right _ _) _) after, fun name line => hfield mode name line _⟩

/-- The section of the field, and those below it. -/
theorem exists_sections (h : Directs written f) (m k : Int) :
    ∃ entry, sections mode (Line.ofText m n.header :: (Line.ofTexts (m + 1) n.block ++ Line.ofTexts k n.lower)) =
        .ok (.field n.name m [entry]) :: sections mode (Line.ofTexts k n.lower) ∧
      ∀ name line, Field.ofEntries mode name line [entry] = pure f := by
  obtain ⟨hblock, hafter⟩ := n.split_block h (m + 1) k
  obtain ⟨entry, hentry, hfield⟩ := n.exists_entry h (m + 1) (Line.ofTexts k n.lower)
  refine ⟨entry, ?_, hfield⟩
  rw [sections_header (n.fieldName?_header m), n.indent_header, hblock, hafter, hentry.outcome_eq]
  rfl

theorem yields_readField (h : Directs written f) (owner : String) (m k : Int) :
    Yields (Schema.alone owner (n.name, f)) (readField mode { owner } n.name (Line.ofText m n.header)
      (Line.ofTexts (m + 1) n.block ++ Line.ofTexts k n.lower)) := by
  obtain ⟨hblock, hafter⟩ := n.split_block h (m + 1) k
  obtain ⟨entry, hentry, hfield⟩ := n.exists_entry h (m + 1) (Line.ofTexts k n.lower)
  have hgap (lines : List Line) : Yields () (noteGap mode n.name lines) := by
    cases lines with
    | nil => exact .pure rfl
    | cons l rest => exact yields_report
  unfold readField
  rw [n.indent_header, hblock, hafter]
  refine (hgap _).bind fun _ _ => hentry.bind fun entries hentries => ?_
  refine yields_report.bind fun _ _ => ?_
  rw [hentries, hfield]
  exact .pure rfl

/-- The lines below the marker. -/
theorem afterMarker?_lines (hbody : Text.lines body = n.lines) (first : Int) :
    afterMarker? (Line.ofBody body first) =
      some (Line.ofTexts (first + n.front.length + 1) (n.upper ++ n.header :: (n.block ++ n.lower))) := by
  have hmark : Text.allBlank n.mark = false := by
    cases hblank : Text.allBlank n.mark with
    | false => rfl
    | true =>
      have hcontent : (Line.ofText 0 n.mark).content = [] := by
        rw [← isBlank_ofText 0, Line.isBlank, List.isEmpty_iff] at hblank
        exact hblank
      have hmarked := n.marked
      rw [hcontent] at hmarked
      cases hmarked
  rw [afterMarker?_ofBody hbody n.blank hmark, if_pos n.marked]

theorem skipped_of_isEnd (m : Int) : ∀ l ∈ Line.ofTexts m n.upper, l.isEnd = true → l.isSkipped = true := by
  intro l hl hend
  obtain ⟨i, t, ht, rfl⟩ := mem_ofTexts hl
  rw [isSkipped_ofText]
  exact n.reached t (List.mem_of_getElem? ht) hend

/-- The lines below the marker, by their parts. -/
theorem ofTexts_parts (m : Int) : Line.ofTexts m (n.upper ++ n.header :: (n.block ++ n.lower)) =
    Line.ofTexts m n.upper ++ Line.ofText (m + n.upper.length) n.header ::
      (Line.ofTexts (m + n.upper.length + 1) n.block ++
        Line.ofTexts (m + n.upper.length + 1 + n.block.length) n.lower) := by
  rw [ofTexts_append, Line.ofTexts, ofTexts_append]

/-- The field is in the block of the note, as its directive makes it, whatever else the note says. -/
theorem mem_fields (h : Directs written f) (hbody : Text.lines body = n.lines) {b : Block}
    {found : List Diagnostic} (hparse : Block.parse mode owner body first = .ok (b, found)) :
    (n.name, f) ∈ b.fields := by
  obtain ⟨rs, hread, _⟩ := parse_eq_ok.mp hparse
  rw [Block.read?, n.afterMarker?_lines hbody, Option.map_some, Option.some.injEq, n.ofTexts_parts] at hread
  have houtcome := congrArg Noted.outcome hread
  obtain ⟨above, habove⟩ := exists_sections_append (n.fieldName?_header _) (n.skipped_of_isEnd _)
  obtain ⟨entry, hsections, hfield⟩ := n.exists_sections h _ _
  rw [outcome_readSections, habove, hsections, applySections, List.foldlM_append] at houtcome
  obtain ⟨before, _, happly⟩ := Fault.bind_eq_ok.mp houtcome
  obtain ⟨own, hown, hlater⟩ := Fault.bind_eq_ok.mp happly
  refine mem_fields_applySections hlater (fun line entries hmem => ?_) ?_
  · obtain ⟨l, hl, hname⟩ := header_of_mem_sections hmem
    obtain ⟨i, t, ht, rfl⟩ := mem_ofTexts hl
    exact n.last t (List.mem_of_getElem? ht) hname
  · have hput : ∀ k, (Section.field n.name k [entry]).apply mode before =
        .ok { before with fields := putField n.name f before.fields } := by
      intro k
      rw [Section.apply, hfield]
      rfl
    cases (hput _).symm.trans hown
    exact mem_putField_self n.name f before.fields

end Parts

namespace Bare

variable {n : SoleNote written} (hbare : n.Bare)

include hbare

theorem yields_readSections (h : Directs written f) (mode : Strictness) (owner : String) (m : Int) :
    Yields (Schema.alone owner (n.name, f))
      (readSections mode { owner } (Line.ofTexts m (n.upper ++ n.header :: (n.block ++ n.lower)))) := by
  obtain ⟨hupper, hlower⟩ := hbare
  have hnamed := n.fieldName?_header (m + n.upper.length)
  have hfield : (Line.ofText (m + n.upper.length) n.header).isField = true := by rw [Line.isField, hnamed]; rfl
  have hskipped : ∀ l ∈ Line.ofTexts m n.upper, l.isSkipped = true := by
    intro l hl
    obtain ⟨i, t, ht, rfl⟩ := mem_ofTexts hl
    rw [isSkipped_ofText]
    exact hupper t (List.mem_of_getElem? ht)
  obtain ⟨-, hafter⟩ := n.split_block h (m + n.upper.length + 1) (m + n.upper.length + 1 + n.block.length)
  rw [n.ofTexts_parts, readSections_skipped hskipped, readSections,
    if_neg (by simp [isSkipped_of_isField hfield]), if_neg (by simp [isEnd_of_fieldName? hnamed]), hnamed]
  refine (n.yields_readField h owner _ _).bind fun b hb => ?_
  rw [n.indent_header, hafter, hlower, Line.ofTexts, readSections]
  exact .pure hb

/-- A note that says nothing besides the field is read to a block with the field alone. -/
theorem exists_parse (h : Directs written f) {body : String} (hbody : Text.lines body = n.lines)
    (mode : Strictness) (owner : String) (first : Int) :
    ∃ found, Block.parse mode owner body first = .ok (Schema.alone owner (n.name, f), found) := by
  have hyields := (hbare.yields_readSections h mode owner (first + n.front.length + 1)).outcome_eq
  have hread : Block.read? mode owner body first = some (readSections mode { owner }
      (Line.ofTexts (first + n.front.length + 1) (n.upper ++ n.header :: (n.block ++ n.lower)))) := by
    rw [Block.read?, n.afterMarker?_lines hbody, Option.map_some]
  exact ⟨_, parse_eq_ok.mpr ⟨_, hread.trans (congrArg (fun o => some (Noted.mk _ o)) hyields), rfl⟩⟩

end Bare

end SoleNote

end Hint

namespace Schema

open Hint (Directs Field SoleNote Value)

/-- A directive for a literal, and the members of the schema that it makes of a field. -/
inductive Literal : String → Members String → Prop
  | const {q : Char} {s : String} (hq : q = '"' ∨ q = '\'') (hs : Text.Verbatim s) :
    Literal ("const: " ++ Text.quoted q s) [("type", .str "string"), ("const", .str s)]
  | default {q : Char} {s : String} (hq : q = '"' ∨ q = '\'') (hs : Text.Verbatim s) :
    Literal ("default: " ++ Text.quoted q s) [("default", .str s)]
  | number {n : Int} (hn : (Decimal.natChars n.natAbs).length ≤ Decimal.digitLimit) :
    Literal ("const: " ++ Decimal.intText n) [("type", .str "number"), ("const", .number (.int n))]

section Compiled

variable {v : Value} {d : Document} {type : String} {written : String} {members : Members String}

theorem literal?_quoted {q : Char} (hq : q = '"' ∨ q = '\'') (s : String) :
    (Value.text (Text.quoted q s)).literal? = .ok (.str s) ∧
      (Value.text (Text.quoted q s)).literalType? = some "string" := by
  have hquoted : Text.isQuoted (Text.quoted q s) = true := by rw [Text.isQuoted, Text.unquote?_quoted hq]; rfl
  constructor
  · rw [Value.literal?, if_pos hquoted, Text.stripQuotes, Text.unquote?_quoted hq]
    rfl
  · rw [Value.literalType?, if_neg (by simp [hquoted])]

theorem compileField_const (hd : v.literal? = .ok d) (htype : v.literalType? = some type) (s : Site) :
    ∃ node, compileField s { const := some v } = pure node ∧
      node.toDocument = .ok (.obj [("type", .str type), ("const", d)]) := by
  refine ⟨.mk (.typed type none) (facetsOf { const := some v } none), ?_, ?_⟩
  · have hshape : fieldShape s { const := some v } = pure (.typed type none) := by
      show plainShape s (.const v) = _
      rw [plainShape, htype]
    rw [compileField_eq, hshape]
    rfl
  · rw [Node.toDocument]
    simp only [facetsOf, Facets.around, Facets.literalMember, hd]
    rfl

theorem compileField_default (hd : v.literal? = .ok d) (s : Site) :
    ∃ node, compileField s { default := some v } = pure node ∧ node.toDocument = .ok (.obj [("default", d)]) := by
  refine ⟨.mk .open (facetsOf { default := some v } none), ?_, ?_⟩
  · have hshape : fieldShape s { default := some v } = pure .open := rfl
    rw [compileField_eq, hshape]
    rfl
  · rw [Node.toDocument]
    simp only [facetsOf, Facets.around, Facets.literalMember, hd]
    rfl

/-- The field of a literal, and what it compiles to. -/
theorem Literal.exists_field (h : Literal written members) : ∃ f, Directs written f ∧ ∀ s, ∃ node,
    compileField s f = pure node ∧ node.toDocument = .ok (.obj members) := by
  cases h with
  | const hq hs =>
    obtain ⟨hd, htype⟩ := literal?_quoted hq _
    exact ⟨_, Hint.directs_quoted .const hq hs, compileField_const hd htype⟩
  | default hq hs =>
    obtain ⟨hd, -⟩ := literal?_quoted hq _
    exact ⟨_, Hint.directs_quoted .default hq hs, compileField_default hd⟩
  | number hn => exact ⟨_, Hint.directs_number .const hn, compileField_const rfl rfl⟩

end Compiled

variable {written : String} {members : Members String}

/-- A literal survives: a text in quotes comes out as it stands between them, whatever it looks like, and a whole number as
the number. The field that it is the only directive of compiles to it alone, in both ways of reading and whatever else the
note says; a note that says nothing else is read and compiled. -/
theorem literal_survives (hliteral : Literal written members) (n : SoleNote written) {body : String}
    (hbody : Text.lines body = n.lines) (strictness : Strictness) (owner : String) (first : Int) (setup : Setup)
    (here : Location) :
    (∀ b found c, Hint.Block.parse strictness owner body first = .ok (b, found) →
      Shared.compile setup here b = .ok c →
        ∃ node, (n.name, node) ∈ c.schema.properties ∧ node.toDocument = .ok (.obj members)) ∧
    (n.Bare → ∃ b found c, Hint.Block.parse strictness owner body first = .ok (b, found) ∧
      Shared.compile setup here b = .ok c ∧ c.diagnostics = [] ∧
        propertyMembers c.schema.properties = .ok [(n.name, .obj members)]) := by
  obtain ⟨f, hdirects, hcompiles⟩ := hliteral.exists_field
  constructor
  · intro b found c hparse hc
    have hf : (n.name, f) ∈ b.fields := n.mem_fields hdirects hbody hparse
    rw [shared_compile_eq] at hc
    obtain ⟨_, _, hfields, _⟩ := run_of_compile hc
    obtain ⟨node, own, hnode, hown, -⟩ := exists_compiled (Hint.keyed_of_parse hparse).fields.names hfields hf
    obtain ⟨node', hrun', hdocument⟩ := hcompiles { setup, location := here, owner := b.owner, field := n.name }
    obtain rfl : node' = node := by
      rw [hrun'] at hown
      cases hown
      rfl
    exact ⟨node', hnode, hdocument⟩
  · intro hbare
    obtain ⟨found, hparse⟩ := hbare.exists_parse hdirects hbody strictness owner first
    obtain ⟨node, hrun, hdocument⟩ := hcompiles { setup, location := here, owner, field := n.name }
    obtain ⟨c, hc, hproperties, hdiagnostics, -⟩ :=
      compile_alone (s := { setup, location := here, owner, field := n.name }) (m := (n.name, f)) hrun
    refine ⟨_, found, c, hparse, by rw [shared_compile_eq]; exact hc, hdiagnostics, ?_⟩
    rw [hproperties, propertyMembers, hdocument]
    rfl

/-- A text in quotes that looks like a list, and a mapping in it. -/
def lookalike : SoleNote ("const: " ++ Text.quoted '"' "[a, \"b\": true] ") where
  front := [""]
  mark := "SCHEMAHINTS"
  upper := ["' the only field"]
  header := "field code:"
  name := "code"
  gap := ["  - no directive"]
  pad := "\t"
  tail := [""]
  lower := []
  blank := by decide
  marked := by decide
  reached := by decide
  named := by decide
  mute := by decide
  padded := by decide
  deeper := by decide
  stopped := by decide
  last := by decide

theorem lookalike_kept : Text.lines (Text.unlines lookalike.lines) = lookalike.lines ∧ lookalike.Bare ∧
    ∃ b found c, Hint.Block.parse .strict "Doc" (Text.unlines lookalike.lines) 1 = .ok (b, found) ∧
      Shared.compile shopSetup shop b = .ok c ∧ c.diagnostics = [] ∧
      propertyMembers c.schema.properties =
        .ok [("code", .obj [("type", .str "string"), ("const", .str "[a, \"b\": true] ")])] ∧
      ∃ node, ("code", node) ∈ c.schema.properties ∧
        node.toDocument = .ok (.obj [("type", .str "string"), ("const", .str "[a, \"b\": true] ")]) := by
  have hlines : Text.lines (Text.unlines lookalike.lines) = lookalike.lines := Text.lines_unlines (by decide)
  have hbare : lookalike.Bare := ⟨by decide, rfl⟩
  obtain ⟨hany, hreturns⟩ := literal_survives (.const (.inl rfl) (by decide)) lookalike hlines .strict "Doc" 1 shopSetup shop
  obtain ⟨b, found, c, hparse, hc, hdiagnostics, hproperties⟩ := hreturns hbare
  exact ⟨hlines, hbare, b, found, c, hparse, hc, hdiagnostics, hproperties, hany b found c hparse hc⟩

end Schema

end NoteSchema
