import Mathlib.Data.List.TakeWhile
import NoteSchema.Proofs.Hint.Boundary
import NoteSchema.Proofs.Hint.Keyed
import NoteSchema.Proofs.Hint.Unnumbered
import NoteSchema.Proofs.Pattern.Excess
import NoteSchema.Proofs.Text.Blank

namespace NoteSchema.Noted

variable {ω α β : Type}

/-- What is known of work: of each remark, of the fault that ends it and of what it comes to. -/
structure Keeps (R : ω → Prop) (F : Fault → Prop) (Q : α → Prop) (x : Noted ω α) : Prop where
  remarks : ∀ r ∈ x.remarks, R r
  fault : ∀ f, x.outcome = .error f → F f
  result : ∀ a, x.outcome = .ok a → Q a

namespace Keeps

variable {R : ω → Prop} {F : Fault → Prop} {P : α → Prop} {Q : β → Prop}

theorem pure {a : α} (h : P a) : Keeps R F P (Pure.pure a : Noted ω α) :=
  ⟨fun _ hr => absurd hr List.not_mem_nil, fun _ hf => (nomatch hf), fun _ ha => Except.ok.inj ha ▸ h⟩

theorem done (a : α) : Keeps R F (fun _ => True) (Pure.pure a : Noted ω α) := .pure trivial

theorem bind {x : Noted ω α} {f : α → Noted ω β} (hx : Keeps R F P x) (hf : ∀ a, P a → Keeps R F Q (f a)) :
    Keeps R F Q (x >>= f) := by
  obtain ⟨rs, e | a⟩ := x
  · exact ⟨hx.remarks, fun e' he' => hx.fault e' (Except.error.inj he' ▸ rfl), fun _ ha => nomatch ha⟩
  · have hfa := hf a (hx.result a rfl)
    refine ⟨fun r hr => ?_, hfa.fault, hfa.result⟩
    rcases List.mem_append.mp hr with hr | hr
    · exact hx.remarks r hr
    · exact hfa.remarks r hr

theorem note {r : ω} (h : R r) : Keeps R F (fun _ => True) (Noted.note r) :=
  ⟨fun _ hs => List.mem_singleton.mp hs ▸ h, fun _ hf => (nomatch hf), fun _ _ => trivial⟩

theorem when {b : Bool} {x : Noted ω Unit} (h : b = true → Keeps R F (fun _ => True) x) :
    Keeps R F (fun _ => True) (Noted.when b x) := by
  cases b with
  | false => exact .done _
  | true => exact h rfl

theorem lift {r : Except Fault α} (hfault : ∀ f, r = .error f → F f) (hresult : ∀ a, r = .ok a → P a) :
    Keeps R F P (Noted.lift r : Noted ω α) :=
  ⟨fun _ hr => absurd hr List.not_mem_nil, hfault, hresult⟩

theorem mono {P' : α → Prop} {x : Noted ω α} (h : Keeps R F P x) (hP : ∀ a, P a → P' a) : Keeps R F P' x :=
  ⟨h.remarks, h.fault, fun a ha => hP a (h.result a ha)⟩

end Keeps

end NoteSchema.Noted

namespace NoteSchema.Hint

theorem isStrict_iff {mode : Strictness} : mode.isStrict = true ↔ mode = .strict := by
  cases mode <;> simp [Strictness.isStrict]

/-- The text that a line is as an item of a list. -/
def Line.item (l : Line) : String := itemText (l.bullet?.getD l.content)

/-- The lines below a line that may belong to a block below its key. -/
def Line.below (l : Line) (rest : List Line) : List Line := Line.block l.indent (Line.dropSkipped rest)

/-- An entry that is read from lines: its key is that of the directive on the line it has the number of, and its value
is what the text behind the key stands for, or stands below this line. -/
inductive Stands (lines : List Line) : Entry → Prop
  | scalar {l : Line} {key : String} {text : List Char} {value : Value} (hl : l ∈ lines)
    (hkey : l.directive? = some (key, text)) (hvalue : Value.ofText (String.ofList text) = .ok value) :
    Stands lines (.mk key value l.number)
  | list {above rest : List Line} {l : Line} {key : String} {items : List String} (hlines : lines = above ++ l :: rest)
    (hkey : l.directive? = some (key, [])) (hitems : ∀ item ∈ items, ∃ m ∈ l.below rest, item = m.item) :
    Stands lines (.mk key (.list items) l.number)
  | mapping {l : Line} {key : String} {entries : List Entry} (hl : l ∈ lines) (hkey : l.directive? = some (key, []))
    (hentries : ∀ e ∈ entries, Stands lines e) : Stands lines (.mk key (.mapping entries) l.number)

/-- What a report says of a line. -/
inductive Line.Blamed (l : Line) : String → Prop
  | unrecognized (h : l.directive? = none) : Blamed l ("Unrecognized line: " ++ l.shown)
  | bulletless (h : l.bullet? = none) : Blamed l "List item without bullet"
  | gap (h : l.isBlank = true) : Blamed l "Blank line inside nested block"
  | gapBelow (h : l.isBlank = true) (name : String) : Blamed l ("Blank line directly after \"field " ++ name ++ ":\"")
  | twice {name : String} (h : l.fieldName? = some name) :
    Blamed l ("Field '" ++ name ++ "' declared twice; later block wins")
  | empty {name : String} (h : l.fieldName? = some name) :
    Blamed l ("No directives found under \"field " ++ name ++ ":\"")

/-- The bounds in the value of a range. -/
def Value.IsBound (v : Value) (token : String) : Prop := ∃ low high, bounds? v = some (low, high) ∧ token ∈ [low, high]

/-- What a report says of an entry. -/
inductive Entry.Blamed (e : Entry) : String → Prop
  | unknownRoot (h : RootDirective.ofKey? (Text.small e.key) = none) : Blamed e ("Unknown root key '" ++ e.key ++ "'")
  | noFlag (h : RootDirective.ofKey? (Text.small e.key) = some .additionalProperties) :
    Blamed e ("additionalProperties must be true or false (got '" ++ e.value.display ++ "')")
  | unknown (h : Directive.ofKey? (Text.small e.key) = none) : Blamed e ("Unknown field key '" ++ e.key ++ "'")
  | noNumber (h : ∀ n, e.value ≠ .number n) : Blamed e (e.key ++ " must be a number (got '" ++ e.value.display ++ "')")
  | noRange (h : Directive.ofKey? (Text.small e.key) = some .range) :
    Blamed e ("range must be [min, max] (got '" ++ e.value.display ++ "')")
  | noBound (h : Directive.ofKey? (Text.small e.key) = some .range) {token : String} (htoken : e.value.IsBound token) :
    Blamed e ("range bound is not a number: '" ++ token ++ "'")
  | noEnumBlock (h : Directive.ofKey? (Text.small e.key) = some .enumDefine) :
    Blamed e "enumDefine must be a nested block"
  | noEnumPath (h : Directive.ofKey? (Text.small e.key) = some .enumDefine) :
    Blamed e "enumDefine is missing \"enumId:\""
  | enumFrom (h : Text.small e.key = "enumfrom") :
    Blamed e ("enumFrom is not allowed inside enumDefine; " ++ "use enumId or move enumFrom directly under field")
  | unknownEnum (h : EnumDirective.ofKey? (Text.small e.key) = none) :
    Blamed e ("Unknown enumDefine key '" ++ e.key ++ "'")
  | noBlock (h : Directive.ofKey? (Text.small e.key) = some .properties) : Blamed e "properties must be a nested block"
  | emptyItems (h : Directive.ofKey? (Text.small e.key) = some .items) (name : String) :
    Blamed e ("No directives found under \"field " ++ name ++ ":\"")
  | emptyProperty (name : String) : Blamed e ("No directives found under \"field " ++ (name ++ "." ++ e.key) ++ ":\"")

/-- The pattern that an entry gives. -/
inductive Entry.Patterned (e : Entry) : String → Prop
  | field (h : Directive.ofKey? (Text.small e.key) = some .pattern) : Patterned e e.value.plain
  | enumeration (h : EnumDirective.ofKey? (Text.small e.key) = some .valuePattern) : Patterned e e.value.display

/-- A finding about lines: it has the number of the line that it is about. -/
inductive Reports (lines : List Line) : Finding → Prop
  | line {l : Line} {message : String} (hl : l ∈ lines) (h : l.Blamed message) (severity : Severity) (field : String) :
    Reports lines ⟨severity, message, l.number, field⟩
  | entry {e : Entry} {message : String} (he : Stands lines e) (h : e.Blamed message) (severity : Severity)
    (field : String) : Reports lines ⟨severity, message, e.line, field⟩
  | pattern {e : Entry} {text : String} {flaw : Pattern.Flaw} {offset : Option Nat} (he : Stands lines e)
    (h : e.Patterned text) (hflaw : Pattern.check text = .error (.flaw flaw offset)) (field : String) :
    Reports lines ⟨.error, "Pattern is not a valid regex: " ++ text ++ " (" ++ Pattern.flawText flaw offset ++ ")",
      e.line, field⟩

/-- A whole numeral with more digits than are read. -/
def Overlong (cs : List Char) : Prop :=
  ∃ negative digits, Number.numeral? cs = some (negative, digits, none) ∧ Decimal.digitLimit < digits.length

/-- The directives that take the whole part of a number. -/
def Directive.isWhole : Directive → Bool
  | .minLength | .maxLength | .minItems | .maxItems => true
  | _ => false

/-- A value in lines that cannot be held, with the fault that reading it ends in. -/
inductive Unheld (lines : List Line) : Fault → Prop
  | numeral {l : Line} {key : String} {text : List Char} (hl : l ∈ lines) (hkey : l.directive? = some (key, text))
    (htext : Overlong (Text.trimChars text)) : Unheld lines .value
  | bound {e : Entry} {token : String} (he : Stands lines e) (hkey : Directive.ofKey? (Text.small e.key) = some .range)
    (htoken : e.value.IsBound token) (hlong : Overlong token.toList) : Unheld lines .value
  | whole {e : Entry} {directive : Directive} {x : Binary64} (he : Stands lines e)
    (hkey : Directive.ofKey? (Text.small e.key) = some directive) (hwhole : directive.isWhole = true)
    (hvalue : e.value = .number (.float x)) (hx : x.truncate? = none) : Unheld lines .range

/-- Why a note with the marker is not read: a value in its lines cannot be held, or a pattern in them, which strict
reading checks, asks for more than can be held. -/
inductive Unread (strictness : Strictness) (lines : List Line) : Fault → Prop
  | value {f : Fault} (h : Unheld lines f) : Unread strictness lines f
  | pattern {e : Entry} {pattern : String} {f : Fault} (hstrict : strictness = .strict) (he : Stands lines e)
    (h : e.Patterned pattern) (hexcess : Pattern.Excess pattern.toList f) : Unread strictness lines f

section Numerals

variable {c : Char} {digits : List Char}

/-- A plain digit is a digit, and neither a sign nor blank nor the start of a list or a flag. -/
theorem plainDigit_cases (hc : '0' ≤ c ∧ c ≤ '9') :
    Text.isDigit c = true ∧ Text.isBlank c = false ∧ c ≠ '-' ∧ c ≠ '+' ∧ c ≠ '[' ∧ Text.isLetterOf 't' c = false ∧
      Text.isLetterOf 'f' c = false := by
  have hall : ∀ n < 58, '0' ≤ Char.ofNat n → Text.isDigit (Char.ofNat n) = true ∧
      Text.isBlank (Char.ofNat n) = false ∧ Char.ofNat n ≠ '-' ∧ Char.ofNat n ≠ '+' ∧ Char.ofNat n ≠ '[' ∧
      Text.isLetterOf 't' (Char.ofNat n) = false ∧ Text.isLetterOf 'f' (Char.ofNat n) = false := by decide
  have hlt : c.toNat < 58 := Nat.lt_succ_of_le (show c.toNat ≤ '9'.toNat from hc.2)
  rw [← Char.ofNat_toNat c] at hc ⊢
  exact hall c.toNat hlt hc.1

/-- Digits behind a sign are a whole numeral. -/
theorem numeral?_of_digits (hne : digits ≠ []) (hdigits : ∀ c ∈ digits, '0' ≤ c ∧ c ≤ '9') (negative : Bool) :
    Number.numeral? (if negative then '-' :: digits else digits) = some (negative, digits, none) := by
  have hall : ∀ c ∈ digits, Text.isDigit c = true := fun c hc => (plainDigit_cases (hdigits c hc)).1
  have htake : digits.takeWhile Text.isDigit = digits := List.takeWhile_eq_self_iff.mpr hall
  have hdrop : digits.dropWhile Text.isDigit = [] := List.dropWhile_eq_nil_iff.mpr hall
  cases negative with
  | true => simp [Number.numeral?, htake, hdrop, hne]
  | false =>
    obtain ⟨c, cs, rfl⟩ := List.exists_cons_of_ne_nil hne
    obtain ⟨_, _, hminus, hplus, _⟩ := plainDigit_cases (hdigits c List.mem_cons_self)
    simp [Number.numeral?, hminus, hplus, htake, hdrop]

/-- The text of a whole numeral is read as its number, if that can be held. -/
theorem ofText_of_digits (hne : digits ≠ []) (hdigits : ∀ c ∈ digits, '0' ≤ c ∧ c ≤ '9') (negative : Bool) :
    Value.ofText (String.ofList (if negative then '-' :: digits else digits)) =
      (Decimal.readInt negative digits).map fun n => .number (.int n) := by
  have hnumeral := numeral?_of_digits hne hdigits negative
  have htrim : Text.trimChars (if negative then '-' :: digits else digits) =
      if negative then '-' :: digits else digits := by
    have hblanks : ∀ c ∈ digits, Text.isBlank c = false := fun c hc => (plainDigit_cases (hdigits c hc)).2.1
    refine Text.trimChars_of_not_blank ?_
    cases negative with
    | true => exact List.forall_mem_cons.mpr ⟨by decide, hblanks⟩
    | false => exact hblanks
  obtain ⟨c, cs, hcs, hbracket, ht, hf⟩ : ∃ c cs, (if negative then '-' :: digits else digits) = c :: cs ∧
      c ≠ '[' ∧ Text.isLetterOf 't' c = false ∧ Text.isLetterOf 'f' c = false := by
    cases negative with
    | true => exact ⟨'-', digits, rfl, by decide, by decide, by decide⟩
    | false =>
      obtain ⟨c, cs, rfl⟩ := List.exists_cons_of_ne_nil hne
      obtain ⟨_, _, _, _, hbracket, ht, hf⟩ := plainDigit_cases (hdigits c List.mem_cons_self)
      exact ⟨c, cs, rfl, hbracket, ht, hf⟩
  have hlist : bracketed? (c :: cs) = none := by
    rw [bracketed?.eq_def]
    split
    next heq => exact absurd (List.cons.inj heq).1 hbracket
    next => rfl
  have hflag : flag? (c :: cs) = none := by
    simp [flag?, Text.afterWord?, ht, hf]
  rw [Value.ofText, String.toList_ofList, htrim]
  simp only [hnumeral]
  rw [hcs]
  simp only [hlist, hflag, Number.ofNumeral]
  cases Decimal.readInt negative digits <;> rfl

end Numerals

theorem overlong_of_ofNumeral {cs : List Char} {negative : Bool} {whole : List Char} {fraction : Option (List Char)}
    {e : Decimal.TooLong} (hcs : Number.numeral? cs = some (negative, whole, fraction))
    (h : Number.ofNumeral negative whole fraction = .error e) : Overlong cs := by
  cases fraction with
  | some fraction => cases h
  | none =>
    refine ⟨negative, whole, hcs, ?_⟩
    by_contra hle
    rw [Number.ofNumeral, Decimal.readInt, if_neg hle] at h
    cases h

theorem overlong_of_ofText {s : String} {e : Decimal.TooLong} (h : Value.ofText s = .error e) :
    Overlong (Text.trimChars s.toList) := by
  unfold Value.ofText at h
  dsimp only at h
  split at h
  next => cases h
  next =>
    split at h
    next => cases h
    next =>
      split at h
      next negative whole fraction hcs =>
        cases hn : Number.ofNumeral negative whole fraction with
        | error e' => exact overlong_of_ofNumeral hcs hn
        | ok n =>
          rw [hn] at h
          cases h
      next => cases h

/-- Reading keeps track of its lines: what it reports is about them, what it cannot hold is in them. -/
abbrev Traces {α : Type} (mode : Strictness) (lines : List Line) (Q : α → Prop) (x : Reading α) : Prop :=
  Noted.Keeps (Reports lines) (Unread mode lines) Q x

section Walk

variable {mode : Strictness} {lines : List Line}

/-- The entries of a mapping stand where it stands. -/
theorem Stands.entries {key : String} {entries : List Entry} {line : Int}
    (h : Stands lines (.mk key (.mapping entries) line)) : ∀ e ∈ entries, Stands lines e := by
  cases h with
  | scalar _ _ htext => cases isMapping_ofText htext
  | mapping _ _ hentries => exact hentries

theorem report_traces {severity : Severity} {message : String} {line : Int} {field : String}
    (h : Reports lines ⟨severity, message, line, field⟩) :
    Traces mode lines (fun _ => True) (Reading.report mode severity message line field) :=
  .when fun _ => .note h

theorem checkPattern_traces {e : Entry} {text : String} (he : Stands lines e) (h : e.Patterned text) (field : String) :
    Traces mode lines (fun _ => True) (Reading.checkPattern mode text e.line field) := by
  unfold Reading.checkPattern
  refine .when fun hstrict => ?_
  split
  next => exact .done _
  next flaw offset hflaw => exact report_traces (.pattern he h hflaw field)
  next f hfault =>
    have hexcess : Pattern.Excess text.toList f := Pattern.excess_of_check hfault
    exact .lift (fun _ hf => Except.error.inj hf ▸ .pattern (isStrict_iff.mp hstrict) he h hexcess)
      fun _ ha => nomatch ha

theorem readScalar_traces {l : Line} {key : String} {text : List Char} (hl : l ∈ lines)
    (hkey : l.directive? = some (key, text)) :
    Traces mode lines (fun v => Stands lines (.mk key v l.number)) (readScalar text) := by
  unfold readScalar
  cases h : Value.ofText (String.ofList text) with
  | error e =>
    refine .lift (fun f hf => ?_) fun _ hv => nomatch hv
    have hlong := overlong_of_ofText h
    rw [String.toList_ofList] at hlong
    obtain rfl : Fault.value = f := Except.error.inj hf
    exact .value (.numeral hl hkey hlong)
  | ok v => exact .lift (fun _ hf => nomatch hf) fun w hw => Except.ok.inj hw ▸ .scalar hl hkey h

theorem readList_traces {block : List Line} (h : block ⊆ lines) :
    Traces mode lines (fun items => ∀ item ∈ items, ∃ m ∈ block, item = m.item) (readList mode block) := by
  induction block with
  | nil => exact .pure fun _ hitem => absurd hitem List.not_mem_nil
  | cons l rest ih =>
    have hrest := ih fun m hm => h (List.mem_cons_of_mem l hm)
    have hlower : ∀ items : List String, (∀ item ∈ items, ∃ m ∈ rest, item = m.item) →
        ∀ item ∈ items, ∃ m ∈ l :: rest, item = m.item := fun _ hitems item hitem =>
      (hitems item hitem).imp fun _ hm => ⟨List.mem_cons_of_mem l hm.1, hm.2⟩
    rw [readList]
    split
    next => exact hrest.mono hlower
    next =>
      have hbullet : Traces mode lines (fun _ => True)
          (Noted.when l.bullet?.isNone (Reading.warning mode "List item without bullet" l.number "")) :=
        .when fun hnone =>
          report_traces (.line (h List.mem_cons_self) (.bulletless (Option.isNone_iff_eq_none.mp hnone)) _ _)
      refine hbullet.bind fun _ _ => hrest.bind fun items hitems => .pure ?_
      exact List.forall_mem_cons.mpr ⟨⟨l, List.mem_cons_self, rfl⟩, hlower items hitems⟩

theorem unrecognized_traces {l : Line} (hl : l ∈ lines) (h : l.directive? = none) :
    Traces mode lines (fun _ => True) (unrecognized mode l) :=
  report_traces (.line hl (.unrecognized h) _ _)

theorem ofText_nil : Value.ofText (String.ofList []) = .ok (.text "") := rfl

theorem below_subset (l : Line) (rest : List Line) : l.below rest ⊆ rest :=
  List.Subset.trans (List.takeWhile_subset _) (List.dropWhile_sublist _).subset

theorem below_append {l : Line} (rest more : List Line) : l.below rest ⊆ l.below (rest ++ more) := by
  unfold Line.below Line.block Line.dropSkipped
  induction rest with
  | nil => exact List.nil_subset _
  | cons m rest ih =>
    rw [List.cons_append, List.dropWhile_cons, List.dropWhile_cons]
    split
    · exact ih
    · rw [← List.cons_append, List.takeWhile_append]
      split
      next => exact List.subset_append_of_subset_left _ (List.takeWhile_subset _)
      next => exact List.Subset.refl _

/-- What is read of a block stands in the lines that it is a part of. -/
theorem readEntries_traces (nested : Bool) (parent : Nat) (after block : List Line) (acc : List Entry)
    (hblock : block <:+: lines) (hacc : ∀ e ∈ acc, Stands lines e) :
    Traces mode lines (fun entries => ∀ e ∈ entries, Stands lines e)
      (readEntries mode nested parent after block acc) := by
  have hput {e : Entry} {acc : List Entry} (he : Stands lines e) (hacc : ∀ e ∈ acc, Stands lines e) :
      ∀ e' ∈ Entry.put e acc, Stands lines e' := fun e' he' =>
    (KeyedEntries.mem_put he').elim (fun h => h ▸ he) (hacc e')
  fun_induction readEntries mode nested parent after block acc with
  | case1 => exact .pure hacc
  | case2 nested parent after l rest acc hblank ih =>
    have hl : l ∈ lines := hblock.subset List.mem_cons_self
    exact (Noted.Keeps.when fun _ => report_traces (.line hl (.gap hblank) _ _)).bind fun _ _ =>
      ih ((List.suffix_cons l rest).isInfix.trans hblock) hacc
  | case3 nested parent after l rest acc hblank hcomment ih =>
    exact ih ((List.suffix_cons l rest).isInfix.trans hblock) hacc
  | case4 nested parent after l rest acc hblank hcomment hnone ih =>
    have hl : l ∈ lines := hblock.subset List.mem_cons_self
    exact (unrecognized_traces hl hnone).bind fun _ _ => ih ((List.suffix_cons l rest).isInfix.trans hblock) hacc
  | case5 nested parent after l rest acc hblank hcomment key hkey hopening ih =>
    have hl : l ∈ lines := hblock.subset List.mem_cons_self
    exact ih ((List.suffix_cons l rest).isInfix.trans hblock) (hput (.scalar hl hkey ofText_nil) hacc)
  | case6 nested parent after l rest acc hblank hcomment key hkey hopening ih =>
    have hrest : rest <:+: lines := (List.suffix_cons l rest).isInfix.trans hblock
    have hsub : l.below rest ⊆ lines := List.Subset.trans (below_subset l rest) hrest.subset
    obtain ⟨above, more, hlines⟩ := hblock
    rw [List.append_assoc, List.cons_append] at hlines
    refine (readList_traces hsub).bind fun items hitems => ih items ?_
      (hput (.list hlines.symm hkey fun item hitem => ?_) hacc)
    · exact ((List.dropWhile_suffix _).trans (List.dropWhile_suffix _)).isInfix.trans hrest
    · obtain ⟨m, hm, hitem⟩ := hitems item hitem
      exact ⟨m, below_append rest more hm, hitem⟩
  | case7 nested parent after l rest acc hblank hcomment key hkey hopening more ihBelow ih =>
    have hl : l ∈ lines := hblock.subset List.mem_cons_self
    have hrest : rest <:+: lines := (List.suffix_cons l rest).isInfix.trans hblock
    have hdrop : Line.dropSkipped rest <:+: lines := (List.dropWhile_suffix _).isInfix.trans hrest
    refine (ihBelow ((List.takeWhile_prefix _).isInfix.trans hdrop) fun _ he => absurd he List.not_mem_nil).bind
      fun entries hentries => ih entries ?_ (hput (.mapping hl hkey hentries) hacc)
    exact (List.dropWhile_suffix _).isInfix.trans hdrop
  | case8 nested parent after l rest acc hblank hcomment key value hvalue hkey ih =>
    have hl : l ∈ lines := hblock.subset List.mem_cons_self
    exact (readScalar_traces hl hkey).bind fun v hv =>
      ih v ((List.suffix_cons l rest).isInfix.trans hblock) (hput hv hacc)

theorem readBelow_traces (nested : Bool) {above rest : List Line} {l : Line} {key : String}
    (hlines : lines = above ++ l :: rest) (hkey : l.directive? = some (key, [])) :
    Traces mode lines (fun v => Stands lines (.mk key v l.number)) (readBelow mode nested l.indent rest) := by
  have hl : l ∈ lines := hlines ▸ List.mem_append_right above List.mem_cons_self
  have hrest : rest <:+: lines := ⟨above ++ [l], [], by simp [hlines]⟩
  have hdrop : Line.dropSkipped rest <:+: lines := (List.dropWhile_suffix _).isInfix.trans hrest
  unfold readBelow
  dsimp only
  split
  next => exact .pure (.scalar hl hkey ofText_nil)
  next =>
    exact (readList_traces (List.Subset.trans (below_subset l rest) hrest.subset)).bind fun items hitems =>
      .pure (.list hlines hkey hitems)
  next =>
    refine (readEntries_traces nested _ _ _ [] ((List.takeWhile_prefix _).isInfix.trans hdrop) fun _ he =>
      absurd he List.not_mem_nil).bind fun entries hentries => .pure (.mapping hl hkey hentries)

theorem readBound_traces {e : Entry} (he : Stands lines e) (hkey : Directive.ofKey? (Text.small e.key) = some .range)
    {token : String} (htoken : e.value.IsBound token) (field : String) :
    Traces mode lines (fun _ => True) (readBound mode token e.line field) := by
  unfold readBound
  split
  next => exact .pure trivial
  next =>
    split
    next negative whole fraction hcs =>
      refine .lift (fun f hf => ?_) fun _ _ => trivial
      cases hn : Number.ofNumeral negative whole fraction with
      | error e' =>
        rw [hn] at hf
        obtain rfl : Fault.value = f := Except.error.inj hf
        exact .value (.bound he hkey htoken (overlong_of_ofNumeral hcs hn))
      | ok n =>
        rw [hn] at hf
        cases hf
    next => exact (report_traces (.entry he (.noBound hkey htoken) _ _)).bind fun _ _ => .pure trivial

theorem applyRange_traces {e : Entry} (he : Stands lines e) (hkey : Directive.ofKey? (Text.small e.key) = some .range)
    (f : Field) (field : String) : Traces mode lines (fun _ => True) (applyRange mode f e.value e.line field) := by
  unfold applyRange
  split
  next => exact (report_traces (.entry he (.noRange hkey) _ _)).bind fun _ _ => .pure trivial
  next low high hbounds =>
    have hlow : e.value.IsBound low := ⟨low, high, hbounds, by simp⟩
    have hhigh : e.value.IsBound high := ⟨low, high, hbounds, by simp⟩
    exact (readBound_traces he hkey hlow field).bind fun _ _ =>
      (readBound_traces he hkey hhigh field).bind fun _ _ => .pure trivial

theorem readNumber_traces {e : Entry} (he : Stands lines e) (field : String) :
    Traces mode lines (fun n => ∀ x, n = some x → e.value = .number x)
      (readNumber mode e.key e.value e.line field) := by
  unfold readNumber
  split
  next n hn => exact .pure fun x hx => by rw [hn, Option.some.inj hx]
  next hn => exact (report_traces (.entry he (.noNumber hn) _ _)).bind fun _ _ => .pure fun _ hx => nomatch hx

theorem readWhole_traces {e : Entry} (he : Stands lines e) {directive : Directive}
    (hkey : Directive.ofKey? (Text.small e.key) = some directive) (hwhole : directive.isWhole = true) (field : String) :
    Traces mode lines (fun _ => True) (readWhole mode e.key e.value e.line field) := by
  unfold readWhole
  refine (readNumber_traces he field).bind fun n hn => ?_
  split
  next x =>
    refine .lift (fun f hf => ?_) fun _ _ => trivial
    cases x with
    | int n => cases hf
    | float x =>
      unfold wholePart at hf
      cases hx : x.truncate? with
      | some n =>
        simp only [hx] at hf
        cases hf
      | none =>
        simp only [hx] at hf
        obtain rfl : Fault.range = f := Except.error.inj hf
        exact .value (.whole he hkey hwhole (hn _ rfl) hx)
  next => exact .pure trivial

theorem applyEnumDirective_traces {e : Entry} (he : Stands lines e) (field : String) (d : EnumDefinition) :
    Traces mode lines (fun _ => True) (applyEnumDirective mode field d (Text.small e.key) e) := by
  unfold applyEnumDirective
  split
  next hfrom => exact (report_traces (.entry he (.enumFrom hfrom) _ _)).bind fun _ _ => .pure trivial
  next =>
    cases hdirective : EnumDirective.ofKey? (Text.small e.key) with
    | none => exact (report_traces (.entry he (.unknownEnum hdirective) _ _)).bind fun _ _ => .pure trivial
    | some directive =>
      cases directive with
      | valuePattern =>
        exact (checkPattern_traces he (.enumeration hdirective) _).bind fun _ _ => .pure trivial
      | path | targetPath | sourcePath | title | type | generate | values | names | descriptions | description
      | reserved => exact .pure trivial

theorem applyEnumDirectives_traces (field : String) (d : EnumDefinition) {all : List (String × Entry)}
    (h : ∀ p ∈ all, p.1 = Text.small p.2.key ∧ Stands lines p.2) :
    Traces mode lines (fun _ => True) (applyEnumDirectives mode field d all) := by
  induction all generalizing d with
  | nil => exact .pure trivial
  | cons p rest ih =>
    obtain ⟨key, e⟩ := p
    obtain ⟨⟨hkey, he⟩, hrest⟩ := List.forall_mem_cons.mp h
    obtain rfl : key = Text.small e.key := hkey
    rw [applyEnumDirectives]
    exact (applyEnumDirective_traces he field d).bind fun d _ => ih d hrest

theorem EnumDefinition.ofEntries_traces {e : Entry} (he : Stands lines e)
    (hkey : Directive.ofKey? (Text.small e.key) = some .enumDefine) {entries : List Entry}
    (hentries : ∀ e ∈ entries, Stands lines e) (field : String) :
    Traces mode lines (fun _ => True) (EnumDefinition.ofEntries mode field e.line entries) := by
  have hall : ∀ p ∈ lowered entries, p.1 = Text.small p.2.key ∧ Stands lines p.2 := fun p hp =>
    ⟨(mem_lowered hp).1, hentries p.2 (mem_lowered hp).2⟩
  unfold EnumDefinition.ofEntries
  dsimp only
  split
  next =>
    exact (report_traces (.entry he (.noEnumPath hkey) _ _)).bind fun _ _ => applyEnumDirectives_traces field _ hall
  next => exact applyEnumDirectives_traces field _ hall

theorem applyDirective_traces {e : Entry} (he : Stands lines e) {directive : Directive}
    (hkey : Directive.ofKey? (Text.small e.key) = some directive) (name : String) (d : Draft) :
    Traces mode lines (fun _ => True) (applyDirective mode name e.key e.value e.line d directive) := by
  cases directive with
  | type | format | description | ref | enumFrom | const | default | enum | required | itemsRef | itemsType
  | itemsEnumFrom => exact .done _
  | pattern => exact (checkPattern_traces he (.field hkey) _).bind fun _ _ => .done _
  | range => exact (applyRange_traces he hkey _ _).bind fun _ _ => .done _
  | minimum | maximum => exact (readNumber_traces he _).bind fun _ _ => .done _
  | minLength | maxLength | minItems | maxItems => exact (readWhole_traces he hkey rfl _).bind fun _ _ => .done _
  | properties => exact (report_traces (.entry he (.noBlock hkey) _ _)).bind fun _ _ => .done _
  | items =>
    unfold applyDirective
    dsimp only
    split <;> exact .done _
  | enumDefine =>
    unfold applyDirective
    dsimp only
    split
    next entries hvalue =>
      obtain ⟨key, value, line⟩ := e
      obtain rfl : value = .mapping entries := hvalue
      exact (EnumDefinition.ofEntries_traces he hkey he.entries name).bind fun _ _ => .done _
    next => exact (report_traces (.entry he (.noEnumBlock hkey) _ _)).bind fun _ _ => .done _

/-- Where a field comes out empty, the report on it is about the entry or the header that opens it. -/
theorem finish_traces {name : String} {line : Int}
    (h : Reports lines ⟨.error, "No directives found under \"field " ++ name ++ ":\"", line, name⟩) (d : Draft) :
    Traces mode lines (fun _ => True) (d.finish mode name line) := by
  unfold Draft.finish
  exact (Noted.Keeps.when fun _ => report_traces h).bind fun _ _ => .done _

mutual
theorem applyEntries_traces (name : String) : (entries : List Entry) → (∀ e ∈ entries, Stands lines e) →
    ∀ d : Draft, Traces mode lines (fun _ => True) (applyEntries mode name entries d)
  | [], _, d => by
    rw [applyEntries]
    exact .done _
  | e :: rest, h, d => by
    rw [applyEntries]
    exact (applyEntry_traces name e (h e List.mem_cons_self) d).bind fun d _ =>
      applyEntries_traces name rest (fun e he => h e (List.mem_cons_of_mem _ he)) d

theorem applyEntry_traces (name : String) : (e : Entry) → Stands lines e →
    ∀ d : Draft, Traces mode lines (fun _ => True) (applyEntry mode name e d)
  | .mk key value line, h, d => by
    rw [applyEntry.eq_def]
    dsimp only
    split
    next hkey =>
      have hunknown := Entry.Blamed.unknown (e := .mk key value line) hkey
      exact (report_traces (.entry h hunknown _ _)).bind fun _ _ => .done _
    next hkey =>
      have hitems := Entry.Blamed.emptyItems (e := .mk key value line) hkey name
      split
      next entries =>
        have hempty := Reports.entry h hitems .error name
        refine (applyEntries_traces name entries h.entries {}).bind fun inner _ => ?_
        exact (finish_traces hempty inner).bind fun _ _ => .done _
      next => exact applyDirective_traces h hkey name d
    next hkey =>
      split
      next entries =>
        exact (projectProperties_traces name entries h.entries).bind fun _ _ => .done _
      next => exact applyDirective_traces h hkey name d
    next directive _ _ hkey => exact applyDirective_traces h hkey name d

theorem projectProperties_traces (name : String) : (entries : List Entry) → (∀ e ∈ entries, Stands lines e) →
    Traces mode lines (fun _ => True) (projectProperties mode name entries)
  | [], _ => by
    rw [projectProperties]
    exact .done _
  | .mk key value line :: rest, h => by
    have he := h _ List.mem_cons_self
    have hrest := projectProperties_traces name rest fun e he => h e (List.mem_cons_of_mem _ he)
    rw [projectProperties.eq_def]
    dsimp only
    split
    next entries =>
      have hempty := Reports.entry he (.emptyProperty name) .error (name ++ "." ++ key)
      refine (applyEntries_traces (name ++ "." ++ key) entries he.entries {}).bind fun inner _ => ?_
      exact (finish_traces hempty inner).bind fun _ _ => hrest.bind fun _ _ => .done _
    next => exact hrest.bind fun _ _ => .done _
end

theorem applyRoot_traces (b : Block) {e : Entry} (he : Stands lines e) :
    Traces mode lines (fun _ => True) (applyRoot mode b e.key e.value e.line) := by
  unfold applyRoot
  cases hkey : RootDirective.ofKey? (Text.small e.key) with
  | none => exact (report_traces (.entry he (.unknownRoot hkey) _ _)).bind fun _ _ => .pure trivial
  | some directive =>
    cases directive with
    | additionalProperties =>
      dsimp only
      split
      next => exact .pure trivial
      next => exact (report_traces (.entry he (.noFlag hkey) _ _)).bind fun _ _ => .pure trivial
    | title | description | required | oneOf | anyOf | allOf | xor => exact .pure trivial

theorem readField_traces (b : Block) {name : String} {header : Line} {rest : List Line}
    (hlines : header :: rest <:+: lines) (hname : header.fieldName? = some name) :
    Traces mode lines (fun _ => True) (readField mode b name header rest) := by
  have hheader : header ∈ lines := hlines.subset List.mem_cons_self
  have hrest : rest <:+: lines := (List.suffix_cons header rest).isInfix.trans hlines
  have hgap : Traces mode lines (fun _ => True) (noteGap mode name rest) := by
    cases rest with
    | nil => exact .pure trivial
    | cons l rest =>
      exact .when fun hblank => report_traces (.line (hrest.subset List.mem_cons_self) (.gapBelow hblank name) _ _)
  have hentries : Traces mode lines (fun entries => ∀ e ∈ entries, Stands lines e) (readEntries mode false header.indent
      (Line.afterBlock header.indent rest) (Line.block header.indent rest) []) :=
    readEntries_traces false _ _ _ [] ((List.takeWhile_prefix _).isInfix.trans hrest) fun _ he =>
      absurd he List.not_mem_nil
  unfold readField
  refine hgap.bind fun _ _ => hentries.bind fun entries hentries => ?_
  refine (Noted.Keeps.when fun _ => report_traces (.line hheader (.twice hname) _ _)).bind fun _ _ => ?_
  have hfield : Traces mode lines (fun _ => True) (Field.ofEntries mode name header.number entries) :=
    (applyEntries_traces name entries hentries {}).bind fun d _ => finish_traces (.line hheader (.empty hname) _ _) d
  exact hfield.bind fun f _ => .done _

theorem suffix_afterBelow (indent : Nat) (rest : List Line) : afterBelow indent rest <:+ rest := by
  unfold afterBelow
  split
  · exact List.suffix_rfl
  · exact (List.dropWhile_suffix _).trans (List.dropWhile_suffix _)

/-- What is read of the sections of a block keeps track of the lines that they are at the end of. -/
theorem readSections_traces (b : Block) {rest : List Line} (hrest : rest <:+ lines) :
    Traces mode lines (fun _ => True) (readSections mode b rest) := by
  fun_induction readSections mode b rest with
  | case1 => exact .done _
  | case2 b l rest hskip ih => exact ih ((List.suffix_cons l rest).trans hrest)
  | case3 b l rest hskip hend => exact .done _
  | case4 b l rest hskip hend name hname ih =>
    exact (readField_traces b hrest.isInfix hname).bind fun b _ =>
      ih b ((List.dropWhile_suffix _).trans ((List.suffix_cons l rest).trans hrest))
  | case5 b l rest hskip hend hname hnone ih =>
    exact (unrecognized_traces (hrest.subset List.mem_cons_self) hnone).bind fun _ _ =>
      ih ((List.suffix_cons l rest).trans hrest)
  | case6 b l rest hskip hend hname key hkey ih =>
    obtain ⟨above, hlines⟩ := hrest
    exact (readBelow_traces false hlines.symm hkey).bind fun v hv => (applyRoot_traces b hv).bind fun b _ =>
      ih b ((suffix_afterBelow l.indent rest).trans ⟨above ++ [l], by simp [← hlines]⟩)
  | case7 b l rest hskip hend hname key value hvalue hkey ih =>
    exact (readScalar_traces (hrest.subset List.mem_cons_self) hkey).bind fun v hv =>
      (applyRoot_traces b hv).bind fun b _ => ih b ((List.suffix_cons l rest).trans hrest)

/-- Reading a note keeps track of the lines of the note. -/
theorem read?_traces {owner body : String} {first : Int} {noted : Reading Block}
    (h : Block.read? mode owner body first = some noted) :
    Traces mode (Line.ofBody body first) (fun _ => True) noted := by
  rw [Block.read?, Option.map_eq_some_iff] at h
  obtain ⟨rest, hrest, rfl⟩ := h
  refine readSections_traces _ ?_
  unfold afterMarker? at hrest
  split at hrest
  next => cases hrest
  next l below hdrop =>
    split at hrest
    · obtain rfl := Option.some.inj hrest
      exact (List.suffix_cons l below).trans (hdrop ▸ List.dropWhile_suffix _)
    · cases hrest

end Walk

end NoteSchema.Hint
