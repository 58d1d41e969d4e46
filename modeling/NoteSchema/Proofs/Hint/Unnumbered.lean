import NoteSchema.Hint.Block
import NoteSchema.Proofs.Noted

namespace NoteSchema.Hint

namespace Reading

open Noted (Maps)

variable {mode mode' : Strictness} {severity severity' : Severity} {message message' field field' : String}
  {line line' : Int}

/-- A report is no part of the outcome. -/
theorem outcome_report : (report mode severity message line field).outcome = Pure.pure () :=
  Noted.outcome_when _ rfl

theorem outcome_report_bind {α : Type} {x : Reading α} :
    (report mode severity message line field >>= fun _ => x).outcome = x.outcome := by
  rw [Noted.outcome_bind, outcome_report]
  rfl

theorem maps_report :
    Maps id (report mode severity message line field) (report mode' severity' message' line' field') :=
  Maps.iff_outcome.mpr (outcome_report.trans outcome_report.symm)

theorem maps_when_report {b b' : Bool} : Maps id (Noted.when b (report mode severity message line field))
    (Noted.when b' (report mode' severity' message' line' field')) :=
  Maps.iff_outcome.mpr ((Noted.outcome_when _ outcome_report).trans (Noted.outcome_when _ outcome_report).symm)

/-- What the check of a pattern comes to does not depend on where the pattern stands. -/
theorem maps_checkPattern (text : String) :
    Maps id (checkPattern mode text line field) (checkPattern mode text line' field') := by
  cases mode with
  | tolerant => rfl
  | strict =>
    unfold checkPattern
    cases Pattern.check text with
    | ok => rfl
    | error e => cases e <;> rfl

end Reading

mutual
/-- A value with no line numbers in it. -/
def Value.bare : Value → Value
  | .mapping entries => .mapping (Entry.bareAll entries)
  | .text s => .text s
  | .flag b => .flag b
  | .number n => .number n
  | .list items => .list items

def Entry.bareAll : List Entry → List Entry
  | [] => []
  | .mk key value _ :: rest => .mk key (Value.bare value) 0 :: Entry.bareAll rest
end

namespace Entry

/-- An entry with no line numbers. -/
def bare (e : Entry) : Entry := .mk e.key e.value.bare 0

@[simp] theorem key_bare (e : Entry) : e.bare.key = e.key := rfl

@[simp] theorem value_bare (e : Entry) : e.bare.value = e.value.bare := rfl

theorem bareAll_eq_map (entries : List Entry) : bareAll entries = entries.map bare := by
  induction entries with
  | nil => rw [bareAll, List.map_nil]
  | cons e rest ih =>
    obtain ⟨key, value, line⟩ := e
    rw [bareAll, ih]
    rfl

theorem bareAll_put (e : Entry) (entries : List Entry) : bareAll (put e entries) = put e.bare (bareAll entries) := by
  rw [bareAll_eq_map, bareAll_eq_map]
  induction entries with
  | nil => rfl
  | cons first rest ih =>
    rw [put, List.map_cons, put, key_bare, key_bare]
    split
    · rfl
    · rw [List.map_cons, ih]

end Entry

namespace Value

theorem bare_of_not_mapping {v : Value} (h : v.isMapping = false) : v.bare = v := by
  cases v with
  | mapping entries => cases h
  | text | flag | number | list => rw [bare]

theorem isMapping_bare (v : Value) : v.bare.isMapping = v.isMapping := by
  cases v with
  | mapping entries =>
    rw [bare]
    rfl
  | text | flag | number | list => rw [bare]

mutual
/-- A document holds no line numbers. -/
theorem toDocument_bare : (v : Value) → v.bare.toDocument = v.toDocument
  | .mapping entries => by rw [bare, toDocument, toDocument, toMembers_bareAll entries]
  | .text _ => by rw [bare]
  | .flag _ => by rw [bare]
  | .number _ => by rw [bare]
  | .list _ => by rw [bare]

theorem toMembers_bareAll : (entries : List Entry) → toMembers (Entry.bareAll entries) = toMembers entries
  | [] => by rw [Entry.bareAll]
  | .mk key value _ :: rest => by
    rw [Entry.bareAll, toMembers, toMembers, toDocument_bare value, toMembers_bareAll rest]
end

theorem toAlternatives_bare (v : Value) : v.bare.toAlternatives = v.toAlternatives := by
  cases h : v.isMapping with
  | false => rw [bare_of_not_mapping h]
  | true =>
    cases v with
    | mapping entries =>
      have hdoc := toDocument_bare (.mapping entries)
      rw [bare] at hdoc ⊢
      rw [toAlternatives, toAlternatives, hdoc]
    | text | flag | number | list => cases h

end Value

/-- Whether an entry of an enumeration takes no mapping, unless its key means nothing there. -/
def Entry.plainInEnum (e : Entry) : Bool :=
  match EnumDirective.ofKey? (Text.small e.key) with
  | none => true
  | some _ => !e.value.isMapping

mutual
/-- Whether of the directives of a field, at any depth, only `items`, `properties` and `enumDefine` take a mapping. Keys
that mean nothing and the names of nested properties may stand above one. -/
def Entry.wellNestedAll : List Entry → Bool
  | [] => true
  | e :: rest => Entry.wellNested e && Entry.wellNestedAll rest

def Entry.wellNested : Entry → Bool
  | .mk key value _ =>
    match Directive.ofKey? (Text.small key) with
    | none => true
    | some .items =>
      match value with
      | .mapping entries => Entry.wellNestedAll entries
      | _ => true
    | some .properties =>
      match value with
      | .mapping entries => Entry.wellNestedProperties entries
      | _ => true
    | some .enumDefine =>
      match value with
      | .mapping entries => entries.all Entry.plainInEnum
      | _ => true
    | some _ => !value.isMapping

/-- The same for nested properties, where a mapping holds the directives of a field. -/
def Entry.wellNestedProperties : List Entry → Bool
  | [] => true
  | .mk _ value _ :: rest =>
    (match value with
      | .mapping entries => Entry.wellNestedAll entries
      | _ => true) && Entry.wellNestedProperties rest
end

theorem Entry.plainInEnum_bare (e : Entry) : e.bare.plainInEnum = e.plainInEnum := by
  rw [plainInEnum, plainInEnum, key_bare, value_bare, Value.isMapping_bare]

mutual
theorem Entry.wellNestedAll_bareAll : (entries : List Entry) →
    wellNestedAll (bareAll entries) = wellNestedAll entries
  | [] => by rw [bareAll]
  | .mk key value line :: rest => by
    rw [bareAll, wellNestedAll, wellNestedAll, Entry.wellNestedAll_bareAll rest]
    exact congrArg (· && _) (Entry.wellNested_bare (.mk key value line))

theorem Entry.wellNested_bare : (e : Entry) → e.bare.wellNested = e.wellNested
  | .mk key value line => by
    have hbare : (Entry.mk key value line).bare = .mk key value.bare 0 := rfl
    rw [hbare, wellNested.eq_def, wellNested.eq_def (.mk key value line)]
    dsimp only
    cases value with
    | mapping entries =>
      have hplain : (bareAll entries).all plainInEnum = entries.all plainInEnum := by
        rw [bareAll_eq_map, List.all_map]
        exact congrArg _ (funext plainInEnum_bare)
      rw [Value.bare]
      simp only [Entry.wellNestedAll_bareAll entries, Entry.wellNestedProperties_bareAll entries, hplain,
        Value.isMapping]
    | text | flag | number | list => rw [Value.bare]

theorem Entry.wellNestedProperties_bareAll : (entries : List Entry) →
    wellNestedProperties (bareAll entries) = wellNestedProperties entries
  | [] => by rw [bareAll]
  | .mk key value line :: rest => by
    rw [bareAll, wellNestedProperties.eq_def, wellNestedProperties.eq_def (_ :: rest)]
    dsimp only
    rw [Entry.wellNestedProperties_bareAll rest]
    cases value with
    | mapping entries =>
      rw [Value.bare]
      dsimp only
      rw [Entry.wellNestedAll_bareAll entries]
    | text | flag | number | list => rw [Value.bare]
end

section Enumeration

/-- An entry under a key, with no line numbers. -/
def bareUnder (p : String × Entry) : String × Entry := (p.1, p.2.bare)

theorem putLowered_bare (key : String) (e : Entry) (acc : List (String × Entry)) :
    putLowered key e.bare (acc.map bareUnder) = (putLowered key e acc).map bareUnder := by
  induction acc with
  | nil => rfl
  | cons p rest ih =>
    obtain ⟨k, e'⟩ := p
    rw [List.map_cons, bareUnder, putLowered, putLowered]
    split
    · rfl
    · rw [ih]
      rfl

theorem lowered_bare (entries : List Entry) : lowered (Entry.bareAll entries) = (lowered entries).map bareUnder := by
  have hfold (acc : List (String × Entry)) :
      (entries.map Entry.bare).foldl (fun acc e => putLowered (Text.small e.key) e acc) (acc.map bareUnder) =
        (entries.foldl (fun acc e => putLowered (Text.small e.key) e acc) acc).map bareUnder := by
    induction entries generalizing acc with
    | nil => rfl
    | cons e rest ih =>
      rw [List.map_cons, List.foldl_cons, List.foldl_cons, Entry.key_bare, putLowered_bare]
      exact ih _
  rw [lowered, Entry.bareAll_eq_map]
  exact hfold []

theorem lookLowered_bare (key : String) (all : List (String × Entry)) :
    lookLowered key (all.map bareUnder) = (lookLowered key all).map Entry.bare := by
  induction all with
  | nil => rfl
  | cons p rest ih =>
    rw [List.map_cons, bareUnder, lookLowered, lookLowered]
    split
    · rfl
    · exact ih

theorem mem_of_lookLowered {key : String} {all : List (String × Entry)} {e : Entry} (h : lookLowered key all = some e) :
    (key, e) ∈ all := by
  induction all with
  | nil => cases h
  | cons p rest ih =>
    rw [lookLowered] at h
    split at h
    next hkey =>
      obtain rfl := Option.some.inj h
      exact hkey ▸ List.mem_cons_self
    next => exact List.mem_cons_of_mem _ (ih h)

theorem mem_putLowered {key : String} {e : Entry} {acc : List (String × Entry)} {p : String × Entry}
    (h : p ∈ putLowered key e acc) : p = (key, e) ∨ p ∈ acc := by
  induction acc with
  | nil => exact .inl (List.mem_singleton.mp h)
  | cons q rest ih =>
    rw [putLowered] at h
    split at h
    next hkey =>
      rcases List.mem_cons.mp h with rfl | h
      · exact .inl (hkey ▸ rfl)
      · exact .inr (List.mem_cons_of_mem _ h)
    next =>
      rcases List.mem_cons.mp h with rfl | h
      · exact .inr List.mem_cons_self
      · exact (ih h).imp_right (List.mem_cons_of_mem _)

/-- Each entry of an enumeration stands under its own key in small letters. -/
theorem mem_lowered {entries : List Entry} {p : String × Entry} (h : p ∈ lowered entries) :
    p.1 = Text.small p.2.key ∧ p.2 ∈ entries := by
  have hfold (es : List Entry) (acc : List (String × Entry))
      (h : p ∈ es.foldl (fun acc e => putLowered (Text.small e.key) e acc) acc) :
      (p.1 = Text.small p.2.key ∧ p.2 ∈ es) ∨ p ∈ acc := by
    induction es generalizing acc with
    | nil => exact .inr h
    | cons e rest ih =>
      rcases ih _ h with ⟨hkey, hmem⟩ | hmem
      · exact .inl ⟨hkey, List.mem_cons_of_mem _ hmem⟩
      · rcases mem_putLowered hmem with rfl | hmem
        · exact .inl ⟨rfl, List.mem_cons_self⟩
        · exact .inr hmem
  exact (hfold entries [] h).resolve_right List.not_mem_nil

end Enumeration

open Noted (Maps)
open Reading (maps_report maps_when_report maps_checkPattern)

variable {mode : Strictness}

theorem applyEnumDirective_bare (field : String) (d : EnumDefinition) {key : String} {e : Entry}
    (hkey : key = Text.small e.key) (h : e.plainInEnum = true) :
    Maps id (applyEnumDirective mode field d key e) (applyEnumDirective mode field d key e.bare) := by
  subst hkey
  unfold applyEnumDirective
  split
  next => exact maps_report.bind fun _ => .refl _
  next =>
    unfold Entry.plainInEnum at h
    cases hdir : EnumDirective.ofKey? (Text.small e.key) with
    | none => exact maps_report.bind fun _ => .refl _
    | some directive =>
      rw [hdir] at h
      have hvalue : e.bare.value = e.value := Value.bare_of_not_mapping (by simpa using h)
      rw [hvalue]
      cases directive with
      | valuePattern => exact (maps_checkPattern _).bind fun _ => .refl _
      | path | targetPath | sourcePath | title | type | generate | values | names | descriptions | description
      | reserved => exact .refl _

theorem applyEnumDirectives_bare (field : String) (d : EnumDefinition) {all : List (String × Entry)}
    (h : ∀ p ∈ all, p.1 = Text.small p.2.key ∧ p.2.plainInEnum = true) :
    Maps id (applyEnumDirectives mode field d all) (applyEnumDirectives mode field d (all.map bareUnder)) := by
  induction all generalizing d with
  | nil => exact .refl _
  | cons p rest ih =>
    obtain ⟨⟨hkey, hplain⟩, hrest⟩ := List.forall_mem_cons.mp h
    rw [List.map_cons, bareUnder, applyEnumDirectives, applyEnumDirectives]
    exact (applyEnumDirective_bare field d hkey hplain).bind fun d => ih d hrest

theorem isMapping_of_path {entries : List Entry} (h : entries.all Entry.plainInEnum = true) {e : Entry}
    (he : (EnumDirective.pathKeys.findSome? fun key => lookLowered key (lowered entries)) = some e) :
    e.value.isMapping = false := by
  obtain ⟨key, hkey, hfound⟩ := List.exists_of_findSome?_eq_some he
  obtain ⟨hname, hmem⟩ := mem_lowered (mem_of_lookLowered hfound)
  have hpath : ∀ key ∈ EnumDirective.pathKeys, EnumDirective.ofKey? key = some .path := by decide
  have hplain := List.all_eq_true.mp h e hmem
  dsimp only at hname
  rw [Entry.plainInEnum, ← hname, hpath key hkey] at hplain
  simpa using hplain

/-- An enumeration does not depend on the lines that its entries stand on. -/
theorem EnumDefinition.ofEntries_bare (field : String) (line line' : Int) {entries : List Entry}
    (h : entries.all Entry.plainInEnum = true) :
    Maps id (ofEntries mode field line entries) (ofEntries mode field line' (Entry.bareAll entries)) := by
  have hall : ∀ p ∈ lowered entries, p.1 = Text.small p.2.key ∧ p.2.plainInEnum = true := fun p hp =>
    ⟨(mem_lowered hp).1, List.all_eq_true.mp h _ (mem_lowered hp).2⟩
  have hfind : (EnumDirective.pathKeys.findSome? fun key => lookLowered key (lowered (Entry.bareAll entries))) =
      (EnumDirective.pathKeys.findSome? fun key => lookLowered key (lowered entries)).map Entry.bare := by
    simp only [lowered_bare, lookLowered_bare, List.map_findSome?, Function.comp_def]
  unfold ofEntries
  dsimp only
  rw [hfind, lowered_bare]
  cases hpath : EnumDirective.pathKeys.findSome? fun key => lookLowered key (lowered entries) with
  | none => exact maps_report.bind fun _ => applyEnumDirectives_bare field {} hall
  | some e =>
    rw [Option.map_some]
    dsimp only
    rw [Entry.value_bare, Value.bare_of_not_mapping (isMapping_of_path h hpath)]
    exact applyEnumDirectives_bare field _ hall

theorem readNumber_line (key : String) (value : Value) (line line' : Int) (field : String) :
    Maps id (readNumber mode key value line field) (readNumber mode key value line' field) := by
  cases value with
  | number n => exact .refl _
  | text | flag | list | mapping => exact maps_report.bind fun _ => .refl _

theorem readWhole_line (key : String) (value : Value) (line line' : Int) (field : String) :
    Maps id (readWhole mode key value line field) (readWhole mode key value line' field) :=
  (readNumber_line key value line line' field).bind fun _ => .refl _

theorem readBound_line (token : String) (line line' : Int) (field : String) :
    Maps id (readBound mode token line field) (readBound mode token line' field) := by
  unfold readBound
  split
  next => exact .refl _
  next =>
    split
    next => exact .refl _
    next => exact maps_report.bind fun _ => .refl _

theorem applyRange_line (f : Field) (value : Value) (line line' : Int) (field : String) :
    Maps id (applyRange mode f value line field) (applyRange mode f value line' field) := by
  unfold applyRange
  split
  next => exact maps_report.bind fun _ => .refl _
  next => exact (readBound_line _ line line' field).bind fun _ => (readBound_line _ line line' field).bind fun _ => .refl _

/-- What a directive makes of a value without a mapping does not depend on its line. -/
theorem applyDirective_line (name key : String) {value : Value} (h : value.isMapping = false) (line line' : Int)
    (d : Draft) (directive : Directive) :
    Maps id (applyDirective mode name key value line d directive)
      (applyDirective mode name key value line' d directive) := by
  cases directive with
  | type | format | description | ref | enumFrom | const | default | enum | required | items | itemsRef | itemsType
  | itemsEnumFrom => exact .refl _
  | pattern => exact (maps_checkPattern _).bind fun _ => .refl _
  | properties => exact maps_report.bind fun _ => .refl _
  | range => exact (applyRange_line _ _ _ _ _).bind fun _ => .refl _
  | minimum | maximum => exact (readNumber_line _ _ _ _ _).bind fun _ => .refl _
  | minLength | maxLength | minItems | maxItems => exact (readWhole_line _ _ _ _ _).bind fun _ => .refl _
  | enumDefine =>
    cases value with
    | mapping entries => cases h
    | text | flag | number | list => exact maps_report.bind fun _ => .refl _

theorem finish_line (name : String) (line line' : Int) (d : Draft) :
    Maps id (d.finish mode name line) (d.finish mode name line') := by
  unfold Draft.finish
  exact maps_when_report.bind fun _ => .refl _

mutual
/-- The draft that entries make does not depend on the lines they stand on. -/
theorem applyEntries_bare (name : String) : (entries : List Entry) → Entry.wellNestedAll entries = true → ∀ d : Draft,
    Maps id (applyEntries mode name entries d) (applyEntries mode name (Entry.bareAll entries) d)
  | [], _, d => by
    rw [Entry.bareAll]
    exact .refl _
  | .mk key value line :: rest, h, d => by
    rw [Entry.wellNestedAll, Bool.and_eq_true] at h
    rw [Entry.bareAll, applyEntries, applyEntries]
    exact (applyEntry_bare name (.mk key value line) h.1 d).bind fun d => applyEntries_bare name rest h.2 d

theorem applyEntry_bare (name : String) : (e : Entry) → e.wellNested = true → ∀ d : Draft,
    Maps id (applyEntry mode name e d) (applyEntry mode name e.bare d)
  | .mk key value line, h, d => by
    have hbare : (Entry.mk key value line).bare = .mk key value.bare 0 := rfl
    rw [Entry.wellNested.eq_def] at h
    rw [hbare, applyEntry.eq_def, applyEntry.eq_def mode name (.mk key value.bare 0)]
    dsimp only at h ⊢
    -- only a mapping has line numbers in it, and only three directives may be given one
    cases hv : value.isMapping with
    | false =>
      rw [Value.bare_of_not_mapping hv]
      split
      next => exact maps_report.bind fun _ => .refl _
      next =>
        split
        next => cases hv
        next => exact applyDirective_line name key hv line 0 d .items
      next =>
        split
        next => cases hv
        next => exact applyDirective_line name key hv line 0 d .properties
      next directive _ _ _ => exact applyDirective_line name key hv line 0 d directive
    | true =>
      cases value with
      | text | flag | number | list => cases hv
      | mapping entries =>
        rw [Value.bare]
        cases hdir : Directive.ofKey? (Text.small key) with
        | none => exact maps_report.bind fun _ => .refl _
        | some directive =>
          rw [hdir] at h
          cases directive with
          | items =>
            exact (applyEntries_bare name entries h {}).bind fun inner =>
              (finish_line name line 0 inner).bind fun _ => .refl _
          | properties => exact (projectProperties_bare name entries h).bind fun _ => .refl _
          | enumDefine => exact (EnumDefinition.ofEntries_bare name line 0 h).bind fun _ => .refl _
          | type | ref | enumFrom | const | default | format | pattern | range | minimum | maximum | minLength | maxLength
          | minItems | maxItems | enum | description | required | itemsRef | itemsType | itemsEnumFrom => cases h

theorem projectProperties_bare (name : String) : (entries : List Entry) → Entry.wellNestedProperties entries = true →
    Maps id (projectProperties mode name entries) (projectProperties mode name (Entry.bareAll entries))
  | [], _ => by
    rw [Entry.bareAll]
    exact .refl _
  | .mk key value line :: rest, h => by
    rw [Entry.wellNestedProperties.eq_def] at h
    dsimp only at h
    rw [Bool.and_eq_true] at h
    have hrest := projectProperties_bare name rest h.2
    rw [Entry.bareAll, projectProperties.eq_def, projectProperties.eq_def mode name (_ :: _)]
    dsimp only
    cases value with
    | mapping entries =>
      rw [Value.bare]
      exact (applyEntries_bare (name ++ "." ++ key) entries h.1 {}).bind fun inner =>
        (finish_line _ line 0 inner).bind fun _ => hrest.bind fun _ => .refl _
    | text | flag | number | list =>
      rw [Value.bare]
      exact hrest.bind fun _ => .refl _
end

theorem ofEntries_bare (name : String) (line line' : Int) {entries : List Entry} (h : Entry.wellNestedAll entries = true) :
    Maps id (Field.ofEntries mode name line entries) (Field.ofEntries mode name line' (Entry.bareAll entries)) :=
  (applyEntries_bare name entries h {}).bind fun d => finish_line name line line' d

/-- Whether a directive outside the fields takes no mapping, unless it is `oneOf`, `anyOf` or `allOf` or its key means
nothing there. -/
def Value.wellNestedRoot (key : String) (value : Value) : Bool :=
  match RootDirective.ofKey? (Text.small key) with
  | none | some .oneOf | some .anyOf | some .allOf => true
  | some _ => !value.isMapping

theorem applyRoot_bare (b : Block) (key : String) {value : Value} (line line' : Int)
    (h : value.wellNestedRoot key = true) :
    Maps id (applyRoot mode b key value line) (applyRoot mode b key value.bare line') := by
  unfold Value.wellNestedRoot at h
  unfold applyRoot
  cases hdir : RootDirective.ofKey? (Text.small key) with
  | none => exact maps_report.bind fun _ => .refl _
  | some directive =>
    rw [hdir] at h
    cases directive with
    | oneOf | anyOf | allOf =>
      dsimp only
      rw [Value.toAlternatives_bare]
      exact .refl _
    | title | description | required | xor =>
      rw [Value.bare_of_not_mapping (by simpa using h)]
      exact .refl _
    | additionalProperties =>
      rw [Value.bare_of_not_mapping (by simpa using h)]
      dsimp only
      split
      next => exact .refl _
      next => exact maps_report.bind fun _ => .refl _

end NoteSchema.Hint
