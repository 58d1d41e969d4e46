import NoteSchema.Sample.Keyword
import NoteSchema.Proofs.Corpus.Walk
import NoteSchema.Proofs.Sample.Reordered

namespace NoteSchema.Sample

open Instance (Reordered)
open Json (Distinct sorted)

/-- What comes of one schema comes of another one too, but for the order of members; nothing is said where
a pattern or the ceiling of depth stood in the way, or sampling failed. -/
structure Follows (r s : Result) : Prop where
  value : ∀ v, r = .ok (.value v) → ∃ w, s = .ok (.value w) ∧ Reordered v w
  shapeless : r = .ok .shapeless → s = .ok .shapeless

/-- The schemas that a schema holds: the values of its properties and of some keywords. -/
inductive Holds (ms : Members String) : Document → Prop
  | property {ps : Members String} {name : String} {v : Document} (properties : ms.find? "properties" = some (.obj ps))
      (value : ps.find? name = some v) : Holds ms v
  | single {k : String} {v : Document} (keyword : k ∈ ["items", "then", "else"]) (value : ms.find? k = some v) :
      Holds ms v
  | listed {k : String} {items : List Document} {v : Document} (keyword : k ∈ ["allOf", "oneOf", "anyOf"])
      (list : ms.find? k = some (.arr items)) (item : v ∈ items) : Holds ms v

/-- A way to render parts of a document that keeps their shape: lists item by item, and objects without a
reference member by member. -/
structure Renders (P : Document → Prop) (φ : Document → Document) : Prop where
  leaf : ∀ v, (∀ xs, v ≠ .arr xs) → (∀ ms, v ≠ .obj ms) → P v ∧ φ v = v
  nil : P (.obj [])
  distinct : ∀ v, P v → Distinct v
  item : ∀ xs x, P (.arr xs) → x ∈ xs → P x
  member : ∀ (ms : Members String) k v, P (.obj ms) → ms.find? k = some v → P v
  arr : ∀ xs, φ (.arr xs) = .arr (xs.map φ)
  obj : ∀ ms, P (.obj ms) → ∃ ns, φ (.obj ms) = .obj ns
  fields : ∀ ms : Members String, P (.obj ms) → ms.find? "$ref" = none →
    ∃ ns : Members String, φ (.obj ms) = .obj ns ∧ (∀ k, ns.find? k = (ms.find? k).map φ) ∧ ns.keys.Perm ms.keys
  plain : ∀ v, P v → Corpus.refsIn v = [] → φ v = sorted v

namespace Renders

variable {P : Document → Prop} {φ : Document → Document} (h : Renders P φ)

include h

theorem null : φ .null = .null := (h.leaf .null (by simp) (by simp)).2

theorem str (s : String) : φ (.str s) = .str s := (h.leaf (.str s) (by simp) (by simp)).2

theorem empty : φ (.obj []) = .obj [] := by
  obtain ⟨ns, he, _, hp⟩ := h.fields [] h.nil rfl
  obtain rfl : ns = [] := List.map_eq_nil_iff.mp (List.perm_nil.mp hp)
  exact he

theorem leaf_or (v : Document) : φ v = v ∨ (∃ xs, v = .arr xs) ∨ ∃ ms, v = .obj ms := by
  cases v with
  | arr xs => exact Or.inr (Or.inl ⟨xs, rfl⟩)
  | obj ms => exact Or.inr (Or.inr ⟨ms, rfl⟩)
  | _ => exact Or.inl (h.leaf _ (by simp) (by simp)).2

theorem flat {v : Document} (hv : ∀ ms, v ≠ .obj ms) (ns : Members String) : φ v ≠ .obj ns := by
  intro hns
  rcases h.leaf_or v with he | ⟨xs, rfl⟩ | ⟨ms, rfl⟩
  · exact hv ns (he ▸ hns)
  · rw [h.arr] at hns
    cases hns
  · exact hv ms rfl

theorem falsy {v : Document} (hv : v.truthy = false) : (φ v).truthy = false := by
  rcases h.leaf_or v with he | ⟨xs, rfl⟩ | ⟨ms, rfl⟩
  · rw [he, hv]
  · obtain rfl : xs = [] := by simpa [Json.truthy] using hv
    rw [h.arr]
    rfl
  · obtain rfl : ms = [] := by simpa [Json.truthy] using hv
    rw [h.empty, hv]

theorem itemCount {d : Document} {n : Nat} (hd : itemCount d = .ok n) : Sample.itemCount (φ d) = .ok n := by
  by_cases ht : d.truthy = true
  · rcases h.leaf_or d with he | ⟨xs, rfl⟩ | ⟨ms, rfl⟩
    · rw [he, hd]
    · simp [Sample.itemCount, ht] at hd
    · simp [Sample.itemCount, ht] at hd
  · have hf : d.truthy = false := by simpa using ht
    simp only [Sample.itemCount, hf, h.falsy hf, Bool.not_false, if_true] at hd ⊢
    exact hd

theorem filler {d : Document} {s : String} (hd : filler d = .ok s) : Sample.filler (φ d) = .ok s := by
  by_cases ht : d.truthy = true
  · rcases h.leaf_or d with he | ⟨xs, rfl⟩ | ⟨ms, rfl⟩
    · rw [he, hd]
    · simp [Sample.filler, ht] at hd
    · simp [Sample.filler, ht] at hd
  · have hf : d.truthy = false := by simpa using ht
    simp only [Sample.filler, hf, h.falsy hf, Bool.not_false, if_true] at hd ⊢
    exact hd

theorem formatText {d : Document} {s : Option String} (hd : formatText d = .ok s) :
    Sample.formatText (φ d) = .ok s := by
  rcases h.leaf_or d with he | ⟨xs, rfl⟩ | ⟨ms, rfl⟩
  · rw [he, hd]
  · simp [Sample.formatText] at hd
  · simp [Sample.formatText] at hd

theorem document {d : Document} (hd : P d) (hr : Corpus.refsIn d = []) :
    Follows (Sample.document d) (Sample.document (φ d)) := by
  refine ⟨fun v hv => ?_, fun hv => by simp [Sample.document] at hv⟩
  cases hv
  rw [h.plain d hd hr]
  exact ⟨_, rfl, Instance.reordered_sorted (h.distinct d hd)⟩

end Renders

theorem Follows.of_blocked (s : Result) : Follows (.ok .blocked) s := ⟨by simp, by simp⟩

theorem Follows.of_error (e : Failure) (s : Result) : Follows (.error e) s := ⟨by simp, by simp⟩

theorem Follows.of_value {v w : Instance} (h : Reordered v w) : Follows (.ok (.value v)) (.ok (.value w)) :=
  ⟨fun u hu => by cases hu; exact ⟨w, rfl, h⟩, by simp⟩

theorem Follows.refl (r : Result) : Follows r r := ⟨fun v hv => ⟨v, hv, .refl v⟩, id⟩

/-- The members of a schema without a reference, and those of the same schema rendered. Values that are
copied into instances hold no reference. -/
structure Rendered (P : Document → Prop) (φ : Document → Document) (ss ts : Members String) : Prop where
  part : P (.obj ss)
  free : ss.find? "$ref" = none
  look : ∀ k, k ≠ "$id" → k ≠ Corpus.defs → ts.find? k = (ss.find? k).map φ
  copied : ∀ k ∈ ["const", "enum", "minimum", "exclusiveMinimum"], ∀ v, ss.find? k = some v → Corpus.refsIn v = []
  named : ∀ k ∈ ["required", "properties"], ∀ ps : Members String, ss.find? k = some (.obj ps) →
    ps.find? "$ref" = none

/-- The type that a schema declares. -/
def declared (schema : Members String) : Document :=
  match schema.find? "type" with
  | some (.arr (t :: _)) => t
  | some d => d
  | none => .null

/-- The type that the keywords of a schema imply. -/
def implied (schema : Members String) : Document :=
  if schema.has "properties" || schema.has "required" then .str "object"
  else if schema.has "items" then .str "array"
  else .null

theorem typeOf_eq_ite (schema : Members String) :
    typeOf schema = if (declared schema).isNull then implied schema else declared schema := by
  unfold typeOf implied declared
  cases schema.find? "type" with
  | none => rfl
  | some d =>
    cases d with
    | arr xs =>
      cases xs with
      | nil => rfl
      | cons t xs => cases t <;> rfl
    | _ => rfl

theorem standIn_of_type_ne {ss : Members String} (h : ss.find? "type" ≠ some (.str "string")) :
    standIn (.obj ss) = .int 0 := by
  simp only [standIn]

theorem merged_ne_shapeless {f : Document → Result} {branches : List Document} {ms : Members Key} :
    merged f ms branches ≠ .ok .shapeless := by
  induction branches generalizing ms with
  | nil => simp [merged]
  | cons b branches ih =>
    simp only [merged, bind, Except.bind]
    split
    next => simp
    next =>
      split
      next => simp [pure, Except.pure]
      next => exact ih
      next => exact ih

theorem ofString_ne_shapeless {ss : Members String} : ofString ss ≠ .ok .shapeless := by
  unfold ofString
  split
  · simp
  · split
    next => simp
    next => simp [document]
    next =>
      cases filler ((ss.find? "minLength").getD .null) with
      | error e => simp [Except.map]
      | ok s => simp [Except.map]

theorem ofKeywords_ne_shapeless {f : Document → Result} {ss : Members String}
    (ht : ss.find? "type" = some (.str "string")) (hk : ∀ k ∈ ["oneOf", "anyOf", "if"], ss.find? k = none) :
    ofKeywords f ss ≠ .ok .shapeless := by
  have hone : present? ss "oneOf" = none := by simp [present?, hk "oneOf" (by simp)]
  have hany : present? ss "anyOf" = none := by simp [present?, hk "anyOf" (by simp)]
  have hif : ss.has "if" = false := by simp [Members.has, hk "if" (by simp)]
  have htype : ofType f ss = ofString ss := by simp [ofType, typeOf, ht]
  unfold ofKeywords
  rw [hone, hany, hif, htype]
  simp only [bind, Except.bind, Option.orElse_eq_orElse, Option.orElse]
  split
  next =>
    split
    next => simp
    next => exact merged_ne_shapeless
  next =>
    simp only [Bool.false_eq_true, if_false]
    split
    next => simp [document]
    next =>
      split
      next =>
        split
        next => simp
        next => simp [document]
      next => exact ofString_ne_shapeless

section Leaves

variable {P : Document → Prop} {φ : Document → Document} {ss ts : Members String}
variable (h : Renders P φ) (r : Rendered P φ ss ts)

include h r

theorem Rendered.getD_null {k : String} (hid : k ≠ "$id") (hdefs : k ≠ Corpus.defs) :
    (ts.find? k).getD .null = φ ((ss.find? k).getD .null) := by
  rw [r.look k hid hdefs]
  cases ss.find? k with
  | none => exact h.null.symm
  | some v => rfl

omit h in
theorem Rendered.has_eq {k : String} (hid : k ≠ "$id") (hdefs : k ≠ Corpus.defs) : ts.has k = ss.has k := by
  simp [Members.has, r.look k hid hdefs]

theorem ofString_follows : Follows (ofString ss) (ofString ts) := by
  unfold ofString
  rw [r.getD_null h (k := "pattern") (by decide) (by decide), r.getD_null h (k := "format") (by decide) (by decide),
    r.getD_null h (k := "minLength") (by decide) (by decide)]
  by_cases hp : ((ss.find? "pattern").getD .null).truthy = true
  · rw [if_pos hp]
    exact .of_blocked _
  · rw [if_neg hp, if_neg (by simpa using h.falsy (by simpa using hp))]
    cases hf : formatText ((ss.find? "format").getD .null) with
    | error e => exact .of_error e _
    | ok text =>
      rw [h.formatText hf]
      cases text with
      | some s => exact .refl _
      | none =>
        cases hl : filler ((ss.find? "minLength").getD .null) with
        | error e => exact .of_error e _
        | ok s =>
          rw [h.filler hl]
          exact .refl _

theorem ofNumber_follows : Follows (ofNumber ss) (ofNumber ts) := by
  unfold ofNumber
  rw [r.look "minimum" (by decide) (by decide), r.look "exclusiveMinimum" (by decide) (by decide)]
  cases hm : ss.find? "minimum" with
  | some d => exact h.document (h.member ss _ d r.part hm) (r.copied "minimum" (by simp) d hm)
  | none =>
    cases he : ss.find? "exclusiveMinimum" with
    | some d => exact h.document (h.member ss _ d r.part he) (r.copied "exclusiveMinimum" (by simp) d he)
    | none => exact .refl _

omit r in
theorem isNull_eq {d : Document} (hd : P d) : (φ d).isNull = d.isNull := by
  rcases h.leaf_or d with he | ⟨xs, rfl⟩ | ⟨ms, rfl⟩
  · rw [he]
  · rw [h.arr]
    rfl
  · obtain ⟨ns, he⟩ := h.obj ms hd
    rw [he]
    rfl

theorem declared_eq : declared ts = φ (declared ss) ∧ P (declared ss) := by
  unfold declared
  rw [r.look "type" (by decide) (by decide)]
  cases ht : ss.find? "type" with
  | none => exact ⟨h.null.symm, (h.leaf .null (by simp) (by simp)).1⟩
  | some d =>
    have hd := h.member ss _ d r.part ht
    cases d with
    | arr xs =>
      cases xs with
      | nil => exact ⟨by simp [h.arr], hd⟩
      | cons t xs => exact ⟨by simp [h.arr], h.item _ t hd (by simp)⟩
    | obj ms =>
      obtain ⟨ns, he⟩ := h.obj ms hd
      exact ⟨by simp [he], hd⟩
    | _ => exact ⟨by rw [Option.map_some, (h.leaf _ (by simp) (by simp)).2], hd⟩

theorem typeOf_eq : typeOf ts = φ (typeOf ss) ∧ P (typeOf ss) := by
  obtain ⟨hd, hp⟩ := declared_eq h r
  have hi : implied ts = φ (implied ss) ∧ P (implied ss) := by
    unfold implied
    rw [r.has_eq (k := "properties") (by decide) (by decide), r.has_eq (k := "required") (by decide) (by decide),
      r.has_eq (k := "items") (by decide) (by decide)]
    split
    · exact ⟨(h.str _).symm, (h.leaf _ (by simp) (by simp)).1⟩
    · split
      · exact ⟨(h.str _).symm, (h.leaf _ (by simp) (by simp)).1⟩
      · exact ⟨h.null.symm, (h.leaf _ (by simp) (by simp)).1⟩
  rw [typeOf_eq_ite, typeOf_eq_ite, hd, isNull_eq h hp]
  split
  · exact hi
  · exact ⟨rfl, hp⟩

omit r in
theorem standIn_eq (hp : P (.obj ss)) (ht : ts.find? "type" = (ss.find? "type").map φ) :
    standIn (.obj ts) = standIn (.obj ss) := by
  simp only [standIn, ht]
  cases hs : ss.find? "type" with
  | none => rfl
  | some d =>
    rcases h.leaf_or d with he | ⟨xs, rfl⟩ | ⟨ms, rfl⟩
    · rw [Option.map_some, he]
    · rw [Option.map_some, h.arr]
    · obtain ⟨ns, he⟩ := h.obj ms (h.member ss _ _ hp hs)
      rw [Option.map_some, he]

end Leaves

end NoteSchema.Sample
