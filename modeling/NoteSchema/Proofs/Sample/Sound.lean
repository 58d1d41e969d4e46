import NoteSchema.Proofs.Sample.Built

namespace NoteSchema.Sample

/-- What comes of sampling a schema is no wrong instance: a value is valid, and a schema without a shape accepts
whatever stands in for it. -/
def Answers (c : Corpus) (Matches : String → String → Prop) (here schema : Document) : Outcome → Prop
  | .value v => Valid c Matches here schema v
  | .shapeless => ∀ v, Valid c Matches here schema v
  | .blocked => True

variable {c : Corpus} {Matches : String → String → Prop} {here : Document} {ms : Members String}

theorem Answers.imp {home target schema : Document} {o : Outcome}
    (h : ∀ v, Valid c Matches home target v → Valid c Matches here schema v) (ha : Answers c Matches home target o) :
    Answers c Matches here schema o := by
  cases o with
  | value v => exact h v ha
  | shapeless => exact fun v => h v (ha v)
  | blocked => trivial

theorem Answers.filled {schema : Document} {o : Outcome} {v : Instance} (ha : Answers c Matches here schema o)
    (hv : Sample.filled schema o = some v) : Valid c Matches here schema v := by
  cases o with
  | value w =>
    obtain rfl := Option.some.inj hv
    exact ha
  | shapeless => exact ha v
  | blocked => cases hv

section Forms

variable {f : Document → Result} {Node : Document → Document → Prop} {v : Instance}

theorem valid_of_only {names : List String} (only : Only names ms)
    (h : ∀ k ∈ names, ∀ d, ms.find? k = some d → Accepts c Matches here k d v) : Valid c Matches here (.obj ms) v :=
  .object fun k hk d hd => h k (only.mem hk hd) d hd

theorem accepts_type {t : String} {d : Document} (type : ms.find? "type" = some (.str t)) (own : t ∈ types v)
    (hd : ms.find? "type" = some d) : Accepts c Matches here "type" d v := by
  obtain rfl := Option.some.inj (type.symm.trans hd)
  exact .own (.type own)

theorem answers_of_value {schema : Document} {r : Result} {o : Outcome} (ho : r = .ok o) (hs : r ≠ .ok .shapeless)
    (hv : ∀ v, r = .ok (.value v) → Valid c Matches here schema v) : Answers c Matches here schema o := by
  subst ho
  cases o with
  | value v => exact hv v rfl
  | shapeless => exact absurd rfl hs
  | blocked => trivial

theorem valid_of_single {k : String} {d : Document} (only : Only [k] ms) (value : ms.find? k = some d)
    (h : Accepts c Matches here k d v) : Valid c Matches here (.obj ms) v := by
  refine valid_of_only only fun l hl e he => ?_
  obtain rfl := List.mem_singleton.mp hl
  obtain rfl := Option.some.inj (value.symm.trans he)
  exact h

theorem valid_object (hf : ∀ d o, Node here d → f d = .ok o → Answers c Matches here d o)
    (only : Only ["type", "properties", "required"] ms) (type : ms.find? "type" = some (.str "object"))
    (properties : ∀ d, ms.find? "properties" = some d →
      ∃ ps : Members String, d = .obj ps ∧ ∀ s e, ps.find? s = some e → Node here e)
    (required : ∀ d, ms.find? "required" = some d → ∃ names : List String, d = .arr (names.map .str))
    (ho : ofObject f ms = .ok (.value v)) : Valid c Matches here (.obj ms) v := by
  obtain ⟨more, rfl, hmore⟩ := ofObject_eq_value required ho
  obtain ⟨members, hmembers, _, hkeys⟩ := ofObject_keys required ho
  refine valid_of_only only fun k hk d hd => ?_
  simp only [List.mem_cons, List.not_mem_nil, or_false] at hk
  rcases hk with rfl | rfl | rfl
  · exact accepts_type type (by simp [types]) hd
  · obtain ⟨ps, rfl, hps⟩ := properties d hd
    refine .properties fun ms' hms s e he w hw => ?_
    cases hms
    have hmem := (Members.mem_update_of_sole (sole_of_gives hmore) hw).resolve_left (by simp)
    obtain ⟨name, hname, schema, o, hp, ho', hx⟩ := forall₂_mem_left hmore.flip hmem
    obtain ⟨t, _, rfl⟩ := List.mem_map.mp hname
    rw [hd] at hp
    cases hp
    rw [he, Option.getD_some] at ho' hx
    exact (hf e o (hps s e he) ho').filled hx
  · obtain ⟨names, rfl⟩ := required d hd
    refine .own (.required fun ms' hms s hs => ?_)
    cases hmembers.symm.trans hms
    exact (hkeys _).mpr ⟨s, mem_requiredNames hd hs, rfl⟩

theorem valid_array (hf : ∀ d o, Node here d → f d = .ok o → Answers c Matches here d o)
    (only : Only ["type", "items", "minItems"] ms) (type : ms.find? "type" = some (.str "array"))
    (items : ∀ d, ms.find? "items" = some d → Node here d)
    (minItems : ∀ d, ms.find? "minItems" = some d → ∃ n : Nat, d = .int n) (ho : ofArray f ms = .ok (.value v)) :
    Valid c Matches here (.obj ms) v := by
  obtain ⟨count, o, x, rfl, ho', hx, hcount⟩ := ofArray_eq_value ho
  refine valid_of_only only fun k hk d hd => ?_
  simp only [List.mem_cons, List.not_mem_nil, or_false] at hk
  rcases hk with rfl | rfl | rfl
  · exact accepts_type type (by simp [types]) hd
  · refine .items fun xs hxs y hy => ?_
    obtain rfl := Json.arr.inj hxs
    obtain rfl := List.eq_of_mem_replicate hy
    rw [hd, Option.getD_some] at ho' hx
    exact (hf d o (items d hd) ho').filled hx
  · obtain ⟨n, rfl⟩ := minItems d hd
    refine .own (.minItems fun xs hxs => ?_)
    obtain rfl := Json.arr.inj hxs
    simpa using hcount n hd

theorem valid_number {t : String} (only : Only ["type", "minimum"] ms) (type : ms.find? "type" = some (.str t))
    (numeric : t ∈ ["number", "integer"]) (minimum : ∀ d, ms.find? "minimum" = some d → ∃ n : Int, d = .int n)
    (ho : ofNumber ms = .ok (.value v)) : Valid c Matches here (.obj ms) v := by
  obtain ⟨n, rfl, hn⟩ : ∃ n : Int, v = .int n ∧ ∀ m : Int, ms.find? "minimum" = some (.int m) → m = n := by
    unfold ofNumber at ho
    rw [only "exclusiveMinimum" (by decide) (by decide)] at ho
    cases hm : ms.find? "minimum" with
    | none =>
      rw [hm] at ho
      cases ho
      exact ⟨0, rfl, by simp⟩
    | some d =>
      obtain ⟨n, rfl⟩ := minimum d hm
      rw [hm] at ho
      cases ho
      exact ⟨n, rfl, fun m hm => by cases hm; rfl⟩
  refine valid_of_only only fun k hk d hd => ?_
  simp only [List.mem_cons, List.not_mem_nil, or_false] at hk
  rcases hk with rfl | rfl
  · exact accepts_type type numeric hd
  · obtain ⟨m, rfl⟩ := minimum d hd
    obtain rfl := hn m hd
    refine .own (.minimum fun m' hm' => ?_)
    cases hm'
    simp [Number.atLeast]

theorem valid_string (hM : ∀ s, Matches "" s) (only : Only ["type", "minLength", "pattern"] ms)
    (type : ms.find? "type" = some (.str "string")) (format : ms.find? "format" = none)
    (minLength : ∀ d, ms.find? "minLength" = some d → ∃ n : Nat, d = .int n)
    (pattern : ∀ d, ms.find? "pattern" = some d → ∃ p, d = .str p) (ho : ofString ms = .ok (.value v)) :
    Valid c Matches here (.obj ms) v := by
  obtain ⟨s, rfl, hpattern, hlength⟩ := ofString_eq_value format ho
  refine valid_of_only only fun k hk d hd => ?_
  simp only [List.mem_cons, List.not_mem_nil, or_false] at hk
  rcases hk with rfl | rfl | rfl
  · exact accepts_type type (by simp [types]) hd
  · obtain ⟨n, rfl⟩ := minLength d hd
    refine .own (.minLength fun t ht => ?_)
    obtain rfl := Json.str.inj ht
    exact Int.ofNat_le.mpr (hlength n hd)
  · obtain ⟨p, rfl⟩ := pattern d hd
    obtain rfl := hpattern p hd
    exact .own (.pattern fun t _ => hM t)

end Forms

section Budget

variable {Node : Document → Document → Prop}

/-- One step: a schema that has one of the forms is answered, if the schemas that it leads to are. -/
theorem Form.answers (hM : ∀ s, Matches "" s) {f : Document → Result}
    (hf : ∀ d o, Node here d → f d = .ok o → Answers c Matches here d o) (h : Form c Node here (.obj ms))
    (free : ms.find? "$ref" = none) {o : Outcome} (ho : ofKeywords f ms = .ok o) :
    Answers c Matches here (.obj ms) o := by
  cases h with
  | flat h => exact absurd rfl (h ms)
  | link _ value => simp [free] at value
  | plain only =>
    have htype : typeOf ms = .null := by
      simp [typeOf, only "type" (by decide) (by decide), Members.has, only "properties" (by decide) (by decide),
        only "required" (by decide) (by decide), only "items" (by decide) (by decide)]
    rw [ofKeywords_eq_ofType only (by decide) (by decide), ofType, htype] at ho
    cases ho
    exact fun v => valid_of_only only (by simp)
  | @const _ d only value =>
    rw [ofKeywords_const only value] at ho
    cases ho
    exact valid_of_single only value (.own (.const d))
  | @enum _ ds only value nonempty =>
    obtain ⟨d, ds, rfl⟩ := List.exists_cons_of_ne_nil nonempty
    rw [ofKeywords_enum only value] at ho
    cases ho
    exact valid_of_single only value (.own (.enum (by simp)))
  | object only type properties required =>
    rw [ofKeywords_eq_ofType only (by decide) (by decide), ofType, typeOf_str type] at ho
    exact answers_of_value ho ofObject_ne_shapeless fun v => valid_object hf only type properties required
  | array only type items minItems =>
    rw [ofKeywords_eq_ofType only (by decide) (by decide), ofType, typeOf_str type] at ho
    exact answers_of_value ho ofArray_ne_shapeless fun v => valid_array hf only type items minItems
  | number only type numeric minimum =>
    have hnumber : ofType f ms = ofNumber ms := by
      rw [ofType, typeOf_str type]
      simp only [List.mem_cons, List.not_mem_nil, or_false] at numeric
      rcases numeric with rfl | rfl <;> rfl
    rw [ofKeywords_eq_ofType only (by decide) (by decide), hnumber] at ho
    exact answers_of_value ho ofNumber_ne_shapeless fun v => valid_number only type numeric minimum
  | string only type format minLength pattern =>
    rw [ofKeywords_eq_ofType only (by decide) (by decide), ofType, typeOf_str type] at ho
    exact answers_of_value ho ofString_ne_shapeless fun v => valid_string hM only type format minLength pattern
  | boolean only type =>
    rw [ofKeywords_eq_ofType only (by decide) (by decide), ofType, typeOf_str type] at ho
    cases ho
    exact valid_of_single only type (.own (.type (by simp [Instance.ofDocument, types])))
  | null only type =>
    rw [ofKeywords_eq_ofType only (by decide) (by decide), ofType, typeOf_str type] at ho
    cases ho
    exact valid_of_single only type (.own (.type (by simp [Instance.ofDocument, types])))
  | @anyOf _ ds only value nonempty nodes =>
    obtain ⟨d, ds, rfl⟩ := List.exists_cons_of_ne_nil nonempty
    rw [ofKeywords_anyOf only value] at ho
    exact (hf d o (nodes d (by simp)) ho).imp fun v hv => valid_of_single only value (.anyOf (by simp) hv)

theorem Form.free_or_link (h : Form c Node here (.obj ms)) :
    ms.find? "$ref" = none ∨ ∃ ref target home, Only ["$ref"] ms ∧ ms.find? "$ref" = some (.str ref) ∧
      resolve c here ref = .ok (target, home) ∧ Node home target := by
  cases h with
  | flat h => exact absurd rfl (h ms)
  | link only value resolved node => exact Or.inr ⟨_, _, _, only, value, resolved, node⟩
  | plain only => exact Or.inl (only "$ref" (by decide) (by decide))
  | const only => exact Or.inl (only "$ref" (by decide) (by decide))
  | enum only => exact Or.inl (only "$ref" (by decide) (by decide))
  | object only => exact Or.inl (only "$ref" (by decide) (by decide))
  | array only => exact Or.inl (only "$ref" (by decide) (by decide))
  | number only => exact Or.inl (only "$ref" (by decide) (by decide))
  | string only => exact Or.inl (only "$ref" (by decide) (by decide))
  | boolean only => exact Or.inl (only "$ref" (by decide) (by decide))
  | null only => exact Or.inl (only "$ref" (by decide) (by decide))
  | anyOf only => exact Or.inl (only "$ref" (by decide) (by decide))

theorem Form.of_object (h : Form c Node here (.obj ms)) (type : ms.find? "type" = some (.str "object")) :
    Only ["type", "properties", "required"] ms ∧
      ∀ d, ms.find? "required" = some d → ∃ names : List String, d = .arr (names.map .str) := by
  cases h with
  | object only _ _ required => exact ⟨only, required⟩
  | flat h => exact absurd rfl (h ms)
  | plain only => simp [only "type" (by decide) (by decide)] at type
  | link only => simp [only "type" (by decide) (by decide)] at type
  | const only => simp [only "type" (by decide) (by decide)] at type
  | enum only => simp [only "type" (by decide) (by decide)] at type
  | anyOf only => simp [only "type" (by decide) (by decide)] at type
  | array _ own => simp [own] at type
  | number _ own numeric =>
    obtain rfl := Json.str.inj (Option.some.inj (own.symm.trans type))
    simp at numeric
  | string _ own => simp [own] at type
  | boolean _ own => simp [own] at type
  | null _ own => simp [own] at type

/-- A run: whatever the budget, what comes of a schema is no wrong instance. -/
theorem Formed.answers (hM : ∀ s, Matches "" s) {schema : Document} (h : Formed c here schema) {budget : Nat}
    {o : Outcome} (ho : sample c budget here schema = .ok o) : Answers c Matches here schema o := by
  induction budget generalizing here schema o with
  | zero =>
    cases ho
    trivial
  | succ n ih =>
    by_cases hflat : ∀ ms, schema ≠ .obj ms
    · rw [sample_flat hflat] at ho
      cases ho
      exact fun v => .flat hflat
    · obtain ⟨ms, rfl⟩ := not_forall_not.mp hflat
      rcases h.form.free_or_link with hfree | ⟨ref, target, home, only, value, resolved, node⟩
      · rw [sample_keywords hfree] at ho
        exact h.form.answers hM (fun d o hd => ih hd) hfree ho
      · rw [sample_ref value resolved] at ho
        exact (ih node ho).imp fun v hv => valid_of_single only value (.link resolved hv)

/-- The object that comes of a schema for objects has the required names, each of them once, and no other. -/
theorem Formed.object_keys (h : Formed c here (.obj ms)) (type : ms.find? "type" = some (.str "object")) {budget : Nat}
    {v : Instance} (hv : sample c budget here (.obj ms) = .ok (.value v)) :
    ∃ members : Members Key, v = .obj members ∧ members.keys.Nodup ∧
      ∀ k, k ∈ members.keys ↔ ∃ s ∈ requiredNames ms, k = .text s := by
  obtain ⟨only, required⟩ := h.form.of_object type
  cases budget with
  | zero => cases hv
  | succ n =>
    have hfree := only "$ref" (by decide) (by decide)
    rw [sample_keywords hfree, ofKeywords_eq_ofType only (by decide) (by decide), ofType, typeOf_str type] at hv
    exact ofObject_keys required hv

end Budget

/-- Sampling is sound: an instance of a schema is valid for it, and whatever comes of a schema for objects has
exactly its required names. -/
theorem synthesize_sound {c : Corpus} {Matches : String → String → Prop} (hM : ∀ s, Matches "" s) {root : Document}
    (h : Formed c root root) :
    (∀ maxDepth v, synthesize c maxDepth root = .ok (some v) → Valid c Matches root root v) ∧
      ∀ here (ms : Members String), Formed c here (.obj ms) → ms.find? "type" = some (.str "object") → ∀ budget v,
        sample c budget here (.obj ms) = .ok (.value v) → ∃ members : Members Key, v = .obj members ∧
          members.keys.Nodup ∧ ∀ k, k ∈ members.keys ↔ ∃ s ∈ requiredNames ms, k = .text s := by
  refine ⟨fun maxDepth v hv => ?_, fun here ms hms type budget v hv => hms.object_keys type hv⟩
  obtain ⟨depth, _, hsample⟩ := synthesize_eq_some.mp hv
  exact h.answers hM hsample

/-- The schema of a person, who has a company for an employer and may have a person for a friend. -/
def person : Loaded where
  identifier := "https://example.org/schemas/staff/person.schema.json"
  id := ⟨"staff", [], "person", .schema⟩
  body :=
    [("type", .str "object"), ("properties", .obj
        [("employer", link "https://example.org/schemas/staff/company.schema.json"), ("friend", link "#"),
          ("note", .obj [("description", .str "Anything")])]),
      ("required", .arr [.str "note", .str "employer"])]

/-- The schema of a company, which has names and may belong to a person. -/
def company : Loaded where
  identifier := "https://example.org/schemas/staff/company.schema.json"
  id := ⟨"staff", [], "company", .schema⟩
  body :=
    [("type", .str "object"), ("properties", .obj
        [("names", .obj [("type", .str "array"), ("minItems", .int 2),
            ("items", .obj [("type", .str "string"), ("minLength", .int 3)])]),
          ("owner", .obj [("anyOf", .arr [link "https://example.org/schemas/staff/person.schema.json"])])]),
      ("required", .arr [.str "names"])]

/-- Two schemas that lead to each other. -/
def staff : Corpus where
  documents := [company, person]

/-- The schemas of persons and companies and those inside them, each with its document. -/
def staffNodes : List (Document × Document) :=
  [(person.document, person.document), (company.document, company.document),
    (person.document, link "https://example.org/schemas/staff/company.schema.json"), (person.document, link "#"),
    (person.document, .obj [("description", .str "Anything")]),
    (company.document, .obj [("type", .str "array"), ("minItems", .int 2),
      ("items", .obj [("type", .str "string"), ("minLength", .int 3)])]),
    (company.document, .obj [("type", .str "string"), ("minLength", .int 3)]),
    (company.document, .obj [("anyOf", .arr [link "https://example.org/schemas/staff/person.schema.json"])]),
    (company.document, link "https://example.org/schemas/staff/person.schema.json")]

theorem staffNodes_formed {here schema : Document} (h : (here, schema) ∈ staffNodes) :
    Form staff (fun here schema => (here, schema) ∈ staffNodes) here schema := by
  have hvalues : ∀ ps : Members String, (∀ m ∈ ps, (here, m.2) ∈ staffNodes) →
      ∀ s e, ps.find? s = some e → (here, e) ∈ staffNodes := fun ps hps s e he => hps (s, e) (Members.mem_of_find? he)
  have hcompany : resolve staff person.document "https://example.org/schemas/staff/company.schema.json" =
      .ok (company.document, company.document) := by
    decide
  have hperson : resolve staff company.document "https://example.org/schemas/staff/person.schema.json" =
      .ok (person.document, person.document) := by
    decide
  have hself : resolve staff person.document "#" = .ok (person.document, person.document) := by decide
  simp only [staffNodes, List.mem_cons, List.not_mem_nil, or_false, Prod.mk.injEq] at h
  rcases h with ⟨rfl, rfl⟩ | ⟨rfl, rfl⟩ | ⟨rfl, rfl⟩ | ⟨rfl, rfl⟩ | ⟨rfl, rfl⟩ | ⟨rfl, rfl⟩ | ⟨rfl, rfl⟩ | ⟨rfl, rfl⟩ |
    ⟨rfl, rfl⟩
  · refine .object (by decide) rfl (fun d hd => ?_) (fun d hd => ?_)
    · cases hd
      exact ⟨_, rfl, hvalues _ (by decide)⟩
    · cases hd
      exact ⟨["note", "employer"], rfl⟩
  · refine .object (by decide) rfl (fun d hd => ?_) (fun d hd => ?_)
    · cases hd
      exact ⟨_, rfl, hvalues _ (by decide)⟩
    · cases hd
      exact ⟨["names"], rfl⟩
  · exact .link (by decide) rfl hcompany (by decide)
  · exact .link (by decide) rfl hself (by decide)
  · exact .plain (by decide)
  · refine .array (by decide) rfl (fun d hd => ?_) (fun d hd => ?_)
    · cases hd
      decide
    · cases hd
      exact ⟨2, rfl⟩
  · refine .string (by decide) rfl rfl (fun d hd => ?_) (fun d hd => by cases hd)
    cases hd
    exact ⟨3, rfl⟩
  · exact .anyOf (by decide) rfl (by simp) (by decide)
  · exact .link (by decide) rfl hperson (by decide)

/-- The meaning of a pattern of plain characters: it occurs in a text. -/
def Occurs (pattern s : String) : Prop := pattern.toList <:+: s.toList

/-- A sample of a person. -/
def staffSample : Members Key :=
  [(.text "note", .int 0), (.text "employer", .obj [(.text "names", .arr [.str "xxx", .str "xxx"])])]

theorem staffSample_valid :
    Valid staff Occurs person.document person.document (.obj staffSample) ∧
      ∃ members : Members Key, Json.obj staffSample = .obj members ∧ members.keys.Nodup ∧
        ∀ k, k ∈ members.keys ↔ ∃ s ∈ requiredNames person.body, k = .text s := by
  have hformed : Formed staff person.document person.document := ⟨_, fun _ _ => staffNodes_formed, by decide⟩
  have hempty : ∀ s, Occurs "" s := fun s => List.nil_infix
  have hsound := synthesize_sound hempty hformed
  exact ⟨hsound.1 (.int 6) _ (by decide), hsound.2 _ person.body hformed rfl 7 _ rfl⟩

end NoteSchema.Sample
