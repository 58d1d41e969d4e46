import NoteSchema.Sample.Keyword
import NoteSchema.Proofs.Json.Order

namespace NoteSchema

def Number.atLeast (n : Int) : Number → Bool
  | .int m => decide (n ≤ m)
  | .float x => x.compareInt? n == some .gt || x.compareInt? n == some .eq

namespace Sample

/-- The types of an instance; a fraction with a whole value counts as a whole number. -/
def types : Instance → List String
  | .null => ["null"]
  | .bool _ => ["boolean"]
  | .number (.int _) => ["number", "integer"]
  | .number (.float x) =>
    if x.floor?.any (fun n => x.compareInt? n == some .eq) then ["number", "integer"] else ["number"]
  | .str _ => ["string"]
  | .arr _ => ["array"]
  | .obj _ => ["object"]

/-- The keywords that look at an instance only, not at its parts through other schemas, and what they ask of it;
`Matches` is the meaning of patterns. A keyword for another type of instance asks nothing. -/
inductive Meets (Matches : String → String → Prop) : String → Document → Instance → Prop
  | const (d : Document) : Meets Matches "const" d (.ofDocument d)
  | enum {ds : List Document} {d : Document} (listed : d ∈ ds) : Meets Matches "enum" (.arr ds) (.ofDocument d)
  | type {t : String} {v : Instance} (own : t ∈ types v) : Meets Matches "type" (.str t) v
  | required {names : List Document} {v : Instance}
      (named : ∀ ms : Members Key, v = .obj ms → ∀ s, .str s ∈ names → .text s ∈ ms.keys) :
      Meets Matches "required" (.arr names) v
  | minItems {n : Int} {v : Instance} (enough : ∀ xs, v = .arr xs → n ≤ xs.length) : Meets Matches "minItems" (.int n) v
  | minimum {n : Int} {v : Instance} (enough : ∀ m, v = .number m → m.atLeast n = true) :
      Meets Matches "minimum" (.int n) v
  | minLength {n : Int} {v : Instance} (enough : ∀ s, v = .str s → n ≤ s.length) : Meets Matches "minLength" (.int n) v
  | pattern {p : String} {v : Instance} (matched : ∀ s, v = .str s → Matches p s) : Meets Matches "pattern" (.str p) v

def core : List String :=
  ["$ref", "anyOf", "const", "enum", "type", "properties", "required", "items", "minItems", "minimum", "minLength",
    "pattern"]

mutual
/-- Whether an instance is valid for a schema in a document: every keyword accepts it. What is no object has no
keywords. -/
inductive Valid (c : Corpus) (Matches : String → String → Prop) : Document → Document → Instance → Prop
  | flat {here schema : Document} {v : Instance} (h : ∀ ms, schema ≠ .obj ms) : Valid c Matches here schema v
  | object {here : Document} {ms : Members String} {v : Instance}
      (h : ∀ k ∈ core, ∀ d, ms.find? k = some d → Accepts c Matches here k d v) : Valid c Matches here (.obj ms) v

/-- Whether a keyword with its value accepts an instance. -/
inductive Accepts (c : Corpus) (Matches : String → String → Prop) : Document → String → Document → Instance → Prop
  | own {here d : Document} {k : String} {v : Instance} (h : Meets Matches k d v) : Accepts c Matches here k d v
  | link {here target home : Document} {ref : String} {v : Instance}
      (resolved : resolve c here ref = .ok (target, home)) (valid : Valid c Matches home target v) :
      Accepts c Matches here "$ref" (.str ref) v
  | anyOf {here d : Document} {ds : List Document} {v : Instance} (listed : d ∈ ds) (valid : Valid c Matches here d v) :
      Accepts c Matches here "anyOf" (.arr ds) v
  | properties {here : Document} {ps : Members String} {v : Instance}
      (valid : ∀ ms : Members Key, v = .obj ms → ∀ s d, ps.find? s = some d → ∀ w, (.text s, w) ∈ ms →
        Valid c Matches here d w) : Accepts c Matches here "properties" (.obj ps) v
  | items {here d : Document} {v : Instance} (valid : ∀ xs, v = .arr xs → ∀ x ∈ xs, Valid c Matches here d x) :
      Accepts c Matches here "items" d v
end

/-- Keywords that decide an instance together with those it is held to. -/
def others : List String := ["allOf", "oneOf", "if", "exclusiveMinimum"]

/-- The keywords of a schema are among the given ones; what else it has annotates it. -/
def Only (names : List String) (ms : Members String) : Prop :=
  ∀ k ∈ core ++ others, k ∉ names → ms.find? k = none

instance (names : List String) (ms : Members String) : Decidable (Only names ms) :=
  inferInstanceAs (Decidable (∀ k ∈ core ++ others, k ∉ names → ms.find? k = none))

theorem Only.mem {names : List String} {ms : Members String} (h : Only names ms) {k : String} (hk : k ∈ core)
    {d : Document} (hd : ms.find? k = some d) : k ∈ names := by
  by_contra hn
  rw [h k (List.mem_append_left _ hk) hn] at hd
  cases hd

/-- The forms of a schema in a document. Its parts are in `Node`, each with the document that it is in. -/
inductive Form (c : Corpus) (Node : Document → Document → Prop) (here : Document) : Document → Prop
  | flat {d : Document} (h : ∀ ms, d ≠ .obj ms) : Form c Node here d
  | plain {ms : Members String} (only : Only [] ms) : Form c Node here (.obj ms)
  | link {ms : Members String} {ref : String} {target home : Document} (only : Only ["$ref"] ms)
      (value : ms.find? "$ref" = some (.str ref)) (resolved : resolve c here ref = .ok (target, home))
      (node : Node home target) : Form c Node here (.obj ms)
  | const {ms : Members String} {d : Document} (only : Only ["const"] ms) (value : ms.find? "const" = some d) :
      Form c Node here (.obj ms)
  | enum {ms : Members String} {ds : List Document} (only : Only ["enum"] ms) (value : ms.find? "enum" = some (.arr ds))
      (nonempty : ds ≠ []) : Form c Node here (.obj ms)
  | object {ms : Members String} (only : Only ["type", "properties", "required"] ms)
      (type : ms.find? "type" = some (.str "object"))
      (properties : ∀ d, ms.find? "properties" = some d →
        ∃ ps : Members String, d = .obj ps ∧ ∀ s e, ps.find? s = some e → Node here e)
      (required : ∀ d, ms.find? "required" = some d → ∃ names : List String, d = .arr (names.map .str)) :
      Form c Node here (.obj ms)
  | array {ms : Members String} (only : Only ["type", "items", "minItems"] ms)
      (type : ms.find? "type" = some (.str "array")) (items : ∀ d, ms.find? "items" = some d → Node here d)
      (minItems : ∀ d, ms.find? "minItems" = some d → ∃ n : Nat, d = .int n) : Form c Node here (.obj ms)
  | number {ms : Members String} {t : String} (only : Only ["type", "minimum"] ms)
      (type : ms.find? "type" = some (.str t)) (numeric : t ∈ ["number", "integer"])
      (minimum : ∀ d, ms.find? "minimum" = some d → ∃ n : Int, d = .int n) : Form c Node here (.obj ms)
  | string {ms : Members String} (only : Only ["type", "minLength", "pattern"] ms)
      (type : ms.find? "type" = some (.str "string")) (format : ms.find? "format" = none)
      (minLength : ∀ d, ms.find? "minLength" = some d → ∃ n : Nat, d = .int n)
      (pattern : ∀ d, ms.find? "pattern" = some d → ∃ p, d = .str p) : Form c Node here (.obj ms)
  | boolean {ms : Members String} (only : Only ["type"] ms) (type : ms.find? "type" = some (.str "boolean")) :
      Form c Node here (.obj ms)
  | null {ms : Members String} (only : Only ["type"] ms) (type : ms.find? "type" = some (.str "null")) :
      Form c Node here (.obj ms)
  | anyOf {ms : Members String} {ds : List Document} (only : Only ["anyOf"] ms)
      (value : ms.find? "anyOf" = some (.arr ds)) (nonempty : ds ≠ []) (nodes : ∀ d ∈ ds, Node here d) :
      Form c Node here (.obj ms)

/-- A schema in a document that has one of the forms, as all schemas do that it leads to: some set of schemas
with it holds all their parts, so that references may go round. -/
def Formed (c : Corpus) (here schema : Document) : Prop :=
  ∃ Node : Document → Document → Prop, (∀ here d, Node here d → Form c Node here d) ∧ Node here schema

theorem Form.mono {c : Corpus} {Node Node' : Document → Document → Prop} {here d : Document}
    (h : ∀ here d, Node here d → Node' here d) (hf : Form c Node here d) : Form c Node' here d := by
  cases hf with
  | flat h => exact .flat h
  | plain only => exact .plain only
  | link only value resolved node => exact .link only value resolved (h _ _ node)
  | const only value => exact .const only value
  | enum only value nonempty => exact .enum only value nonempty
  | object only type properties required =>
    refine .object only type (fun d hd => ?_) required
    obtain ⟨ps, he, hps⟩ := properties d hd
    exact ⟨ps, he, fun s e hs => h here e (hps s e hs)⟩
  | array only type items minItems => exact .array only type (fun d hd => h here d (items d hd)) minItems
  | number only type numeric minimum => exact .number only type numeric minimum
  | string only type format minLength pattern => exact .string only type format minLength pattern
  | boolean only type => exact .boolean only type
  | null only type => exact .null only type
  | anyOf only value nonempty nodes => exact .anyOf only value nonempty fun d hd => h here d (nodes d hd)

/-- The schemas that have one of the forms are such a set. -/
theorem Formed.form {c : Corpus} {here schema : Document} (h : Formed c here schema) :
    Form c (Formed c) here schema := by
  obtain ⟨Node, hnode, hschema⟩ := h
  exact (hnode here schema hschema).mono fun _ _ hd => ⟨Node, hnode, hd⟩

end Sample

end NoteSchema
