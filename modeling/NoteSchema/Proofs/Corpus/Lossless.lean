import NoteSchema.Proofs.Corpus.Clearance
import NoteSchema.Proofs.Corpus.Kept

namespace NoteSchema.Corpus

open Json (sorted sortMembers sortedValues)

variable {base : String} {c : Corpus}

section Folders

theorem Folders.isNode {v : Document} (h : Folders v) : IsNode v := by
  cases h with
  | leaf hnone => exact ⟨_, rfl, Or.inl hnone⟩
  | folder hsome => exact ⟨_, rfl, Or.inr ⟨_, hsome⟩⟩

/-- Every way through a tree of definitions is clear. -/
theorem Folders.clear {value : Members String} {v : Document} (h : Folders v) (hjoins : Joins value)
    (path : List String) : Clear value path v := by
  induction path generalizing v with
  | nil => exact Or.inr ⟨hjoins, h.isNode⟩
  | cons name path ih => exact ⟨h.isNode, fun w hw => ih (h.of_children hw)⟩

/-- Whether a value is an object of objects. -/
def holdsObjects : Document → Bool
  | .obj ms => ms.all fun m => m.2.isObject
  | _ => false

/-- Wherever a value has definitions, they are objects in an object. -/
def ObjectDefinitions (v : Document) : Prop :=
  ∀ o ∈ Json.objects v, ∀ w ∈ Members.find? defs o, holdsObjects w

/-- An object with such definitions is a tree of them. -/
theorem ObjectDefinitions.folders {v : Document} (h : ObjectDefinitions v) (hv : v.isObject) : Folders v := by
  suffices ∀ v, ObjectDefinitions v → (v.isObject → Folders v) ∧
      ∀ ms, v = .obj ms → ∀ m ∈ ms, m.2.isObject → Folders m.2 from (this v h).1 hv
  intro v
  induction v using Json.inductOn with
  | obj ms ih =>
    intro h
    have member : ∀ m ∈ ms, ObjectDefinitions m.2 := fun m hm o ho => h o (Json.objects_of_mem hm ho)
    refine ⟨fun _ => ?_, fun ns hns m hm => ?_⟩
    · cases hd : Members.find? defs ms with
      | none => exact .leaf hd
      | some w =>
        have hw := h ms (Json.mem_objects_self ms) w hd
        cases w with
        | obj ds =>
          have hm := Members.mem_of_find? hd
          exact .folder hd fun m hmd =>
            (ih _ hm (member _ hm)).2 ds rfl m hmd (List.all_eq_true.mp hw m hmd)
        | _ => cases hw
    · cases hns
      exact (ih m hm (member m hm)).1
  | _ => exact fun _ => ⟨by simp [Json.isObject], by simp⟩

end Folders

/-- There is a bundle whenever definitions are objects. -/
theorem exists_bundle (hdefs : ∀ d ∈ c.documents, ObjectDefinitions d.document) (dialect : Document) (name : String)
    {d : Loaded} (hd : d ∈ c.documents) : ∃ bundle, c.bundle dialect name = .ok bundle := by
  obtain ⟨top, htop⟩ := exists_top name hd
  have hfolders : ∀ e ∈ c.documents, Folders e.document := fun e he => (hdefs e he).folders rfl
  have hadmits : ∀ d ∈ c.documents, ∀ e ∈ c.documents, Admits (c.bundledDefinition d) (c.bundledDefinition e) := by
    intro d hd e he
    have hjoins : Joins e.body := (hfolders e he).isNode.divided.joins
    exact Admits.bundledDefinition fun rest _ => (hfolders d hd).clear hjoins rest
  obtain ⟨tree, htree⟩ : ∃ tree, c.placeAll (.obj []) c.documents = .ok tree := by
    refine exists_placeAll (fun e he => leafPath_ne_nil he) (fun e he => clear_empty (leafPath_ne_nil he)) ?_
    exact List.pairwise_of_forall_mem_list fun d hd e he => ⟨hadmits d hd e he, hadmits e he d hd⟩
  simp only [bundle, htop, htree]
  exact ⟨_, rfl⟩

theorem erase_bundledMembers {here : Loaded} (k : String) (ms : Members String) :
    (c.bundledMembers here ms).erase k = c.bundledMembers here (ms.erase k) := by
  induction ms with
  | nil => rfl
  | cons m ms ih =>
    obtain ⟨l, w⟩ := m
    simp only [bundledMembers, Members.erase]
    split
    · rfl
    · rw [ih, bundledMembers]

mutual
/-- A value in a document and what it is in a bundle: the same, but for the references in it. -/
inductive Localized (c : Corpus) (here : Loaded) : Document → Document → Prop
  | null : Localized c here .null .null
  | bool (b : Bool) : Localized c here (.bool b) (.bool b)
  | number (n : Number) : Localized c here (.number n) (.number n)
  | str (s : String) : Localized c here (.str s) (.str s)
  | arr {items items' : List Document} (h : List.Forall₂ (Localized c here) items items') :
    Localized c here (.arr items) (.arr items')
  | obj {ms ms' : Members String} (h : List.Forall₂ (LocalizedMember c here) ms ms') :
    Localized c here (.obj ms) (.obj ms')

/-- A member and what it is in a bundle: a reference to a document of the corpus leads on to the place of that document,
and any other one is left as it is. -/
inductive LocalizedMember (c : Corpus) (here : Loaded) : String × Document → String × Document → Prop
  | reference {ref fragment : String} {e : Loaded} (h : c.resolve (some here) ref = some (e, fragment)) :
    LocalizedMember c here ("$ref", .str ref) ("$ref", .str ("#" ++ c.leafPointer e ++ fragment))
  | foreign {ref : String} (h : c.resolve (some here) ref = none) :
    LocalizedMember c here ("$ref", .str ref) ("$ref", .str ref)
  | textless {v : Document} (h : ∀ ref, v ≠ .str ref) : LocalizedMember c here ("$ref", v) ("$ref", v)
  | other {k : String} {v w : Document} (hk : k ≠ "$ref") (h : Localized c here v w) :
    LocalizedMember c here (k, v) (k, w)
end

theorem localized_reference (here : Loaded) (v : Document) :
    LocalizedMember c here ("$ref", v) ("$ref", c.bundledTarget here v) := by
  cases v with
  | str ref =>
    rw [bundledTarget, bundledRef]
    cases h : c.resolve (some here) ref with
    | none => exact .foreign h
    | some found => exact .reference h
  | _ => exact .textless (by simp)

mutual
theorem localized_bundled (here : Loaded) : (v : Document) → Localized c here v (c.bundled here v)
  | .null => .null
  | .bool b => .bool b
  | .number n => .number n
  | .str s => .str s
  | .arr items => .arr (localized_bundledItems here items)
  | .obj ms => .obj (localized_bundledMembers here ms)

theorem localized_bundledItems (here : Loaded) :
    (items : List Document) → List.Forall₂ (Localized c here) items (c.bundledItems here items)
  | [] => .nil
  | v :: items => .cons (localized_bundled here v) (localized_bundledItems here items)

theorem localized_bundledMembers (here : Loaded) :
    (ms : Members String) → List.Forall₂ (LocalizedMember c here) ms (c.bundledMembers here ms)
  | [] => .nil
  | (k, v) :: ms => by
    rw [bundledMembers]
    refine .cons ?_ (localized_bundledMembers here ms)
    by_cases hk : k = "$ref"
    · subst hk
      exact localized_reference here v
    · rw [if_neg hk]
      exact .other hk (localized_bundled here v)
end

/-- A bundle loses no document. Every document has a place of its own, and there it has exactly its members, made
local and in order, besides definitions: a reference to a document leads to the place of that document, and nothing else
is changed. -/
theorem bundle_keeps_documents (hr : c.Registered base) (hcan : c.Canonical base)
    (hdefs : ∀ d ∈ c.documents, ObjectDefinitions d.document) (dialect : Document) (name : String) :
    (∀ d ∈ c.documents, ∀ e ∈ c.documents, c.leafPath d = c.leafPath e → d = e) ∧
      ∀ d ∈ c.documents, ∃ (bundle : Document) (ms : Members String), c.bundle dialect name = .ok bundle ∧
        Json.Pointer.resolve bundle (c.leafPointer d) = .ok (.obj ms) ∧
        ms.erase defs = sortMembers (sortedValues (c.bundledMembers d ((d.body.erase "$id").erase defs))) ∧
        List.Forall₂ (LocalizedMember c d) ((d.body.erase "$id").erase defs)
          (c.bundledMembers d ((d.body.erase "$id").erase defs)) := by
  refine ⟨fun d hd e he => leafPath_injective hr hcan hd he, fun d hd => ?_⟩
  obtain ⟨bundle, hb⟩ := exists_bundle hdefs dialect name hd
  obtain ⟨ns, hown, _, hresolve⟩ := bundle_place hr hcan hb hd
  refine ⟨bundle, sortMembers (sortedValues ns), hb, ?_, ?_, localized_bundledMembers d _⟩
  · have h := hresolve "" (Or.inl rfl)
    rwa [String.append_empty] at h
  · have hnodup := nodup_definition hr hd
    have hns : ns.erase defs = (c.definition d).erase defs := hown
    have hns' : ns.keys.Nodup :=
      Members.nodup_of_erase (hns ▸ Members.nodup_erase hnodup) (hns ▸ Members.find?_erase_self hnodup)
    rw [Json.erase_sortMembers hns', hns, definition, erase_bundledMembers]

/-- A document of a small corpus, with a title and definitions of its own. -/
def titled (id : ArtifactId) (own : Members String) : Loaded where
  identifier := id.identifier "https://example.org/schemas/"
  id := id
  body := [("$id", .str (id.identifier "https://example.org/schemas/")), ("title", .str id.name), (defs, .obj own)]

/-- An enumeration with a definition of its own and a reference to a schema in its namespace. -/
def sharedList : Loaded :=
  let own := titled ⟨"core", [], "A", .enumeration⟩ [("Own", .obj [("$ref", .str "#/title")])]
  { own with body := own.body ++ [("$ref", .str "https://example.org/schemas/core/A/B.schema.json#/title")] }

/-- An enumeration and a schema of one name, and a schema in the namespace that they share. -/
def shared : Corpus where
  documents := [sharedList, titled ⟨"core", [], "A", .schema⟩ [], titled ⟨"core", ["A"], "B", .schema⟩ []]

theorem sharedList_kept : ∃ (bundle : Document) (ms : Members String), shared.bundle .null "A" = .ok bundle ∧
    Json.Pointer.resolve bundle (shared.leafPointer sharedList) = .ok (.obj ms) ∧
      ms.erase defs = [("$ref", .str "#/$defs/core/$defs/A/$defs/B/title"), ("title", .str "A")] := by
  have hr : shared.Registered "https://example.org/schemas/" :=
    ⟨by decide, by decide, by decide, by decide⟩
  have hcan : shared.Canonical "https://example.org/schemas/" := by
    unfold Canonical
    decide
  have hdefs : ∀ d ∈ shared.documents, ObjectDefinitions d.document := by
    unfold ObjectDefinitions
    decide
  obtain ⟨bundle, ms, hb, hms, he, -⟩ :=
    (bundle_keeps_documents hr hcan hdefs .null "A").2 sharedList List.mem_cons_self
  have hbody : (sharedList.body.erase "$id").erase defs =
      [("title", .str "A"), ("$ref", .str "https://example.org/schemas/core/A/B.schema.json#/title")] := rfl
  have href : shared.bundledRef sharedList "https://example.org/schemas/core/A/B.schema.json#/title" =
      "#/$defs/core/$defs/A/$defs/B/title" := by decide
  refine ⟨bundle, ms, hb, hms, he.trans ?_⟩
  have hle : ¬ ("title" : String) ≤ "$ref" := by decide
  simp [hbody, href, bundledMembers, bundled, bundledTarget, sortedValues, sorted, sortMembers, List.mergeSort, hle]

/-- A document put alone into an empty tree is there as it is. -/
theorem exists_place_empty {path : List String} (hpath : path ≠ []) (value : Members String) :
    ∃ tree, place value path (.obj []) = .ok tree ∧ nodeAt path tree = some (.obj value) := by
  obtain ⟨tree, htree⟩ := exists_place hpath (clear_empty hpath)
  obtain ⟨_, leaf, hleaf, _, hfresh⟩ := nodeAt_place_self htree hpath
  obtain rfl : leaf = value := hfresh (nodeAt_empty hpath)
  exact ⟨tree, htree, hleaf⟩

/-- The pointer to a document is read as the names of its path, whatever these are, each after the name of the
definitions; what may follow the pointer is read as it is alone. Whatever is put at the path in an empty tree is what
the pointer then addresses. -/
theorem leafPointer_decodes {d : Loaded} (hd : d ∈ c.documents) :
    (∀ fragment, Json.Pointer.Rooted fragment →
      Json.Pointer.tokens (c.leafPointer d ++ fragment) =
        ((c.leafPath d).flatMap fun name => [defs, name]) ++ Json.Pointer.tokens fragment) ∧
      ∀ value : Members String, ∃ tree, place value (c.leafPath d) (.obj []) = .ok tree ∧
        Json.Pointer.resolve tree (c.leafPointer d) = .ok (.obj value) := by
  have htokens : ∀ fragment, Json.Pointer.Rooted fragment →
      Json.Pointer.tokens (c.leafPointer d ++ fragment) = tokensTo (c.leafPath d) ++ Json.Pointer.tokens fragment :=
    fun fragment hfragment => tokens_pointerTo (c.leafPath d) hfragment
  refine ⟨htokens, fun value => ?_⟩
  obtain ⟨tree, htree, hnode⟩ := exists_place_empty (leafPath_ne_nil hd) value
  have halone : Json.Pointer.tokens (c.leafPointer d) = tokensTo (c.leafPath d) := by
    simpa [Json.Pointer.tokens] using htokens "" (Or.inl rfl)
  refine ⟨tree, htree, ?_⟩
  rw [Json.Pointer.resolve, halone]
  exact follow_tokensTo hnode

/-- A schema and an enumeration whose names look escaped. -/
def tildes : Corpus where
  documents := [titled ⟨"~1", ["~01"], "a/b", .enumeration⟩ [], titled ⟨"~1", ["~01"], "a/b", .schema⟩ []]

theorem tildes_decoded : titled ⟨"~1", ["~01"], "a/b", .schema⟩ [] ∈ tildes.documents ∧
    tildes.leafPointer (titled ⟨"~1", ["~01"], "a/b", .schema⟩ []) = "/$defs/~01/$defs/~001/$defs/a~1b.schema.json" ∧
    Json.Pointer.tokens "/$defs/~01/$defs/~001/$defs/a~1b.schema.json/~1" =
      ["$defs", "~1", "$defs", "~01", "$defs", "a/b.schema.json", "/"] := by
  have hd : titled ⟨"~1", ["~01"], "a/b", .schema⟩ [] ∈ tildes.documents := by simp [tildes]
  have hpointer : tildes.leafPointer (titled ⟨"~1", ["~01"], "a/b", .schema⟩ []) =
      "/$defs/~01/$defs/~001/$defs/a~1b.schema.json" := by decide
  have hrooted : Json.Pointer.Rooted "/~1" := Or.inr ⟨['~', '1'], rfl, by decide⟩
  have htokens := (leafPointer_decodes hd).1 "/~1" hrooted
  rw [hpointer] at htokens
  exact ⟨hd, hpointer, htokens⟩

end NoteSchema.Corpus
