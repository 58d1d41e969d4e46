import NoteSchema.Proofs.Corpus.Frame
import NoteSchema.Proofs.Corpus.Lossless

namespace NoteSchema.Corpus

open Json (sorted)

variable {base : String} {c : Corpus}

/-- What a path leads to in a document, besides its identifier, it leads to in the definition that the document
becomes. -/
theorem follow_definition (hr : c.Registered base) {d : Loaded} (hd : d ∈ c.documents) {n : Document}
    {path : List String} (hid : path ≠ ["$id"]) (h : Json.Pointer.follow d.document path = .ok n) :
    ∃ copy, Json.Pointer.follow (.obj (c.definition d)) path = .ok copy ∧
      (path ≠ [] → "$ref" ∉ path → copy = c.bundled d n) := by
  cases path with
  | nil => exact ⟨_, rfl, fun hne => absurd rfl hne⟩
  | cons token path =>
    have htoken : "$id" ≠ token := by
      rintro rfl
      obtain ⟨x, hx, hrest⟩ := Json.Pointer.follow_obj_cons h
      obtain rfl := Option.some.inj ((hr.carried d hd).symm.trans hx)
      cases path with
      | nil => exact hid rfl
      | cons other path =>
        obtain ⟨y, hy, _⟩ := Json.Pointer.follow_cons hrest
        cases hy
    have hbody : Json.Pointer.follow (.obj (d.body.erase "$id")) (token :: path) = .ok n := by
      rwa [Json.Pointer.follow_erase htoken]
    have hlocal : Json.obj (c.definition d) = c.bundled d (.obj (d.body.erase "$id")) := by rw [definition, bundled]
    rw [hlocal]
    obtain ⟨copy, hcopy, hsame⟩ := follow_bundled hbody
    exact ⟨copy, hcopy, fun _ => hsame⟩

theorem tokens_ne_nil {fragment : String} (h : fragment ≠ "") : Json.Pointer.tokens fragment ≠ [] := by
  unfold Json.Pointer.tokens
  rw [if_neg h, ne_eq, List.map_eq_nil_iff]
  exact Text.splitChars_ne_nil _ _

/-- Every reference to a document is rewritten to a pointer that leads through the bundle to the copy of what it
addressed, with more definitions where documents land below it. What another document takes the place of is left
open, and so are the definitions of a document that itself takes the place of a definition. -/
theorem bundled_reference_addresses (hr : c.Registered base) (hcan : c.Canonical base) (dialect : Document)
    (name : String) {here t : Loaded} (hhere : here ∈ c.documents) {ref fragment : String}
    (href : c.resolve (some here) ref = some (t, fragment)) (hroot : Json.Pointer.Rooted fragment)
    (hid : Json.Pointer.tokens fragment ≠ ["$id"]) {n : Document}
    (hn : Json.Pointer.resolve t.document fragment = .ok n)
    (hclear : (Json.Pointer.tokens fragment).head? = some defs → ¬ c.Crowded t)
    (hfree : ∀ q, c.LandsBelow t q → ¬ tokensTo q <+: Json.Pointer.tokens fragment) :
    ((∀ d ∈ c.documents, ObjectDefinitions d.document) → ∃ bundle, c.bundle dialect name = .ok bundle) ∧
      c.bundledRef here ref = "#" ++ c.leafPointer t ++ fragment ∧
      ∀ bundle, c.bundle dialect name = .ok bundle → ∃ copy r,
        Json.Pointer.resolve (.obj (c.definition t)) fragment = .ok copy ∧
        (fragment ≠ "" → "$ref" ∉ Json.Pointer.tokens fragment → copy = c.bundled t n) ∧
        Json.Pointer.resolve bundle (c.leafPointer t ++ fragment) = .ok (sorted r) ∧
        (fragment = "" → own r = own copy) ∧
        (fragment ≠ "" ∨ ¬ c.Crowded t → Enlarged (c.LandsBelow t) (Json.Pointer.tokens fragment) copy r) := by
  have ht := resolve_loaded hhere href
  refine ⟨fun hobjects => exists_bundle hobjects dialect name ht, by simp only [bundledRef, href], fun bundle hb => ?_⟩
  obtain ⟨ns, hown, hext, hresolve⟩ := bundle_place hr hcan hb ht
  obtain ⟨copy, hcopy, hsame⟩ := follow_definition hr ht hid hn
  suffices ∃ r, Json.Pointer.follow (.obj ns) (Json.Pointer.tokens fragment) = .ok r ∧
      (fragment = "" → own r = own copy) ∧
      (fragment ≠ "" ∨ ¬ c.Crowded t → Enlarged (c.LandsBelow t) (Json.Pointer.tokens fragment) copy r) by
    obtain ⟨r, hr', hrest⟩ := this
    exact ⟨copy, r, hcopy, fun hne => hsame (tokens_ne_nil hne), by rw [hresolve _ hroot, hr']; rfl, hrest⟩
  by_cases hempty : fragment = ""
  · subst hempty
    cases hcopy
    refine ⟨.obj ns, rfl, fun _ => hown, fun h => Or.inr (Or.inl ⟨[], rfl, ?_⟩)⟩
    exact hext (h.resolve_left fun hne => hne rfl)
  · by_cases hdefs : (Json.Pointer.tokens fragment).head? = some defs
    · obtain ⟨r, hr', henl⟩ := (hext (hclear hdefs)).follow hfree hcopy
      exact ⟨r, hr', fun h => absurd h hempty, fun _ => henl⟩
    · -- the path leads past the definitions, where nothing has changed
      obtain ⟨token, path, htokens⟩ := List.exists_cons_of_ne_nil (tokens_ne_nil hempty)
      have htoken : token ≠ defs := fun he => hdefs (by rw [htokens, he]; rfl)
      refine ⟨copy, ?_, fun h => absurd h hempty, fun _ => Or.inl rfl⟩
      rw [htokens] at hcopy ⊢
      rwa [follow_of_own hown htoken]

/-- A schema with definitions of its own, two of which lie where other documents have their places or on the way
there. -/
def overlapTop : Loaded :=
  titled ⟨"core", [], "A", .schema⟩
    [("B", .obj [("type", .str "string"), (defs, .obj [("C", .obj [])])]), ("E", .obj [("type", .str "string")]),
      ("Both", .obj [("b", .obj [("$ref", .str "#/$defs/B")]), ("e", .obj [("$ref", .str "#/$defs/E")])])]

/-- A schema at the place of a definition. -/
def overlapPart : Loaded := titled ⟨"core", ["A"], "B", .schema⟩ [("D", .obj [("$ref", .str "#/$defs")])]

def overlap : Corpus where
  documents := [overlapTop, overlapPart, titled ⟨"core", ["A", "E"], "F", .schema⟩ []]

theorem overlap_registered : overlap.Registered "https://example.org/schemas/" where
  inOrder := by decide
  carried := by decide
  addressed := by decide
  distinct := by decide

theorem overlap_canonical : overlap.Canonical "https://example.org/schemas/" := by
  unfold Canonical
  decide

theorem overlap_objectDefinitions : ∀ d ∈ overlap.documents, ObjectDefinitions d.document := by
  unfold ObjectDefinitions
  decide

theorem overlapTop_definition_addressed : ∃ bundle r, overlap.bundle .null "A" = .ok bundle ∧
    Json.Pointer.resolve bundle (overlap.leafPointer overlapTop ++ "/$defs/E") = .ok (sorted r) ∧
      Enlarged (overlap.LandsBelow overlapTop) ["$defs", "E"] (.obj [("type", .str "string")]) r := by
  have hclear : ¬ overlap.Crowded overlapTop := by
    rintro ⟨e, he, q, hq, hpath, _⟩
    have hlong : ∀ e ∈ overlap.documents, (overlap.leafPath overlapTop).length ≤ (overlap.leafPath e).length := by
      decide
    have hlength := congrArg List.length hpath
    rw [List.length_append] at hlength
    have := hlong e he
    have := List.length_pos_iff.mpr hq
    omega
  have hfree : ∀ q, overlap.LandsBelow overlapTop q → ¬ tokensTo q <+: Json.Pointer.tokens "/$defs/E" := by
    rintro q ⟨hq, e, he, hpath⟩
    have hdrop : q = (overlap.leafPath e).drop 2 := by rw [hpath]; rfl
    have hall : ∀ e ∈ overlap.documents, (overlap.leafPath e).drop 2 = [] ∨
        ¬ tokensTo ((overlap.leafPath e).drop 2) <+: Json.Pointer.tokens "/$defs/E" := by decide
    exact hdrop ▸ (hall e he).resolve_left (hdrop ▸ hq)
  obtain ⟨hex, _, hall⟩ := bundled_reference_addresses overlap_registered overlap_canonical .null "A"
    (show overlapTop ∈ overlap.documents from List.mem_cons_self)
    (show overlap.resolve (some overlapTop) "#/$defs/E" = some (overlapTop, "/$defs/E") by decide)
    (Or.inr ⟨"$defs/E".toList, by decide, by decide⟩) (by decide)
    (show Json.Pointer.resolve overlapTop.document "/$defs/E" = .ok (.obj [("type", .str "string")]) by decide)
    (fun _ => hclear) hfree
  obtain ⟨bundle, hb⟩ := hex overlap_objectDefinitions
  obtain ⟨copy, r, _, hcopy, hr, _, henl⟩ := hall bundle hb
  obtain rfl := hcopy (by decide) (by decide)
  exact ⟨bundle, r, hb, hr, henl (Or.inl (by decide))⟩

/-- A pointer does not lead to the copy of an object if the tree holds another object there, one that differs in a
member. -/
theorem resolve_ne_copy {dialect : Document} {name : String} {bundle : Document} {t : Loaded} {fragment k : String}
    {ms ns : Members String} (hb : c.bundle dialect name = .ok bundle) (ht : t ∈ c.documents)
    (hroot : Json.Pointer.Rooted fragment)
    (h : ((c.placeAll (.obj []) c.documents).toOption.bind (nodeAt (c.leafPath t))).map
      (Json.Pointer.follow · (Json.Pointer.tokens fragment)) = some (.ok (.obj ms)))
    (hk : (ms.find? k).isSome ≠ (ns.find? k).isSome) :
    Json.Pointer.resolve bundle (c.leafPointer t ++ fragment) ≠ .ok (sorted (c.bundled t (.obj ns))) := by
  obtain ⟨tree, _, htree, _⟩ := bundle_tree hb
  obtain ⟨v, hv, hfound⟩ := Option.map_eq_some_iff.mp h
  rw [htree] at hv
  rw [leafPointer, bundle_resolve_nodeAt hb htree (leafPath_ne_nil ht) hv hroot, hfound]
  intro heq
  have hsame := congrArg Option.isSome (Json.find?_of_sorted_eq (Except.ok.inj heq) k)
  simp only [Option.isSome_map, find?_bundledMembers] at hsame
  exact hk hsame

/-- References that no longer address what they addressed: a definition that a document lands below, one whose place
a document takes, and the definitions of that document, which keep those of what it replaced. -/
theorem overlap_references_differ : overlap.Registered "https://example.org/schemas/" ∧
    overlap.Canonical "https://example.org/schemas/" ∧ ∃ bundle, overlap.bundle .null "A" = .ok bundle ∧
      ∀ p ∈ [(overlapTop, "#/$defs/E"), (overlapTop, "#/$defs/B"), (overlapPart, "#/$defs")],
        p.2 ∈ refsIn p.1.document ∧ ∃ t fragment n, overlap.resolve (some p.1) p.2 = some (t, fragment) ∧
          Json.Pointer.Rooted fragment ∧ Json.Pointer.resolve t.document fragment = .ok n ∧
            Json.Pointer.resolve bundle (overlap.leafPointer t ++ fragment) ≠ .ok (sorted (overlap.bundled t n)) := by
  obtain ⟨bundle, hb⟩ := exists_bundle overlap_objectDefinitions .null "A" (List.mem_cons_self (a := overlapTop))
  have htop : overlapTop ∈ overlap.documents := by simp [overlap]
  have hpart : overlapPart ∈ overlap.documents := by simp [overlap]
  have rooted : ∀ s ∈ ["/$defs/E", "/$defs/B", "/$defs"], Json.Pointer.Rooted s := fun s hs =>
    Or.inr ⟨s.toList.tail, by revert s; decide⟩
  have landed : Json.Pointer.resolve bundle (overlap.leafPointer overlapTop ++ "/$defs/E") ≠
      .ok (sorted (overlap.bundled overlapTop (.obj [("type", .str "string")]))) :=
    resolve_ne_copy (k := defs) hb htop (rooted _ (by simp)) rfl (by decide)
  have taken : Json.Pointer.resolve bundle (overlap.leafPointer overlapTop ++ "/$defs/B") ≠
      .ok (sorted (overlap.bundled overlapTop (.obj [("type", .str "string"), (defs, .obj [("C", .obj [])])]))) :=
    resolve_ne_copy (k := "type") hb htop (rooted _ (by simp)) rfl (by decide)
  have joined : Json.Pointer.resolve bundle (overlap.leafPointer overlapPart ++ "/$defs") ≠
      .ok (sorted (overlap.bundled overlapPart (.obj [("D", .obj [("$ref", .str "#/$defs")])]))) :=
    resolve_ne_copy (k := "C") hb hpart (rooted _ (by simp)) rfl (by decide)
  refine ⟨overlap_registered, overlap_canonical, bundle, hb, ?_⟩
  simp only [List.forall_mem_cons, List.not_mem_nil, false_imp_iff, implies_true, and_true]
  refine ⟨⟨by decide, overlapTop, "/$defs/E", _, ?_, rooted _ (by simp), ?_, landed⟩,
    ⟨by decide, overlapTop, "/$defs/B", _, ?_, rooted _ (by simp), ?_, taken⟩,
    ⟨by decide, overlapPart, "/$defs", _, ?_, rooted _ (by simp), ?_, joined⟩⟩
  all_goals decide

end NoteSchema.Corpus
