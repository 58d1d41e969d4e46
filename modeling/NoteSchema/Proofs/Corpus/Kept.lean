import NoteSchema.Proofs.Corpus.Bundled
import NoteSchema.Proofs.Corpus.Placement

namespace NoteSchema.Corpus

open Json (sorted)

variable {base : String} {c : Corpus}

theorem placeAll_cons {d : Loaded} {rest : List Loaded} {tree next : Document}
    (h : c.placeAll tree (d :: rest) = .ok next) :
    ∃ mid, place (c.definition d) (c.leafPath d) tree = .ok mid ∧ c.placeAll mid rest = .ok next := by
  rw [placeAll] at h
  cases hm : place (c.definition d) (c.leafPath d) tree with
  | error e => simp [hm, bind, Except.bind] at h
  | ok mid => exact ⟨mid, rfl, by simpa [hm, bind, Except.bind] using h⟩

theorem placeAll_append {front back : List Loaded} {tree next : Document}
    (h : c.placeAll tree (front ++ back) = .ok next) :
    ∃ mid, c.placeAll tree front = .ok mid ∧ c.placeAll mid back = .ok next := by
  induction front generalizing tree with
  | nil => exact ⟨tree, rfl, h⟩
  | cons d front ih =>
    obtain ⟨first, hd, hrest⟩ := placeAll_cons h
    obtain ⟨mid, hfront, hback⟩ := ih hrest
    exact ⟨mid, by simp [placeAll, hd, hfront, bind, Except.bind], hback⟩

/-- The paths below the place of a document at which other documents land. -/
def LandsBelow (c : Corpus) (d : Loaded) (q : List String) : Prop :=
  q ≠ [] ∧ ∃ e ∈ c.documents, c.leafPath e = c.leafPath d ++ q

theorem not_landsBelow_nil (d : Loaded) : ¬ c.LandsBelow d [] := fun h => h.1 rfl

section Tree

variable {core : Document} {d : Loaded} {tree next : Document}

/-- Documents that come later extend what is at a place, unless they come to the place itself or above it. -/
theorem placeAll_extends {docs : List Loaded} {v : Document} (hmem : ∀ e ∈ docs, e ∈ c.documents)
    (hnew : ∀ e ∈ docs, ¬ c.leafPath e <+: c.leafPath d) (h : c.placeAll tree docs = .ok next)
    (hv : nodeAt (c.leafPath d) tree = some v) (hx : Extends (c.LandsBelow d) core v) :
    ∃ w, nodeAt (c.leafPath d) next = some w ∧ Extends (c.LandsBelow d) core w := by
  induction docs generalizing tree v with
  | nil =>
    cases h
    exact ⟨v, hv, hx⟩
  | cons e rest ih =>
    obtain ⟨mid, he, hrest⟩ := placeAll_cons h
    have step : ∃ w, nodeAt (c.leafPath d) mid = some w ∧ Extends (c.LandsBelow d) core w := by
      rcases nodeAt_place he hv (hnew e (by simp)) with hsame | ⟨q, w, hpath, hw, hq⟩
      · exact ⟨v, hsame, hx⟩
      · have hne : q ≠ [] := by
          rintro rfl
          exact hnew e (by simp) (by simp [hpath])
        exact ⟨w, hw, hx.place hq hne ⟨hne, e, hmem e (by simp), hpath⟩⟩
    obtain ⟨w, hw, hxw⟩ := step
    exact ih (fun e he => hmem e (by simp [he])) (fun e he => hnew e (by simp [he])) hrest hw hxw

theorem nodup_definition (hr : c.Registered base) (hd : d ∈ c.documents) : (c.definition d).keys.Nodup := by
  rw [definition, keys_bundledMembers]
  exact Members.nodup_erase (hr.distinct d hd).nodup

/-- No document comes to the place of an earlier one, or above it. -/
theorem not_prefix_of_later (hr : c.Registered base) (hcan : c.Canonical base) {e : Loaded}
    (hd : d ∈ c.documents) (he : e ∈ c.documents) (hlt : d.identifier < e.identifier) :
    ¬ c.leafPath e <+: c.leafPath d := by
  rintro ⟨q, hq⟩
  by_cases hne : q = []
  · subst q
    have := leafPath_injective hr hcan he hd (by simpa using hq)
    exact lt_irrefl _ (this ▸ hlt)
  · exact lt_asymm hlt (identifier_lt_of_leafPath hr hcan he hd hne hq.symm)

/-- A node that is there once documents are placed was there, lies on the way to one of them, or is a definition of
one of them. -/
theorem nodeAt_of_placeAll {docs : List Loaded} {p : List String} (h : c.placeAll tree docs = .ok next)
    (hv : (nodeAt p next).isSome) :
    (nodeAt p tree).isSome ∨ ∃ e ∈ docs, p <+: c.leafPath e ∨
      ∃ q, p = c.leafPath e ++ q ∧ (Divided (c.definition e) → (nodeAt q (.obj (c.definition e))).isSome) := by
  induction docs generalizing tree with
  | nil =>
    cases h
    exact Or.inl hv
  | cons e rest ih =>
    obtain ⟨mid, he, hrest⟩ := placeAll_cons h
    rcases ih hrest with hmid | ⟨d, hd, hat⟩
    · obtain ⟨v, hv⟩ := Option.isSome_iff_exists.mp hmid
      exact (nodeAt_of_place he hv).imp_right fun hat => ⟨e, by simp, hat⟩
    · exact Or.inr ⟨d, by simp [hd], hat⟩

theorem isSome_nodeAt_bundled {here : Loaded} {q : List String} {v : Document} :
    (nodeAt q (c.bundled here v)).isSome = (nodeAt q v).isSome := by
  induction q generalizing v with
  | nil => rfl
  | cons name q ih =>
    have hchildren : children (c.bundled here v) = c.bundledMembers here (children v) := by
      cases v with
      | obj ms =>
        simp only [bundled, children, find?_bundledMembers]
        cases hd : Members.find? defs ms with
        | none => rfl
        | some w => cases w <;> rfl
      | _ => rfl
    rw [nodeAt, nodeAt, hchildren, find?_bundledMembers]
    cases (children v).find? name with
    | none => rfl
    | some x =>
      simp only [Option.map_some, Option.bind_some, bundledMember]
      split
      next =>
        cases x with
        | str s => cases q <;> rfl
        | _ => rfl
      next => exact ih

theorem nodeAt_definition {d : Loaded} {q : List String} (hq : q ≠ []) :
    (nodeAt q (.obj (c.definition d))).isSome = (nodeAt q d.document).isSome := by
  have hlocal : Json.obj (c.definition d) = c.bundled d (.obj (d.body.erase "$id")) := by rw [definition, bundled]
  rw [hlocal, isSome_nodeAt_bundled]
  cases q with
  | nil => exact absurd rfl hq
  | cons name q =>
    have hchildren : children (.obj (d.body.erase "$id")) = children d.document := by
      simp only [children, Loaded.document, Members.find?_erase_ne (show "$id" ≠ defs by decide)]
    rw [nodeAt, nodeAt, hchildren]

theorem divided_definition (h : Divided d.body) : Divided (c.definition d) := by
  have hfound : (c.definition d).find? defs = (d.body.find? defs).map (c.bundledMember d defs) := by
    rw [definition, find?_bundledMembers, Members.find?_erase_ne (by decide)]
  rcases h with hbare | ⟨ds, hds⟩
  · exact Or.inl (by rw [hfound, hbare]; rfl)
  · refine Or.inr ⟨c.bundledMembers d ds, ?_⟩
    rw [hfound, hds, Option.map_some, bundledMember_of_ne (by decide), bundled]

/-- Whether another document has a definition of its own at the place of a document; one whose definitions are no
object may have it there. -/
def Crowded (c : Corpus) (d : Loaded) : Prop :=
  ∃ e ∈ c.documents, ∃ q, q ≠ [] ∧ c.leafPath d = c.leafPath e ++ q ∧
    (Divided e.body → (nodeAt q e.document).isSome)

/-- Once all documents are placed, each is found at its place as it landed there, with what landed below. -/
theorem nodeAt_placeAll (hr : c.Registered base) (hcan : c.Canonical base)
    (h : c.placeAll (.obj []) c.documents = .ok tree) (hd : d ∈ c.documents) :
    ∃ others leaf ns : Members String, nodeAt (c.leafPath d) tree = some (.obj ns) ∧
      Landed (c.definition d) others leaf ∧ (¬ c.Crowded d → leaf = c.definition d) ∧
      Extends (c.LandsBelow d) (.obj leaf) (.obj ns) := by
  obtain ⟨front, back, hdocs⟩ := List.append_of_mem hd
  have horder := hr.inOrder
  rw [hdocs, List.pairwise_append, List.pairwise_cons] at horder
  rw [hdocs] at h
  obtain ⟨before, hfront, h⟩ := placeAll_append h
  obtain ⟨mid, hplace, hback⟩ := placeAll_cons h
  obtain ⟨others, leaf, hleaf, hlanded, hfresh⟩ := nodeAt_place_self hplace (leafPath_ne_nil hd)
  have hlater : ∀ e ∈ back, ¬ c.leafPath e <+: c.leafPath d := fun e he =>
    not_prefix_of_later hr hcan hd (by simp [hdocs, he]) (horder.2.1.1 e he)
  obtain ⟨w, hw, hxw⟩ :=
    placeAll_extends (fun e he => by simp [hdocs, he]) hlater hback hleaf (.same (c.LandsBelow d) _)
  obtain ⟨ns, rfl⟩ := hxw.obj (not_landsBelow_nil d)
  refine ⟨others, leaf, ns, hw, hlanded, fun hclear => hfresh ?_, hxw⟩
  -- whatever was at the place before is a definition of an earlier document
  rw [← Option.not_isSome_iff_eq_none]
  intro hbefore
  rcases nodeAt_of_placeAll hfront hbefore with hempty | ⟨e, he, hpre | ⟨q, hq, hown⟩⟩
  · rw [nodeAt_empty (leafPath_ne_nil hd)] at hempty
    cases hempty
  · exact not_prefix_of_later hr hcan (by simp [hdocs, he]) hd (horder.2.2 e he d (by simp)) hpre
  · have hmem : e ∈ c.documents := by simp [hdocs, he]
    have hne : q ≠ [] := by
      rintro rfl
      obtain rfl := leafPath_injective hr hcan hd hmem (by simpa using hq)
      exact lt_irrefl _ (horder.2.2 d he d (by simp))
    exact hclear ⟨e, hmem, q, hne, hq, fun hdiv => nodeAt_definition hne ▸ hown (divided_definition hdiv)⟩

theorem find?_children {v x : Document} {name : String} (h : (children v).find? name = some x) :
    ∃ ms ds : Members String, v = .obj ms ∧ Members.find? defs ms = some (.obj ds) ∧ ds.find? name = some x := by
  unfold children at h
  split at h
  next ms =>
    split at h
    next ds hds => exact ⟨ms, ds, rfl, hds, h⟩
    next => simp [Members.find?] at h
  next => simp [Members.find?] at h

/-- A bundle is made of the tree of all documents. -/
theorem bundle_tree {dialect : Document} {name : String} {bundle : Document} (h : c.bundle dialect name = .ok bundle) :
    ∃ (tree : Document) (bs : Members String), c.placeAll (.obj []) c.documents = .ok tree ∧ bundle = sorted (.obj bs) ∧
      ∀ path v, path ≠ [] → nodeAt path tree = some v → nodeAt path (.obj bs) = some v := by
  unfold Corpus.bundle at h
  split at h
  next => cases h
  next top _ =>
    split at h
    next => cases h
    next tree ht =>
      refine ⟨tree, _, ht, (Except.ok.inj h).symm, fun path v hpath hv => ?_⟩
      cases path with
      | nil => exact absurd rfl hpath
      | cons part path =>
        rw [nodeAt] at hv ⊢
        obtain ⟨x, hx, hrest⟩ := Option.bind_eq_some_iff.mp hv
        obtain ⟨ms, ds, rfl, hds, hfound⟩ := find?_children hx
        refine Option.bind_eq_some_iff.mpr ⟨x, ?_, hrest⟩
        rw [defs] at hds
        simpa [children, Members.find?, hds, defs] using hfound

/-- A pointer to a path in a bundle leads through the tree of all documents. -/
theorem bundle_resolve_nodeAt {dialect : Document} {name : String} {bundle v : Document} {path : List String}
    {fragment : String} (h : c.bundle dialect name = .ok bundle) (htree : c.placeAll (.obj []) c.documents = .ok tree)
    (hpath : path ≠ []) (hv : nodeAt path tree = some v) (hroot : Json.Pointer.Rooted fragment) :
    Json.Pointer.resolve bundle (pointerTo path ++ fragment) =
      (Json.Pointer.follow v (Json.Pointer.tokens fragment)).map sorted := by
  obtain ⟨other, bs, hother, rfl, hnode⟩ := bundle_tree h
  obtain rfl := Except.ok.inj (htree.symm.trans hother)
  rw [Json.Pointer.resolve, tokens_pointerTo _ hroot, Json.Pointer.follow_sorted,
    Json.Pointer.follow_append, follow_tokensTo (hnode _ _ hpath hv)]
  rfl

/-- What lies at the place of a document in a bundle, and that pointers into it lead through the bundle. -/
theorem bundle_place (hr : c.Registered base) (hcan : c.Canonical base) {dialect : Document} {name : String}
    {bundle : Document} (h : c.bundle dialect name = .ok bundle) (hd : d ∈ c.documents) :
    ∃ ns : Members String, own (.obj ns) = own (.obj (c.definition d)) ∧
      (¬ c.Crowded d → Extends (c.LandsBelow d) (.obj (c.definition d)) (.obj ns)) ∧
      ∀ fragment, Json.Pointer.Rooted fragment →
        Json.Pointer.resolve bundle (c.leafPointer d ++ fragment) =
          (Json.Pointer.follow (.obj ns) (Json.Pointer.tokens fragment)).map sorted := by
  obtain ⟨tree, _, htree, _⟩ := bundle_tree h
  obtain ⟨others, leaf, ns, hns, hlanded, hclear, hext⟩ := nodeAt_placeAll hr hcan htree hd
  refine ⟨ns, ?_, fun hnot => hclear hnot ▸ hext, fun fragment hroot =>
    bundle_resolve_nodeAt h htree (leafPath_ne_nil hd) hns hroot⟩
  rw [hext.own (not_landsBelow_nil d), hlanded.own]

end Tree

end NoteSchema.Corpus
