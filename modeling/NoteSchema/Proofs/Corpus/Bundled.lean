import NoteSchema.Corpus.Bundle
import NoteSchema.Proofs.Corpus.Definitions
import NoteSchema.Proofs.Corpus.Filling

namespace NoteSchema.Corpus

open Json (Distinct sorted)

variable {c : Corpus} {base : String} {here : Loaded}

theorem bundledItems_eq (xs : List Document) : c.bundledItems here xs = xs.map (c.bundled here) := by
  induction xs with
  | nil => rfl
  | cons x xs ih => rw [bundledItems, ih, List.map_cons]

/-- The value of a member of an object, made local to the bundle. -/
def bundledMember (c : Corpus) (here : Loaded) (k : String) (v : Document) : Document :=
  if k = "$ref" then c.bundledTarget here v else c.bundled here v

theorem bundledMembers_eq (ms : Members String) :
    c.bundledMembers here ms = ms.map fun m => (m.1, c.bundledMember here m.1 m.2) := by
  induction ms with
  | nil => rfl
  | cons m ms ih =>
    obtain ⟨k, v⟩ := m
    rw [bundledMembers, ih, List.map_cons, bundledMember]

theorem keys_bundledMembers (ms : Members String) : (c.bundledMembers here ms).keys = ms.keys := by
  simp [bundledMembers_eq, Members.keys]

theorem find?_bundledMembers (k : String) (ms : Members String) :
    (c.bundledMembers here ms).find? k = (ms.find? k).map (c.bundledMember here k) := by
  induction ms with
  | nil => rfl
  | cons m ms ih =>
    obtain ⟨l, w⟩ := m
    simp only [bundledMembers, Members.find?_cons, ih]
    by_cases h : l = k
    · subst l
      simp [bundledMember]
    · simp [h]

theorem bundledMember_of_ne {k : String} (h : k ≠ "$ref") (v : Document) :
    c.bundledMember here k v = c.bundled here v := if_neg h

theorem bundled_distinct {v : Document} (h : Distinct v) : Distinct (c.bundled here v) := by
  induction v using Json.inductOn with
  | arr items ih =>
    rw [bundled, bundledItems_eq]
    refine .arr fun y hy => ?_
    obtain ⟨x, hx, rfl⟩ := List.mem_map.mp hy
    exact ih x hx (h.item hx)
  | obj ms ih =>
    rw [bundled]
    have hk : (c.bundledMembers here ms).keys.Nodup := by
      rw [keys_bundledMembers]
      exact h.nodup
    refine .obj hk fun m hm => ?_
    rw [bundledMembers_eq] at hm
    obtain ⟨n, hn, rfl⟩ := List.mem_map.mp hm
    dsimp only [bundledMember]
    split
    · unfold bundledTarget
      split
      · exact .str _
      · exact h.member hn
    · exact ih n hn (h.member hn)
  | _ => exact h

theorem bundled_follow {v : Document} {ms : Members String} {path : List String} (ht : TextRefs v)
    (h : Json.Pointer.follow v path = .ok (.obj ms)) :
    Json.Pointer.follow (c.bundled here v) path = .ok (c.bundled here (.obj ms)) := by
  induction path generalizing v with
  | nil =>
    cases h
    rfl
  | cons token path ih =>
    obtain ⟨x, hx, hn⟩ := Json.Pointer.follow_cons h
    have next := ih (fun o ho => ht o (Json.Pointer.objects_of_step hx ho)) hn
    have step : Json.Pointer.step (c.bundled here v) token = .ok (c.bundled here x) := by
      rcases Json.Pointer.step_cases hx with ⟨os, rfl, hf⟩ | ⟨items, i, rfl, hi, hj, hf⟩
      · have hk : token ≠ "$ref" := by
          rintro rfl
          obtain ⟨s, rfl⟩ := ht os (Json.mem_objects_self os) x hf
          cases Json.Pointer.follow_str hn
        rw [bundled, Json.Pointer.step, find?_bundledMembers, hf, Option.map_some, bundledMember_of_ne hk]
      · rw [bundled, bundledItems_eq]
        simp [Json.Pointer.step, hi, hj, hf]
    rw [Json.Pointer.follow, step]
    exact next

/-- What a path leads to in a document is there once the references are local: made local itself, unless the path
leads through a reference. -/
theorem follow_bundled {v n : Document} {path : List String} (h : Json.Pointer.follow v path = .ok n) :
    ∃ copy, Json.Pointer.follow (c.bundled here v) path = .ok copy ∧
      ("$ref" ∉ path → copy = c.bundled here n) := by
  induction path generalizing v with
  | nil =>
    cases h
    exact ⟨_, rfl, fun _ => rfl⟩
  | cons token path ih =>
    obtain ⟨x, hx, hn⟩ := Json.Pointer.follow_cons h
    rcases Json.Pointer.step_cases hx with ⟨os, rfl, hf⟩ | ⟨items, i, rfl, hi, hj, hf⟩
    · have step : Json.Pointer.step (c.bundled here (.obj os)) token = .ok (c.bundledMember here token x) := by
        rw [bundled, Json.Pointer.step, find?_bundledMembers, hf, Option.map_some]
      rw [Json.Pointer.follow, step]
      by_cases hk : token = "$ref"
      · subst hk
        rw [bundledMember, if_pos rfl]
        refine Exists.imp (fun copy hc => ⟨hc, fun hno => absurd List.mem_cons_self hno⟩) ?_
        cases x with
        | str s =>
          cases path with
          | nil => exact ⟨_, rfl⟩
          | cons other path =>
            obtain ⟨y, hy, _⟩ := Json.Pointer.follow_cons hn
            cases hy
        | _ => exact ⟨n, hn⟩
      · obtain ⟨copy, hc, hsame⟩ := ih hn
        rw [bundledMember_of_ne hk]
        exact ⟨copy, hc, fun hno => hsame fun hm => hno (List.mem_cons_of_mem _ hm)⟩
    · have step : Json.Pointer.step (c.bundled here (.arr items)) token = .ok (c.bundled here x) := by
        rw [bundled, bundledItems_eq]
        simp [Json.Pointer.step, hi, hj, hf]
      obtain ⟨copy, hc, hsame⟩ := ih hn
      rw [Json.Pointer.follow, step]
      exact ⟨copy, hc, fun hno => hsame fun hm => hno (List.mem_cons_of_mem _ hm)⟩

theorem refOf?_bundledMembers {ms : Members String} (ht : TextRefs (.obj ms)) :
    refOf? (c.bundledMembers here ms) = (refOf? ms).map (c.bundledRef here) := by
  unfold refOf?
  rw [find?_bundledMembers]
  cases hr : ms.find? "$ref" with
  | none => rfl
  | some w =>
    obtain ⟨s, rfl⟩ := ht ms (Json.mem_objects_self ms) w hr
    rfl

/-- Filling in a local document is filling in the document by what the local references get. -/
theorem filled_bundled {put : String → Members String → Document} {v : Document} (ht : TextRefs v) :
    filled put (c.bundled here v) = filled (fun ref => put (c.bundledRef here ref)) v := by
  induction v using Json.inductOn with
  | arr items ih =>
    simp only [bundled, bundledItems_eq, filled, filledItems_eq, List.map_map, Json.arr.injEq]
    exact List.map_congr_left fun x hx => ih x hx (ht.item hx)
  | obj ms ih =>
    have hm : filledMembers put (c.bundledMembers here ms) =
        filledMembers (fun ref => put (c.bundledRef here ref)) ms := by
      have each := fun m hm => ih m hm (ht.member hm)
      clear ih ht
      induction ms with
      | nil => rfl
      | cons m ms ihm =>
        obtain ⟨k, v⟩ := m
        have rest := ihm fun n hn => each n (by simp [hn])
        rw [bundledMembers, filledMembers, filledMembers, rest]
        by_cases hk : k = "$ref"
        · simp [hk]
        · simp [hk, each (k, v) (by simp)]
    rw [bundled, filled, filled, refOf?_bundledMembers ht, hm]
    cases refOf? ms <;> rfl
  | _ => rfl

theorem refsIn_bundled {v : Document} (hd : Distinct v) (ht : TextRefs v) {ref : String}
    (h : ref ∈ refsIn (c.bundled here v)) :
    ∃ r ∈ refsIn v, ref = c.bundledRef here r := by
  induction v using Json.inductOn with
  | arr items ih =>
    rw [bundled, bundledItems_eq, refsIn] at h
    obtain ⟨y, hy, h⟩ := mem_refsInItems.mp h
    obtain ⟨x, hx, rfl⟩ := List.mem_map.mp hy
    obtain ⟨r, hr, he⟩ := ih x hx (hd.item hx) (ht.item hx) h
    exact ⟨r, refsIn_item hx hr, he⟩
  | obj ms ih =>
    rw [bundled, refsIn, refOf?_bundledMembers ht, List.mem_append] at h
    rcases h with h | h
    · obtain ⟨r, hr, he⟩ := Option.map_eq_some_iff.mp (Option.mem_toList.mp h)
      exact ⟨r, refsIn_self hr, he.symm⟩
    · obtain ⟨m, hm, h⟩ := mem_refsInMembers.mp h
      rw [bundledMembers_eq] at hm
      obtain ⟨n, hn, rfl⟩ := List.mem_map.mp hm
      dsimp only [bundledMember] at h
      split at h
      next hk =>
        obtain ⟨s, hs⟩ := ht ms (Json.mem_objects_self ms) n.2 (hk ▸ Members.find?_of_mem hd.nodup hn)
        simp [hs, bundledTarget, refsIn] at h
      next =>
        obtain ⟨r, hr, he⟩ := ih n hn (hd.member hn) (ht.member hn) h
        exact ⟨r, refsIn_member hn hr, he⟩
  | _ => simp [bundled, refsIn] at h

/-- The definition that a document becomes in a bundle, at its place. -/
def bundledDefinition (c : Corpus) (d : Loaded) : List String × Members String := (c.leafPath d, c.definition d)

theorem definition_bare {d : Loaded} (h : d.body.find? defs = none) : (c.definition d).find? defs = none := by
  rw [definition, find?_bundledMembers, Members.find?_erase_ne (by decide), h]
  rfl

section Tree

variable (hr : c.Registered base) (hcan : c.Canonical base) (hroots : ∀ d ∈ c.documents, d.body.find? defs = none)

include hr hcan hroots

theorem placeAll_holds (done todo : List Loaded) (tree : Document) (hdone : ∀ d ∈ done, d ∈ c.documents)
    (htodo : ∀ d ∈ todo, d ∈ c.documents) (hn : todo.Nodup) (hnew : ∀ d ∈ todo, d ∉ done)
    (h : Holds (done.map c.bundledDefinition) tree) :
    ∃ next, c.placeAll tree todo = .ok next ∧ Holds ((done ++ todo).map c.bundledDefinition) next := by
  induction todo generalizing done tree with
  | nil => exact ⟨tree, rfl, by simpa using h⟩
  | cons d rest ih =>
    have hd := htodo d (by simp)
    obtain ⟨mid, hplace, hmid⟩ := h.define hr hcan hdone hd (hnew d (by simp)) (definition_bare (hroots d hd))
    obtain ⟨next, hrest, hnext⟩ := ih (d :: done) mid
      (fun e hmem => (List.mem_cons.mp hmem).elim (fun h => h ▸ hd) (hdone e))
      (fun e hmem => htodo e (by simp [hmem])) (List.nodup_cons.mp hn).2
      (fun e hmem hin => (List.mem_cons.mp hin).elim
        (fun h => (List.nodup_cons.mp hn).1 (h ▸ hmem)) (hnew e (by simp [hmem]))) hmid
    refine ⟨next, ?_, hnext.of_mem_iff fun e => ?_⟩
    · simp only [placeAll, hplace, bind, Except.bind]
      exact hrest
    · simp only [List.mem_map, List.mem_append, List.mem_cons]
      grind

theorem placeAll_documents :
    ∃ tree, c.placeAll (.obj []) c.documents = .ok tree ∧ Holds (c.documents.map c.bundledDefinition) tree := by
  obtain ⟨tree, ht, hh⟩ := placeAll_holds hr hcan hroots [] c.documents (.obj [])
    (by simp) (fun d hd => hd) (List.Nodup.of_map _ hr.nodup) (by simp) holds_empty
  exact ⟨tree, ht, by simpa using hh⟩

theorem bundle_eq (dialect : Document) {name : String} {top : Loaded} (htop : c.top name = .ok top) :
    ∃ (bs : Members String) (tree : Document), c.bundle dialect name = .ok (sorted (.obj bs)) ∧
      bs.find? "$ref" = some (.str ("#" ++ c.leafPointer top)) ∧
      Holds (c.documents.map c.bundledDefinition) tree ∧
      ∀ name path, nodeAt (name :: path) (.obj bs) = nodeAt (name :: path) tree := by
  obtain ⟨tree, ht, hh⟩ := placeAll_documents hr hcan hroots
  unfold bundle
  simp only [htop, ht]
  refine ⟨_, tree, rfl, ?_, hh, fun name path => ?_⟩
  · simp [Members.find?]
  · rw [nodeAt, nodeAt]
    congr 2
    cases hh.folders with
    | leaf hn =>
      rw [defs] at hn
      simp [children, Members.find?, hn, defs]
    | folder hs =>
      rw [defs] at hs
      simp [children, Members.find?, hs, defs]

end Tree

/-- No document lies below another one in the tree of definitions. -/
def Apart (c : Corpus) : Prop :=
  ∀ d ∈ c.documents, ∀ e ∈ c.documents, c.leafPath d <+: c.leafPath e → c.leafPath d = c.leafPath e

theorem Holds.nodeAt_definition {tree : Document} (h : Holds (c.documents.map c.bundledDefinition) tree)
    (ha : c.Apart) {d : Loaded} (hd : d ∈ c.documents) :
    nodeAt (c.leafPath d) tree = some (.obj (c.definition d)) := by
  obtain ⟨node, hat, hown⟩ := Option.map_eq_some_iff.mp (h.held _ (List.mem_map_of_mem hd))
  obtain ⟨ns, rfl⟩ := (h.folders.nodeAt hat).isObj
  have hnone : Members.find? defs ns = none := by
    by_contra hne
    have hdefs : hasDefinitions (.obj ns) = true := Option.isSome_iff_ne_none.mpr hne
    obtain ⟨e, he, hpre, hne⟩ := h.above _ _ hat hdefs
    obtain ⟨f, hf, rfl⟩ := List.mem_map.mp he
    exact hne (ha d hd f hf hpre)
  rw [own, Members.erase_eq_self hnone] at hown
  rw [bundledDefinition] at hat
  rw [hat, hown]
  rfl

/-- Only documents have identifiers, not the values in them. -/
def RootIds (c : Corpus) : Prop :=
  ∀ d ∈ c.documents, ∀ m ∈ d.body, ∀ o ∈ Json.objects m.2, o.find? "$id" = none

/-- In a bundle, the pointer to a key leads to what the key addresses, made local. -/
theorem bundle_resolve {bs : Members String} {tree : Document} (hr : c.Registered base)
    (ht : ∀ d ∈ c.documents, TextRefs d.document) (hi : c.RootIds) (ha : c.Apart)
    (hh : Holds (c.documents.map c.bundledDefinition) tree)
    (hnode : ∀ name path, nodeAt (name :: path) (.obj bs) = nodeAt (name :: path) tree)
    {d : Loaded} {fragment : String} {os : Members String} (hd : d ∈ c.documents)
    (hroot : Json.Pointer.Rooted fragment) (hf : Json.Pointer.resolve d.document fragment = .ok (.obj os)) :
    Json.Pointer.resolve (sorted (.obj bs)) (c.leafPointer d ++ fragment) =
      .ok (sorted (c.bundled d (.obj (os.erase "$id")))) := by
  have hat : nodeAt (c.leafPath d) (.obj bs) = some (.obj (c.definition d)) := by
    rw [← hh.nodeAt_definition ha hd]
    cases hpath : c.leafPath d with
    | nil => exact absurd hpath (leafPath_ne_nil hd)
    | cons name path => rw [hnode]
  have hbody : Json.Pointer.follow (c.bundled d (.obj (d.body.erase "$id"))) (Json.Pointer.tokens fragment) =
      .ok (c.bundled d (.obj (os.erase "$id"))) := by
    rw [Json.Pointer.resolve] at hf
    cases htok : Json.Pointer.tokens fragment with
    | nil =>
      rw [htok] at hf
      cases hf
      rfl
    | cons token path =>
      rw [htok] at hf
      obtain ⟨x, hx, hrest⟩ := Json.Pointer.follow_obj_cons hf
      have hid : "$id" ≠ token := by
        rintro rfl
        cases (hr.carried d hd).symm.trans hx
        cases Json.Pointer.follow_str hrest
      have hos : os.find? "$id" = none :=
        hi d hd _ (Members.mem_of_find? hx) os (Json.Pointer.objects_of_follow hrest (Json.mem_objects_self os))
      rw [Members.erase_eq_self hos]
      refine bundled_follow ((ht d hd).erase (by decide)) ?_
      rw [Json.Pointer.follow_erase hid]
      exact hf
  rw [Json.Pointer.resolve, leafPointer, tokens_pointerTo _ hroot, Json.Pointer.follow_sorted,
    Json.Pointer.follow_append, follow_tokensTo hat]
  have hdef : Json.obj (c.definition d) = c.bundled d (.obj (d.body.erase "$id")) := by rw [definition, bundled]
  simp only [Except.bind, hdef, hbody, Except.map]

end NoteSchema.Corpus
