import NoteSchema.Proofs.Corpus.Kept
import NoteSchema.Proofs.Corpus.Loading
import NoteSchema.Proofs.Corpus.TwinWalk

namespace NoteSchema.Corpus

open Json (Permuted)

variable {base : String} {c c' : Corpus} {bodies bodies' : List Document}

/-- The identifier that is written in a body. -/
def identifier? : Document → Option Document
  | .obj ms => Members.find? "$id" ms
  | _ => none

theorem identifier?_of_ofBody {body : Document} {d : Loaded} (h : ofBody base body = .ok d) :
    identifier? body = some (.str d.identifier) := by
  obtain ⟨rfl, hid, _⟩ := ofBody_eq_ok.mp h
  exact hid

theorem mem_put_self (d : Loaded) (ds : List Loaded) : d ∈ put d ds := by
  induction ds with
  | nil => simp [put]
  | cons e ds ih =>
    rw [put]
    split
    · simp
    · exact List.mem_cons_of_mem e ih

theorem mem_put_of_ne {d e : Loaded} {ds : List Loaded} (he : e ∈ ds) (hne : e.identifier ≠ d.identifier) :
    e ∈ put d ds := by
  induction ds with
  | nil => cases he
  | cons x ds ih =>
    rw [put]
    rcases List.mem_cons.mp he with rfl | he
    · rw [if_neg hne]
      exact List.mem_cons_self
    · split
      · exact List.mem_cons_of_mem d he
      · exact List.mem_cons_of_mem x (ih he)

/-- Bodies of different identifiers are all kept. -/
theorem mem_addBodies {ds out : List Loaded} (h : addBodies base ds bodies = .ok out)
    (hids : (bodies.map identifier?).Nodup)
    (hds : ∀ e ∈ ds, some (.str e.identifier) ∉ bodies.map identifier?) :
    (∀ e ∈ ds, e ∈ out) ∧ (∀ body ∈ bodies, ∃ d ∈ out, ofBody base body = .ok d) ∧
      ∀ d ∈ out, d ∈ ds ∨ ∃ body ∈ bodies, ofBody base body = .ok d := by
  induction bodies generalizing ds with
  | nil =>
    cases h
    exact ⟨fun _ he => he, by simp, fun _ hd => Or.inl hd⟩
  | cons body rest ih =>
    rw [addBodies] at h
    split at h
    next d hd =>
      obtain ⟨hfresh, hrest⟩ := List.nodup_cons.mp hids
      have hid := identifier?_of_ofBody hd
      have hput : ∀ e ∈ put d ds, some (.str e.identifier) ∉ rest.map identifier? := by
        intro e he
        rcases mem_put he with rfl | he
        · rwa [← hid]
        · exact fun hmem => hds e he (List.mem_cons_of_mem _ hmem)
      obtain ⟨kept, made, only⟩ := ih h hrest hput
      refine ⟨fun e he => kept e (mem_put_of_ne he fun hne => ?_), fun b hb => ?_, fun e he => ?_⟩
      · exact hds e he (by simp [hid, hne])
      · rcases List.mem_cons.mp hb with rfl | hb
        · exact ⟨d, kept d (mem_put_self d ds), hd⟩
        · exact made b hb
      · rcases only e he with he | ⟨b, hb, hbe⟩
        · rcases mem_put he with rfl | he
          · exact Or.inr ⟨body, by simp, hd⟩
          · exact Or.inl he
        · exact Or.inr ⟨b, by simp [hb], hbe⟩
    next => cases h

/-- The documents of a corpus are the bodies that it was made of. -/
theorem mem_ofBodies (h : ofBodies base bodies = .ok c) (hids : (bodies.map identifier?).Nodup) :
    (∀ body ∈ bodies, ∃ d ∈ c.documents, ofBody base body = .ok d) ∧
      ∀ d ∈ c.documents, ∃ body ∈ bodies, ofBody base body = .ok d := by
  obtain ⟨ds, ha, rfl⟩ := addBodies_of_ofBodies h
  obtain ⟨_, made, only⟩ := mem_addBodies ha hids (by simp)
  simp only [inOrder, List.mem_mergeSort]
  exact ⟨made, fun d hd => (only d hd).resolve_left (by simp)⟩

theorem reordered_of_ofBody {body body' : Document} {d e : Loaded} (h : Permuted body body')
    (hd : ofBody base body = .ok d) (he : ofBody base body' = .ok e) : d.Reordered e := by
  obtain ⟨rfl, hdid, hdaddress, _⟩ := ofBody_eq_ok.mp hd
  obtain ⟨rfl, heid, headdress, _⟩ := ofBody_eq_ok.mp he
  obtain ⟨y, hy, hstr⟩ := h.exists_find? hdid
  obtain rfl := hstr.eq_str
  have hsame : e.identifier = d.identifier := Json.str.inj (Option.some.inj (heid.symm.trans hy))
  rw [hsame] at headdress
  exact ⟨hsame.symm, Option.some.inj (hdaddress.symm.trans headdress), h⟩

/-- Documents in the order of their identifiers come in the same order when each has its counterpart. -/
theorem forall₂_of_inOrder {xs ys : List Loaded} (hx : xs.Pairwise fun a b => a.identifier < b.identifier)
    (hy : ys.Pairwise fun a b => a.identifier < b.identifier) (h : ∀ d ∈ xs, ∃ e ∈ ys, d.Reordered e)
    (h' : ∀ e ∈ ys, ∃ d ∈ xs, d.Reordered e) : List.Forall₂ Loaded.Reordered xs ys := by
  induction xs generalizing ys with
  | nil =>
    cases ys with
    | nil => exact .nil
    | cons e ys =>
      obtain ⟨d, hd, _⟩ := h' e (by simp)
      cases hd
  | cons d xs ih =>
    cases ys with
    | nil =>
      obtain ⟨e, he, _⟩ := h d (by simp)
      cases he
    | cons e ys =>
      obtain ⟨hleast, hx⟩ := List.pairwise_cons.mp hx
      obtain ⟨hleast', hy⟩ := List.pairwise_cons.mp hy
      -- the first documents belong together: the counterpart of each comes no earlier than the other one
      have head : d.Reordered e := by
        obtain ⟨e', he', hde⟩ := h d (by simp)
        rcases List.mem_cons.mp he' with rfl | he'
        · exact hde
        · obtain ⟨d', hd', hde'⟩ := h' e (by simp)
          rcases List.mem_cons.mp hd' with rfl | hd'
          · exact hde'
          · have hlt := hleast d' hd'
            have hlt' := hleast' e' he'
            rw [← hde.identifier, ← hde'.identifier] at hlt'
            exact absurd hlt (lt_asymm hlt')
      refine .cons head (ih hx hy (fun x hxs => ?_) fun y hys => ?_)
      · obtain ⟨y, hy, hxy⟩ := h x (by simp [hxs])
        rcases List.mem_cons.mp hy with rfl | hy
        · have hlt := hleast x hxs
          rw [hxy.identifier, head.identifier] at hlt
          exact absurd hlt (lt_irrefl _)
        · exact ⟨y, hy, hxy⟩
      · obtain ⟨x, hx, hxy⟩ := h' y (by simp [hys])
        rcases List.mem_cons.mp hx with rfl | hx
        · have hlt := hleast' y hys
          rw [← hxy.identifier, ← head.identifier] at hlt
          exact absurd hlt (lt_irrefl _)
        · exact ⟨x, hx, hxy⟩

theorem exists_of_mem_left {α β : Type} {R : α → β → Prop} {xs : List α} {ys : List β} (h : List.Forall₂ R xs ys)
    {x : α} (hx : x ∈ xs) : ∃ y ∈ ys, R x y := by
  induction h with
  | nil => cases hx
  | @cons a b as bs head _ ih =>
    rcases List.mem_cons.mp hx with rfl | hx
    · exact ⟨b, by simp, head⟩
    · obtain ⟨y, hy, hxy⟩ := ih hx
      exact ⟨y, by simp [hy], hxy⟩

theorem identifiers_of_permuted {middle : List Document} (h : List.Forall₂ Permuted middle bodies')
    (htext : ∀ body ∈ middle, ∃ s, identifier? body = some (.str s)) :
    bodies'.map identifier? = middle.map identifier? := by
  induction h with
  | nil => rfl
  | @cons body body' _ _ head _ ih =>
    have hsame : identifier? body' = identifier? body := by
      obtain ⟨s, hs⟩ := htext body (by simp)
      cases body with
      | obj ms =>
        obtain ⟨ns, rfl⟩ := head.exists_obj
        obtain ⟨y, hy, hstr⟩ := head.exists_find? hs
        obtain rfl := hstr.eq_str
        exact hy.trans hs.symm
      | _ => cases hs
    rw [List.map_cons, List.map_cons, hsame, ih fun b hb => htext b (by simp [hb])]

/-- Corpora of the same bodies, listed and written in another order, are the same but for the order of members. -/
theorem reordered_ofBodies {middle : List Document} (hlist : bodies.Perm middle)
    (hkeys : List.Forall₂ Permuted middle bodies') (hids : (bodies.map identifier?).Nodup)
    (hc : ofBodies base bodies = .ok c) (hc' : ofBodies base bodies' = .ok c') : c.Reordered c' := by
  obtain ⟨made, only⟩ := mem_ofBodies hc hids
  have htext : ∀ body ∈ middle, ∃ s, identifier? body = some (.str s) := by
    intro body hbody
    obtain ⟨d, _, hd⟩ := made body (hlist.mem_iff.mpr hbody)
    exact ⟨_, identifier?_of_ofBody hd⟩
  have hids' : (bodies'.map identifier?).Nodup := by
    rw [identifiers_of_permuted hkeys htext]
    exact (hlist.map identifier?).nodup_iff.mp hids
  obtain ⟨made', only'⟩ := mem_ofBodies hc' hids'
  have hdistinct : ∀ body ∈ bodies, body.Distinct := by
    intro body hbody
    obtain ⟨_, _, hp⟩ := exists_of_mem_left hkeys (hlist.mem_iff.mp hbody)
    exact hp.left
  have hdistinct' : ∀ body ∈ bodies', body.Distinct := by
    intro body hbody
    obtain ⟨_, _, hp⟩ := exists_of_mem_left hkeys.flip hbody
    exact hp.right
  refine forall₂_of_inOrder (registered_ofBodies hdistinct hc).inOrder (registered_ofBodies hdistinct' hc').inOrder
    (fun d hd => ?_) fun e he => ?_
  · obtain ⟨body, hbody, hd⟩ := only d hd
    obtain ⟨body', hbody', hp⟩ := exists_of_mem_left hkeys (hlist.mem_iff.mp hbody)
    obtain ⟨e, he, hbe⟩ := made' body' hbody'
    exact ⟨e, he, reordered_of_ofBody hp hd hbe⟩
  · obtain ⟨body', hbody', he⟩ := only' e he
    obtain ⟨body, hbody, hp⟩ := exists_of_mem_left hkeys.flip hbody'
    obtain ⟨d, hd, hbd⟩ := made body (hlist.mem_iff.mpr hbody)
    exact ⟨d, hd, reordered_of_ofBody hp hbd he⟩

/-- Neither the order of bodies nor the order of members in them is seen in a bundle, provided that no document has a
list with an object in it for its definitions: such a list is taken for a list of pairs, and an object of two members
for the pair of their names. Nor is it seen in a document with its references replaced, if no definitions at any depth
are such a list or a reference, which could put one in their place. References may lead back into themselves. -/
theorem outputs_ignore_order {middle : List Document} (hlist : bodies.Perm middle)
    (hkeys : List.Forall₂ Permuted middle bodies') (hids : (bodies.map identifier?).Nodup)
    (hc : ofBodies base bodies = .ok c) (hc' : ofBodies base bodies' = .ok c') :
    ((∀ ms, .obj ms ∈ bodies → ∀ w ∈ Members.find? defs ms, listsObject w = false) → ∀ dialect name v w,
      c.bundle dialect name = .ok v → c'.bundle dialect name = .ok w → v = w) ∧
    ((∀ body ∈ bodies, PlainDefinitions body) → ∀ name v w,
      c.dereference name = .ok v → c'.dereference name = .ok w → v = w) := by
  have h := reordered_ofBodies hlist hkeys hids hc hc'
  have hbody : ∀ d ∈ c.documents, d.document ∈ bodies := by
    intro d hd
    obtain ⟨body, hbody, hd⟩ := (mem_ofBodies hc hids).2 d hd
    exact (ofBody_eq_ok.mp hd).1 ▸ hbody
  refine ⟨fun hdefs dialect name => ?_, fun hplain name v w hv hw => ?_⟩
  · exact bundle_agree h (fun d hd => hdefs d.body (hbody d hd)) dialect name
  · unfold dereference at hv hw
    cases htop : c.top name with
    | error e =>
      rw [htop] at hv
      cases hv
    | ok top =>
      cases htop' : c'.top name with
      | error e =>
        rw [htop'] at hw
        cases hw
      | ok top' =>
        rw [htop] at hv
        rw [htop'] at hw
        have hplain' : ∀ d ∈ c.documents, PlainDefinitions d.document := fun d hd => hplain _ (hbody d hd)
        exact dereferenced_agree h hplain' (h.top htop htop') (top_mem htop) (top_mem htop') v w hv hw

/-- The body of a document with the given members. -/
def drawn (name : String) (own : Members String) : Members String :=
  ("$id", .str ("https://example.org/schemas/core/" ++ name ++ ".schema.json")) :: own

def drawnDocument (folder : List String) (name : String) (own : Members String) : Loaded where
  identifier := "https://example.org/schemas/core/" ++ String.intercalate "/" (folder ++ [name]) ++ ".schema.json"
  id := ⟨"core", folder, name, .schema⟩
  body := drawn (String.intercalate "/" (folder ++ [name])) own

theorem inOrder_of_lt {d e : Loaded} (h : d.identifier < e.identifier) : inOrder [d, e] = [d, e] :=
  inOrder_of_pairwise (List.pairwise_pair.mpr h)

theorem inOrder_of_gt {d e : Loaded} (h : d.identifier < e.identifier) : inOrder [e, d] = [d, e] := by
  have hle : ¬ e.identifier ≤ d.identifier := not_le_of_gt h
  simp [inOrder, List.mergeSort, hle]

def personMembers : Members String :=
  [("home", .obj [("$ref", .str "https://example.org/schemas/core/Address.schema.json")])]

def addressMembers : Members String :=
  [("owner", .obj [("$ref", .str "https://example.org/schemas/core/Person.schema.json")]), ("title", .str "Address")]

/-- Two documents that refer to each other. -/
def household (address : Members String) : List Document :=
  [.obj (drawn "Person" personMembers), .obj (drawn "Address" address)]

def loadedHousehold (address : Members String) : Corpus where
  documents := [drawnDocument [] "Address" address, drawnDocument [] "Person" personMembers]

theorem ofBodies_household (address : Members String) :
    ofBodies "https://example.org/schemas/" (household address) = .ok (loadedHousehold address) ∧
    ofBodies "https://example.org/schemas/" (household address).reverse = .ok (loadedHousehold address) := by
  have hlt : (drawnDocument [] "Address" address).identifier < (drawnDocument [] "Person" personMembers).identifier := by
    change "https://example.org/schemas/core/Address.schema.json" < "https://example.org/schemas/core/Person.schema.json"
    decide
  exact ⟨congrArg (fun ds => Except.ok (Corpus.mk ds [])) (inOrder_of_gt hlt),
    congrArg (fun ds => Except.ok (Corpus.mk ds [])) (inOrder_of_lt hlt)⟩

theorem exists_of_toBool {α ε : Type} {x : Except ε α} (h : x.toBool = true) : ∃ a, x = .ok a := by
  cases x with
  | ok a => exact ⟨a, rfl⟩
  | error e => cases h

theorem household_permuted :
    List.Forall₂ Permuted (household addressMembers).reverse (household addressMembers.reverse).reverse := by
  have hperm : (drawn "Address" addressMembers).Perm (drawn "Address" addressMembers.reverse) :=
    (List.reverse_perm addressMembers).symm.cons _
  exact .cons (.of_perm hperm (by decide)) (.cons (.refl (by decide)) .nil)

theorem household_outputs : ∃ c c' bundle flat,
    ofBodies "https://example.org/schemas/" (household addressMembers) = .ok c ∧
    ofBodies "https://example.org/schemas/" (household addressMembers.reverse).reverse = .ok c' ∧
    c.bundle .null "Person" = .ok bundle ∧ c'.bundle .null "Person" = .ok bundle ∧
    c.dereference "Person" = .ok flat ∧ c'.dereference "Person" = .ok flat := by
  have hc := (ofBodies_household addressMembers).1
  have hc' := (ofBodies_household addressMembers.reverse).2
  have hids : ((household addressMembers).map identifier?).Nodup := by decide
  obtain ⟨hbundle, hflat⟩ := outputs_ignore_order (List.reverse_perm _).symm household_permuted hids hc hc'
  obtain ⟨v, hv⟩ := exists_of_toBool (x := (loadedHousehold addressMembers).bundle .null "Person") (by decide)
  obtain ⟨v', hv'⟩ := exists_of_toBool (x := (loadedHousehold addressMembers.reverse).bundle .null "Person")
    (by decide)
  obtain ⟨w, hw⟩ := exists_of_toBool (x := (loadedHousehold addressMembers).dereference "Person") (by decide)
  obtain ⟨w', hw'⟩ := exists_of_toBool (x := (loadedHousehold addressMembers.reverse).dereference "Person")
    (by decide)
  have hlists : ∀ ms, .obj ms ∈ household addressMembers → ∀ w ∈ Members.find? defs ms, listsObject w = false := by
    intro ms hms
    rcases List.mem_pair.mp hms with hms | hms
    · cases hms
      decide
    · cases hms
      decide
  obtain rfl := hbundle hlists .null "Person" v v' hv hv'
  obtain rfl := hflat (by decide) "Person" w w' hw hw'
  exact ⟨_, _, v, w, hc, hc', hv, hv', hw, hw'⟩

/-- A document with a definition in the place of the other one, whose definitions are a list of an object with two
members of the given names. -/
def pairBodies (k l : String) : List Document :=
  [.obj (drawn "A" [(defs, .obj [("B", .obj [])])]),
   .obj (drawn "A/B" [(defs, .arr [.obj [(k, .bool true), (l, .bool true)]])])]

def loadedPair (k l : String) : Corpus where
  documents := [drawnDocument [] "A" [(defs, .obj [("B", .obj [])])],
    drawnDocument ["A"] "B" [(defs, .arr [.obj [(k, .bool true), (l, .bool true)]])]]

def pairTree (k l : String) : Document :=
  .obj [(defs, .obj [("core", .obj [(defs, .obj [("A", .obj [(defs, .obj [("B", .obj [(defs, .obj [(k, .str l)])])])])])])])]

theorem placeAll_pair (k l : String) :
    (loadedPair k l).placeAll (.obj []) (loadedPair k l).documents = .ok (pairTree k l) := by
  rfl

theorem bundle_pair (k l : String) : ∃ bundle, (loadedPair k l).bundle .null "A" = .ok bundle ∧
    Json.Pointer.resolve bundle (pointerTo ["core", "A", "B"] ++ "/$defs") = .ok (.obj [(k, .str l)]) := by
  have hroot : Json.Pointer.Rooted "/$defs" := Or.inr ⟨"$defs".toList, rfl, by decide⟩
  have hnode : nodeAt ["core", "A", "B"] (pairTree k l) = some (.obj [(defs, .obj [(k, .str l)])]) := rfl
  have htokens : Json.Pointer.tokens "/$defs" = [defs] := by decide
  have hfollow : Json.Pointer.follow (.obj [(defs, .obj [(k, .str l)])]) [defs] = .ok (.obj [(k, .str l)]) := rfl
  have hsorted : Json.sorted (.obj [(k, .str l)]) = .obj [(k, .str l)] := by
    simp [Json.sorted, Json.sortedValues, Json.sortMembers]
  obtain ⟨bundle, hbundle⟩ := exists_of_toBool (x := (loadedPair k l).bundle .null "A") rfl
  refine ⟨bundle, hbundle, ?_⟩
  rw [bundle_resolve_nodeAt hbundle (placeAll_pair k l) (by simp) hnode hroot, htokens, hfollow]
  exact congrArg Except.ok hsorted

theorem ofBodies_pair (k l : String) : ofBodies "https://example.org/schemas/" (pairBodies k l) = .ok (loadedPair k l) := by
  have hlt : (drawnDocument [] "A" [(defs, .obj [("B", .obj [])])]).identifier <
      (drawnDocument ["A"] "B" [(defs, .arr [.obj [(k, .bool true), (l, .bool true)]])]).identifier := by
    change "https://example.org/schemas/core/A.schema.json" < "https://example.org/schemas/core/A/B.schema.json"
    decide
  exact congrArg (fun ds => Except.ok (Corpus.mk ds [])) (inOrder_of_lt hlt)

/-- Where definitions are a list with an object of two members in it, the order of these members is seen in a
bundle. -/
theorem pair_order_shows : ∃ c c' v w,
    List.Forall₂ Permuted (pairBodies "a" "b") (pairBodies "b" "a") ∧ ((pairBodies "a" "b").map identifier?).Nodup ∧
    ofBodies "https://example.org/schemas/" (pairBodies "a" "b") = .ok c ∧
    ofBodies "https://example.org/schemas/" (pairBodies "b" "a") = .ok c' ∧
    c.bundle .null "A" = .ok v ∧ c'.bundle .null "A" = .ok w ∧ v ≠ w := by
  obtain ⟨v, hv, hvdefs⟩ := bundle_pair "a" "b"
  obtain ⟨w, hw, hwdefs⟩ := bundle_pair "b" "a"
  refine ⟨_, _, v, w, ?_, by decide, ofBodies_pair "a" "b", ofBodies_pair "b" "a", hv, hw, ?_⟩
  · have hpair : Permuted (.obj [("a", .bool true), ("b", .bool true)]) (.obj [("b", .bool true), ("a", .bool true)]) :=
      .of_perm (List.Perm.swap _ _ _) (by decide)
    have hlist : Permuted (.arr [.obj [("a", .bool true), ("b", .bool true)]])
        (.arr [.obj [("b", .bool true), ("a", .bool true)]]) := .of_items (.cons hpair .nil)
    have hown := Permuted.nil.cons (k := defs) rfl hlist
    exact .cons (.refl (by decide)) (.cons (hown.cons rfl (.refl (.str _))) .nil)
  · rintro rfl
    rw [hvdefs] at hwdefs
    simp at hwdefs

end NoteSchema.Corpus
