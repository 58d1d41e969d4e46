import NoteSchema.Proofs.Corpus.Merged
import NoteSchema.Proofs.Corpus.Placement
import NoteSchema.Proofs.Noted

namespace NoteSchema.Corpus

variable {value : Members String} {path : List String}

/-- A node that definitions can be kept below: an object whose definitions, if there are any, are an object. -/
def IsNode (v : Document) : Prop := ∃ ms : Members String, v = .obj ms ∧ Divided ms

/-- A document that can join any node: what it has for definitions can be taken for an object whose names are texts. -/
def Joins (value : Members String) : Prop :=
  ∃ ds names, asMembers ((value.find? defs).getD (.obj [])) = .ok (ds, names) ∧ names.all NoteSchema.Key.isText = true

/-- The way of a document to its place is clear: it leads from node to node, and in its place is nothing, `null`, or a
node that the document can join. -/
def Clear (value : Members String) : List String → Document → Prop
  | [], v => v = .null ∨ Joins value ∧ IsNode v
  | name :: path, v => IsNode v ∧ ∀ w, (children v).find? name = some w → Clear value path w

section Nodes

variable {ms : Members String} {name : String} {child : Document}

theorem isNode_empty : IsNode (.obj []) := ⟨[], rfl, Or.inl rfl⟩

theorem isNode_graft : IsNode (graft ms name child) :=
  ⟨_, rfl, Or.inr ⟨_, by rw [Members.find?_set, if_pos (beq_self_eq_true defs)]⟩⟩

theorem IsNode.divided (h : IsNode (.obj ms)) : Divided ms := by
  obtain ⟨_, hms, hdivided⟩ := h
  cases hms
  exact hdivided

theorem membersOf_eq_ok {v : Document} : membersOf v = .ok ms ↔ v = .obj ms := by
  cases v <;> simp [membersOf]

theorem definitions_eq_obj {ds : Members String} :
    (ms.find? defs).getD (.obj []) = .obj ds ↔ Divided ms ∧ ds = children (.obj ms) := by
  constructor
  · intro h
    exact membersOf_eq_children (membersOf_eq_ok.mpr h)
  · rintro ⟨hnone | ⟨es, hsome⟩, rfl⟩
    · simp [children, hnone]
    · simp [children, hsome]

theorem Divided.joins (h : Divided value) : Joins value := by
  rcases h with hnone | ⟨ds, hsome⟩
  · exact ⟨[], [], by rw [hnone]; rfl, rfl⟩
  · exact ⟨ds, [], by rw [hsome]; rfl, rfl⟩

theorem isNode_of_landed {others leaf : Members String} (h : Landed value others leaf) (hv : IsNode (.obj value)) :
    IsNode (.obj leaf) := by
  rcases h with rfl | ⟨_, _, _, rfl⟩
  · exact hv
  · exact ⟨_, rfl, Or.inr ⟨_, by rw [Members.find?_set, if_pos (beq_self_eq_true defs)]⟩⟩

end Nodes

/-- A document that can join any node joins the one that is in its place. -/
theorem exists_join {present : Document} (h : Joins value) (hnode : IsNode present) :
    ∃ leaf, join value present = .ok leaf := by
  obtain ⟨ds, names, hds, htexts⟩ := h
  obtain ⟨ms, rfl, hdivided⟩ := hnode
  have hcomparable (alone : Bool) : comparable names alone = true := by rw [comparable, htexts, Bool.true_or]
  exact ⟨_, join_eq_ok.mpr
    ⟨ds, names, ms, _, hds, rfl, membersOf_eq_ok.mpr (definitions_eq_obj.mpr ⟨hdivided, rfl⟩), hcomparable _, rfl⟩⟩

theorem exists_landing {present : Option Document} (h : ∀ w, present = some w → Clear value [] w) :
    ∃ leaf, landing value present = .ok leaf := by
  cases present with
  | none => exact ⟨value, rfl⟩
  | some v =>
    rcases h v rfl with rfl | ⟨hjoins, hnode⟩
    · exact ⟨value, rfl⟩
    · have hne : v ≠ .null := by
        rintro rfl
        obtain ⟨_, hms, _⟩ := hnode
        cases hms
      rw [landing_of_ne_null value hne]
      exact exists_join hjoins hnode

theorem clear_empty (hpath : path ≠ []) : Clear value path (.obj []) := by
  cases path with
  | nil => exact absurd rfl hpath
  | cons name path =>
    refine ⟨isNode_empty, fun w hw => ?_⟩
    cases hw

/-- A way goes on below a name, whether something is there or not. -/
theorem clear_below_iff {ms : Members String} {name : String} (hpath : path ≠ []) :
    Clear value path (below name ms) ↔ ∀ w, (children (.obj ms)).find? name = some w → Clear value path w := by
  unfold below
  cases (children (.obj ms)).find? name with
  | none => simpa using clear_empty hpath
  | some w => simp

/-- A document comes to its place in a tree if the way there is clear. -/
theorem exists_place {tree : Document} (hpath : path ≠ []) (h : Clear value path tree) :
    ∃ next, place value path tree = .ok next := by
  induction path generalizing tree with
  | nil => exact absurd rfl hpath
  | cons name rest ih =>
    obtain ⟨⟨ms, rfl, hdivided⟩, hthere⟩ := h
    have hpresent := definitions_eq_obj.mpr ⟨hdivided, rfl⟩
    cases rest with
    | nil =>
      obtain ⟨leaf, hleaf⟩ := exists_landing hthere
      simp only [place_singleton, Fault.exists_bind_ok, membersOf_eq_ok]
      exact ⟨ms, rfl, _, hpresent, leaf, hleaf, _, rfl⟩
    | cons second rest =>
      have hrest : second :: rest ≠ [] := List.cons_ne_nil second rest
      obtain ⟨child, hchild⟩ := ih hrest ((clear_below_iff hrest).mpr hthere)
      simp only [place, Fault.exists_bind_ok, membersOf_eq_ok]
      exact ⟨ms, rfl, _, hpresent, child, hchild, _, rfl⟩

/-- What can join a node is told from the value that is put there alone. -/
theorem Clear.imp {other : Members String} {v : Document} (h : Clear value path v) (hjoins : Joins value → Joins other) :
    Clear other path v := by
  induction path generalizing v with
  | nil => exact h.imp_right fun hnode => ⟨hjoins hnode.1, hnode.2⟩
  | cons name path ih => exact ⟨h.1, fun w hw => ih (h.2 w hw)⟩

theorem Clear.joins {ms : Members String} (h : Clear value path (.obj ms)) : Joins ms := by
  cases path with
  | nil =>
    rcases h with hnull | ⟨_, hnode⟩
    · cases hnull
    · exact hnode.divided.joins
  | cons name path => exact h.1.divided.joins

/-- A way that is clear through a document is clear where the document has landed, if it is through what was there. -/
theorem Clear.landed {joined others leaf : Members String} (h : Clear value path (.obj joined))
    (hland : Landed joined others leaf)
    (hothers : ∀ name rest w, path = name :: rest → others.find? name = some w → Clear value rest w) :
    Clear value path (.obj leaf) := by
  cases path with
  | nil =>
    rcases h with hnull | ⟨hjoins, hnode⟩
    · cases hnull
    · exact Or.inr ⟨hjoins, isNode_of_landed hland hnode⟩
  | cons name rest =>
    refine ⟨isNode_of_landed hland h.1, fun w hw => ?_⟩
    rcases hland.definition hw with hown | hother
    · exact h.2 w (hown h.1.divided)
    · exact hothers name rest w rfl hother

/-- A clear way stays clear when a document is put into the tree, if it is clear through that document where it leads
through its place, and if what comes this way can join others where the document comes to lie below it. -/
theorem Clear.place {joined : Members String} {landing : List String} {tree next : Document}
    (h : Clear value path tree) (hpath : path ≠ []) (hplace : place joined landing tree = .ok next)
    (hbelow : ∀ rest, path = landing ++ rest → Clear value rest (.obj joined))
    (habove : path <+: landing → Joins value) : Clear value path next := by
  induction landing generalizing path tree next with
  | nil =>
    cases hplace
    exact h
  | cons name later ih =>
    cases path with
    | nil => exact absurd rfl hpath
    | cons other rest =>
      obtain ⟨ms, child, rfl, _, rfl, hcase⟩ := place_cases hplace
      refine ⟨isNode_graft, fun w hw => ?_⟩
      rw [children_graft, Members.find?_set] at hw
      by_cases hname : name = other
      · subst hname
        obtain rfl : child = w := by simpa using hw
        rcases hcase with ⟨rfl, leaf, rfl, hland, _⟩ | ⟨hlater, hchild⟩
        · -- the document lands here: the way goes on through it and through what was there
          refine (hbelow rest rfl).landed hland fun k more x hmore hx => ?_
          subst hmore
          have hwas : Clear value (k :: more) (below name ms) := (clear_below_iff (by simp)).mpr h.2
          exact hwas.2 x hx
        · cases rest with
          | nil =>
            -- the way ends above the place of the document, where a node is left
            have hnode : IsNode child := by
              cases later with
              | nil => exact absurd rfl hlater
              | cons second later =>
                obtain ⟨_, _, _, _, rfl, _⟩ := place_cases hchild
                exact isNode_graft
            exact Or.inr ⟨habove (by simp), hnode⟩
          | cons k more =>
            have hwas : Clear value (k :: more) (below name ms) := (clear_below_iff (by simp)).mpr h.2
            refine ih hwas (by simp) hchild (fun rest hrest => hbelow rest (by rw [hrest]; rfl)) fun hprefix => ?_
            exact habove (List.cons_prefix_cons.mpr ⟨rfl, hprefix⟩)
      · have hother : (children (.obj ms)).find? other = some w := by simpa [hname] using hw
        exact h.2 w hother

/-- A document with its place leaves the way of another one clear. -/
def Admits (x y : List String × Members String) : Prop := ∀ rest, y.1 = x.1 ++ rest → Clear y.2 rest (.obj x.2)

/-- A way stays clear when a document is put into the tree that leaves it clear and that it leaves clear. -/
theorem Clear.admitted {x y : List String × Members String} {tree next : Document} (h : Clear y.2 y.1 tree)
    (hpath : y.1 ≠ []) (hplace : Corpus.place x.2 x.1 tree = .ok next) (hxy : Admits x y) (hyx : Admits y x) :
    Clear y.2 y.1 next := by
  refine h.place hpath hplace hxy fun hprefix => ?_
  obtain ⟨rest, hrest⟩ := hprefix
  exact (hyx rest hrest.symm).joins

section Local

variable {c : Corpus} {here : Loaded} {v : Document}

theorem exists_pairOf_bundled {p : NoteSchema.Key × Document} (h : pairOf v = .ok p) :
    ∃ w, pairOf (c.bundled here v) = .ok (p.1, w) := by
  cases v with
  | arr xs =>
    obtain ⟨x, rfl, hname⟩ := items_of_pairOf h
    have hsame : c.bundled here x = x := by
      cases x with
      | arr | obj => cases hname
      | _ => rfl
    exact ⟨c.bundled here p.2, by simp only [bundled, bundledItems, hsame, pairOf, hname]⟩
  | obj ms =>
    rcases ms with _ | ⟨⟨k, x⟩, _ | ⟨⟨l, y⟩, _ | ⟨m, ms⟩⟩⟩
    · cases h
    · cases h
    · cases h
      exact ⟨_, rfl⟩
    · cases h
  | str s => exact ⟨p.2, h⟩
  | _ => cases h

/-- Pairs keep their names when references are made local. -/
theorem exists_pairsOf_bundled {xs : List Document} {ms ds : Members String} {names all : List NoteSchema.Key}
    (h : pairsOf ms names xs = .ok (ds, all)) (ns : Members String) :
    ∃ es, pairsOf ns names (xs.map (c.bundled here)) = .ok (es, all) := by
  induction xs generalizing ms ns names with
  | nil =>
    cases h
    exact ⟨ns, rfl⟩
  | cons x xs ih =>
    obtain ⟨⟨k, v⟩, hp, h⟩ := Fault.bind_eq_ok.mp h
    obtain ⟨w, hw⟩ : ∃ w, pairOf (c.bundled here x) = .ok (k, w) := exists_pairOf_bundled hp
    obtain ⟨es, hes⟩ := ih h (ns.set (Json.Name.text ((names.find? (· == k)).getD k)) w)
    exact ⟨es, Fault.bind_eq_ok.mpr ⟨(k, w), hw, hes⟩⟩

theorem exists_asMembers_bundled {ds : Members String} {names : List NoteSchema.Key} (h : asMembers v = .ok (ds, names)) :
    ∃ es, asMembers (c.bundled here v) = .ok (es, names) := by
  cases v with
  | obj ms =>
    cases h
    exact ⟨_, rfl⟩
  | arr xs =>
    rw [bundled, bundledItems_eq]
    exact exists_pairsOf_bundled h []
  | str s => exact ⟨ds, h⟩
  | _ => cases h

theorem Joins.definition {d : Loaded} (h : Joins d.body) : Joins (c.definition d) := by
  obtain ⟨ds, names, hds, htexts⟩ := h
  unfold Joins
  rw [Corpus.definition, find?_bundledMembers, Members.find?_erase_ne (by decide)]
  cases hown : d.body.find? defs with
  | none => exact ⟨[], [], rfl, rfl⟩
  | some w =>
    rw [hown, Option.getD_some] at hds
    rw [Option.map_some, Option.getD_some, bundledMember_of_ne (by decide)]
    obtain ⟨es, hes⟩ : ∃ es, asMembers (c.bundled d w) = .ok (es, names) := exists_asMembers_bundled hds
    exact ⟨es, names, hes, htexts⟩

theorem Divided.bundledMembers {ms : Members String} (h : Divided ms) : Divided (c.bundledMembers here ms) := by
  unfold Divided
  rw [find?_bundledMembers]
  rcases h with hnone | ⟨ds, hsome⟩
  · exact Or.inl (by rw [hnone]; rfl)
  · exact Or.inr ⟨c.bundledMembers here ds, by rw [hsome, Option.map_some, bundledMember_of_ne (by decide), bundled]⟩

theorem children_bundledMembers {ms : Members String} (h : Divided ms) :
    children (.obj (c.bundledMembers here ms)) = c.bundledMembers here (children (.obj ms)) := by
  unfold children
  dsimp only
  rw [find?_bundledMembers]
  rcases h with hnone | ⟨ds, hsome⟩
  · rw [hnone]
    rfl
  · rw [hsome, Option.map_some, bundledMember_of_ne (by decide), bundled]

/-- Ways that are clear stay clear when references are made local. -/
theorem Clear.bundledMember (h : Clear value path v) (k : String) : Clear value path (c.bundledMember here k v) := by
  induction path generalizing k v with
  | nil =>
    rcases h with rfl | ⟨hjoins, ms, rfl, hdivided⟩
    · refine Or.inl ?_
      unfold Corpus.bundledMember
      split <;> rfl
    · refine Or.inr ⟨hjoins, ?_⟩
      unfold Corpus.bundledMember
      split
      · exact ⟨ms, rfl, hdivided⟩
      · exact ⟨_, rfl, hdivided.bundledMembers⟩
  | cons name path ih =>
    obtain ⟨⟨ms, rfl, hdivided⟩, hbelow⟩ := h
    unfold Corpus.bundledMember
    split
    · exact ⟨⟨ms, rfl, hdivided⟩, hbelow⟩
    · refine ⟨⟨_, rfl, hdivided.bundledMembers⟩, fun w hw => ?_⟩
      rw [bundled, children_bundledMembers hdivided, find?_bundledMembers] at hw
      obtain ⟨x, hx, rfl⟩ := Option.map_eq_some_iff.mp hw
      exact ih (hbelow x hx) name

theorem Clear.erase {k : String} {ms : Members String} (h : Clear value path (.obj ms)) (hk : k ≠ defs) :
    Clear value path (.obj (ms.erase k)) := by
  have hdefs : (ms.erase k).find? defs = ms.find? defs := Members.find?_erase_ne hk
  have hnode : IsNode (.obj ms) → IsNode (.obj (ms.erase k)) := by
    intro hnode
    refine ⟨_, rfl, ?_⟩
    unfold Divided
    rw [hdefs]
    exact hnode.divided
  have hchildren : children (.obj (ms.erase k)) = children (.obj ms) := by
    unfold children
    dsimp only
    rw [hdefs]
  cases path with
  | nil =>
    rcases h with hnull | ⟨hjoins, hself⟩
    · cases hnull
    · exact Or.inr ⟨hjoins, hnode hself⟩
  | cons name path =>
    refine ⟨hnode h.1, ?_⟩
    rw [hchildren]
    exact h.2

/-- A document at its place, as it is. -/
def placed (c : Corpus) (d : Loaded) : List String × Members String := (c.leafPath d, d.body)

theorem Admits.bundledDefinition {d e : Loaded} (h : Admits (c.placed d) (c.placed e)) :
    Admits (c.bundledDefinition d) (c.bundledDefinition e) := by
  intro rest hrest
  have hclear : Clear e.body rest (.obj (d.body.erase "$id")) := (h rest hrest).erase (by decide)
  have hlocal : Clear e.body rest (c.bundledMember d "" (.obj (d.body.erase "$id"))) := hclear.bundledMember ""
  rw [bundledMember_of_ne (by decide), bundled] at hlocal
  exact hlocal.imp Joins.definition

end Local

variable {c : Corpus} {base : String}

/-- Two documents get in each other's way: the place of the one lies in the other, which has something there that is no
tree of definitions, or the one has definitions that cannot join every such tree. -/
def Crossed (c : Corpus) : Prop := ∃ d ∈ c.documents, ∃ e ∈ c.documents, d ≠ e ∧ ¬ Admits (c.placed d) (c.placed e)

theorem exists_placeAll {ds : List Loaded} {tree : Document} (hpath : ∀ d ∈ ds, c.leafPath d ≠ [])
    (hclear : ∀ d ∈ ds, Clear (c.definition d) (c.leafPath d) tree)
    (hadmits : ds.Pairwise fun d e =>
      Admits (c.bundledDefinition d) (c.bundledDefinition e) ∧ Admits (c.bundledDefinition e) (c.bundledDefinition d)) :
    ∃ next, c.placeAll tree ds = .ok next := by
  induction ds generalizing tree with
  | nil => exact ⟨tree, rfl⟩
  | cons d rest ih =>
    obtain ⟨hfirst, hrest⟩ := List.pairwise_cons.mp hadmits
    obtain ⟨mid, hmid⟩ := exists_place (hpath d List.mem_cons_self) (hclear d List.mem_cons_self)
    refine Fault.exists_bind_ok.mpr ⟨mid, hmid, ih (fun e he => hpath e (List.mem_cons_of_mem d he)) (fun e he => ?_) hrest⟩
    have hmem := List.mem_cons_of_mem d he
    exact Clear.admitted (y := c.bundledDefinition e) (hclear e hmem) (hpath e hmem) hmid (hfirst e he).1 (hfirst e he).2

theorem exists_tree (hr : c.Registered base) (h : ¬ c.Crossed) : ∃ tree, c.placeAll (.obj []) c.documents = .ok tree := by
  have hadmits : ∀ d ∈ c.documents, ∀ e ∈ c.documents, d ≠ e →
      Admits (c.bundledDefinition d) (c.bundledDefinition e) := by
    intro d hd e he hne
    refine Admits.bundledDefinition (Classical.byContradiction fun hnot => ?_)
    exact h ⟨d, hd, e, he, hne, hnot⟩
  have hnodup : c.documents.Nodup := List.Nodup.of_map _ hr.nodup
  refine exists_placeAll (fun d hd => leafPath_ne_nil hd) (fun d hd => clear_empty (leafPath_ne_nil hd)) ?_
  exact hnodup.pairwise_of_forall_ne fun d hd e he hne => ⟨hadmits d hd e he hne, hadmits e he d hd hne.symm⟩

theorem exists_top (name : String) {d : Loaded} (hd : d ∈ c.documents) : ∃ top, c.top name = .ok top := by
  cases h : c.top? name with
  | some top => exact ⟨top, by simp only [Corpus.top, h]⟩
  | none =>
    unfold top? at h
    split at h
    next => cases h
    next =>
      split at h
      next => cases h
      next => exact absurd (List.head?_eq_none_iff.mp h ▸ hd) (by simp)

theorem top_eq_error {name : String} {e : BundleFailure} (h : c.top name = .error e) : e = .empty ∧ c.documents = [] := by
  cases hdocs : c.documents with
  | nil =>
    unfold Corpus.top at h
    split at h
    next => cases h
    next =>
      cases h
      exact ⟨rfl, rfl⟩
  | cons d rest =>
    have hd : d ∈ c.documents := hdocs ▸ List.mem_cons_self
    obtain ⟨top, htop⟩ := exists_top name hd
    cases htop.symm.trans h

/-- A bundle is made, or there is no document to make it of, or documents get in each other's way. -/
theorem bundle_cases (hr : c.Registered base) (dialect : Document) (name : String) :
    (∃ bundle, c.bundle dialect name = .ok bundle) ∨
      (c.documents = [] ∧ c.bundle dialect name = .error .empty) ∨
      ∃ f, c.bundle dialect name = .error (.fault f) ∧ c.Crossed := by
  unfold bundle
  cases htop : c.top name with
  | error e =>
    obtain ⟨rfl, hnone⟩ := top_eq_error htop
    exact Or.inr (Or.inl ⟨hnone, rfl⟩)
  | ok top =>
    cases htree : c.placeAll (.obj []) c.documents with
    | ok tree => exact Or.inl ⟨_, rfl⟩
    | error f =>
      refine Or.inr (Or.inr ⟨f, rfl, Classical.byContradiction fun hclear => ?_⟩)
      obtain ⟨tree, hok⟩ := exists_tree hr hclear
      cases htree.symm.trans hok

end NoteSchema.Corpus
