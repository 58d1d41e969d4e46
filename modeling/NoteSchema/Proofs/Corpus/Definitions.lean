import NoteSchema.Proofs.Corpus.Leaf
import NoteSchema.Proofs.Corpus.Walk
import NoteSchema.Proofs.Noted

namespace NoteSchema.Corpus

theorem find?_addMissing (k : String) (own others : Members String) :
    (addMissing own others).find? k = (own.find? k).or (others.find? k) := by
  unfold addMissing
  induction others generalizing own with
  | nil => simp [Members.find?]
  | cons m others ih =>
    obtain ⟨l, w⟩ := m
    rw [List.foldl_cons, ih, Members.find?_cons]
    by_cases hh : own.has l = true
    · rw [if_pos hh]
      split
      next he =>
        obtain rfl := eq_of_beq he
        obtain ⟨x, hx⟩ := Option.isSome_iff_exists.mp hh
        simp [hx]
      next => rfl
    · rw [if_neg hh, Members.find?_set]
      by_cases he : l = k
      · subst l
        have hn : own.find? k = none := Option.not_isSome_iff_eq_none.mp hh
        simp [hn]
      · simp [he]

theorem mem_addMissing {own others : Members String} {m : String × Document} (h : m ∈ addMissing own others) :
    m ∈ own ∨ m ∈ others := by
  unfold addMissing at h
  induction others generalizing own with
  | nil => exact Or.inl h
  | cons n others ih =>
    rw [List.foldl_cons] at h
    rcases ih h with h | h
    · split at h
      · exact Or.inl h
      · exact (Members.mem_set h).imp id fun he => by simp [he]
    · exact Or.inr (List.mem_cons_of_mem n h)

/-- A tree of definitions: objects below objects. -/
inductive Folders : Document → Prop
  | leaf {ms : Members String} (none : Members.find? defs ms = none) : Folders (.obj ms)
  | folder {ms ds : Members String} (some : Members.find? defs ms = some (.obj ds))
      (under : ∀ m ∈ ds, Folders m.2) : Folders (.obj ms)

/-- What lies directly below a node. -/
def children : Document → Members String
  | .obj ms =>
    match Members.find? defs ms with
    | some (.obj ds) => ds
    | _ => []
  | _ => []

/-- The node at a path of names. -/
def nodeAt : List String → Document → Option Document
  | [], v => some v
  | name :: path, v => ((children v).find? name).bind (nodeAt path)

/-- What a node has besides definitions. -/
def own : Document → Members String
  | .obj ms => Members.erase defs ms
  | _ => []

def ownAt (path : List String) (v : Document) : Option (Members String) := (nodeAt path v).map own

/-- Whether a node has definitions, even if there are none in them. -/
def hasDefinitions : Document → Bool
  | .obj ms => Members.has defs ms
  | _ => false

theorem Folders.isObj {v : Document} (h : Folders v) : ∃ ms, v = .obj ms := by
  cases h with
  | leaf => exact ⟨_, rfl⟩
  | folder => exact ⟨_, rfl⟩

theorem membersOf_getD {ms : Members String} (h : Folders (.obj ms)) :
    membersOf ((Members.find? defs ms).getD (.obj [])) = .ok (children (.obj ms)) := by
  cases h with
  | leaf hn => simp [children, hn, membersOf]
  | folder hs => simp [children, hs, membersOf]

theorem Folders.mem_children {v : Document} (h : Folders v) {m : String × Document} (hm : m ∈ children v) :
    Folders m.2 := by
  cases h with
  | leaf hn => simp [children, hn] at hm
  | folder hs hb =>
    rw [children, hs] at hm
    exact hb m hm

theorem Folders.of_children {v w : Document} {name : String} (h : Folders v)
    (hw : (children v).find? name = some w) : Folders w :=
  h.mem_children (Members.mem_of_find? hw)

theorem Folders.nodeAt {v w : Document} {path : List String} (h : Folders v) (hw : nodeAt path v = some w) :
    Folders w := by
  induction path generalizing v with
  | nil =>
    obtain rfl := Option.some.inj hw
    exact h
  | cons name path ih =>
    obtain ⟨child, hc, hw⟩ := Option.bind_eq_some_iff.mp hw
    exact ih (h.of_children hc) hw

theorem folders_empty : Folders (.obj []) := .leaf rfl

/-- A node with one node set below it. -/
def graft (ms : Members String) (name : String) (child : Document) : Document :=
  .obj (ms.set defs (.obj ((children (.obj ms)).set name child)))

section Graft

variable {ms : Members String} {name : String} {child : Document}

@[simp] theorem children_graft : children (graft ms name child) = (children (.obj ms)).set name child := by
  simp [graft, children, Members.find?_set]

@[simp] theorem own_graft : own (graft ms name child) = own (.obj ms) :=
  Members.erase_set_self

@[simp] theorem nodeAt_graft (other : String) (path : List String) :
    nodeAt (other :: path) (graft ms name child) =
      if name = other then nodeAt path child else nodeAt (other :: path) (.obj ms) := by
  simp only [nodeAt, children_graft, Members.find?_set, beq_iff_eq]
  split <;> rfl

theorem Folders.graft (h : Folders (.obj ms)) (hc : Folders child) : Folders (graft ms name child) := by
  refine .folder (by simp [Members.find?_set]; rfl) fun m hm => ?_
  rcases Members.mem_set hm with hm | rfl
  · exact h.mem_children hm
  · exact hc

theorem refsIn_children {v : Document} {m : String × Document} {ref : String} (hm : m ∈ children v)
    (h : ref ∈ refsIn m.2) : ref ∈ refsIn v := by
  unfold children at hm
  split at hm
  next ms =>
    split at hm
    next ds hs =>
      have hd : ref ∈ refsIn (.obj ds) := List.mem_append_right _ (mem_refsInMembers.mpr ⟨m, hm, h⟩)
      exact List.mem_append_right _ (mem_refsInMembers.mpr ⟨_, Members.mem_of_find? hs, hd⟩)
    next => simp at hm
  next => simp at hm

theorem refsIn_of_folders {ds : Members String} {ref : String} (hf : ∀ m ∈ ds, Folders m.2)
    (h : ref ∈ refsIn (.obj ds)) : ∃ m ∈ ds, ref ∈ refsIn m.2 := by
  rw [refsIn, List.mem_append] at h
  rcases h with h | h
  · unfold refOf? at h
    split at h
    next r hr =>
      -- a definition is an object, so that none of them is a reference
      obtain ⟨ms, hms⟩ := (hf _ (Members.mem_of_find? hr)).isObj
      cases hms
    next => simp at h
  · exact mem_refsInMembers.mp h

theorem refsIn_set_defs {ms ds : Members String} {ref : String} (hf : ∀ m ∈ ds, Folders m.2)
    (h : ref ∈ refsIn (.obj (ms.set defs (.obj ds)))) : ref ∈ refsIn (.obj ms) ∨ ∃ m ∈ ds, ref ∈ refsIn m.2 := by
  have hself : refOf? (ms.set defs (.obj ds)) = refOf? ms := by
    simp [refOf?, Members.find?_set, defs]
  rw [refsIn, hself, List.mem_append] at h
  rcases h with h | h
  · exact Or.inl (List.mem_append_left _ h)
  · obtain ⟨m, hm, hr⟩ := mem_refsInMembers.mp h
    rcases Members.mem_set hm with hm | rfl
    · exact Or.inl (List.mem_append_right _ (mem_refsInMembers.mpr ⟨m, hm, hr⟩))
    · exact Or.inr (refsIn_of_folders hf hr)

theorem refsIn_graft {ref : String} (hf : Folders (.obj ms)) (hc : Folders child)
    (h : ref ∈ refsIn (graft ms name child)) : ref ∈ refsIn (.obj ms) ∨ ref ∈ refsIn child := by
  have hd : ∀ m ∈ (children (.obj ms)).set name child, Folders m.2 := fun m hm => by
    rcases Members.mem_set hm with hm | rfl
    · exact hf.mem_children hm
    · exact hc
  rcases refsIn_set_defs hd h with h | ⟨m, hm, hr⟩
  · exact Or.inl h
  · rcases Members.mem_set hm with hm | rfl
    · exact Or.inl (refsIn_children hm hr)
    · exact Or.inr hr

end Graft

/-- A tree of definitions after a document was put at a path: the nodes on the way are there, the one at
the path is the document, and the others are as they were. -/
structure Placed (value : Members String) (path : List String) (tree next : Document) : Prop where
  folders : Folders next
  own : ∀ q, ownAt q next =
    if q = path then some value
    else if q <+: path then some ((ownAt q tree).getD [])
    else ownAt q tree
  above : ∀ q node, nodeAt q next = some node → hasDefinitions node = true →
    (q <+: path ∧ q ≠ path) ∨ ∃ node, nodeAt q tree = some node ∧ hasDefinitions node = true
  refs : ∀ ref ∈ refsIn next, ref ∈ refsIn (.obj value) ∨ ref ∈ refsIn tree

/-- A document without definitions takes over what lies below the node that it replaces. -/
theorem placed_leaf {value leaf : Members String} {present : Document} (ho : own (.obj leaf) = value)
    (hf : Folders (.obj leaf)) (hc : ∀ name, (children (.obj leaf)).find? name = (children present).find? name)
    (hd : hasDefinitions (.obj leaf) = true → hasDefinitions present = true)
    (hr : ∀ ref ∈ refsIn (.obj leaf), ref ∈ refsIn (.obj value) ∨ ref ∈ refsIn present) :
    Placed value [] present (.obj leaf) := by
  have hn : ∀ name q, nodeAt (name :: q) (.obj leaf) = nodeAt (name :: q) present := fun name q => by
    rw [nodeAt, nodeAt, hc name]
  refine ⟨hf, fun q => ?_, fun q node hq hn' => ?_, hr⟩
  · cases q with
    | nil => simp [ownAt, nodeAt, ho]
    | cons name q => simp [ownAt, hn]
  · cases q with
    | nil =>
      obtain rfl := Option.some.inj hq
      exact Or.inr ⟨present, rfl, hd hn'⟩
    | cons name q => exact Or.inr ⟨node, hn name q ▸ hq, hn'⟩

theorem placed_fresh {value : Members String} (hv : value.find? defs = none) :
    Placed value [] (.obj []) (.obj value) := by
  refine placed_leaf (Members.erase_eq_self hv) (.leaf hv) (fun name => ?_) (fun hd => ?_) fun ref hr => Or.inl hr
  · simp [children, hv, Members.find?]
  · simp [hasDefinitions, Members.has, hv] at hd

/-- A document is joined to what is in its place when both have objects for definitions and all their names are
comparable. -/
theorem join_eq_ok {value leaf : Members String} {present : Document} : join value present = .ok leaf ↔
    ∃ ds names ms others, asMembers ((value.find? defs).getD (.obj [])) = .ok (ds, names) ∧
      membersOf present = .ok ms ∧ membersOf ((ms.find? defs).getD (.obj [])) = .ok others ∧
      comparable names others.isEmpty = true ∧
      leaf = if addMissing ds others = [] then value else value.set defs (.obj (addMissing ds others)) := by
  unfold join
  simp only [Fault.bind_eq_ok, Prod.exists]
  constructor
  · rintro ⟨ds, names, hds, ms, hms, others, hothers, h⟩
    split at h
    next hnames => exact ⟨ds, names, ms, others, hds, hms, hothers, hnames, (Except.ok.inj h).symm⟩
    next => cases h
  · rintro ⟨ds, names, ms, others, hds, hms, hothers, hnames, rfl⟩
    exact ⟨ds, names, hds, ms, hms, others, hothers, if_pos hnames⟩

example : join [("$defs", .arr [.arr [.int 10, .obj []], .arr [.bool true, .null]])] (.obj []) =
    .ok [("$defs", .obj [("10", .obj []), ("true", .null)])] := by decide +kernel

theorem placed_join {value : Members String} {present : Document} (hv : value.find? defs = none)
    (hp : Folders present) : ∃ leaf, join value present = .ok leaf ∧ Placed value [] present (.obj leaf) := by
  obtain ⟨ms, rfl⟩ := hp.isObj
  have hb : ∀ name, (addMissing [] (children (.obj ms))).find? name = (children (.obj ms)).find? name := by
    intro name
    simp [find?_addMissing, Members.find?]
  have hm : ∀ m ∈ addMissing [] (children (.obj ms)), m ∈ children (.obj ms) := fun m h =>
    (mem_addMissing h).resolve_left (by simp)
  have hj : join value (.obj ms) = .ok (if addMissing [] (children (.obj ms)) = [] then value
      else value.set defs (.obj (addMissing [] (children (.obj ms))))) := by
    have hnone : asMembers ((value.find? defs).getD (.obj [])) = .ok ([], []) := by
      rw [hv]
      rfl
    exact join_eq_ok.mpr ⟨[], [], ms, _, hnone, rfl, membersOf_getD hp, rfl, rfl⟩
  have he : own (.obj value) = value := Members.erase_eq_self hv
  -- a node without anything below it is given up, else its definitions move over
  by_cases hn : addMissing [] (children (.obj ms)) = []
  · rw [if_pos hn] at hj
    rw [hn] at hb
    refine ⟨value, hj, placed_leaf he (.leaf hv) (fun name => ?_) (fun hd => ?_) fun ref hr => Or.inl hr⟩
    · simpa [children, hv] using hb name
    · simp [hasDefinitions, Members.has, hv] at hd
  · rw [if_neg hn] at hj
    have hc : children (.obj (value.set defs (.obj (addMissing [] (children (.obj ms)))))) =
        addMissing [] (children (.obj ms)) := by
      simp [children, Members.find?_set]
    refine ⟨_, hj, placed_leaf ?_ ?_ (fun name => ?_) (fun _ => ?_) fun ref hr => ?_⟩
    · rw [own, Members.erase_set_self]
      exact he
    · exact .folder (by simp [Members.find?_set]) fun m h => hp.mem_children (hm m h)
    · rw [hc, hb]
    · cases hf : Members.find? defs ms with
      | none =>
        refine absurd ?_ hn
        simp [children, hf, addMissing]
      | some x => simp [hasDefinitions, Members.has, hf]
    · refine (refsIn_set_defs (fun m h => hp.mem_children (hm m h)) hr).imp_right ?_
      rintro ⟨n, hn, hr⟩
      exact refsIn_children (hm n hn) hr

section Below

variable {ms : Members String} {name : String} {child : Document}

/-- What lies below a name of a node: the node of that name, or nothing yet. -/
def below (name : String) (ms : Members String) : Document := ((children (.obj ms)).find? name).getD (.obj [])

theorem nodeAt_below {q : List String} (hq : q ≠ []) : nodeAt q (below name ms) = nodeAt (name :: q) (.obj ms) := by
  rw [nodeAt, below]
  cases (children (.obj ms)).find? name with
  | none =>
    cases q with
    | nil => exact absurd rfl hq
    | cons other q => simp [nodeAt, children, Members.find?]
  | some present => rfl

/-- A node of that name with definitions is one that was there. -/
theorem nodeAt_of_hasDefinitions_below (h : hasDefinitions (below name ms) = true) :
    nodeAt [name] (.obj ms) = some (below name ms) := by
  rw [nodeAt]
  unfold below at h ⊢
  cases hp : (children (.obj ms)).find? name with
  | none => simp [hp, hasDefinitions, Members.has, Members.find?] at h
  | some present => rfl

theorem refsIn_below {ref : String} (h : ref ∈ refsIn (below name ms)) : ref ∈ refsIn (.obj ms) := by
  unfold below at h
  cases hp : (children (.obj ms)).find? name with
  | none => simp [hp, refsIn, refOf?, Members.find?, refsInMembers] at h
  | some present =>
    rw [hp] at h
    exact refsIn_children (Members.mem_of_find? hp) h

variable {value : Members String} {rest : List String}

theorem Placed.own_graft (h : Placed value rest (below name ms) child) (q : List String) :
    ownAt (name :: q) (graft ms name child) =
      if q = rest then some value
      else if q <+: rest then some ((ownAt (name :: q) (.obj ms)).getD [])
      else ownAt (name :: q) (.obj ms) := by
  have ho := h.own q
  simp only [ownAt] at ho
  simp only [ownAt, nodeAt_graft, if_true, ho]
  cases q with
  | nil =>
    simp only [nodeAt, List.nil_prefix, if_true, Option.map_some, Option.getD_some, below]
    cases (children (.obj ms)).find? name with
    | none => simp [Corpus.own, Members.erase]
    | some present => simp
  | cons first q => rw [nodeAt_below (by simp)]

theorem Placed.graft (ht : Folders (.obj ms)) (h : Placed value rest (below name ms) child) :
    Placed value (name :: rest) (.obj ms) (graft ms name child) := by
  refine ⟨ht.graft h.folders, fun q => ?_, fun q node hq hd => ?_, fun ref hr => ?_⟩
  · cases q with
    | nil => simp [ownAt, nodeAt]
    | cons other q =>
      by_cases hn : name = other
      · subst other
        rw [h.own_graft q]
        simp only [List.cons.injEq, List.cons_prefix_cons, true_and]
      · simp [ownAt, hn, Ne.symm hn]
  · cases q with
    | nil => exact Or.inl (by simp)
    | cons other q =>
      rw [nodeAt_graft] at hq
      by_cases hn : name = other
      · subst other
        rw [if_pos rfl] at hq
        rcases h.above q node hq hd with ⟨hp, hne⟩ | ⟨old, ho, hd⟩
        · exact Or.inl (by simp [hp, hne])
        · cases q with
          | nil =>
            obtain rfl := Option.some.inj ho
            exact Or.inr ⟨_, nodeAt_of_hasDefinitions_below hd, hd⟩
          | cons first q =>
            rw [nodeAt_below (by simp)] at ho
            exact Or.inr ⟨old, ho, hd⟩
      · rw [if_neg hn] at hq
        exact Or.inr ⟨node, hq, hd⟩
  · rcases refsIn_graft ht h.folders hr with hr | hr
    · exact Or.inr hr
    · exact (h.refs ref hr).imp_right refsIn_below

end Below

/-- Putting a document without definitions into a tree never fails, whatever is there already. -/
theorem place_placed {value : Members String} {path : List String} {tree : Document}
    (hv : value.find? defs = none) (hp : path ≠ []) (ht : Folders tree) :
    ∃ next, place value path tree = .ok next ∧ Placed value path tree next := by
  induction path generalizing tree with
  | nil => exact absurd rfl hp
  | cons name rest ih =>
    obtain ⟨ms, rfl⟩ := ht.isObj
    have ho : membersOf (.obj ms) = .ok ms := rfl
    have hs := membersOf_getD ht
    have hf : Folders (below name ms) := by
      unfold below
      cases hc : (children (.obj ms)).find? name with
      | none => exact folders_empty
      | some present => exact ht.of_children hc
    by_cases hr : rest = []
    · subst rest
      cases hc : (children (.obj ms)).find? name with
      | none =>
        refine ⟨graft ms name (.obj value), ?_, .graft ht (by simpa [below, hc] using placed_fresh hv)⟩
        simp only [place, bind, Except.bind, ho, hs, hc, pure, Except.pure, Corpus.graft]
      | some present =>
        obtain ⟨leaf, hj, hl⟩ := placed_join hv (ht.of_children hc)
        obtain ⟨ps, rfl⟩ := (ht.of_children hc).isObj
        refine ⟨graft ms name (.obj leaf), ?_, .graft ht (by simpa [below, hc] using hl)⟩
        simp only [place, bind, Except.bind, ho, hs, hc, hj, pure, Except.pure, Corpus.graft]
    · obtain ⟨child, hc, hl⟩ := ih hr hf
      refine ⟨graft ms name child, ?_, .graft ht hl⟩
      rw [below] at hc
      rw [place]
      · simp only [bind, Except.bind, ho, hs, hc, pure, Except.pure, Corpus.graft]
      · exact hr

/-- A tree of definitions that holds documents at their paths, and nothing else. -/
structure Holds (entries : List (List String × Members String)) (tree : Document) : Prop where
  folders : Folders tree
  held : ∀ e ∈ entries, ownAt e.1 tree = some e.2
  above : ∀ q node, nodeAt q tree = some node → hasDefinitions node = true →
    ∃ e ∈ entries, q <+: e.1 ∧ q ≠ e.1
  refs : ∀ ref ∈ refsIn tree, ∃ e ∈ entries, ref ∈ refsIn (.obj e.2)

theorem holds_empty : Holds [] (.obj []) := by
  refine ⟨folders_empty, by simp, fun q node hq hd => ?_, by simp [refsIn, refOf?, Members.find?, refsInMembers]⟩
  cases q with
  | nil =>
    obtain rfl := Option.some.inj hq
    simp [hasDefinitions, Members.has, Members.find?] at hd
  | cons name q => simp [nodeAt, children, Members.find?] at hq

theorem Holds.of_mem_iff {entries others : List (List String × Members String)} {tree : Document}
    (h : Holds entries tree) (hm : ∀ e, e ∈ others ↔ e ∈ entries) : Holds others tree := by
  refine ⟨h.folders, fun e he => h.held e ((hm e).mp he), fun q node hq hd => ?_, fun ref hr => ?_⟩
  · obtain ⟨e, he, hq⟩ := h.above q node hq hd
    exact ⟨e, (hm e).mpr he, hq⟩
  · obtain ⟨e, he, hr⟩ := h.refs ref hr
    exact ⟨e, (hm e).mpr he, hr⟩

theorem Holds.place {entries : List (List String × Members String)} {tree : Document} {value : Members String}
    {path : List String} (h : Holds entries tree) (hv : value.find? defs = none) (hp : path ≠ [])
    (hn : path ∉ entries.map (·.1)) :
    ∃ next, place value path tree = .ok next ∧ Holds ((path, value) :: entries) next := by
  obtain ⟨next, hnext, placed⟩ := place_placed hv hp h.folders
  refine ⟨next, hnext, placed.folders, fun e he => ?_, fun q node hq hd => ?_, fun ref hr => ?_⟩
  · rw [placed.own]
    rcases List.mem_cons.mp he with rfl | he
    · simp
    · have hne : e.1 ≠ path := fun heq => hn (List.mem_map.mpr ⟨e, he, heq⟩)
      simp [hne, h.held e he]
  · rcases placed.above q node hq hd with hq | ⟨old, ho, hd⟩
    · exact ⟨_, List.mem_cons_self, hq⟩
    · obtain ⟨e, he, hq⟩ := h.above q old ho hd
      exact ⟨e, List.mem_cons_of_mem _ he, hq⟩
  · rcases placed.refs ref hr with hr | hr
    · exact ⟨_, List.mem_cons_self, hr⟩
    · obtain ⟨e, he, hr⟩ := h.refs ref hr
      exact ⟨e, List.mem_cons_of_mem _ he, hr⟩

theorem withDefinitions_eq {ms : Members String} {tree : Document} (hm : ms.find? defs = none) (ht : Folders tree) :
    ∃ os : Members String, withDefinitions ms tree = .ok os ∧ os.erase defs = ms ∧
      (∀ name path, nodeAt (name :: path) (.obj os) = nodeAt (name :: path) tree) ∧
      ∀ ref ∈ refsIn (.obj os), ref ∈ refsIn (.obj ms) ∨ ref ∈ refsIn tree := by
  have plain : children tree = [] → ∀ name path, nodeAt (name :: path) (.obj ms) = nodeAt (name :: path) tree := by
    intro hc name path
    have hc' : children (.obj ms) = [] := by simp [children, hm]
    rw [nodeAt, nodeAt, hc, hc']
  cases ht with
  | @leaf ts hn =>
    have he : withDefinitions ms (.obj ts) = .ok ms := by
      cases ts with
      | nil => rfl
      | cons t ts => simp only [withDefinitions, hn]
    exact ⟨ms, he, Members.erase_eq_self hm, plain (by simp [children, hn]), fun ref hr => Or.inl hr⟩
  | @folder ts ds hs hf =>
    have he : withDefinitions ms (.obj ts) = .ok (ms.set defs (.obj (addMissing [] ds))) := by
      cases ts with
      | nil => simp [Members.find?] at hs
      | cons t ts =>
        simp only [withDefinitions, hs, hm, Option.getD_none, addDefinitions, bind, Except.bind, pure, Except.pure]
    have hmem : ∀ m ∈ addMissing [] ds, m ∈ ds := fun m h => (mem_addMissing h).resolve_left (by simp)
    refine ⟨_, he, ?_, fun name path => ?_, fun ref hr => ?_⟩
    · rw [Members.erase_set_self, Members.erase_eq_self hm]
    · simp [nodeAt, children, Members.find?_set, hs, find?_addMissing, Members.find?]
    · refine (refsIn_set_defs (fun m h => hf m (hmem m h)) hr).imp_right ?_
      rintro ⟨n, hn, hr⟩
      exact refsIn_children (by simpa [children, hs] using hmem n hn) hr

/-- The tokens that lead to a path in a tree of definitions. -/
def tokensTo (path : List String) : List String := path.flatMap fun name => [defs, name]

theorem follow_tokensTo {path : List String} {v w : Document} (h : nodeAt path v = some w) :
    Json.Pointer.follow v (tokensTo path) = .ok w := by
  induction path generalizing v with
  | nil =>
    obtain rfl := Option.some.inj h
    rfl
  | cons name path ih =>
    obtain ⟨child, hc, hw⟩ := Option.bind_eq_some_iff.mp h
    unfold children at hc
    split at hc
    next ms =>
      split at hc
      next ds hs => simpa [tokensTo, Json.Pointer.follow, Json.Pointer.step, hs, hc] using ih hw
      next => simp [Members.find?] at hc
    next => simp [Members.find?] at hc

theorem pointerTo_cons (name : String) (path : List String) :
    pointerTo (name :: path) = "/" ++ defs ++ "/" ++ Json.Pointer.escape name ++ pointerTo path := by
  simp [pointerTo, String.join_cons]

theorem pointerTo_rooted (path : List String) {fragment : String} (h : Json.Pointer.Rooted fragment) :
    Json.Pointer.Rooted (pointerTo path ++ fragment) := by
  cases path with
  | nil => simpa [pointerTo] using h
  | cons name path =>
    right
    refine ⟨(defs ++ "/" ++ Json.Pointer.escape name ++ pointerTo path ++ fragment).toList, ?_, ?_⟩
    · simp [pointerTo_cons]
    · simp [defs]

theorem rooted_toList {fragment : String} (h : Json.Pointer.Rooted fragment) :
    fragment.toList = [] ∨ ∃ cs, fragment.toList = '/' :: cs := by
  rcases h with rfl | ⟨cs, hcs, _⟩
  · exact Or.inl rfl
  · exact Or.inr ⟨cs, hcs⟩

theorem pieces_pointerTo (path : List String) {fragment : String} (h : Json.Pointer.Rooted fragment) :
    Json.Pointer.pieces (pointerTo path ++ fragment).toList =
      (tokensTo path).map (fun name => Json.Pointer.escapeChars name.toList) ++
        Json.Pointer.pieces fragment.toList := by
  induction path with
  | nil => simp [pointerTo, tokensTo]
  | cons name path ih =>
    have hd : Json.Pointer.escapeChars defs.toList = defs.toList := by decide
    have hs : (pointerTo (name :: path) ++ fragment).toList = '/' :: (Json.Pointer.escapeChars defs.toList ++
        '/' :: (Json.Pointer.escapeChars name.toList ++ (pointerTo path ++ fragment).toList)) := by
      rw [hd]
      simp [pointerTo_cons, Json.Pointer.escape_toList]
    rw [hs, Json.Pointer.pieces_cons (Json.Pointer.slash_not_mem_escapeChars _) (Or.inr ⟨_, rfl⟩),
      Json.Pointer.pieces_cons (Json.Pointer.slash_not_mem_escapeChars _)
        (rooted_toList (pointerTo_rooted path h)), ih]
    simp [tokensTo]

theorem tokens_pointerTo (path : List String) {fragment : String} (h : Json.Pointer.Rooted fragment) :
    Json.Pointer.tokens (pointerTo path ++ fragment) = tokensTo path ++ Json.Pointer.tokens fragment := by
  rw [Json.Pointer.tokens_eq_pieces (pointerTo_rooted path h), Json.Pointer.tokens_eq_pieces h,
    pieces_pointerTo path h, List.map_append, List.map_map]
  simp [Function.comp_def, Json.Pointer.unescapeChars_escapeChars]

/-- A document that is not defined yet comes to a place of its own. -/
theorem Holds.define {c : Corpus} {base : String} (hr : c.Registered base) (hcan : c.Canonical base)
    {f : Loaded → Members String} {done : List Loaded} {d : Loaded} {tree : Document}
    (hdone : ∀ e ∈ done, e ∈ c.documents) (hd : d ∈ c.documents) (hnew : d ∉ done) (hv : (f d).find? defs = none)
    (h : Holds (done.map fun e => (c.leafPath e, f e)) tree) :
    ∃ next, Corpus.place (f d) (c.leafPath d) tree = .ok next ∧
      Holds ((d :: done).map fun e => (c.leafPath e, f e)) next := by
  refine h.place hv (leafPath_ne_nil hd) ?_
  simp only [List.map_map, List.mem_map, Function.comp_apply, not_exists, not_and]
  intro e he hpath
  exact hnew (leafPath_injective hr hcan (hdone e he) hd hpath ▸ he)

end NoteSchema.Corpus
