import NoteSchema.Proofs.Corpus.Reordered

namespace NoteSchema.Corpus

open Json (Permuted)

/-- Computations that, when both give a value, give related ones. -/
def Agree {ε α β : Type} (R : α → β → Prop) (x : Except ε α) (y : Except ε β) : Prop :=
  ∀ a b, x = .ok a → y = .ok b → R a b

section Agree

variable {ε α β γ δ : Type} {R : α → β → Prop} {S : γ → δ → Prop} {x : Except ε α} {y : Except ε β}

theorem agree_ok {a : α} {b : β} (h : R a b) : Agree R (.ok a : Except ε α) (.ok b) := by
  rintro _ _ ⟨⟩ ⟨⟩
  exact h

theorem agree_error_left (e : ε) (y : Except ε β) : Agree R (.error e) y := fun _ _ h => nomatch h

theorem agree_error_right (x : Except ε α) (e : ε) : Agree R x (.error e) := fun _ _ _ h => nomatch h

theorem Agree.bind {f : α → Except ε γ} {g : β → Except ε δ} (h : Agree R x y)
    (hf : ∀ a b, R a b → Agree S (f a) (g b)) : Agree S (x >>= f) (y >>= g) := by
  cases hx : x with
  | error e => exact agree_error_left e _
  | ok a =>
    cases hy : y with
    | error e => exact agree_error_right _ e
    | ok b => exact hf a b (h a b hx hy)

theorem Agree.mapError {ε' : Type} {f : ε → ε'} (h : Agree R x y) : Agree R (x.mapError f) (y.mapError f) := by
  cases hx : x with
  | error e => exact agree_error_left _ _
  | ok a =>
    cases hy : y with
    | error e => exact agree_error_right _ _
    | ok b => exact agree_ok (h a b hx hy)

end Agree

/-- Objects that differ in the order of members only. -/
abbrev PermutedMembers (ms ns : Members String) : Prop := Permuted (.obj ms) (.obj ns)

theorem membersOf_agree {v w : Document} (h : Permuted v w) : Agree PermutedMembers (membersOf v) (membersOf w) := by
  cases v with
  | obj ms =>
    obtain ⟨ns, rfl⟩ := h.exists_obj
    exact agree_ok h
  | _ => exact agree_error_left _ _

theorem definitions_agree {ms ns : Members String} (h : PermutedMembers ms ns) :
    Agree PermutedMembers (membersOf ((ms.find? defs).getD (.obj []))) (membersOf ((ns.find? defs).getD (.obj []))) :=
  membersOf_agree (Permuted.getD (h.find? defs))

/-- Whether a value is a list with an object in it. Where such a list is taken for a list of pairs, the order of the
members of that object counts. -/
def listsObject : Document → Bool
  | .arr items => items.any (·.isObject)
  | _ => false

theorem items_of_pairOf {xs : List Document} {p : NoteSchema.Key × Document} (h : pairOf (.arr xs) = .ok p) :
    ∃ x, xs = [x, p.2] ∧ NoteSchema.Key.ofDocument? x = some p.1 := by
  rcases xs with _ | ⟨x, _ | ⟨y, _ | ⟨z, xs⟩⟩⟩
  · cases h
  · cases h
  · unfold pairOf at h
    dsimp only at h
    split at h
    next name hname =>
      cases h
      exact ⟨x, rfl, hname⟩
    next => cases h
  · cases h

theorem ofDocument?_eq {v w : Document} (h : Permuted v w) :
    NoteSchema.Key.ofDocument? w = NoteSchema.Key.ofDocument? v := by
  have hs := h.same
  cases v <;> cases w <;> simp_all [Json.sorted, NoteSchema.Key.ofDocument?]

theorem pairOf_agree {v w : Document} (h : Permuted v w) (hv : v.isObject = false) :
    Agree (fun p q => p.1 = q.1 ∧ Permuted p.2 q.2) (pairOf v) (pairOf w) := by
  cases v with
  | obj ms => cases hv
  | str s =>
    obtain rfl := h.eq_str
    unfold pairOf
    dsimp only
    split
    · exact agree_ok ⟨rfl, .refl (.str _)⟩
    · exact agree_error_left _ _
  | arr xs =>
    obtain ⟨ys, rfl⟩ := h.exists_arr
    intro p q hp hq
    obtain ⟨x, rfl, hx⟩ := items_of_pairOf hp
    obtain ⟨y, rfl, hy⟩ := items_of_pairOf hq
    obtain ⟨hname, hrest⟩ := List.forall₂_cons.mp h.items
    obtain ⟨hvalue, _⟩ := List.forall₂_cons.mp hrest
    exact ⟨Option.some.inj (hx.symm.trans ((ofDocument?_eq hname).symm.trans hy)), hvalue⟩
  | _ => exact agree_error_left _ _

/-- Members of pairs that differ in the order of members only, with the same names. -/
abbrev PermutedPairs (p q : Members String × List NoteSchema.Key) : Prop := PermutedMembers p.1 q.1 ∧ p.2 = q.2

theorem pairsOf_agree {xs ys : List Document} (h : List.Forall₂ Permuted xs ys) (hx : ∀ x ∈ xs, x.isObject = false)
    {ms ns : Members String} (names : List NoteSchema.Key) (hm : PermutedMembers ms ns) :
    Agree PermutedPairs (pairsOf ms names xs) (pairsOf ns names ys) := by
  induction h generalizing ms ns names with
  | nil => exact agree_ok ⟨hm, rfl⟩
  | @cons x y xs ys head _ ih =>
    refine (pairOf_agree head (hx x (by simp))).bind fun p q hpq => ?_
    obtain ⟨k, v⟩ := p
    obtain ⟨l, w⟩ := q
    obtain ⟨rfl, hvw⟩ := hpq
    exact ih (fun z hz => hx z (by simp [hz])) _ (hm.set _ hvw)

theorem asMembers_agree {v w : Document} (h : Permuted v w) (hv : listsObject v = false) :
    Agree PermutedPairs (asMembers v) (asMembers w) := by
  cases v with
  | obj ms =>
    obtain ⟨ns, rfl⟩ := h.exists_obj
    exact agree_ok ⟨h, rfl⟩
  | arr xs =>
    obtain ⟨ys, rfl⟩ := h.exists_arr
    have hx : ∀ x ∈ xs, x.isObject = false := by simpa [listsObject] using hv
    exact pairsOf_agree h.items hx [] .nil
  | str s =>
    obtain rfl := h.eq_str
    unfold asMembers
    dsimp only
    split
    · exact agree_ok ⟨.nil, rfl⟩
    · exact agree_error_left _ _
  | _ => exact agree_error_left _ _

theorem nodup_addMissing {own others : Members String} (h : own.keys.Nodup) : (addMissing own others).keys.Nodup := by
  unfold addMissing
  induction others generalizing own with
  | nil => exact h
  | cons m others ih =>
    refine ih ?_
    dsimp only
    split
    · exact h
    · exact Members.nodup_set_of_sole (Members.sole m.1) h

theorem PermutedMembers.addMissing {own own' others others' : Members String} (h : PermutedMembers own own')
    (h' : PermutedMembers others others') :
    PermutedMembers (addMissing own others) (Corpus.addMissing own' others') := by
  refine .of_find? (nodup_addMissing h.left.nodup) (nodup_addMissing h.right.nodup) fun k => ?_
  rw [find?_addMissing, find?_addMissing]
  exact Permuted.or (h.find? k) (h'.find? k)

/-- The merge of definitions does not see the order of members, as long as no list of objects is taken for an
object. -/
theorem join_agree {value value' : Members String} {present present' : Document} (hv : PermutedMembers value value')
    (hlist : ∀ w ∈ value.find? defs, listsObject w = false) (hp : Permuted present present') :
    Agree PermutedMembers (join value present) (join value' present') := by
  have hown : listsObject ((value.find? defs).getD (.obj [])) = false := by
    cases hd : value.find? defs with
    | none => rfl
    | some w => exact hlist w hd
  refine (asMembers_agree (Permuted.getD (hv.find? defs)) hown).bind fun own own' hown => ?_
  obtain ⟨own, names⟩ := own
  obtain ⟨own', _⟩ := own'
  obtain ⟨hown, rfl⟩ := hown
  refine (membersOf_agree hp).bind fun ps ps' hps => ?_
  refine (definitions_agree hps).bind fun others others' hothers => ?_
  have hnested := hown.addMissing hothers
  have halone : others.isEmpty = others'.isEmpty := by
    rw [Bool.eq_iff_iff, List.isEmpty_iff, List.isEmpty_iff]
    exact hothers.eq_nil_iff
  simp only [hnested.eq_nil_iff, halone]
  split
  · split
    · exact agree_ok hv
    · exact agree_ok (hv.set defs hnested)
  · exact agree_error_left _ _

/-- What a document becomes at its place, given what is there. -/
def landing (value : Members String) : Option Document → Except Fault (Members String)
  | none | some .null => .ok value
  | some other => join value other

theorem landing_of_ne_null (value : Members String) {v : Document} (h : v ≠ .null) :
    landing value (some v) = join value v := by
  cases v with
  | null => exact absurd rfl h
  | _ => rfl

theorem place_singleton (value : Members String) (name : String) (node : Document) :
    place value [name] node = membersOf node >>= fun members =>
      membersOf ((members.find? defs).getD (.obj [])) >>= fun present =>
        landing value (present.find? name) >>= fun leaf =>
          .ok (.obj (members.set defs (.obj (present.set name (.obj leaf))))) := by
  unfold place
  congr 1
  funext members
  congr 1
  funext present
  dsimp only
  generalize Members.find? name present = o
  cases o with
  | none => rfl
  | some v => cases v <;> rfl

theorem landing_agree {value value' : Members String} (hv : PermutedMembers value value')
    (hlist : ∀ w ∈ value.find? defs, listsObject w = false) {o p : Option Document} (h : Option.Rel Permuted o p) :
    Agree PermutedMembers (landing value o) (landing value' p) := by
  cases h with
  | none => exact agree_ok hv
  | @some v w hvw =>
    by_cases hnull : v = .null
    · subst v
      obtain rfl : w = .null := hvw.eq_null
      exact agree_ok hv
    · have hnull' : w ≠ .null := by
        rintro rfl
        exact hnull hvw.symm.eq_null
      rw [landing_of_ne_null value hnull, landing_of_ne_null value' hnull']
      exact join_agree hv hlist hvw

/-- Putting a document into a tree of definitions does not see the order of members. -/
theorem place_agree {value value' : Members String} (hv : PermutedMembers value value')
    (hlist : ∀ w ∈ value.find? defs, listsObject w = false) (path : List String) {node node' : Document}
    (hn : Permuted node node') : Agree Permuted (place value path node) (place value' path node') := by
  induction path generalizing node node' with
  | nil => exact agree_ok hn
  | cons name rest ih =>
    cases rest with
    | nil =>
      rw [place_singleton, place_singleton]
      refine (membersOf_agree hn).bind fun ms ns hms => (definitions_agree hms).bind fun ps qs hps => ?_
      refine (landing_agree hv hlist (hps.find? name)).bind fun leaf leaf' hl => ?_
      exact agree_ok (hms.set defs (hps.set name hl))
    | cons next rest =>
      unfold place
      refine (membersOf_agree hn).bind fun ms ns hms => (definitions_agree hms).bind fun ps qs hps => ?_
      refine (ih (Permuted.getD (hps.find? name))).bind fun child child' hc => ?_
      exact agree_ok (hms.set defs (hps.set name hc))

theorem listsObject_bundled {c : Corpus} {here : Loaded} (v : Document) :
    listsObject (c.bundled here v) = listsObject v := by
  have hobject : ∀ x : Document, (c.bundled here x).isObject = x.isObject := by
    intro x
    cases x <;> simp [bundled, Json.isObject]
  cases v with
  | arr items => simp [bundled, bundledItems_eq, listsObject, List.any_map, Function.comp_def, hobject]
  | _ => simp [bundled, listsObject]

/-- All documents of a corpus become the same definitions, whatever the order of members in them. -/
theorem placeAll_agree {c c' : Corpus} (h : c.Reordered c') {ds es : List Loaded}
    (hds : List.Forall₂ Loaded.Reordered ds es)
    (hlist : ∀ d ∈ ds, ∀ w ∈ d.body.find? defs, listsObject w = false) {tree tree' : Document}
    (ht : Permuted tree tree') : Agree Permuted (c.placeAll tree ds) (c'.placeAll tree' es) := by
  induction hds generalizing tree tree' with
  | nil => exact agree_ok ht
  | @cons d e ds es head _ ih =>
    unfold placeAll
    rw [← h.leafPath head]
    have hlocal : ∀ w ∈ (c.definition d).find? defs, listsObject w = false := by
      intro w hw
      rw [definition, find?_bundledMembers, Members.find?_erase_ne (by decide)] at hw
      obtain ⟨x, hx, rfl⟩ := Option.map_eq_some_iff.mp hw
      rw [bundledMember_of_ne (by decide), listsObject_bundled]
      exact hlist d (by simp) x hx
    refine (place_agree (h.definition head) hlocal (c.leafPath d) ht).bind fun tree tree' ht => ?_
    exact ih (fun d hd => hlist d (by simp [hd])) ht

/-- The definitions in a tree. -/
def definitionsOf : Document → Document
  | .obj ms => (Members.find? defs ms).getD (.obj [])
  | _ => .obj []

theorem definitionsOf_permuted {v w : Document} (h : Permuted v w) : Permuted (definitionsOf v) (definitionsOf w) := by
  cases v with
  | obj ms =>
    obtain ⟨ns, rfl⟩ := h.exists_obj
    exact Permuted.getD (h.find? defs)
  | _ =>
    have hw := h.isObject_eq
    cases w with
    | obj ns => cases hw
    | _ => exact .nil

/-- Bundles of the same documents are the same, whatever the order of members in these. -/
theorem bundle_agree {c c' : Corpus} (h : c.Reordered c')
    (hlist : ∀ d ∈ c.documents, ∀ w ∈ d.body.find? defs, listsObject w = false) (dialect : Document) (name : String) :
    Agree Eq (c.bundle dialect name) (c'.bundle dialect name) := by
  unfold bundle
  cases htop : c.top name with
  | error e => exact agree_error_left _ _
  | ok top =>
    cases htop' : c'.top name with
    | error e => exact agree_error_right _ _
    | ok top' =>
      have hroot := h.top htop htop'
      have hplaced := placeAll_agree h h hlist .nil
      cases htree : c.placeAll (.obj []) c.documents with
      | error e => exact agree_error_left _ _
      | ok tree =>
        cases htree' : c'.placeAll (.obj []) c'.documents with
        | error e => exact agree_error_right _ _
        | ok tree' =>
          have hdefs := (definitionsOf_permuted (hplaced tree tree' htree htree')).same
          refine agree_ok ?_
          change Json.sorted (.obj [_, _, _, _, (defs, definitionsOf tree)]) =
            Json.sorted (.obj [_, _, _, _, (defs, definitionsOf tree')])
          simp only [Json.sorted, Json.sortedValues, hdefs, bundleIdentifier, hroot.identifier, hroot.id,
            h.leafPointer hroot]

end NoteSchema.Corpus
