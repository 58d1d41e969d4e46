import NoteSchema.Proofs.Corpus.Bundled
import NoteSchema.Proofs.Json.Permuted

namespace NoteSchema

open Json (Permuted)

/-- Documents of one identifier that differ in the order of members only. -/
structure Loaded.Reordered (d e : Loaded) : Prop where
  identifier : d.identifier = e.identifier
  id : d.id = e.id
  document : Permuted d.document e.document

theorem Loaded.Reordered.title {d e : Loaded} (h : d.Reordered e) : d.title = e.title := by
  have hfind := h.document.find? "title"
  unfold Loaded.title
  generalize Members.find? "title" d.body = o, Members.find? "title" e.body = p at hfind ⊢
  cases hfind with
  | none => rfl
  | @some x y hxy =>
    have hs := hxy.same
    cases x <;> cases y <;> simp_all [Json.sorted]

namespace Corpus

/-- Corpora of the same documents but for the order of members in these. -/
def Reordered (c c' : Corpus) : Prop := List.Forall₂ Loaded.Reordered c.documents c'.documents

namespace Reordered

variable {c c' : Corpus} {d e here here' : Loaded}

theorem find?_of {ds es : List Loaded} {p q : Loaded → Bool} (h : List.Forall₂ Loaded.Reordered ds es)
    (hpq : ∀ d e : Loaded, d.Reordered e → p d = q e) : Option.Rel Loaded.Reordered (ds.find? p) (es.find? q) := by
  induction h with
  | nil => exact .none
  | cons head _ ih =>
    rw [List.find?_cons, List.find?_cons, hpq _ _ head]
    split
    · exact .some head
    · exact ih

theorem head?_of {ds es : List Loaded} (h : List.Forall₂ Loaded.Reordered ds es) :
    Option.Rel Loaded.Reordered ds.head? es.head? := by
  cases h with
  | nil => exact .none
  | cons head _ => exact .some head

theorem find? (h : c.Reordered c') (identifier : String) :
    Option.Rel Loaded.Reordered (c.find? identifier) (c'.find? identifier) :=
  find?_of h fun d e hde => by rw [hde.identifier]

/-- A reference leads to the same place. -/
theorem resolve (h : c.Reordered c') (hh : here.Reordered here') (ref : String) :
    Option.Rel (fun x y => x.1.Reordered y.1 ∧ x.2 = y.2) (c.resolve (some here) ref)
      (c'.resolve (some here') ref) := by
  unfold Corpus.resolve
  dsimp only
  split
  · exact .some ⟨hh, rfl⟩
  · have hfind := h.find? (Reference.cut ref).1
    generalize c.find? (Reference.cut ref).1 = o, c'.find? (Reference.cut ref).1 = p at hfind ⊢
    cases hfind with
    | none => exact .none
    | some hde => exact .some ⟨hde, rfl⟩

theorem top? (h : c.Reordered c') (name : String) :
    Option.Rel Loaded.Reordered (c.top? name) (c'.top? name) := by
  have htitle : Option.Rel Loaded.Reordered (c.documents.find? fun d => d.title == name)
      (c'.documents.find? fun d => d.title == name) := find?_of h fun d e hde => by rw [hde.title]
  have hname : Option.Rel Loaded.Reordered (c.documents.find? fun d => d.id.name == name)
      (c'.documents.find? fun d => d.id.name == name) := find?_of h fun d e hde => by rw [hde.id]
  unfold Corpus.top?
  generalize c.documents.find? (fun d => d.title == name) = o,
    c'.documents.find? (fun d => d.title == name) = p at htitle ⊢
  generalize c.documents.find? (fun d => d.id.name == name) = q,
    c'.documents.find? (fun d => d.id.name == name) = r at hname ⊢
  cases htitle with
  | some hde => exact .some hde
  | none =>
    cases hname with
    | some hde => exact .some hde
    | none => exact head?_of h

theorem top {top top' : Loaded} {name : String} (h : c.Reordered c') (ht : c.top name = .ok top)
    (ht' : c'.top name = .ok top') : top.Reordered top' := by
  have hrel := h.top? name
  unfold Corpus.top at ht ht'
  generalize c.top? name = o, c'.top? name = p at hrel ht ht'
  cases hrel with
  | none => cases ht
  | some hde =>
    cases ht
    cases ht'
    exact hde

theorem leaves (h : c.Reordered c') : c.leaves = c'.leaves := by
  suffices ∀ (ds es : List Loaded) (taken : List (List String)), List.Forall₂ Loaded.Reordered ds es →
      assignLeaves taken ds = assignLeaves taken es from this _ _ _ h
  intro ds es taken hall
  induction hall generalizing taken with
  | nil => rfl
  | @cons d e ds es head _ ih =>
    have hleaf : leafAmong taken d = leafAmong taken e := by rw [leafAmong, leafAmong, head.id]
    rw [assignLeaves, assignLeaves, hleaf, head.identifier, ih]

theorem leafPath (h : c.Reordered c') (hde : d.Reordered e) : c.leafPath d = c'.leafPath e := by
  rw [Corpus.leafPath, Corpus.leafPath, h.leaves, hde.identifier, hde.id]

theorem leafPointer (h : c.Reordered c') (hde : d.Reordered e) : c.leafPointer d = c'.leafPointer e := by
  rw [Corpus.leafPointer, Corpus.leafPointer, h.leafPath hde]

theorem bundledRef (h : c.Reordered c') (hh : here.Reordered here') (ref : String) :
    c.bundledRef here ref = c'.bundledRef here' ref := by
  have hres := h.resolve hh ref
  unfold Corpus.bundledRef
  generalize c.resolve (some here) ref = o, c'.resolve (some here') ref = p at hres ⊢
  cases hres with
  | none => rfl
  | @some x y hxy =>
    obtain ⟨d, fragment⟩ := x
    obtain ⟨e, fragment'⟩ := y
    obtain ⟨hde, rfl⟩ := hxy
    simp only [h.leafPointer hde]

theorem bundledTarget (h : c.Reordered c') (hh : here.Reordered here') {v w : Document} (hvw : Permuted v w) :
    Permuted (c.bundledTarget here v) (c'.bundledTarget here' w) := by
  cases v with
  | str ref =>
    obtain rfl := hvw.eq_str
    rw [Corpus.bundledTarget, Corpus.bundledTarget, h.bundledRef hh]
    exact .refl (.str _)
  | _ =>
    have hs := hvw.same
    cases w <;> simp_all [Json.sorted, Corpus.bundledTarget]

theorem bundled (h : c.Reordered c') (hh : here.Reordered here') {v w : Document} (hvw : Permuted v w) :
    Permuted (c.bundled here v) (c'.bundled here' w) := by
  refine hvw.induct (fun v harr hobj => ?_) (fun xs ys _ ih => ?_) fun ms ns hms ih => ?_
  · cases v with
    | arr xs => exact absurd rfl (harr xs)
    | obj ms => exact absurd rfl (hobj ms)
    | _ => exact .refl (by constructor)
  · rw [Corpus.bundled, Corpus.bundled, bundledItems_eq, bundledItems_eq]
    exact .of_items (List.forall₂_map_left_iff.mpr (List.forall₂_map_right_iff.mpr ih))
  · rw [Corpus.bundled, Corpus.bundled]
    have hm : (c.bundledMembers here ms).keys.Nodup := by
      rw [keys_bundledMembers]
      exact hms.left.nodup
    have hn : (c'.bundledMembers here' ns).keys.Nodup := by
      rw [keys_bundledMembers]
      exact hms.right.nodup
    refine .of_find? hm hn fun k => ?_
    rw [find?_bundledMembers, find?_bundledMembers]
    cases hx : ms.find? k with
    | none =>
      rw [hms.find?_eq_none_iff.mp hx]
      exact .none
    | some x =>
      obtain ⟨y, hy, hxy⟩ := hms.exists_find? hx
      rw [hy]
      refine .some ?_
      by_cases hk : k = "$ref"
      · rw [bundledMember, bundledMember, if_pos hk, if_pos hk]
        exact h.bundledTarget hh hxy
      · rw [bundledMember_of_ne hk, bundledMember_of_ne hk]
        exact ih k x y hx hy

theorem definition (h : c.Reordered c') (hde : d.Reordered e) :
    Permuted (.obj (c.definition d)) (.obj (c'.definition e)) := by
  have hbody : Permuted (.obj (d.body.erase "$id")) (.obj (e.body.erase "$id")) := hde.document.erase "$id"
  have hlocal := h.bundled hde hbody
  rwa [Corpus.bundled, Corpus.bundled] at hlocal

end Reordered

end Corpus

end NoteSchema
