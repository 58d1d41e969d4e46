import NoteSchema.Proofs.Json.Objects
import Mathlib.Data.List.Forall2

namespace NoteSchema.Json

/-- Values in which no object has two members of one name, and that differ in the order of members only. -/
structure Permuted (v w : Document) : Prop where
  left : Distinct v
  right : Distinct w
  same : sorted v = sorted w

namespace Permuted

variable {v w : Document} {ms ns : Members String} {xs ys : List Document}

theorem refl (h : Distinct v) : Permuted v v := ⟨h, h, rfl⟩

theorem nil : Permuted (.obj []) (.obj []) := refl (.obj List.nodup_nil (by simp))

theorem symm (h : Permuted v w) : Permuted w v := ⟨h.right, h.left, h.same.symm⟩

theorem find? (h : Permuted (.obj ms) (.obj ns)) (k : String) :
    Option.Rel Permuted (ms.find? k) (ns.find? k) := by
  have hk := find?_of_sorted_eq h.same k
  cases hx : ms.find? k with
  | none =>
    cases hy : ns.find? k with
    | none => exact .none
    | some y => simp [hx, hy] at hk
  | some x =>
    cases hy : ns.find? k with
    | none => simp [hx, hy] at hk
    | some y =>
      rw [hx, hy] at hk
      have hleft := h.left.member (Members.mem_of_find? hx)
      have hright := h.right.member (Members.mem_of_find? hy)
      exact .some ⟨hleft, hright, Option.some.inj hk⟩

/-- A member of one object is a member of the other one. -/
theorem exists_find? (h : Permuted (.obj ms) (.obj ns)) {k : String} {x : Document} (hx : ms.find? k = some x) :
    ∃ y, ns.find? k = some y ∧ Permuted x y := by
  have hk := h.find? k
  rw [hx] at hk
  generalize Members.find? k ns = p at hk
  cases hk with
  | some hxy => exact ⟨_, rfl, hxy⟩

theorem find?_eq_none_iff (h : Permuted (.obj ms) (.obj ns)) {k : String} : ms.find? k = none ↔ ns.find? k = none := by
  have hk := h.find? k
  generalize Members.find? k ms = o, Members.find? k ns = p at hk ⊢
  cases hk with
  | none => simp
  | some => simp

theorem of_find? (hm : ms.keys.Nodup) (hn : ns.keys.Nodup)
    (h : ∀ k, Option.Rel Permuted (ms.find? k) (ns.find? k)) : Permuted (.obj ms) (.obj ns) := by
  refine ⟨.obj hm fun m hmem => ?_, .obj hn fun n hmem => ?_, sorted_obj_eq hm hn fun k => ?_⟩
  · have hk := h m.1
    rw [Members.find?_of_mem hm hmem] at hk
    generalize Members.find? m.1 ns = p at hk
    cases hk with
    | some hxy => exact hxy.left
  · have hk := h n.1
    rw [Members.find?_of_mem hn hmem] at hk
    generalize Members.find? n.1 ms = o at hk
    cases hk with
    | some hxy => exact hxy.right
  · have hk := h k
    generalize Members.find? k ms = o, Members.find? k ns = p at hk ⊢
    cases hk with
    | none => rfl
    | some hxy => exact congrArg some hxy.same

theorem of_perm (h : ms.Perm ns) (hd : Distinct (.obj ms)) : Permuted (.obj ms) (.obj ns) := by
  have hkeys : ms.keys.Perm ns.keys := h.map _
  have hright : Distinct (.obj ns) :=
    .obj (hkeys.nodup_iff.mp hd.nodup) fun n hn => hd.member (h.mem_iff.mpr hn)
  have hvalues : (sortedValues ms).Perm (sortedValues ns) := by
    rw [sortedValues_eq, sortedValues_eq]
    exact h.map _
  have hnodup : (Members.keys (sortedValues ms)).Nodup := by
    rw [Members.keys_sortedValues]
    exact hd.nodup
  refine ⟨hd, hright, ?_⟩
  rw [sorted, sorted, Members.sortMembers_eq_of_perm hnodup hvalues]

theorem items (h : Permuted (.arr xs) (.arr ys)) : List.Forall₂ Permuted xs ys := by
  obtain ⟨hx, hy, hs⟩ := h
  simp only [sorted, sortedItems_eq, arr.injEq] at hs
  induction xs generalizing ys with
  | nil =>
    obtain rfl : ys = [] := by simpa using hs.symm
    exact .nil
  | cons x xs ih =>
    cases ys with
    | nil => simp at hs
    | cons y ys =>
      simp only [List.map_cons, List.cons.injEq] at hs
      have head : Permuted x y := ⟨hx.item (by simp), hy.item (by simp), hs.1⟩
      have hxs : Distinct (.arr xs) := .arr fun z hz => hx.item (by simp [hz])
      have hys : Distinct (.arr ys) := .arr fun z hz => hy.item (by simp [hz])
      exact .cons head (ih hxs hys hs.2)

theorem of_items (h : List.Forall₂ Permuted xs ys) : Permuted (.arr xs) (.arr ys) := by
  induction h with
  | nil => exact refl (.arr (by simp))
  | cons head _ ih =>
    refine ⟨.arr fun z hz => ?_, .arr fun z hz => ?_, ?_⟩
    · rcases List.mem_cons.mp hz with rfl | hz
      · exact head.left
      · exact ih.left.item hz
    · rcases List.mem_cons.mp hz with rfl | hz
      · exact head.right
      · exact ih.right.item hz
    · have hs := ih.same
      simp only [sorted, sortedItems_eq, arr.injEq, List.map_cons] at hs ⊢
      rw [head.same, hs]

theorem exists_obj (h : Permuted (.obj ms) w) : ∃ ns, w = .obj ns := obj_of_sorted_eq h.same.symm

theorem exists_arr (h : Permuted (.arr xs) w) : ∃ ys, w = .arr ys := by
  have hs := h.same
  cases w with
  | arr ys => exact ⟨ys, rfl⟩
  | _ => simp [sorted] at hs

theorem eq_str {s : String} (h : Permuted (.str s) w) : w = .str s := by
  have hs := h.same
  cases w <;> simp_all [sorted]

theorem eq_null (h : Permuted .null w) : w = .null := by
  have hs := h.same
  cases w <;> simp_all [sorted]

theorem eq_nil_iff (h : Permuted (.obj ms) (.obj ns)) : ms = [] ↔ ns = [] := by
  have hs := h.same
  simp only [sorted, obj.injEq] at hs
  have hlength := congrArg List.length hs
  simp only [sortMembers, List.length_mergeSort, sortedValues_eq, List.length_map] at hlength
  rw [← List.length_eq_zero_iff, ← List.length_eq_zero_iff, hlength]

theorem isObject_eq (h : Permuted v w) : w.isObject = v.isObject := by
  have hs := h.same
  cases v <;> cases w <;> simp_all [sorted, isObject]

/-- What holds of values that are the same, of lists when it holds of their items, and of objects when it holds of
their members, holds of values that differ in the order of members. -/
@[elab_as_elim]
theorem induct {P : Document → Document → Prop} (h : Permuted v w)
    (leaf : ∀ v, (∀ xs, v ≠ .arr xs) → (∀ ms, v ≠ .obj ms) → P v v)
    (arr : ∀ xs ys, Permuted (.arr xs) (.arr ys) → List.Forall₂ P xs ys → P (.arr xs) (.arr ys))
    (obj : ∀ ms ns : Members String, Permuted (.obj ms) (.obj ns) →
      (∀ k x y, ms.find? k = some x → ns.find? k = some y → P x y) → P (.obj ms) (.obj ns)) : P v w := by
  induction v using inductOn generalizing w with
  | arr xs ih =>
    obtain ⟨ys, rfl⟩ := h.exists_arr
    refine arr xs ys h ?_
    obtain ⟨hlength, hitems⟩ := List.forall₂_iff_get.mp h.items
    exact List.forall₂_iff_get.mpr ⟨hlength, fun i hi hj => ih _ (List.get_mem xs ⟨i, hi⟩) (hitems i hi hj)⟩
  | obj ms ih =>
    obtain ⟨ns, rfl⟩ := h.exists_obj
    refine obj ms ns h fun k x y hx hy => ?_
    obtain ⟨z, hz, hxz⟩ := h.exists_find? hx
    obtain rfl := Option.some.inj (hy.symm.trans hz)
    exact ih (k, x) (Members.mem_of_find? hx) hxz
  | _ =>
    have hs := h.same
    cases w <;> simp_all [sorted]

theorem getD {o p : Option Document} (h : Option.Rel Permuted o p) :
    Permuted (o.getD (.obj [])) (p.getD (.obj [])) := by
  cases h with
  | none => exact nil
  | some hxy => exact hxy

theorem or {o p q r : Option Document} (h : Option.Rel Permuted o p) (h' : Option.Rel Permuted q r) :
    Option.Rel Permuted (o.or q) (p.or r) := by
  cases h with
  | none => exact h'
  | some hxy => exact .some hxy

theorem set (h : Permuted (.obj ms) (.obj ns)) (k : String) (hv : Permuted v w) :
    Permuted (.obj (ms.set k v)) (.obj (ns.set k w)) := by
  refine of_find? (Members.nodup_set_of_sole (Members.sole k) h.left.nodup)
    (Members.nodup_set_of_sole (Members.sole k) h.right.nodup) fun l => ?_
  rw [Members.find?_set, Members.find?_set]
  split
  · exact .some hv
  · exact h.find? l

theorem erase (h : Permuted (.obj ms) (.obj ns)) (k : String) : Permuted (.obj (ms.erase k)) (.obj (ns.erase k)) := by
  refine of_find? (Members.nodup_erase h.left.nodup) (Members.nodup_erase h.right.nodup) fun l => ?_
  rw [Members.find?_erase h.left.nodup, Members.find?_erase h.right.nodup]
  split
  · exact .none
  · exact h.find? l

theorem update {ss ts : Members String} (h : Permuted (.obj ms) (.obj ns)) (h' : Permuted (.obj ss) (.obj ts)) :
    Permuted (.obj (ms.update ss)) (.obj (ns.update ts)) := by
  refine of_find? (Members.nodup_update h.left.nodup) (Members.nodup_update h.right.nodup) fun l => ?_
  rw [Members.find?_update h'.left.nodup, Members.find?_update h'.right.nodup]
  exact or (h'.find? l) (h.find? l)

theorem cons {k : String} (h : Permuted (.obj ms) (.obj ns)) (hk : ms.find? k = none) (hv : Permuted v w) :
    Permuted (.obj ((k, v) :: ms)) (.obj ((k, w) :: ns)) := by
  have hm : k ∉ ms.keys := Members.find?_eq_none_iff.mp hk
  have hn : k ∉ ns.keys := Members.find?_eq_none_iff.mp (h.find?_eq_none_iff.mp hk)
  refine of_find? (List.nodup_cons.mpr ⟨hm, h.left.nodup⟩) (List.nodup_cons.mpr ⟨hn, h.right.nodup⟩) fun l => ?_
  rw [Members.find?_cons, Members.find?_cons]
  split
  · exact .some hv
  · exact h.find? l

/-- A path leads through both values or through neither. -/
theorem follow (h : Permuted v w) (path : List String) :
    (∃ x y, Pointer.follow v path = .ok x ∧ Pointer.follow w path = .ok y ∧ Permuted x y) ∨
      ∃ e, Pointer.follow v path = .error e ∧ Pointer.follow w path = .error e := by
  have hs : (Pointer.follow v path).map sorted = (Pointer.follow w path).map sorted := by
    rw [← Pointer.follow_sorted, ← Pointer.follow_sorted, h.same]
  cases hx : Pointer.follow v path with
  | error e =>
    cases hy : Pointer.follow w path with
    | error e' =>
      rw [hx, hy] at hs
      cases hs
      exact Or.inr ⟨e, rfl, rfl⟩
    | ok y => simp [hx, hy, Except.map] at hs
  | ok x =>
    cases hy : Pointer.follow w path with
    | error e => simp [hx, hy, Except.map] at hs
    | ok y =>
      rw [hx, hy] at hs
      exact Or.inl ⟨x, y, rfl, rfl, h.left.follow hx, h.right.follow hy, Except.ok.inj hs⟩

end Permuted

end NoteSchema.Json
