import NoteSchema.Proofs.Json.Pointer

namespace NoteSchema.Json

mutual
/-- The objects in a value, itself among them. -/
def objects : Document → List (Members String)
  | .arr items => objectsInItems items
  | .obj members => members :: objectsInMembers members
  | _ => []

def objectsInItems : List Document → List (Members String)
  | [] => []
  | v :: vs => objects v ++ objectsInItems vs

def objectsInMembers : Members String → List (Members String)
  | [] => []
  | (_, v) :: ms => objects v ++ objectsInMembers ms
end

theorem mem_objectsInItems {o : Members String} {xs : List Document} :
    o ∈ objectsInItems xs ↔ ∃ x ∈ xs, o ∈ objects x := by
  induction xs with
  | nil => simp [objectsInItems]
  | cons x xs ih => simp [objectsInItems, ih]

theorem mem_objectsInMembers {o : Members String} {ms : Members String} :
    o ∈ objectsInMembers ms ↔ ∃ m ∈ ms, o ∈ objects m.2 := by
  induction ms with
  | nil => simp [objectsInMembers]
  | cons m ms ih => simp [objectsInMembers, ih]

theorem mem_objects_self (ms : Members String) : ms ∈ objects (.obj ms) := List.mem_cons_self

theorem objects_of_mem {o ms : Members String} {m : String × Document} (hm : m ∈ ms) (h : o ∈ objects m.2) :
    o ∈ objects (.obj ms) :=
  List.mem_cons_of_mem _ (mem_objectsInMembers.mpr ⟨m, hm, h⟩)

namespace Pointer

theorem step_cases {v w : Document} {token : String} (h : step v token = .ok w) :
    (∃ ms, v = .obj ms ∧ Members.find? token ms = some w) ∨
      ∃ items i, v = .arr items ∧ isIndexToken token = true ∧ index? token = some i ∧ items[i]? = some w := by
  unfold step at h
  split at h
  next ms =>
    split at h
    next x hx =>
      cases h
      exact Or.inl ⟨ms, rfl, hx⟩
    next => cases h
  next items =>
    split at h
    next ht =>
      split at h
      next => cases h
      next i hi =>
        split at h
        next x hx =>
          cases h
          exact Or.inr ⟨items, i, rfl, ht, hi, hx⟩
        next => cases h
    next => cases h
  next => cases h

theorem follow_cons {v w : Document} {token : String} {path : List String}
    (h : follow v (token :: path) = .ok w) : ∃ x, step v token = .ok x ∧ follow x path = .ok w := by
  rw [follow] at h
  split at h
  next x hx => exact ⟨x, hx, h⟩
  next => cases h

theorem follow_obj_cons {ms : Members String} {w : Document} {token : String} {path : List String}
    (h : follow (.obj ms) (token :: path) = .ok w) : ∃ x, ms.find? token = some x ∧ follow x path = .ok w := by
  obtain ⟨x, hx, hw⟩ := follow_cons h
  rcases step_cases hx with ⟨os, he, hf⟩ | ⟨items, i, he, _⟩
  · cases he
    exact ⟨x, hf, hw⟩
  · cases he

theorem follow_erase {k token : String} {ms : Members String} {path : List String} (h : k ≠ token) :
    follow (.obj (ms.erase k)) (token :: path) = follow (.obj ms) (token :: path) := by
  simp only [follow, step, Members.find?_erase_ne h]

theorem follow_str {s : String} {path : List String} {w : Document} (h : follow (.str s) path = .ok w) :
    w = .str s := by
  cases path with
  | nil =>
    cases h
    rfl
  | cons token path =>
    obtain ⟨x, hx, _⟩ := follow_cons h
    cases hx

theorem objects_of_step {v w : Document} {token : String} {o : Members String} (h : step v token = .ok w)
    (ho : o ∈ objects w) : o ∈ objects v := by
  rcases step_cases h with ⟨ms, rfl, hx⟩ | ⟨items, i, rfl, _, _, hx⟩
  · exact objects_of_mem (Members.mem_of_find? hx) ho
  · exact mem_objectsInItems.mpr ⟨w, List.mem_of_getElem? hx, ho⟩

theorem objects_of_follow {v w : Document} {path : List String} {o : Members String}
    (h : follow v path = .ok w) (ho : o ∈ objects w) : o ∈ objects v := by
  induction path generalizing v with
  | nil =>
    cases h
    exact ho
  | cons token path ih =>
    obtain ⟨x, hx, hw⟩ := follow_cons h
    exact objects_of_step hx (ih hw)

end Pointer

theorem Distinct.member {ms : Members String} (h : Distinct (.obj ms)) {m : String × Document} (hm : m ∈ ms) :
    Distinct m.2 := by
  cases h with
  | obj _ h => exact h m hm

theorem Distinct.nodup {ms : Members String} (h : Distinct (.obj ms)) : ms.keys.Nodup := by
  cases h with
  | obj hn _ => exact hn

theorem Distinct.item {items : List Document} (h : Distinct (.arr items)) {x : Document} (hx : x ∈ items) :
    Distinct x := by
  cases h with
  | arr h => exact h x hx

theorem Distinct.step {v w : Document} {token : String} (h : Distinct v) (hw : Pointer.step v token = .ok w) :
    Distinct w := by
  rcases Pointer.step_cases hw with ⟨ms, rfl, hf⟩ | ⟨items, i, rfl, _, _, hf⟩
  · exact h.member (Members.mem_of_find? hf)
  · exact h.item (List.mem_of_getElem? hf)

theorem Distinct.follow {v w : Document} {path : List String} (h : Distinct v)
    (hw : Pointer.follow v path = .ok w) : Distinct w := by
  induction path generalizing v with
  | nil =>
    cases hw
    exact h
  | cons token path ih =>
    obtain ⟨x, hx, hw⟩ := Pointer.follow_cons hw
    exact ih (h.step hx) hw

theorem distinct_iff {v : Document} : Distinct v ↔ ∀ o ∈ objects v, (Members.keys o).Nodup := by
  induction v using inductOn with
  | arr items ih =>
    simp only [objects, mem_objectsInItems]
    constructor
    · rintro h o ⟨x, hx, ho⟩
      exact (ih x hx).mp (h.item hx) o ho
    · exact fun h => .arr fun x hx => (ih x hx).mpr fun o ho => h o ⟨x, hx, ho⟩
  | obj ms ih =>
    constructor
    · intro h o ho
      rcases List.mem_cons.mp ho with rfl | ho
      · exact h.nodup
      · obtain ⟨m, hm, ho⟩ := mem_objectsInMembers.mp ho
        exact (ih m hm).mp (h.member hm) o ho
    · intro h
      exact .obj (h ms (mem_objects_self ms)) fun m hm => (ih m hm).mpr fun o ho => h o (objects_of_mem hm ho)
  | null => simp [objects, Distinct.null]
  | bool b => simp [objects, Distinct.bool]
  | number n => simp [objects, Distinct.number]
  | str s => simp [objects, Distinct.str]

instance (v : Document) : Decidable (Distinct v) := decidable_of_iff _ distinct_iff.symm

theorem distinct_sorted {v : Document} : Distinct (sorted v) ↔ Distinct v := by
  induction v using inductOn with
  | arr items ih =>
    rw [sorted, sortedItems_eq]
    constructor
    · intro h
      exact .arr fun x hx => (ih x hx).mp (h.item (List.mem_map_of_mem hx))
    · intro h
      refine .arr fun y hy => ?_
      obtain ⟨x, hx, rfl⟩ := List.mem_map.mp hy
      exact (ih x hx).mpr (h.item hx)
  | obj ms ih =>
    have hkeys : (Members.keys (sortMembers (sortedValues ms))).Nodup ↔ (Members.keys ms).Nodup := by
      rw [(Members.keys_sortMembers_perm _).nodup_iff, Members.keys_sortedValues]
    have hmem : ∀ m, m ∈ sortMembers (sortedValues ms) ↔ ∃ n ∈ ms, (n.1, sorted n.2) = m := by
      intro m
      rw [sortMembers, List.mem_mergeSort, sortedValues_eq, List.mem_map]
    rw [sorted]
    constructor
    · intro h
      exact .obj (hkeys.mp h.nodup) fun m hm => (ih m hm).mp (h.member ((hmem _).mpr ⟨m, hm, rfl⟩))
    · intro h
      refine .obj (hkeys.mpr h.nodup) fun m hm => ?_
      obtain ⟨n, hn, rfl⟩ := (hmem m).mp hm
      exact (ih n hn).mpr (h.member hn)
  | _ => rfl

theorem sorted_eq_self {v : Document} (h : ∀ o ∈ objects v, o.Pairwise fun a b => a.1 ≤ b.1) : sorted v = v := by
  induction v using inductOn with
  | arr items ih =>
    have hitems : ∀ x ∈ items, sorted x = id x := fun x hx =>
      ih x hx fun o ho => h o (mem_objectsInItems.mpr ⟨x, hx, ho⟩)
    rw [sorted, sortedItems_eq, List.map_congr_left hitems, List.map_id]
  | obj ms ih =>
    have hvalues : sortedValues ms = ms := sortedValues_eq_self fun m hm =>
      ih m hm fun o ho => h o (objects_of_mem hm ho)
    rw [sorted, hvalues, sortMembers, List.mergeSort_of_pairwise]
    exact (h ms (mem_objects_self ms)).imp decide_eq_true
  | _ => rfl

theorem Distinct.of_sorted_eq {v w : Document} (h : sorted v = sorted w) (hw : Distinct w) : Distinct v :=
  distinct_sorted.mp (h ▸ distinct_sorted.mpr hw)

theorem find?_of_sorted_eq {ms ns : Members String} (h : sorted (.obj ms) = sorted (.obj ns)) (k : String) :
    (ms.find? k).map sorted = (ns.find? k).map sorted := by
  simp only [sorted, obj.injEq] at h
  have hk := congrArg (Members.find? k) h
  simpa only [Members.find?_sortMembers, Members.find?_sortedValues] using hk

theorem obj_of_sorted_eq {v : Document} {ms : Members String} (h : sorted v = sorted (.obj ms)) :
    ∃ ns : Members String, v = .obj ns := by
  cases v with
  | obj ns => exact ⟨ns, rfl⟩
  | _ => simp [sorted] at h

end NoteSchema.Json
