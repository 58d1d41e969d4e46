import NoteSchema.Json.Basic
import NoteSchema.Proofs.Json.Members
import Mathlib.Data.List.Sort

namespace NoteSchema.Text

variable {α : Type} (key : α → String)

theorem trans_of_key (a b c : α) (hab : decide (key a ≤ key b) = true) (hbc : decide (key b ≤ key c) = true) :
    decide (key a ≤ key c) = true :=
  decide_eq_true (String.le_trans (of_decide_eq_true hab) (of_decide_eq_true hbc))

theorem total_of_key (a b : α) : (decide (key a ≤ key b) || decide (key b ≤ key a)) = true := by
  simpa using String.le_total (key a) (key b)

theorem pairwise_mergeSort_key (l : List α) :
    (l.mergeSort fun a b => decide (key a ≤ key b)).Pairwise fun a b => key a ≤ key b :=
  (List.pairwise_mergeSort (trans_of_key key) (total_of_key key) l).imp of_decide_eq_true

end NoteSchema.Text

namespace NoteSchema.Json

variable {κ : Type}

/-- A property of all values follows from that of the parts of a list and of an object. -/
theorem inductOn {P : Json κ → Prop} (null : P .null) (bool : ∀ b, P (.bool b))
    (number : ∀ n, P (.number n)) (str : ∀ s, P (.str s))
    (arr : ∀ items : List (Json κ), (∀ x ∈ items, P x) → P (.arr items))
    (obj : ∀ members : Members κ, (∀ m ∈ members, P m.2) → P (.obj members)) : ∀ v, P v
  | .null => null
  | .bool b => bool b
  | .number n => number n
  | .str s => str s
  | .arr items => arr items fun x _ => inductOn null bool number str arr obj x
  | .obj members => obj members fun m _ => inductOn null bool number str arr obj m.2
decreasing_by
  · have := List.sizeOf_lt_of_mem ‹_›
    simp only [Json.arr.sizeOf_spec]
    omega
  · have := List.sizeOf_lt_of_mem ‹_›
    cases m
    simp only [Json.obj.sizeOf_spec, Prod.mk.sizeOf_spec] at this ⊢
    omega

theorem sortedItems_eq (xs : List Document) : sortedItems xs = xs.map sorted := by
  induction xs with
  | nil => rfl
  | cons x xs ih => rw [sortedItems, ih, List.map_cons]

theorem sortedValues_eq (ms : Members String) : sortedValues ms = ms.map fun m => (m.1, sorted m.2) := by
  induction ms with
  | nil => rfl
  | cons m ms ih => rw [sortedValues, ih, List.map_cons]

end NoteSchema.Json

namespace NoteSchema.Members

/-- The members of one name, in order. -/
def named (k : String) (ms : Members String) : Members String := ms.filter (·.1 == k)

theorem find?_eq_head?_named (k : String) (ms : Members String) :
    ms.find? k = (ms.named k).head?.map (·.2) := by
  induction ms with
  | nil => rfl
  | cons m ms ih =>
    obtain ⟨l, w⟩ := m
    by_cases h : l = k
    · subst l
      simp [named, find?_cons]
    · have hk : (l == k) = false := by simpa using h
      simpa [named, find?_cons, hk] using ih

theorem named_sortMembers (k : String) (ms : Members String) :
    (Json.sortMembers ms).named k = ms.named k := by
  have same : (ms.named k).Pairwise fun a b => decide (a.1 ≤ b.1) = true := by
    apply List.pairwise_of_forall_mem_list
    intro a ha b hb
    have ha' : a.1 = k := by simpa using (List.mem_filter.mp ha).2
    have hb' : b.1 = k := by simpa using (List.mem_filter.mp hb).2
    simp [ha', hb']
  -- the sort is stable, so the members of one name stay in their order
  have sub : (ms.named k).Sublist (Json.sortMembers ms) :=
    List.sublist_mergeSort (Text.trans_of_key Prod.fst) (Text.total_of_key Prod.fst) same List.filter_sublist
  have inner := sub.filter (·.1 == k)
  have own : (ms.named k).filter (·.1 == k) = ms.named k := by simp [named]
  rw [own] at inner
  have hl : (Json.sortMembers ms |>.named k).length = (ms.named k).length :=
    ((List.mergeSort_perm ms _).filter _).length_eq
  exact (inner.eq_of_length hl.symm).symm

/-- Sorting keeps what each name finds. -/
@[simp] theorem find?_sortMembers (k : String) (ms : Members String) :
    (Json.sortMembers ms).find? k = ms.find? k := by
  rw [find?_eq_head?_named, find?_eq_head?_named, named_sortMembers]

theorem find?_map_snd {κ : Type} [BEq κ] (f : Json κ → Json κ) (k : κ) (ms : Members κ) :
    find? k (ms.map fun m => (m.1, f m.2)) = (ms.find? k).map f := by
  induction ms with
  | nil => rfl
  | cons m ms ih =>
    obtain ⟨l, w⟩ := m
    simp only [List.map_cons, find?_cons, ih]
    split <;> rfl

@[simp] theorem find?_sortedValues (k : String) (ms : Members String) :
    (Json.sortedValues ms).find? k = (ms.find? k).map Json.sorted := by
  rw [Json.sortedValues_eq, find?_map_snd]

theorem keys_sortedValues (ms : Members String) : (Json.sortedValues ms).keys = ms.keys := by
  simp [Json.sortedValues_eq, keys]

theorem keys_sortMembers_perm (ms : Members String) : (Json.sortMembers ms).keys.Perm ms.keys :=
  (List.mergeSort_perm ms _).map _

/-- Of two lists of members in order that hold the same members of distinct names there is only one. -/
theorem sortMembers_eq_of_perm {ms ns : Members String} (hn : ms.keys.Nodup) (h : ms.Perm ns) :
    Json.sortMembers ms = Json.sortMembers ns := by
  have hp : (Json.sortMembers ms).Perm (Json.sortMembers ns) :=
    (List.mergeSort_perm ms _).trans (h.trans (List.mergeSort_perm ns _).symm)
  refine hp.eq_of_pairwise (fun a b ha hb hab hba => ?_) (Text.pairwise_mergeSort_key _ ms)
    (Text.pairwise_mergeSort_key _ ns)
  have ha' : a ∈ ms := (List.mergeSort_perm ms _).mem_iff.mp ha
  have hb' : b ∈ ms := h.mem_iff.mpr ((List.mergeSort_perm ns _).mem_iff.mp hb)
  exact List.inj_on_of_nodup_map hn ha' hb' (String.le_antisymm hab hba)

end NoteSchema.Members

namespace NoteSchema.Json

theorem sorted_obj_eq {ms ns : Members String} (hm : ms.keys.Nodup) (hn : ns.keys.Nodup)
    (h : ∀ k, (ms.find? k).map sorted = (ns.find? k).map sorted) :
    sorted (.obj ms) = sorted (.obj ns) := by
  simp only [sorted, obj.injEq]
  apply Members.sortMembers_eq_of_perm (by rwa [Members.keys_sortedValues])
  apply Members.perm_of_find? (by rwa [Members.keys_sortedValues]) (by rwa [Members.keys_sortedValues])
  intro k
  rw [Members.find?_sortedValues, Members.find?_sortedValues, h k]

theorem sortedValues_eq_self {ms : Members String} (h : ∀ m ∈ ms, sorted m.2 = m.2) : sortedValues ms = ms := by
  rw [sortedValues_eq]
  conv_rhs => rw [← List.map_id ms]
  exact List.map_congr_left fun m hm => by rw [h m hm, id]

theorem sorted_sorted (v : Document) : sorted (sorted v) = sorted v := by
  induction v using inductOn with
  | arr items ih =>
    simp only [sorted, sortedItems_eq, List.map_map, arr.injEq]
    exact List.map_congr_left ih
  | obj ms ih =>
    have hv : ∀ m ∈ sortMembers (sortedValues ms), sorted m.2 = m.2 := by
      intro m hm
      rw [sortMembers, List.mem_mergeSort, sortedValues_eq] at hm
      obtain ⟨n, hn, rfl⟩ := List.mem_map.mp hm
      exact ih n hn
    simp only [sorted]
    rw [sortedValues_eq_self hv, sortMembers, sortMembers, List.mergeSort_of_pairwise]
    exact (Text.pairwise_mergeSort_key _ _).imp decide_eq_true
  | _ => rfl

theorem sorted_erase {k : String} {ms : Members String} (hn : ms.keys.Nodup) :
    sorted (.obj ((sortMembers (sortedValues ms)).erase k)) = sorted (.obj (ms.erase k)) := by
  have hs : (sortMembers (sortedValues ms)).keys.Nodup := by
    rw [(Members.keys_sortMembers_perm _).nodup_iff, Members.keys_sortedValues]
    exact hn
  refine sorted_obj_eq (Members.nodup_erase hs) (Members.nodup_erase hn) fun l => ?_
  rw [Members.find?_erase hs, Members.find?_erase hn]
  split
  · rfl
  · rw [Members.find?_sortMembers, Members.find?_sortedValues, Option.map_map]
    congr 1
    funext x
    exact sorted_sorted x

/-- Of sorted members, all but one are still sorted. -/
theorem erase_sortMembers {k : String} {ms : Members String} (hn : ms.keys.Nodup) :
    (sortMembers (sortedValues ms)).erase k = sortMembers (sortedValues (ms.erase k)) := by
  have hsub : ((sortMembers (sortedValues ms)).erase k).Sublist (sortMembers (sortedValues ms)) :=
    Members.erase_sublist
  have hvalues : sortedValues ((sortMembers (sortedValues ms)).erase k) = (sortMembers (sortedValues ms)).erase k := by
    refine sortedValues_eq_self fun m hm => ?_
    have hm := hsub.subset hm
    rw [sortMembers, List.mem_mergeSort, sortedValues_eq] at hm
    obtain ⟨n, _, rfl⟩ := List.mem_map.mp hm
    exact sorted_sorted n.2
  have horder : sortMembers ((sortMembers (sortedValues ms)).erase k) = (sortMembers (sortedValues ms)).erase k :=
    List.mergeSort_of_pairwise
      (((Text.pairwise_mergeSort_key _ (sortedValues ms)).sublist hsub).imp decide_eq_true)
  have h := sorted_erase (k := k) hn
  rwa [sorted, hvalues, horder, sorted, obj.injEq] at h

variable {κ : Type} [DecidableEq κ]

mutual
/-- Whether two values are the same, member by member. -/
def isSame : Json κ → Json κ → Bool
  | .null, .null => true
  | .bool a, .bool b => a == b
  | .number m, .number n => decide (m = n)
  | .str s, .str t => s == t
  | .arr xs, .arr ys => isSameItems xs ys
  | .obj ms, .obj ns => isSameMembers ms ns
  | _, _ => false

def isSameItems : List (Json κ) → List (Json κ) → Bool
  | [], [] => true
  | x :: xs, y :: ys => isSame x y && isSameItems xs ys
  | _, _ => false

def isSameMembers : Members κ → Members κ → Bool
  | [], [] => true
  | (k, v) :: ms, (l, w) :: ns => decide (k = l) && isSame v w && isSameMembers ms ns
  | _, _ => false
end

theorem isSameItems_iff {xs ys : List (Json κ)} (h : ∀ x ∈ xs, ∀ y, isSame x y = true ↔ x = y) :
    isSameItems xs ys = true ↔ xs = ys := by
  induction xs generalizing ys with
  | nil => cases ys <;> simp [isSameItems]
  | cons x xs ih =>
    cases ys with
    | nil => simp [isSameItems]
    | cons y ys => simp [isSameItems, h x (by simp), ih fun x' hx => h x' (by simp [hx])]

theorem isSameMembers_iff {ms ns : Members κ} (h : ∀ m ∈ ms, ∀ w, isSame m.2 w = true ↔ m.2 = w) :
    isSameMembers ms ns = true ↔ ms = ns := by
  induction ms generalizing ns with
  | nil => cases ns <;> simp [isSameMembers]
  | cons m ms ih =>
    obtain ⟨k, v⟩ := m
    cases ns with
    | nil => simp [isSameMembers]
    | cons n ns =>
      obtain ⟨l, w⟩ := n
      simp [isSameMembers, h (k, v) (by simp), ih fun m hm => h m (by simp [hm])]

theorem isSame_iff {v w : Json κ} : isSame v w = true ↔ v = w := by
  induction v using inductOn generalizing w with
  | arr xs ih =>
    cases w with
    | arr ys => simp [isSame, isSameItems_iff fun x hx y => ih x hx]
    | _ => simp [isSame]
  | obj ms ih =>
    cases w with
    | obj ns => simp [isSame, isSameMembers_iff fun m hm w => ih m hm]
    | _ => simp [isSame]
  | _ => cases w <;> simp [isSame]

instance : DecidableEq (Json κ) := fun v w => decidable_of_iff (isSame v w = true) isSame_iff

end NoteSchema.Json
