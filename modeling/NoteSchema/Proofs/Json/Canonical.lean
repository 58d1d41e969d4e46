import NoteSchema.Proofs.Json.Permuted
import NoteSchema.Proofs.Json.RoundTrip

namespace NoteSchema.Json

/-- Equality up to the order of members: the objects at one place have the same names, and what stands under a name of
one is the same as under that name of the other. -/
inductive Rearranged : Document → Document → Prop
  | null : Rearranged .null .null
  | bool (b : Bool) : Rearranged (.bool b) (.bool b)
  | number (n : Number) : Rearranged (.number n) (.number n)
  | str (s : String) : Rearranged (.str s) (.str s)
  | arr {xs ys : List Document} (length : xs.length = ys.length)
      (items : ∀ (i : Nat) x y, xs[i]? = some x → ys[i]? = some y → Rearranged x y) : Rearranged (.arr xs) (.arr ys)
  | obj {ms ns : Members String} (names : ms.keys.Perm ns.keys)
      (values : ∀ k v w, (k, v) ∈ ms → (k, w) ∈ ns → Rearranged v w) : Rearranged (.obj ms) (.obj ns)

theorem Rearranged.permuted {v w : Document} (h : Rearranged v w) (hv : Distinct v) (hw : Distinct w) :
    Permuted v w := by
  induction h with
  | arr length _ ih =>
    refine .of_items (List.forall₂_iff_get.mpr ⟨length, fun i hi hj => ?_⟩)
    exact ih i _ _ (List.getElem?_eq_getElem hi) (List.getElem?_eq_getElem hj) (hv.item (List.getElem_mem hi))
      (hw.item (List.getElem_mem hj))
  | @obj ms ns names _ ih =>
    refine .of_find? hv.nodup hw.nodup fun k => ?_
    cases hx : ms.find? k with
    | none =>
      have hk : k ∉ ns.keys := fun hk => Members.find?_eq_none_iff.mp hx (names.mem_iff.mpr hk)
      rw [Members.find?_eq_none_iff.mpr hk]
      exact .none
    | some x =>
      have hmem := Members.mem_of_find? hx
      cases hy : ns.find? k with
      | none => exact absurd (names.mem_iff.mp (List.mem_map_of_mem hmem)) (Members.find?_eq_none_iff.mp hy)
      | some y =>
        have hmem' := Members.mem_of_find? hy
        exact .some (ih k x y hmem hmem' (hv.member hmem) (hw.member hmem'))
  | _ => exact .refl hv

theorem Permuted.rearranged {v w : Document} (h : Permuted v w) : Rearranged v w := by
  refine h.induct (fun v harr hobj => ?_) (fun xs ys _ items => ?_) fun ms ns h values => ?_
  · cases v with
    | null => exact .null
    | bool b => exact .bool b
    | number n => exact .number n
    | str s => exact .str s
    | arr xs => exact absurd rfl (harr xs)
    | obj ms => exact absurd rfl (hobj ms)
  · obtain ⟨length, hitems⟩ := List.forall₂_iff_get.mp items
    refine .arr length fun i x y hx hy => ?_
    obtain ⟨hi, rfl⟩ := List.getElem?_eq_some_iff.mp hx
    obtain ⟨hj, rfl⟩ := List.getElem?_eq_some_iff.mp hy
    exact hitems i hi hj
  · refine .obj ((List.perm_ext_iff_of_nodup h.left.nodup h.right.nodup).mpr fun k => ?_) fun k v w hv hw => ?_
    · rw [← not_iff_not]
      exact Members.find?_eq_none_iff.symm.trans (h.find?_eq_none_iff.trans Members.find?_eq_none_iff)
    · exact values k v w (Members.find?_of_mem h.left.nodup hv) (Members.find?_of_mem h.right.nodup hw)

/-- Documents are put in one order just if they differ in the order of members only. -/
theorem sorted_eq_iff {v w : Document} (hv : Distinct v) (hw : Distinct w) : sorted v = sorted w ↔ Rearranged v w :=
  ⟨fun h => Permuted.rearranged ⟨hv, hw, h⟩, fun h => (h.permuted hv hw).same⟩

section Order

variable {level : Nat}

theorem chars_arr (level : Nat) (xs : List Document) :
    chars level (.arr xs) = enclosed '[' ']' level (xs.map (chars (level + 1))) := by
  have hrest (xs : List Document) : itemChars (level + 1) xs =
      (xs.map (chars (level + 1))).flatMap fun t => ',' :: (newLine (level + 1) ++ t) := by
    induction xs with
    | nil => rfl
    | cons x xs ih => rw [itemChars, ih, List.map_cons, List.flatMap_cons, List.cons_append]
  cases xs with
  | nil => rfl
  | cons x xs => rw [chars, hrest, List.map_cons, enclosed]

theorem chars_obj (level : Nat) (ms : Members String) :
    chars level (.obj ms) = enclosed '{' '}' level (ms.map (memberText (level + 1))) := by
  have hrest (ms : Members String) : memberChars (level + 1) ms =
      (ms.map (memberText (level + 1))).flatMap fun t => ',' :: (newLine (level + 1) ++ t) := by
    induction ms with
    | nil => rfl
    | cons m ms ih => rw [memberChars_cons, ih, List.map_cons, List.flatMap_cons, List.cons_append]
  cases ms with
  | nil => rfl
  | cons m ms =>
    rw [chars, hrest, List.map_cons, enclosed, memberText]
    simp [Name.text]

theorem orderedItems_eq (level : Nat) (xs : List Document) : orderedItems level xs = xs.map (orderedChars level) := by
  induction xs with
  | nil => rfl
  | cons x xs ih => rw [orderedItems, ih, List.map_cons]

theorem orderedMembers_eq (level : Nat) (ms : Members String) :
    orderedMembers level ms = ms.map fun m => (m.1, stringChars m.1 ++ ':' :: ' ' :: orderedChars level m.2) := by
  induction ms with
  | nil => rfl
  | cons m ms ih => rw [orderedMembers, ih, List.map_cons]

/-- Putting the texts of members in order is putting the members in order. -/
theorem mergeSort_memberText (level : Nat) (ms : Members String) :
    ((ms.map fun m => (m.1, memberText level m)).mergeSort fun a b => decide (a.1 ≤ b.1)).map (·.2) =
      (sortMembers ms).map (memberText level) := by
  have hsort : (sortMembers ms).map (fun m => (m.1, memberText level m)) =
      (ms.map fun m => (m.1, memberText level m)).mergeSort fun a b => decide (a.1 ≤ b.1) :=
    List.map_mergeSort fun _ _ _ _ => rfl
  rw [← hsort, List.map_map]
  rfl

/-- Members put in order while a value is printed are those of the value put in order. -/
theorem orderedChars_eq (level : Nat) (d : Document) : orderedChars level d = chars level (sorted d) := by
  induction d using inductOn generalizing level with
  | arr xs ih =>
    have hitems : xs.map (orderedChars (level + 1)) = (sortedItems xs).map (chars (level + 1)) := by
      rw [sortedItems_eq, List.map_map]
      exact List.map_congr_left fun x hx => ih x hx (level + 1)
    rw [orderedChars, orderedItems_eq, hitems, sorted, chars_arr]
  | obj ms ih =>
    have hmembers : orderedMembers (level + 1) ms =
        (sortedValues ms).map fun m => (m.1, memberText (level + 1) m) := by
      rw [orderedMembers_eq, sortedValues_eq, List.map_map]
      refine List.map_congr_left fun m hm => ?_
      rw [ih m hm (level + 1)]
      rfl
    rw [orderedChars, hmembers, mergeSort_memberText, sorted, chars_obj]
  | _ => rfl

/-- Both ways to put the members of a document in order give one text. -/
theorem text_sorted (d : Document) : text (sorted d) = sortedText d := by
  rw [sortedText, orderedChars_eq, text]

end Order

theorem mem_numbers_sorted {n : Number} {d : Document} : n ∈ numbers (sorted d) ↔ n ∈ numbers d := by
  induction d using inductOn with
  | arr xs ih =>
    simp only [sorted, numbers, mem_numbersInItems, sortedItems_eq, List.mem_map, exists_exists_and_eq_and]
    exact exists_congr fun x => and_congr_right fun hx => ih x hx
  | obj ms ih =>
    simp only [sorted, numbers, mem_numbersInMembers, sortMembers, List.mem_mergeSort, sortedValues_eq, List.mem_map,
      exists_exists_and_eq_and]
    exact exists_congr fun m => and_congr_right fun hm => ih m hm
  | _ => rfl

theorem Whole.sorted {d : Document} (h : Whole d) : Whole (sorted d) := fun n hn => h n (mem_numbers_sorted.mp hn)

theorem Short.sorted {d : Document} (h : Short d) : Short (sorted d) := fun n hn => h n (mem_numbers_sorted.mp hn)

section Text

variable {d e : Document}

/-- A printed text stands for one document. -/
theorem text_inj (hw : Whole d) (hs : Short d) (hd : Distinct d) (hw' : Whole e) (hs' : Short e) (hd' : Distinct e) :
    text d = text e ↔ d = e := by
  refine ⟨fun h => ?_, congrArg text⟩
  have hread := read_text hw hs hd
  rw [h, read_text hw' hs' hd'] at hread
  exact (Except.ok.inj hread).symm

/-- Texts in the order of names are the same just for documents that differ in the order of members only. -/
theorem sortedText_inj (hw : Whole d) (hs : Short d) (hd : Distinct d) (hw' : Whole e) (hs' : Short e)
    (hd' : Distinct e) : sortedText d = sortedText e ↔ Rearranged d e := by
  rw [← text_sorted, ← text_sorted,
    text_inj hw.sorted hs.sorted (distinct_sorted.mpr hd) hw'.sorted hs'.sorted (distinct_sorted.mpr hd')]
  exact sorted_eq_iff hd hd'

end Text

end NoteSchema.Json
