import NoteSchema.Sample.Value
import NoteSchema.Proofs.Json.Order
import NoteSchema.Proofs.Json.Objects
import Mathlib.Data.List.Forall2

namespace NoteSchema

deriving instance DecidableEq for Key

namespace Key

theorem beq_text_iff {k : Key} {s : String} : (k == .text s) = true ↔ k = .text s := by
  cases k <;> simp [BEq.beq, same, number?]

theorem text_beq_iff {k : Key} {s : String} : (Key.text s == k) = true ↔ k = .text s := by
  cases k with
  | text t =>
    simp only [BEq.beq, same, Key.text.injEq]
    exact ⟨fun h => (of_decide_eq_true h).symm, fun h => decide_eq_true h.symm⟩
  | _ => simp [BEq.beq, same, number?]

end Key

namespace Members

variable {κ : Type} [BEq κ]

theorem set_eq (k : κ) (ms : Members κ) : ∃ front l back, ∀ v, ms.set k v = front ++ (l, v) :: back := by
  induction ms with
  | nil => exact ⟨[], k, [], fun _ => rfl⟩
  | cons m ms ih =>
    obtain ⟨l, w⟩ := m
    by_cases h : (l == k) = true
    · exact ⟨[], l, ms, fun v => by simp [set, h]⟩
    · obtain ⟨front, l', back, he⟩ := ih
      exact ⟨(l, w) :: front, l', back, fun v => by simp [set, h, he v]⟩

theorem set_append (k : κ) (v : Json κ) (front back : Members κ) :
    set k v (front ++ back) = if front.any (·.1 == k) then front.set k v ++ back else front ++ back.set k v := by
  induction front with
  | nil => rfl
  | cons m front ih =>
    obtain ⟨l, w⟩ := m
    by_cases h : (l == k) = true
    · simp [set, h]
    · simp only [List.cons_append, set, h, Bool.false_eq_true, if_false, ih, List.any_cons, Bool.false_or]
      split <;> rfl

end Members

namespace Instance

/-- Equality up to the order of the members of objects. -/
inductive Reordered : Instance → Instance → Prop
  | refl (v : Instance) : Reordered v v
  | symm {v w : Instance} (h : Reordered v w) : Reordered w v
  | trans {u v w : Instance} (h : Reordered u v) (h' : Reordered v w) : Reordered u w
  | swap (front back : Members Key) {s : String} {k : Key} (v w : Instance) (different : k ≠ .text s) :
      Reordered (.obj (front ++ (.text s, v) :: (k, w) :: back)) (.obj (front ++ (k, w) :: (.text s, v) :: back))
  | item (front back : List Instance) {v w : Instance} (h : Reordered v w) :
      Reordered (.arr (front ++ v :: back)) (.arr (front ++ w :: back))
  | member (front back : Members Key) (k : Key) {v w : Instance} (h : Reordered v w) :
      Reordered (.obj (front ++ (k, v) :: back)) (.obj (front ++ (k, w) :: back))

namespace Reordered

theorem isObj {v w : Instance} (h : Reordered v w) : (∃ ms, v = .obj ms) ↔ ∃ ns, w = .obj ns := by
  induction h with
  | refl => rfl
  | symm _ ih => exact ih.symm
  | trans _ _ ih ih' => exact ih.trans ih'
  | swap => simp
  | item => simp
  | member => simp

/-- A relation between members that only sees single steps holds of objects that are reordered. -/
theorem lift {v w : Instance} (h : Reordered v w) {P : Members Key → Members Key → Prop} (refl : ∀ ms, P ms ms)
    (symm : ∀ ms ns, P ms ns → P ns ms) (trans : ∀ ls ms ns, P ls ms → P ms ns → P ls ns)
    (swap : ∀ (front back : Members Key) (s : String) (k : Key) (v w : Instance), k ≠ .text s →
      P (front ++ (.text s, v) :: (k, w) :: back) (front ++ (k, w) :: (.text s, v) :: back))
    (member : ∀ (front back : Members Key) (k : Key) (v w : Instance), Reordered v w →
      P (front ++ (k, v) :: back) (front ++ (k, w) :: back)) :
    ∀ ms ns, v = .obj ms → w = .obj ns → P ms ns := by
  induction h with
  | refl v =>
    rintro ms ns rfl he
    cases he
    exact refl ms
  | symm _ ih => exact fun ms ns hv hw => symm _ _ (ih ns ms hw hv)
  | trans h _ ih ih' =>
    rintro ms ns hu hw
    obtain ⟨mid, hmid⟩ := h.isObj.mp ⟨ms, hu⟩
    exact trans _ _ _ (ih ms mid hu hmid) (ih' mid ns hmid hw)
  | swap front back v w hk =>
    rintro ms ns hv hw
    cases hv
    cases hw
    exact swap front back _ _ v w hk
  | item => simp
  | member front back k h =>
    rintro ms ns hv hw
    cases hv
    cases hw
    exact member front back k _ _ h

theorem eq_leaf_iff {u v w : Instance} (h : Reordered v w) (harr : ∀ xs, u ≠ .arr xs) (hobj : ∀ ms, u ≠ .obj ms) :
    v = u ↔ w = u := by
  induction h with
  | refl => rfl
  | symm _ ih => exact ih.symm
  | trans _ _ ih ih' => exact ih.trans ih'
  | swap => exact ⟨fun h => absurd h.symm (hobj _), fun h => absurd h.symm (hobj _)⟩
  | item => exact ⟨fun h => absurd h.symm (harr _), fun h => absurd h.symm (harr _)⟩
  | member => exact ⟨fun h => absurd h.symm (hobj _), fun h => absurd h.symm (hobj _)⟩

variable {ms ns : Members Key}

theorem rel_refl (o : Option Instance) : Option.Rel Reordered o o := by
  cases o with
  | none => exact .none
  | some v => exact .some (.refl v)

theorem rel_symm {o p : Option Instance} (h : Option.Rel Reordered o p) : Option.Rel Reordered p o := by
  cases h with
  | some h => exact .some h.symm
  | none => exact .none

theorem rel_trans {o p q : Option Instance} (h : Option.Rel Reordered o p) (h' : Option.Rel Reordered p q) :
    Option.Rel Reordered o q := by
  cases h with
  | some h =>
    cases h' with
    | some h' => exact .some (h.trans h')
  | none => exact h'

theorem find? (h : Reordered (.obj ms) (.obj ns)) (s : String) :
    Option.Rel Reordered (ms.find? (.text s)) (ns.find? (.text s)) := by
  refine h.lift (P := fun ms ns => Option.Rel Reordered (Members.find? (.text s) ms) (Members.find? (.text s) ns))
    (fun ms => rel_refl _) (fun _ _ => rel_symm) (fun _ _ _ => rel_trans) (fun front back t k v w hk => ?_)
    (fun front back k v w h => ?_) ms ns rfl rfl
  · induction front with
    | nil =>
      by_cases ht : (Key.text t == Key.text s) = true
      · have hks : ¬ (k == Key.text s) = true := fun h =>
          hk ((Key.beq_text_iff.mp h).trans (Key.beq_text_iff.mp ht).symm)
        simpa [Members.find?, ht, hks] using Reordered.refl v
      · simpa [Members.find?, ht] using rel_refl _
    | cons m front ih =>
      simp only [List.cons_append, Members.find?]
      split
      · exact rel_refl _
      · exact ih
  · induction front with
    | nil =>
      simp only [List.nil_append, Members.find?]
      split
      · exact .some h
      · exact rel_refl _
    | cons m front ih =>
      simp only [List.cons_append, Members.find?]
      split
      · exact rel_refl _
      · exact ih

theorem append_left (front : Members Key) (h : Reordered (.obj ms) (.obj ns)) :
    Reordered (.obj (front ++ ms)) (.obj (front ++ ns)) := by
  refine h.lift (P := fun ms ns => Reordered (.obj (front ++ ms)) (.obj (front ++ ns))) (fun _ => .refl _)
    (fun _ _ h => h.symm) (fun _ _ _ h h' => h.trans h') (fun pre post s k v w hk => ?_)
    (fun pre post k v w h => ?_) ms ns rfl rfl
  · simpa only [List.append_assoc] using swap (front ++ pre) post v w hk
  · simpa only [List.append_assoc] using member (front ++ pre) post k h

theorem set_value (k : Key) (ms : Members Key) {v w : Instance} (h : Reordered v w) :
    Reordered (.obj (ms.set k v)) (.obj (ms.set k w)) := by
  obtain ⟨front, l, back, he⟩ := ms.set_eq k
  rw [he v, he w]
  exact .member front back l h

theorem set (k : Key) (x : Instance) (h : Reordered (.obj ms) (.obj ns)) :
    Reordered (.obj (ms.set k x)) (.obj (ns.set k x)) := by
  refine h.lift (P := fun ms ns => Reordered (.obj (ms.set k x)) (.obj (ns.set k x))) (fun _ => .refl _)
    (fun _ _ h => h.symm) (fun _ _ _ h h' => h.trans h') (fun front back s l v w hl => ?_)
    (fun front back l v w h => ?_) ms ns rfl rfl
  · rw [Members.set_append, Members.set_append]
    split
    · exact .swap _ _ v w hl
    · by_cases hs : (Key.text s == k) = true
      · obtain rfl := Key.text_beq_iff.mp hs
        have hlk : ¬ (l == Key.text s) = true := fun h => hl (Key.beq_text_iff.mp h)
        simpa [Members.set, hs, hlk] using swap front back x w hl
      · by_cases hk : (l == k) = true
        · simpa [Members.set, hs, hk] using swap front back v x hl
        · simpa [Members.set, hs, hk] using swap front (back.set k x) v w hl
  · rw [Members.set_append, Members.set_append]
    split
    · exact .member _ _ l h
    · by_cases hk : (l == k) = true
      · simp only [Members.set, hk, if_true]
        exact .refl _
      · simpa [Members.set, hk] using member front (back.set k x) l h

theorem update_left (more : Members Key) (h : Reordered (.obj ms) (.obj ns)) :
    Reordered (.obj (ms.update more)) (.obj (ns.update more)) := by
  unfold Members.update
  induction more generalizing ms ns with
  | nil => exact h
  | cons m more ih => exact ih (h.set m.1 m.2)

theorem set_comm {s : String} {k : Key} (v w : Instance) (hk : k ≠ .text s) (ms : Members Key) :
    Reordered (.obj ((ms.set (.text s) v).set k w)) (.obj ((ms.set k w).set (.text s) v)) := by
  have hsk : ¬ (Key.text s == k) = true := fun h => hk (Key.text_beq_iff.mp h)
  have hks : ¬ (k == Key.text s) = true := fun h => hk (Key.beq_text_iff.mp h)
  induction ms with
  | nil => simpa [Members.set, hsk, hks] using swap [] [] v w hk
  | cons m ms ih =>
    obtain ⟨l, u⟩ := m
    by_cases hl : (l == Key.text s) = true
    · obtain rfl := Key.beq_text_iff.mp hl
      simp only [Members.set, hl, hsk, if_true, Bool.false_eq_true, if_false]
      exact .refl _
    · by_cases hlk : (l == k) = true
      · simp only [Members.set, hl, hlk, if_true, Bool.false_eq_true, if_false]
        exact .refl _
      · simp only [Members.set, hl, hlk, Bool.false_eq_true, if_false]
        exact ih.append_left [(l, u)]

theorem update_right (ls : Members Key) (h : Reordered (.obj ms) (.obj ns)) :
    Reordered (.obj (ls.update ms)) (.obj (ls.update ns)) := by
  refine h.lift (P := fun ms ns => Reordered (.obj (ls.update ms)) (.obj (ls.update ns))) (fun _ => .refl _)
    (fun _ _ h => h.symm) (fun _ _ _ h h' => h.trans h') (fun front back s k v w hk => ?_)
    (fun front back k v w h => ?_) ms ns rfl rfl
  · simp only [Members.update, List.foldl_append, List.foldl_cons]
    exact (set_comm v w hk _).update_left back
  · simp only [Members.update, List.foldl_append, List.foldl_cons]
    exact (set_value k _ h).update_left back

theorem update {ls ks : Members Key} (h : Reordered (.obj ls) (.obj ks)) (h' : Reordered (.obj ms) (.obj ns)) :
    Reordered (.obj (ls.update ms)) (.obj (ks.update ns)) :=
  (h.update_left ms).trans (h'.update_right ks)

theorem arr {xs ys : List Instance} (h : List.Forall₂ Reordered xs ys) : Reordered (.arr xs) (.arr ys) := by
  suffices hf : ∀ front, Reordered (.arr (front ++ xs)) (.arr (front ++ ys)) from hf []
  induction h with
  | nil => exact fun _ => .refl _
  | @cons x y xs ys hxy _ ih =>
    intro front
    refine (item front xs hxy).trans ?_
    simpa using ih (front ++ [y])

theorem obj (h : List.Forall₂ (fun m n : Key × Instance => m.1 = n.1 ∧ Reordered m.2 n.2) ms ns) :
    Reordered (.obj ms) (.obj ns) := by
  suffices hf : ∀ front, Reordered (.obj (front ++ ms)) (.obj (front ++ ns)) from hf []
  induction h with
  | nil => exact fun _ => .refl _
  | @cons m n ms ns hmn _ ih =>
    obtain ⟨k, v⟩ := m
    obtain ⟨l, w⟩ := n
    obtain ⟨rfl, hvw⟩ := hmn
    intro front
    refine (member front ms k hvw).trans ?_
    simpa using ih (front ++ [(k, w)])

theorem of_perm (hp : ms.Perm ns) (hn : ms.keys.Nodup) (ht : ∀ k ∈ ms.keys, ∃ s, k = .text s) :
    Reordered (.obj ms) (.obj ns) := by
  suffices hf : ∀ front, Reordered (.obj (front ++ ms)) (.obj (front ++ ns)) from hf []
  induction hp with
  | nil => exact fun _ => .refl _
  | @cons m ms ns _ ih =>
    intro front
    have rest := ih (List.nodup_cons.mp hn).2 (fun k hk => ht k (List.mem_cons_of_mem _ hk)) (front ++ [m])
    simpa using rest
  | swap m n ms =>
    intro front
    obtain ⟨k, v⟩ := m
    obtain ⟨l, w⟩ := n
    obtain ⟨s, rfl⟩ := ht l List.mem_cons_self
    have hk : k ≠ .text s := fun he => (List.nodup_cons.mp hn).1 (he ▸ List.mem_cons_self)
    exact .swap front ms w v hk
  | trans h _ ih ih' =>
    intro front
    have hk := h.map Prod.fst
    exact (ih hn ht front).trans (ih' (hk.nodup_iff.mp hn) (fun k hm => ht k (hk.mem_iff.mpr hm)) front)

end Reordered

theorem ofItems_eq (xs : List Document) : ofItems xs = xs.map ofDocument := by
  induction xs with
  | nil => rfl
  | cons x xs ih => rw [ofItems, ih, List.map_cons]

theorem ofMembers_eq (ms : Members String) : ofMembers ms = ms.map fun m => (.text m.1, ofDocument m.2) := by
  induction ms with
  | nil => rfl
  | cons m ms ih => rw [ofMembers, ih, List.map_cons]

/-- A document that is put in order is the same instance up to the order of members. -/
theorem reordered_sorted {d : Document} (hd : d.Distinct) : Reordered (ofDocument d) (ofDocument (Json.sorted d)) := by
  induction d using Json.inductOn with
  | arr items ih =>
    rw [Json.sorted, ofDocument, ofDocument, Json.sortedItems_eq, ofItems_eq, ofItems_eq, List.map_map]
    refine .arr (List.forall₂_map_left_iff.mpr (List.forall₂_map_right_iff.mpr (List.forall₂_same.mpr ?_)))
    exact fun x hx => ih x hx (hd.item hx)
  | obj ms ih =>
    rw [Json.sorted, ofDocument, ofDocument]
    have values : Reordered (.obj (ofMembers ms)) (.obj (ofMembers (Json.sortedValues ms))) := by
      rw [Json.sortedValues_eq, ofMembers_eq, ofMembers_eq, List.map_map]
      refine .obj (List.forall₂_map_left_iff.mpr (List.forall₂_map_right_iff.mpr (List.forall₂_same.mpr ?_)))
      exact fun m hm => ⟨rfl, ih m hm (hd.member hm)⟩
    have keys : (ofMembers (Json.sortedValues ms)).keys = (Members.keys ms).map Key.text := by
      rw [ofMembers_eq, Json.sortedValues_eq]
      simp [Members.keys]
    refine values.trans (Reordered.of_perm ?_ ?_ fun k hk => ?_)
    · rw [ofMembers_eq, ofMembers_eq]
      exact ((List.mergeSort_perm _ _).symm).map _
    · rw [keys]
      exact hd.nodup.map fun a b h => Key.text.inj h
    · rw [keys] at hk
      obtain ⟨s, _, rfl⟩ := List.mem_map.mp hk
      exact ⟨s, rfl⟩
  | _ => exact .refl _

end Instance

end NoteSchema
