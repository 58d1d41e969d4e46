import NoteSchema.Json.Basic
import Mathlib.Data.List.Nodup
import Mathlib.Data.List.Perm.Basic

namespace NoteSchema.Members

variable {κ : Type}

@[simp] theorem keys_nil : keys ([] : Members κ) = [] := rfl

@[simp] theorem keys_cons {k : κ} {v : Json κ} {ms : Members κ} : keys ((k, v) :: ms) = k :: keys ms := rfl

variable [BEq κ]

theorem find?_cons {k k' : κ} {v : Json κ} {ms : Members κ} :
    find? k ((k', v) :: ms) = if k' == k then some v else find? k ms := rfl

theorem erase_sublist {k : κ} {ms : Members κ} : (ms.erase k).Sublist ms := by
  induction ms with
  | nil => exact List.Sublist.slnil
  | cons m ms ih =>
    simp only [erase]
    split
    · exact List.sublist_cons_self m ms
    · exact ih.cons_cons m

theorem nodup_erase {k : κ} {ms : Members κ} (h : ms.keys.Nodup) : (ms.erase k).keys.Nodup :=
  h.sublist (erase_sublist.map _)

theorem erase_eq_self {k : κ} {ms : Members κ} (h : ms.find? k = none) : ms.erase k = ms := by
  induction ms with
  | nil => rfl
  | cons m ms ih =>
    rw [find?_cons] at h
    split at h
    next => simp at h
    next hk => simp [erase, hk, ih h]

/-- A name that is the same as itself only. -/
def Sole (k : κ) : Prop := ∀ l : κ, (l == k) = true ↔ l = k

theorem keys_set_of_sole {k : κ} (v : Json κ) (ms : Members κ) (hk : Sole k) :
    (k ∈ ms.keys ∧ (ms.set k v).keys = ms.keys) ∨ (k ∉ ms.keys ∧ (ms.set k v).keys = ms.keys ++ [k]) := by
  induction ms with
  | nil => exact Or.inr ⟨by simp, rfl⟩
  | cons m ms ih =>
    obtain ⟨l, w⟩ := m
    by_cases h : (l == k) = true
    · obtain rfl := (hk l).mp h
      exact Or.inl ⟨by simp, by simp [set, h]⟩
    · have hne : k ≠ l := fun he => h ((hk l).mpr he.symm)
      rcases ih with ⟨hm, he⟩ | ⟨hm, he⟩
      · exact Or.inl ⟨by simp [hm], by simp [set, h, he]⟩
      · exact Or.inr ⟨by simp [hm, hne], by simp [set, h, he]⟩

theorem nodup_set_of_sole {k : κ} {v : Json κ} {ms : Members κ} (hk : Sole k) (h : ms.keys.Nodup) :
    (ms.set k v).keys.Nodup := by
  rcases keys_set_of_sole v ms hk with ⟨_, he⟩ | ⟨hm, he⟩
  · rw [he]
    exact h
  · rw [he]
    simpa using h.concat hm

theorem mem_set_of_sole {k : κ} {v : Json κ} {ms : Members κ} {m : κ × Json κ} (hk : Sole k) (h : m ∈ ms.set k v) :
    m ∈ ms ∨ m = (k, v) := by
  induction ms with
  | nil => exact Or.inr (by simpa [set] using h)
  | cons n ms ih =>
    obtain ⟨l, w⟩ := n
    by_cases hl : (l == k) = true
    · obtain rfl := (hk l).mp hl
      simp only [set, hl, if_true, List.mem_cons] at h
      exact h.symm.imp (List.mem_cons_of_mem _) id
    · simp only [set, hl, Bool.false_eq_true, if_false, List.mem_cons] at h
      rcases h with h | h
      · exact Or.inl (by simp [h])
      · exact (ih h).imp_left (List.mem_cons_of_mem _)

theorem nodup_update_of_sole {ms more : Members κ} (hs : ∀ k ∈ more.keys, Sole k) (h : ms.keys.Nodup) :
    (ms.update more).keys.Nodup := by
  unfold update
  induction more generalizing ms with
  | nil => exact h
  | cons m more ih =>
    rw [keys_cons] at hs
    exact ih (fun k hk => hs k (List.mem_cons_of_mem _ hk)) (nodup_set_of_sole (hs m.1 List.mem_cons_self) h)

theorem mem_update_of_sole {ms more : Members κ} {m : κ × Json κ} (hs : ∀ k ∈ more.keys, Sole k)
    (h : m ∈ ms.update more) : m ∈ ms ∨ m ∈ more := by
  unfold update at h
  induction more generalizing ms with
  | nil => exact Or.inl h
  | cons n more ih =>
    rw [keys_cons] at hs
    rcases ih (fun k hk => hs k (List.mem_cons_of_mem _ hk)) h with h | h
    · exact (mem_set_of_sole (hs n.1 List.mem_cons_self) h).imp_right fun he => by simp [he]
    · exact Or.inr (List.mem_cons_of_mem _ h)

theorem mem_keys_update_of_sole {ms more : Members κ} {k : κ} (hs : ∀ k ∈ more.keys, Sole k) :
    k ∈ (ms.update more).keys ↔ k ∈ ms.keys ∨ k ∈ more.keys := by
  unfold update
  induction more generalizing ms with
  | nil => simp
  | cons m more ih =>
    rw [keys_cons] at hs ⊢
    rw [List.foldl_cons, ih fun k hk => hs k (List.mem_cons_of_mem _ hk)]
    rcases keys_set_of_sole m.2 ms (hs m.1 List.mem_cons_self) with ⟨hm, he⟩ | ⟨_, he⟩
    · rw [he, List.mem_cons, ← or_assoc]
      exact or_congr_left ⟨Or.inl, fun h => h.elim id fun he => he ▸ hm⟩
    · rw [he, List.mem_append, List.mem_singleton, List.mem_cons, or_assoc]

variable [LawfulBEq κ]

theorem sole (k : κ) : Sole k := fun l => by simp

theorem mem_of_find? {k : κ} {v : Json κ} {ms : Members κ} (h : ms.find? k = some v) : (k, v) ∈ ms := by
  induction ms with
  | nil => simp [find?] at h
  | cons m ms ih =>
    rw [find?_cons] at h
    split at h
    next he =>
      obtain rfl := Option.some.inj h
      obtain rfl := eq_of_beq he
      exact List.mem_cons_self
    next => exact List.mem_cons_of_mem m (ih h)

theorem find?_of_mem {k : κ} {v : Json κ} {ms : Members κ} (hn : ms.keys.Nodup) (h : (k, v) ∈ ms) :
    ms.find? k = some v := by
  induction ms with
  | nil => simp at h
  | cons m ms ih =>
    obtain ⟨k', v'⟩ := m
    simp only [keys_cons, List.nodup_cons] at hn
    rw [find?_cons]
    rcases List.mem_cons.mp h with he | hm
    · cases he
      simp
    · have hne : k' ≠ k := fun he => hn.1 (he ▸ List.mem_map.mpr ⟨_, hm, rfl⟩)
      rw [if_neg (by simpa using hne), ih hn.2 hm]

theorem find?_eq_none_iff {k : κ} {ms : Members κ} : ms.find? k = none ↔ k ∉ ms.keys := by
  induction ms with
  | nil => simp [find?]
  | cons m ms ih =>
    obtain ⟨l, w⟩ := m
    by_cases h : l = k
    · simp [find?_cons, h]
    · simpa [find?_cons, h, Ne.symm h] using ih

theorem find?_isSome_iff {k : κ} {ms : Members κ} : (ms.find? k).isSome ↔ k ∈ ms.keys := by
  have h : ms.find? k = none ↔ k ∉ ms.keys := find?_eq_none_iff
  cases hf : ms.find? k <;> simp_all

theorem find?_set {k k' : κ} {v : Json κ} {ms : Members κ} :
    (ms.set k v).find? k' = if k == k' then some v else ms.find? k' := by
  induction ms with
  | nil => rfl
  | cons m ms ih =>
    obtain ⟨l, w⟩ := m
    by_cases h : l = k
    · subst l
      simp only [set, beq_self_eq_true, if_true, find?_cons]
      split <;> rfl
    · have hk : (l == k) = false := by simpa using h
      simp only [set, hk, Bool.false_eq_true, if_false, find?_cons, ih]
      by_cases hl : l = k'
      · subst l
        simp [Ne.symm h]
      · simp [hl]

theorem mem_set {k : κ} {v : Json κ} {ms : Members κ} {m : κ × Json κ} (h : m ∈ ms.set k v) :
    m ∈ ms ∨ m = (k, v) :=
  mem_set_of_sole (sole k) h

theorem set_of_not_mem {k : κ} {v : Json κ} {ms : Members κ} (h : k ∉ ms.keys) : ms.set k v = ms ++ [(k, v)] := by
  induction ms with
  | nil => rfl
  | cons m ms ih =>
    obtain ⟨l, w⟩ := m
    rw [keys_cons, List.mem_cons, not_or] at h
    have hl : (l == k) = false := by simpa using Ne.symm h.1
    simp [set, hl, ih h.2]

theorem set_of_nodup {m : κ × Json κ} {ms more : Members κ} (h : (ms ++ m :: more).keys.Nodup) :
    ms.set m.1 m.2 = ms ++ [m] := by
  refine set_of_not_mem fun hmem => ?_
  rw [keys, List.map_append, List.map_cons] at h
  exact List.disjoint_of_nodup_append h hmem List.mem_cons_self

theorem find?_erase_ne {k k' : κ} {ms : Members κ} (h : k ≠ k') : (ms.erase k).find? k' = ms.find? k' := by
  induction ms with
  | nil => rfl
  | cons m ms ih =>
    obtain ⟨l, w⟩ := m
    by_cases hl : l = k
    · subst l
      simp [erase, find?_cons, h]
    · have hk : (l == k) = false := by simpa using hl
      simp only [erase, hk, Bool.false_eq_true, if_false, find?_cons, ih]

theorem find?_erase_self {k : κ} {ms : Members κ} (h : ms.keys.Nodup) : (ms.erase k).find? k = none := by
  induction ms with
  | nil => rfl
  | cons m ms ih =>
    obtain ⟨l, w⟩ := m
    simp only [keys_cons, List.nodup_cons] at h
    by_cases hl : l = k
    · subst l
      simpa [erase] using find?_eq_none_iff.mpr h.1
    · have hk : (l == k) = false := by simpa using hl
      simp [erase, hk, find?_cons, ih h.2]

theorem find?_erase {k k' : κ} {ms : Members κ} (h : ms.keys.Nodup) :
    (ms.erase k).find? k' = if k == k' then none else ms.find? k' := by
  by_cases hk : k = k'
  · subst k'
    simp [find?_erase_self h]
  · simp [hk, find?_erase_ne hk]

theorem erase_set_self {k : κ} {v : Json κ} {ms : Members κ} : (ms.set k v).erase k = ms.erase k := by
  induction ms with
  | nil => simp [set, erase]
  | cons m ms ih =>
    obtain ⟨l, w⟩ := m
    by_cases h : l = k
    · simp [set, erase, h]
    · have hk : (l == k) = false := by simpa using h
      simp [set, erase, hk, ih]

theorem nodup_of_erase {k : κ} {ms : Members κ} (hn : (ms.erase k).keys.Nodup)
    (hk : (ms.erase k).find? k = none) : ms.keys.Nodup := by
  induction ms with
  | nil => exact List.nodup_nil
  | cons m ms ih =>
    obtain ⟨l, w⟩ := m
    by_cases h : l = k
    · subst l
      simp only [erase, beq_self_eq_true, if_true] at hn hk
      exact List.nodup_cons.mpr ⟨find?_eq_none_iff.mp hk, hn⟩
    · have hl : (l == k) = false := by simpa using h
      simp only [erase, hl, Bool.false_eq_true, if_false, keys_cons, List.nodup_cons,
        find?_cons] at hn hk
      refine List.nodup_cons.mpr ⟨fun hmem => hn.1 ?_, ih hn.2 hk⟩
      have hf : (find? l (erase k ms)).isSome := by
        rw [find?_erase_ne (Ne.symm h)]
        exact find?_isSome_iff.mpr hmem
      exact find?_isSome_iff.mp hf

theorem nodup_update {ms more : Members κ} (h : ms.keys.Nodup) : (ms.update more).keys.Nodup :=
  nodup_update_of_sole (fun k _ => sole k) h

theorem mem_update {ms more : Members κ} {m : κ × Json κ} (h : m ∈ ms.update more) : m ∈ ms ∨ m ∈ more :=
  mem_update_of_sole (fun k _ => sole k) h

theorem find?_update {k : κ} {ms more : Members κ} (hn : more.keys.Nodup) :
    (ms.update more).find? k = (more.find? k).or (ms.find? k) := by
  unfold update
  induction more generalizing ms with
  | nil => rfl
  | cons m more ih =>
    obtain ⟨l, w⟩ := m
    simp only [keys_cons, List.nodup_cons] at hn
    simp only [List.foldl_cons, find?_cons]
    rw [ih hn.2, find?_set]
    by_cases hl : l = k
    · subst l
      simp [find?_eq_none_iff.mpr hn.1]
    · simp [hl]

theorem find?_update_of_none {k : κ} {ms more : Members κ} (h : more.find? k = none) :
    (ms.update more).find? k = ms.find? k := by
  unfold update
  induction more generalizing ms with
  | nil => rfl
  | cons m more ih =>
    rw [find?_cons] at h
    split at h
    next => cases h
    next hk =>
      rw [List.foldl_cons, ih h, find?_set]
      simp [hk]

theorem perm_of_find? {ms ns : Members κ} (hm : ms.keys.Nodup) (hn : ns.keys.Nodup)
    (h : ∀ k, ms.find? k = ns.find? k) : ms.Perm ns := by
  apply (List.perm_ext_iff_of_nodup (List.Nodup.of_map _ hm) (List.Nodup.of_map _ hn)).mpr
  rintro ⟨k, v⟩
  constructor
  · intro hk
    exact mem_of_find? ((h k).symm.trans (find?_of_mem hm hk))
  · intro hk
    exact mem_of_find? ((h k).trans (find?_of_mem hn hk))

end NoteSchema.Members
