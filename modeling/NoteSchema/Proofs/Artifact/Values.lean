import NoteSchema.Artifact.Enumeration
import Mathlib.Data.List.Basic

namespace NoteSchema

namespace Json

/-- No two values of a list are the same. -/
def Apart (values : List Document) : Prop := values.Pairwise fun u v => same u v = false

/-- A value is in a list itself or by one that is the same. -/
def Held (v : Document) (values : List Document) : Prop := ∃ u ∈ values, u = v ∨ same u v = true

/-- Each value of either list is held by the other one. -/
def SameValues (xs ys : List Document) : Prop := (∀ v ∈ xs, Held v ys) ∧ ∀ v ∈ ys, Held v xs

/-- The values of a list without those that are the same as an earlier one. -/
def firsts (values : List Document) : List Document := values.eraseDupsBy fun v u => same u v

instance : DecidablePred Apart := fun values =>
  inferInstanceAs (Decidable (values.Pairwise fun u v => same u v = false))

theorem held_of_any {v : Document} {values : List Document} (h : values.any (same · v) = true) : Held v values := by
  obtain ⟨u, hu, hs⟩ := List.any_eq_true.mp h
  exact ⟨u, hu, Or.inr hs⟩

theorem Held.mono {v : Document} {xs ys : List Document} (h : Held v xs) (hsub : xs ⊆ ys) : Held v ys := by
  obtain ⟨u, hu, hs⟩ := h
  exact ⟨u, hsub hu, hs⟩

theorem apart_concat {v : Document} {values : List Document} (h : Apart values)
    (hv : values.any (same · v) = false) : Apart (values ++ [v]) := by
  refine List.pairwise_append.mpr ⟨h, List.pairwise_singleton _ v, fun u hu w hw => ?_⟩
  rw [List.mem_singleton.mp hw]
  exact Bool.eq_false_iff.mpr (List.any_eq_false.mp hv u hu)

end Json

namespace Enumeration

open Json (Apart Held SameValues firsts)

variable {values more : List Document}

/-- The values seen so far with one more, unless one that is the same was seen. -/
def seeing (values : List Document) (v : Document) : List Document :=
  if values.any (Json.same · v) then values else values ++ [v]

theorem mergeValues_cons (v : Document) :
    mergeValues values (v :: more) = mergeValues (seeing values v) more := rfl

theorem mergeValues_append (rest : List Document) :
    mergeValues values (more ++ rest) = mergeValues (mergeValues values more) rest :=
  List.foldl_append

theorem subset_seeing (v : Document) : values ⊆ seeing values v := by
  unfold seeing
  split
  · exact List.Subset.refl _
  · exact List.subset_append_left _ _

theorem held_seeing (v : Document) : Held v (seeing values v) := by
  unfold seeing
  split
  next h => exact Json.held_of_any h
  next => exact ⟨v, by simp, Or.inl rfl⟩

theorem apart_seeing (h : Apart values) (v : Document) : Apart (seeing values v) := by
  unfold seeing
  split
  next => exact h
  next hv => exact Json.apart_concat h (Bool.eq_false_iff.mpr hv)

theorem apart_mergeValues (h : Apart values) : Apart (mergeValues values more) := by
  induction more generalizing values with
  | nil => exact h
  | cons v more ih => exact ih (apart_seeing h v)

theorem subset_mergeValues : values ⊆ mergeValues values more := by
  induction more generalizing values with
  | nil => exact List.Subset.refl _
  | cons v more ih => exact List.Subset.trans (subset_seeing v) ih

theorem held_mergeValues {v : Document} (h : v ∈ more) : Held v (mergeValues values more) := by
  induction more generalizing values with
  | nil => cases h
  | cons w more ih =>
    rcases List.mem_cons.mp h with rfl | h
    · exact (held_seeing v).mono subset_mergeValues
    · exact ih h

theorem mem_mergeValues {v : Document} (h : v ∈ mergeValues values more) : v ∈ values ∨ v ∈ more := by
  induction more generalizing values with
  | nil => exact Or.inl h
  | cons w more ih =>
    rcases ih (mergeValues_cons w ▸ h) with hv | hv
    · unfold seeing at hv
      split at hv
      next => exact Or.inl hv
      next =>
        rcases List.mem_append.mp hv with hv | hv
        · exact Or.inl hv
        · exact Or.inr (by simp [List.mem_singleton.mp hv])
    · exact Or.inr (List.mem_cons_of_mem w hv)

/-- Merging leaves the values that are there, then come the first ones of the others that are not the same as one of
them. -/
theorem mergeValues_eq (values more : List Document) :
    mergeValues values more = values ++ firsts (more.filter fun v => !values.any (Json.same · v)) := by
  induction more generalizing values with
  | nil => simp [mergeValues, firsts]
  | cons v more ih =>
    rw [mergeValues_cons, ih, seeing]
    cases hv : values.any (Json.same · v) with
    | true => simp [hv]
    | false =>
      have hfilter : more.filter (fun w => !(values ++ [v]).any (Json.same · w)) =
          (more.filter fun w => !values.any (Json.same · w)).filter fun w => Json.same v w = false := by
        rw [List.filter_filter]
        congr 1
        funext w
        cases hw : Json.same v w <;> simp [hw]
      simp only [Bool.false_eq_true, if_false, List.filter_cons, hv, Bool.not_false, if_true, firsts,
        List.eraseDupsBy_cons, hfilter, List.append_assoc, List.singleton_append]

theorem mergeValues_nil (values : List Document) : mergeValues [] values = firsts values := by
  simp [mergeValues_eq]

/-- Values that are apart are all first ones. -/
theorem firsts_of_apart (h : Apart values) : firsts values = values := by
  induction values with
  | nil => rfl
  | cons v values ih =>
    obtain ⟨hv, hrest⟩ := List.pairwise_cons.mp h
    have hfilter : values.filter (fun w => Json.same v w = false) = values :=
      List.filter_eq_self.mpr fun w hw => by simp [hv w hw]
    rw [firsts, List.eraseDupsBy_cons, hfilter]
    exact congrArg (v :: ·) (ih hrest)

theorem firsts_append (values more : List Document) : firsts (values ++ more) = mergeValues (firsts values) more := by
  rw [← mergeValues_nil, mergeValues_append, mergeValues_nil]

theorem apart_firsts (values : List Document) : Apart (firsts values) := by
  rw [← mergeValues_nil]
  exact apart_mergeValues List.Pairwise.nil

theorem held_firsts {v : Document} (h : v ∈ values) : Held v (firsts values) := by
  rw [← mergeValues_nil]
  exact held_mergeValues h

theorem firsts_subset : firsts values ⊆ values := by
  intro v hv
  rw [← mergeValues_nil] at hv
  exact (mem_mergeValues hv).resolve_left List.not_mem_nil

/-- The first values of two lists with the same members are the same but for their order and spelling. -/
theorem sameValues_firsts {xs ys : List Document} (h : ∀ v, v ∈ xs ↔ v ∈ ys) :
    SameValues (firsts xs) (firsts ys) :=
  ⟨fun v hv => held_firsts ((h v).mp (firsts_subset hv)), fun v hv => held_firsts ((h v).mpr (firsts_subset hv))⟩

end Enumeration

end NoteSchema
