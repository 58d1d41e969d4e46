import Mathlib.Data.List.Forall2

namespace NoteSchema

variable {α β γ : Type} {R : α → β → Prop} {xs : List α} {ys : List β}

theorem forall₂_mem_left (h : List.Forall₂ R xs ys) {x : α} (hx : x ∈ xs) : ∃ y ∈ ys, R x y := by
  induction h with
  | nil => simp at hx
  | @cons a b xs ys hab _ ih =>
    rcases List.mem_cons.mp hx with rfl | hx
    · exact ⟨b, List.mem_cons_self, hab⟩
    · obtain ⟨y, hy, hr⟩ := ih hx
      exact ⟨y, List.mem_cons_of_mem b hy, hr⟩

theorem map_eq_of_forall₂ {f : α → γ} {g : β → γ} (hR : ∀ a b, R a b → f a = g b) (h : List.Forall₂ R xs ys) :
    xs.map f = ys.map g := by
  have hmap := List.rel_map (P := Eq) hR h
  rwa [List.forall₂_eq_eq_eq] at hmap

theorem filterMap_eq_of_forall₂ {f : α → Option γ} {g : β → Option γ} (hR : ∀ a b, R a b → f a = g b)
    (h : List.Forall₂ R xs ys) : xs.filterMap f = ys.filterMap g := by
  have hrel : ∀ a b, R a b → Option.Rel Eq (f a) (g b) := by
    intro a b hab
    rw [hR a b hab]
    cases g b with
    | none => exact .none
    | some c => exact .some rfl
  have hmap := List.rel_filterMap (P := Eq) hrel h
  rwa [List.forall₂_eq_eq_eq] at hmap

/-- What holds of the items of two related lists holds of each related pair. -/
theorem forall₂_and_mem {P : α → Prop} {Q : β → Prop} (hP : ∀ a ∈ xs, P a) (hQ : ∀ b ∈ ys, Q b)
    (h : List.Forall₂ R xs ys) : List.Forall₂ (fun a b => P a ∧ Q b ∧ R a b) xs ys := by
  induction h with
  | nil => exact .nil
  | cons hab _ ih =>
    obtain ⟨ha, hxs⟩ := List.forall_mem_cons.mp hP
    obtain ⟨hb, hys⟩ := List.forall_mem_cons.mp hQ
    exact .cons ⟨ha, hb, hab⟩ (ih hxs hys)

/-- Lists of one item each, one for each item of another list, are together a list related to it. -/
theorem forall₂_flatten {parts : List (List β)} (h : List.Forall₂ (fun a part => ∃ b, part = [b] ∧ R a b) xs parts) :
    List.Forall₂ R xs parts.flatten := by
  induction h with
  | nil => exact .nil
  | cons hpart _ ih =>
    obtain ⟨b, rfl, hb⟩ := hpart
    exact .cons hb ih

end NoteSchema
