import NoteSchema.Corpus.Inline
import NoteSchema.Proofs.Json.Order
import NoteSchema.Proofs.Json.Objects

namespace NoteSchema

deriving instance DecidableEq for Loaded

namespace Corpus

deriving instance DecidableEq for Turn

namespace Inlining

variable {α β : Type}

instance [DecidableEq α] (x : Inlining α) (r : Except BundleFailure (α × List String)) : Decidable (x = r) :=
  (inferInstance : DecidableEq (Except BundleFailure (α × List String))) x r

theorem bind_def (x : Inlining α) (f : α → Inlining β) : x >>= f = Inlining.bind x f := rfl

theorem bind_of_error {x : Inlining α} {e : BundleFailure} (f : α → Inlining β) (h : x = .error e) :
    x >>= f = .error e := by
  rw [bind_def, h, Inlining.bind]

theorem bind_of_ok {x : Inlining α} {a : α} {b : β} {fa fb : List String} {f : α → Inlining β}
    (hx : x = .ok (a, fa)) (hf : f a = .ok (b, fb)) : x >>= f = .ok (b, fa ++ fb) := by
  rw [bind_def, hx]
  simp only [Inlining.bind, hf]
  rfl

theorem lift_ok_bind (a : α) (f : α → Inlining β) : Inlining.lift (.ok a) >>= f = f a := by
  cases h : f a with
  | error e =>
    change Inlining.bind (.ok (a, [])) f = .error e
    simp only [Inlining.bind, h]
    rfl
  | ok b => exact bind_of_ok rfl h

/-- A computation that does not run out of its budget. -/
def Ends (x : Inlining α) : Prop := x ≠ .error .exhausted

theorem Ends.bind {x : Inlining α} {f : α → Inlining β} (hx : x.Ends) (hf : ∀ a, (f a).Ends) :
    (x >>= f).Ends := by
  intro h
  rw [bind_def] at h
  unfold Inlining.bind at h
  split at h
  next e =>
    cases h
    exact hx rfl
  next a found =>
    split at h
    next e he => exact hf a (he.trans h)
    next => cases h

theorem Ends.pure (a : α) : (Pure.pure a : Inlining α).Ends := by
  intro h
  cases h

/-- A property of computations that carries over to what is put together from them. -/
structure Composes (P : (α : Type) → Inlining α → Prop) : Prop where
  pure : ∀ {α : Type} (a : α), P α (Pure.pure a)
  bind : ∀ {α β : Type} {x : Inlining α} {f : α → Inlining β}, P α x → (∀ a, P β (f a)) → P β (x >>= f)

theorem composes_ends : Composes fun _ x => x.Ends where
  pure := Ends.pure
  bind := Ends.bind

end Inlining

theorem mem_refsInItems {ref : String} {xs : List Document} :
    ref ∈ refsInItems xs ↔ ∃ x ∈ xs, ref ∈ refsIn x := by
  induction xs with
  | nil => simp [refsInItems]
  | cons x xs ih => simp [refsInItems, ih]

theorem mem_refsInMembers {ref : String} {ms : Members String} :
    ref ∈ refsInMembers ms ↔ ∃ m ∈ ms, ref ∈ refsIn m.2 := by
  induction ms with
  | nil => simp [refsInMembers]
  | cons m ms ih => simp [refsInMembers, ih]

theorem find?_of_refOf?_eq_some {ms : Members String} {ref : String} (h : refOf? ms = some ref) :
    ∃ w, ms.find? "$ref" = some w := by
  cases hf : ms.find? "$ref" with
  | none => simp [refOf?, hf] at h
  | some w => exact ⟨w, rfl⟩

theorem mem_refsIn {ref : String} {v : Document} :
    ref ∈ refsIn v ↔ ∃ o ∈ Json.objects v, refOf? o = some ref := by
  induction v using Json.inductOn with
  | arr items ih =>
    simp only [refsIn, Json.objects, mem_refsInItems, Json.mem_objectsInItems]
    constructor
    · rintro ⟨x, hx, hr⟩
      obtain ⟨o, ho, hr⟩ := (ih x hx).mp hr
      exact ⟨o, ⟨x, hx, ho⟩, hr⟩
    · rintro ⟨o, ⟨x, hx, ho⟩, hr⟩
      exact ⟨x, hx, (ih x hx).mpr ⟨o, ho, hr⟩⟩
  | obj ms ih =>
    simp only [refsIn, Json.objects, List.mem_append, Option.mem_toList, mem_refsInMembers, List.mem_cons,
      Json.mem_objectsInMembers]
    constructor
    · rintro (hr | ⟨m, hm, hr⟩)
      · exact ⟨ms, Or.inl rfl, hr⟩
      · obtain ⟨o, ho, hr⟩ := (ih m hm).mp hr
        exact ⟨o, Or.inr ⟨m, hm, ho⟩, hr⟩
    · rintro ⟨o, rfl | ⟨m, hm, ho⟩, hr⟩
      · exact Or.inl hr
      · exact Or.inr ⟨m, hm, (ih m hm).mpr ⟨o, ho, hr⟩⟩
  | _ => simp [refsIn, Json.objects]

theorem refOf?_sorted (ms : Members String) : refOf? (Json.sortMembers (Json.sortedValues ms)) = refOf? ms := by
  unfold refOf?
  rw [Members.find?_sortMembers, Members.find?_sortedValues]
  cases ms.find? "$ref" with
  | none => rfl
  | some v => cases v <;> rfl

theorem mem_refsIn_sorted {v : Document} {ref : String} : ref ∈ refsIn (Json.sorted v) ↔ ref ∈ refsIn v := by
  induction v using Json.inductOn with
  | arr items ih =>
    simp only [Json.sorted, Json.sortedItems_eq, refsIn, mem_refsInItems, List.mem_map]
    constructor
    · rintro ⟨_, ⟨x, hx, rfl⟩, hr⟩
      exact ⟨x, hx, (ih x hx).mp hr⟩
    · rintro ⟨x, hx, hr⟩
      exact ⟨_, ⟨x, hx, rfl⟩, (ih x hx).mpr hr⟩
  | obj ms ih =>
    rw [Json.sorted, refsIn, refsIn, refOf?_sorted, List.mem_append, List.mem_append]
    simp only [mem_refsInMembers, Json.sortMembers, List.mem_mergeSort, Json.sortedValues_eq, List.mem_map]
    refine or_congr_right ⟨?_, ?_⟩
    · rintro ⟨_, ⟨m, hm, rfl⟩, hr⟩
      exact ⟨m, hm, (ih m hm).mp hr⟩
    · rintro ⟨m, hm, hr⟩
      exact ⟨_, ⟨m, hm, rfl⟩, (ih m hm).mpr hr⟩
  | _ => rfl

theorem refsIn_erase {k ref : String} {ms : Members String} (hk : k ≠ "$ref")
    (h : ref ∈ refsIn (.obj (ms.erase k))) : ref ∈ refsIn (.obj ms) := by
  have ho : refOf? (ms.erase k) = refOf? ms := by
    unfold refOf?
    rw [Members.find?_erase_ne hk]
  rw [refsIn, ho, List.mem_append] at h
  rcases h with h | h
  · exact List.mem_append_left _ h
  · obtain ⟨m, hm, h⟩ := mem_refsInMembers.mp h
    exact List.mem_append_right _ (mem_refsInMembers.mpr ⟨m, Members.erase_sublist.subset hm, h⟩)

theorem refsIn_of_step {v w : Document} {token ref : String} (h : Json.Pointer.step v token = .ok w)
    (hr : ref ∈ refsIn w) : ref ∈ refsIn v := by
  obtain ⟨o, ho, hr⟩ := mem_refsIn.mp hr
  exact mem_refsIn.mpr ⟨o, Json.Pointer.objects_of_step h ho, hr⟩

theorem refsIn_of_follow {v w : Document} {path : List String} {ref : String}
    (h : Json.Pointer.follow v path = .ok w) (hr : ref ∈ refsIn w) : ref ∈ refsIn v := by
  obtain ⟨o, ho, hr⟩ := mem_refsIn.mp hr
  exact mem_refsIn.mpr ⟨o, Json.Pointer.objects_of_follow h ho, hr⟩

section Expand

variable {f g : String → Members String → Inlining Document}

theorem expandItems_congr {xs : List Document} (h : ∀ x ∈ xs, expand f x = expand g x) :
    expandItems f xs = expandItems g xs := by
  induction xs with
  | nil => rfl
  | cons x xs ih =>
    rw [expandItems, expandItems, h x (by simp), ih fun y hy => h y (by simp [hy])]

theorem expandMembers_congr {ms : Members String} (h : ∀ m ∈ ms, expand f m.2 = expand g m.2) :
    expandMembers f ms = expandMembers g ms := by
  induction ms with
  | nil => rfl
  | cons m ms ih =>
    obtain ⟨k, v⟩ := m
    rw [expandMembers, expandMembers, h (k, v) (by simp), ih fun y hy => h y (by simp [hy])]

theorem expand_congr {v : Document} (h : ∀ ref ∈ refsIn v, ∀ siblings, f ref siblings = g ref siblings) :
    expand f v = expand g v := by
  induction v using Json.inductOn with
  | arr items ih =>
    rw [expand, expand, expandItems_congr fun x hx => ih x hx fun ref hr =>
      h ref (mem_refsInItems.mpr ⟨x, hx, hr⟩)]
  | obj members ih =>
    have hm := expandMembers_congr fun m hm => ih m hm fun ref hr =>
      h ref (List.mem_append_right _ (mem_refsInMembers.mpr ⟨m, hm, hr⟩))
    rw [expand, expand, hm]
    cases hr : refOf? members with
    | none => rfl
    | some ref =>
      have he : f ref = g ref := funext (h ref (List.mem_append_left _ (by simp [hr])))
      simp only [he]
  | _ => rfl

variable {P : (α : Type) → Inlining α → Prop} (hP : Inlining.Composes P)

include hP

theorem expandItems_composes {xs : List Document} (h : ∀ x ∈ xs, P _ (expand f x)) : P _ (expandItems f xs) := by
  induction xs with
  | nil => exact hP.pure _
  | cons x xs ih =>
    rw [expandItems]
    refine hP.bind (h x (by simp)) fun v => ?_
    exact hP.bind (ih fun y hy => h y (by simp [hy])) fun vs => hP.pure _

theorem expandMembers_composes {ms : Members String} (h : ∀ m ∈ ms, P _ (expand f m.2)) :
    P _ (expandMembers f ms) := by
  induction ms with
  | nil => exact hP.pure _
  | cons m ms ih =>
    obtain ⟨k, v⟩ := m
    have rest := ih fun y hy => h y (by simp [hy])
    rw [expandMembers]
    split
    next => exact rest
    next => exact hP.bind (h (k, v) (by simp)) fun v => hP.bind rest fun ms => hP.pure _

/-- What all answers to the references in a value have, the traversal of the value has. -/
theorem expand_composes {v : Document} (h : ∀ ref ∈ refsIn v, ∀ siblings, P _ (f ref siblings)) :
    P _ (expand f v) := by
  induction v using Json.inductOn with
  | arr items ih =>
    rw [expand]
    refine hP.bind (expandItems_composes hP fun x hx => ih x hx fun ref hr => ?_) fun xs => hP.pure _
    exact h ref (mem_refsInItems.mpr ⟨x, hx, hr⟩)
  | obj members ih =>
    rw [expand]
    refine hP.bind (expandMembers_composes hP fun m hm => ih m hm fun ref hr => ?_) fun siblings => ?_
    · exact h ref (List.mem_append_right _ (mem_refsInMembers.mpr ⟨m, hm, hr⟩))
    · cases hr : refOf? members with
      | none => exact hP.pure _
      | some ref => exact h ref (List.mem_append_left _ (by simp [hr])) siblings
  | _ => exact hP.pure _

end Expand

end Corpus

end NoteSchema
