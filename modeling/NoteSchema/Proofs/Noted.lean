import NoteSchema.Noted

namespace NoteSchema

theorem Fault.bind_eq_ok {α β : Type} {x : Except Fault α} {f : α → Except Fault β} {b : β} :
    x >>= f = .ok b ↔ ∃ a, x = .ok a ∧ f a = .ok b := by
  cases x with
  | error e => exact ⟨fun h => (nomatch h), fun ⟨_, h, _⟩ => (nomatch h)⟩
  | ok a => exact ⟨fun h => ⟨a, rfl, h⟩, fun ⟨a', h, hb⟩ => by cases h; exact hb⟩

theorem Fault.exists_bind_ok {α β : Type} {x : Except Fault α} {f : α → Except Fault β} :
    (∃ b, x >>= f = .ok b) ↔ ∃ a, x = .ok a ∧ ∃ b, f a = .ok b := by
  simp only [bind_eq_ok]
  constructor
  · rintro ⟨b, a, ha, hb⟩
    exact ⟨a, ha, b, hb⟩
  · rintro ⟨a, ha, b, hb⟩
    exact ⟨b, a, ha, hb⟩

end NoteSchema

namespace NoteSchema.Noted

variable {ω α β : Type}

theorem bind_of_ok {rs : List ω} {a : α} (f : α → Noted ω β) :
    (⟨rs, .ok a⟩ : Noted ω α) >>= f = ⟨rs ++ (f a).remarks, (f a).outcome⟩ := rfl

instance : LawfulMonad (Noted ω) := LawfulMonad.mk' _
  (by
    rintro α ⟨rs, _ | a⟩
    · rfl
    · exact congrArg (Noted.mk · _) (List.append_nil rs))
  (fun _ _ => rfl)
  (by
    rintro α β γ ⟨rs, _ | a⟩ f g
    · rfl
    · rw [bind_of_ok, bind_of_ok]
      cases f a with
      | mk ss r =>
        cases r with
        | error e => rfl
        | ok b => exact congrArg (Noted.mk · _) (List.append_assoc rs ss _))

/-- A result of two steps is made of one result of each. -/
theorem bind_eq_ok {x : Noted ω α} {f : α → Noted ω β} {rs : List ω} {b : β} :
    x >>= f = ⟨rs, .ok b⟩ ↔ ∃ ss a ts, x = ⟨ss, .ok a⟩ ∧ f a = ⟨ts, .ok b⟩ ∧ rs = ss ++ ts := by
  constructor
  · intro h
    obtain ⟨ss, _ | a⟩ := x
    · cases h
    · rw [bind_of_ok] at h
      cases hf : f a with
      | mk ts r =>
        rw [hf] at h
        cases h
        exact ⟨ss, a, ts, rfl, hf, rfl⟩
  · rintro ⟨ss, a, ts, rfl, hf, rfl⟩
    rw [bind_of_ok, hf]

/-- What two steps come to is what their outcomes come to. -/
theorem outcome_bind (x : Noted ω α) (f : α → Noted ω β) :
    (x >>= f).outcome = x.outcome >>= fun a => (f a).outcome := by
  obtain ⟨rs, _ | a⟩ := x <;> rfl

/-- Work that leaves remarks only comes to nothing, done or not. -/
theorem outcome_when (b : Bool) {x : Noted ω Unit} (h : x.outcome = Pure.pure ()) :
    (Noted.when b x).outcome = Pure.pure () := by
  cases b
  · rfl
  · exact h

theorem outcome_bind_eq_ok {x : Noted ω α} {f : α → Noted ω β} {b : β} :
    (x >>= f).outcome = .ok b ↔ ∃ a, x.outcome = .ok a ∧ (f a).outcome = .ok b := by
  obtain ⟨rs, _ | a⟩ := x
  · exact ⟨fun h => (by cases h), fun ⟨a, h, _⟩ => (by cases h)⟩
  · rw [bind_of_ok]
    exact ⟨fun h => ⟨a, rfl, h⟩, fun ⟨a', h, hb⟩ => by cases h; exact hb⟩

/-- What work comes to, if it goes through, has a property. -/
def Ensures (P : α → Prop) (x : Noted ω α) : Prop := ∀ a, x.outcome = .ok a → P a

namespace Ensures

variable {P : α → Prop} {Q : β → Prop}

theorem pure {a : α} (h : P a) : Ensures P (Pure.pure a : Noted ω α) := fun b hb => by
  cases hb
  exact h

theorem bind {x : Noted ω α} {f : α → Noted ω β} (hx : x.Ensures P) (hf : ∀ a, P a → (f a).Ensures Q) :
    (x >>= f).Ensures Q := fun b hb => by
  obtain ⟨a, ha, hb⟩ := outcome_bind_eq_ok.mp hb
  exact hf a (hx a ha) b hb

theorem any (x : Noted ω α) : x.Ensures fun _ => True := fun _ _ => trivial

end Ensures

/-- What other work comes to is what this one comes to, changed by a function; a fault is the same. The remarks do not
count. -/
def Maps (φ : α → β) (x : Noted ω α) (y : Noted ω β) : Prop := y.outcome = x.outcome.map φ

namespace Maps

variable {α' β' : Type} {φ : α → α'} {ψ : β → β'}

theorem pure {a : α} : Maps φ (Pure.pure a : Noted ω α) (Pure.pure (φ a)) := rfl

theorem iff_outcome {x y : Noted ω α} : Maps id x y ↔ y.outcome = x.outcome := by rw [Maps, Except.map_id]; rfl

theorem refl (x : Noted ω α) : Maps id x x := iff_outcome.mpr rfl

theorem bind {x : Noted ω α} {y : Noted ω α'} {f : α → Noted ω β} {g : α' → Noted ω β'} (h : Maps φ x y)
    (hf : ∀ a, Maps ψ (f a) (g (φ a))) : Maps ψ (x >>= f) (y >>= g) := by
  obtain ⟨rs, o⟩ := x
  obtain ⟨ss, o'⟩ := y
  obtain rfl : o' = o.map φ := h
  cases o with
  | error e => rfl
  | ok a => exact hf a

/-- Remarks made before other work change nothing. -/
theorem of_remarks {u : Noted ω Unit} {x : Noted ω α} {y : Noted ω α'} (hu : u.outcome = Pure.pure ())
    (h : Maps φ x y) : Maps φ (u >>= fun _ => x) y := by
  obtain ⟨rs, o⟩ := u
  cases hu
  exact h

theorem outcome_map {x : Noted ω α} {y : Noted ω α'} {f : α → β} {g : α' → β'} (h : Maps φ x y)
    (hf : ∀ a, g (φ a) = ψ (f a)) : y.outcome.map g = (x.outcome.map f).map ψ := by
  obtain ⟨rs, o⟩ := x
  obtain ⟨ss, o'⟩ := y
  obtain rfl : o' = o.map φ := h
  cases o with
  | error e => rfl
  | ok a => exact congrArg Except.ok (hf a)

end Maps

end NoteSchema.Noted
