import NoteSchema.Proofs.Sample.Sound

namespace NoteSchema.Sample

/-- What a greater depth leaves of a result: all of it, unless something was in the way. -/
def Deepens (r s : Result) : Prop := r = .ok .blocked ∨ s = r

namespace Deepens

theorem refl (r : Result) : Deepens r r := .inr rfl

theorem of_blocked (s : Result) : Deepens (.ok .blocked) s := .inl rfl

/-- Work before the sampling of a part comes to the same at every depth. -/
theorem after {α : Type} (x : Except Failure α) {f g : α → Result} (h : ∀ a, Deepens (f a) (g a)) :
    Deepens (x >>= f) (x >>= g) := by
  cases x with
  | error e => exact refl _
  | ok a => exact h a

/-- Where nothing comes of the whole for want of a part, more of the part changes nothing that was there. -/
theorem bind {r s : Result} {f g : Outcome → Result} (h : Deepens r s) (blocked : f .blocked = .ok .blocked)
    (rest : ∀ o, Deepens (f o) (g o)) : Deepens (r >>= f) (s >>= g) := by
  rcases h with rfl | rfl
  · exact .inl blocked
  · exact after s rest

end Deepens

section Keywords

variable {f g : Document → Result} (h : ∀ d, Deepens (f d) (g d))

include h

theorem requiredMembers_deepens (properties : Document) (members : Members Key) (names : List Document) :
    Deepens (requiredMembers f properties members names) (requiredMembers g properties members names) := by
  induction names generalizing members with
  | nil => exact .refl _
  | cons name names ih =>
    refine .after _ fun named => .bind (h named.2) rfl fun o => ?_
    cases filled named.2 o with
    | none => exact .of_blocked _
    | some v => exact ih (members.set named.1 v)

theorem merged_deepens (members : Members Key) (branches : List Document) :
    Deepens (merged f members branches) (merged g members branches) := by
  induction branches generalizing members with
  | nil => exact .refl _
  | cons branch branches ih =>
    refine .bind (h branch) rfl fun o => ?_
    cases o with
    | blocked => exact .of_blocked _
    | shapeless => exact ih members
    | value v =>
      cases v with
      | obj more => exact ih (members.update more)
      | _ => exact ih members

theorem ofArray_deepens (schema : Members String) : Deepens (ofArray f schema) (ofArray g schema) :=
  .after _ fun _ => .bind (h _) rfl fun _ => .refl _

theorem ofObject_deepens (schema : Members String) : Deepens (ofObject f schema) (ofObject g schema) :=
  .after _ fun names => requiredMembers_deepens h _ [] names

theorem ofType_deepens (schema : Members String) : Deepens (ofType f schema) (ofType g schema) := by
  unfold ofType
  split
  · exact ofObject_deepens h schema
  · exact ofArray_deepens h schema
  all_goals exact .refl _

/-- No keyword makes an instance of a schema of which a part has none. -/
theorem ofKeywords_deepens (schema : Members String) : Deepens (ofKeywords f schema) (ofKeywords g schema) := by
  unfold ofKeywords
  split
  · exact .after _ fun branches => merged_deepens h [] branches
  · split
    · exact .after _ fun chosen => h chosen
    · split
      · split
        · exact .refl _
        · exact h _
      · split
        · exact .refl _
        · split
          · exact .refl _
          · exact ofType_deepens h schema

end Keywords

/-- A greater budget changes nothing but what the smaller one was too small for. -/
theorem sample_deepens (c : Corpus) {low high : Nat} (h : low ≤ high) (here schema : Document) :
    Deepens (sample c low here schema) (sample c high here schema) := by
  -- a reference may lead anywhere, so the induction is on the budget and not on the schema
  induction low generalizing high here schema with
  | zero => exact .of_blocked _
  | succ low ih =>
    obtain ⟨high, rfl⟩ := Nat.exists_eq_add_one_of_ne_zero (Nat.ne_zero_of_lt h)
    have hparts := fun here => ih (Nat.le_of_succ_le_succ h) here
    cases schema with
    | obj members =>
      cases members with
      | nil => exact .refl _
      | cons m ms =>
        rw [sample, sample]
        split
        next ref _ =>
          cases resolve c here ref with
          | error e => exact .refl _
          | ok found => exact hparts found.2 found.1
        next => exact ofKeywords_deepens (hparts here) (m :: ms)
    | _ => exact .refl _

/-- A higher ceiling of depth gives the same answer, or there was no sample. -/
theorem synthesize_deepens (c : Corpus) (schema : Document) {low high : Document} {d d' : Int}
    (hlow : ceiling low = .ok d) (hhigh : ceiling high = .ok d') (h : d ≤ d') :
    synthesize c low schema = .ok none ∨ synthesize c high schema = synthesize c low schema := by
  have hbudget : (d + 1).toNat ≤ (d' + 1).toNat := Int.toNat_le_toNat (Int.add_le_add_right h 1)
  unfold synthesize
  simp only [hlow, hhigh, bind, Except.bind]
  rcases sample_deepens c hbudget schema schema with hblocked | hsame
  · left
    rw [hblocked]
    rfl
  · right
    rw [hsame]

/-- A sample that there is up to a ceiling of depth is the sample up to every higher ceiling, and a failure, such as a
reference that leads nowhere, stays the same failure. -/
theorem higher_ceiling_keeps_sample (c : Corpus) (schema : Document) {low high : Document} {d d' : Int}
    (hlow : ceiling low = .ok d) (hhigh : ceiling high = .ok d') (h : d ≤ d') :
    (∀ v, synthesize c low schema = .ok (some v) → synthesize c high schema = .ok (some v)) ∧
      ∀ e, synthesize c low schema = .error e → synthesize c high schema = .error e := by
  rcases synthesize_deepens c schema hlow hhigh h with hnone | hsame
  · exact ⟨fun v hv => by simp [hnone] at hv, fun e he => by simp [hnone] at he⟩
  · rw [hsame]
    exact ⟨fun _ => id, fun _ => id⟩

/-- A company with a part that is not there. -/
def partless : Document :=
  .obj [("allOf", .arr [link "https://example.org/schemas/staff/company.schema.json", link "#/part"])]

theorem staffSample_kept :
    ceiling (.int 4) = .ok 4 ∧ ceiling (.int 9) = .ok 9 ∧ (4 : Int) ≤ 9 ∧
      synthesize staff (.int 3) person.document = .ok none ∧
      synthesize staff (.int 4) person.document = .ok (some (.obj staffSample)) ∧
      synthesize staff (.int 9) person.document = .ok (some (.obj staffSample)) ∧
      synthesize staff (.int 4) partless = .error (.unresolved "#/part") ∧
      synthesize staff (.int 9) partless = .error (.unresolved "#/part") := by
  have hlow : ceiling (.int 4) = .ok 4 := rfl
  have hhigh : ceiling (.int 9) = .ok 9 := rfl
  have hperson : synthesize staff (.int 4) person.document = .ok (some (.obj staffSample)) := by decide
  have hpartless : synthesize staff (.int 4) partless = .error (.unresolved "#/part") := by decide
  exact ⟨hlow, hhigh, by decide, by decide, hperson,
    (higher_ceiling_keeps_sample staff person.document hlow hhigh (by decide)).1 _ hperson, hpartless,
    (higher_ceiling_keeps_sample staff partless hlow hhigh (by decide)).2 _ hpartless⟩

end NoteSchema.Sample
