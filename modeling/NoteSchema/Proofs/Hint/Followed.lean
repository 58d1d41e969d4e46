import NoteSchema.Proofs.Hint.Boundary
import Mathlib.Data.List.Nodup

namespace NoteSchema.Hint

/-- Fields with others put among them: one with a name that is there takes its place, a new one goes to the end. -/
def putFields (fields more : List (String × Field)) : List (String × Field) :=
  more.foldl (fun acc f => putField f.1 f.2 acc) fields

/-- A block with another one put behind it. -/
def Block.followedBy (a b : Block) : Block where
  owner := a.owner
  title := b.title.or a.title
  description := b.description.or a.description
  required := a.required ++ b.required
  additionalProperties := b.additionalProperties.or a.additionalProperties
  oneOf := a.oneOf ++ b.oneOf
  anyOf := a.anyOf ++ b.anyOf
  allOf := a.allOf ++ b.allOf
  xor := a.xor ++ b.xor
  fields := putFields a.fields b.fields

/-- The names of the fields of a block in order. -/
def Block.names (b : Block) : List String := b.fields.map (·.1)

theorem Block.followedBy_empty (a : Block) (owner : String) : a.followedBy { owner } = a := by
  simp [Block.followedBy, putFields]

section Fields

variable {name : String} {f g : Field} {fields more : List (String × Field)}

theorem names_putField : (putField name f fields).map (·.1) =
    if name ∈ fields.map (·.1) then fields.map (·.1) else fields.map (·.1) ++ [name] := by
  induction fields with
  | nil => simp [putField]
  | cons m fields ih =>
    obtain ⟨n, h⟩ := m
    by_cases hn : n = name
    · simp [putField, hn]
    · simp only [putField, if_neg hn, List.map_cons, ih, List.mem_cons, Ne.symm hn, false_or]
      split <;> rfl

theorem field?_isSome : (Block.field? name fields).isSome ↔ name ∈ fields.map (·.1) := by
  induction fields with
  | nil => simp [Block.field?]
  | cons m fields ih =>
    obtain ⟨n, h⟩ := m
    by_cases hn : n = name
    · simp [Block.field?, hn]
    · simp only [Block.field?, if_neg hn, ih, List.map_cons, List.mem_cons, Ne.symm hn, false_or]

theorem hasField_iff {b : Block} : b.hasField name = true ↔ name ∈ b.names := field?_isSome

theorem mem_names_putFields : name ∈ (putFields fields more).map (·.1) ↔
    name ∈ fields.map (·.1) ∨ name ∈ more.map (·.1) := by
  unfold putFields
  induction more generalizing fields with
  | nil => simp
  | cons m more ih =>
    rw [List.foldl_cons, ih, names_putField]
    split
    next hm =>
      have : name = m.1 → name ∈ fields.map (·.1) := fun he => he ▸ hm
      simp only [List.map_cons, List.mem_cons]
      tauto
    next => simp only [List.mem_append, List.map_cons, List.mem_cons, List.not_mem_nil, or_false, or_assoc]

theorem hasField_followedBy (a b : Block) :
    (a.followedBy b).hasField name = (a.hasField name || b.hasField name) := by
  rw [Bool.eq_iff_iff, Bool.or_eq_true, hasField_iff, hasField_iff, hasField_iff]
  exact mem_names_putFields

theorem putField_putField_self : putField name f (putField name g fields) = putField name f fields := by
  induction fields with
  | nil => simp [putField]
  | cons m fields ih =>
    obtain ⟨n, h⟩ := m
    by_cases hn : n = name <;> simp [putField, hn, ih]

theorem putField_comm {other : String} (hne : other ≠ name) (hm : name ∈ fields.map (·.1)) :
    putField name f (putField other g fields) = putField other g (putField name f fields) := by
  induction fields with
  | nil => simp at hm
  | cons m fields ih =>
    obtain ⟨n, h⟩ := m
    by_cases hn : n = name
    · subst n
      simp [putField, Ne.symm hne]
    · have hrest : name ∈ fields.map (·.1) := by simpa [Ne.symm hn] using hm
      by_cases ho : n = other
      · subst n
        simp [putField, hn]
      · simp [putField, hn, ho, ih hrest]

theorem putField_putFields_of_mem (hm : name ∈ fields.map (·.1)) (hnot : name ∉ more.map (·.1)) :
    putField name f (putFields fields more) = putFields (putField name f fields) more := by
  unfold putFields
  induction more generalizing fields with
  | nil => rfl
  | cons m more ih =>
    simp only [List.map_cons, List.mem_cons, not_or] at hnot
    have hput : name ∈ (putField m.1 m.2 fields).map (·.1) := by
      rw [names_putField]
      split
      · exact hm
      · exact List.mem_append_left _ hm
    rw [List.foldl_cons, List.foldl_cons, ih hput hnot.2, putField_comm (Ne.symm hnot.1) hm]

/-- Putting a field among later ones, and those among earlier ones, is putting it among all. -/
theorem putFields_putField (hn : (more.map (·.1)).Nodup) :
    putFields fields (putField name f more) = putField name f (putFields fields more) := by
  induction more generalizing fields with
  | nil => rfl
  | cons m more ih =>
    obtain ⟨n, h⟩ := m
    simp only [List.map_cons, List.nodup_cons] at hn
    by_cases he : n = name
    · subst n
      have hm : name ∈ (putField name h fields).map (·.1) := by
        rw [names_putField]
        split
        · assumption
        · simp
      have hput := putField_putFields_of_mem (f := f) hm hn.1
      rw [putField_putField_self] at hput
      rw [putField, if_pos rfl]
      exact hput.symm
    · rw [putField, if_neg he]
      exact ih hn.2

end Fields

section Root

variable {mode : Strictness}

/-- A directive outside the fields acts on a block that follows another one as on the block alone. -/
theorem applyRoot_followedBy (a b : Block) (key : String) (value : Value) (line : Int) :
    applyRoot mode (a.followedBy b) key value line = a.followedBy <$> applyRoot mode b key value line := by
  unfold applyRoot
  cases RootDirective.ofKey? (Text.small key) with
  | none => cases mode <;> rfl
  | some directive =>
    cases directive with
    | additionalProperties => cases value <;> cases mode <;> rfl
    | title => rfl
    | description => rfl
    | required => simp [Block.followedBy, List.append_assoc]
    | oneOf => simp [Block.followedBy, List.append_assoc]
    | anyOf => simp [Block.followedBy, List.append_assoc]
    | allOf => simp [Block.followedBy, List.append_assoc]
    | xor => simp [Block.followedBy, List.append_assoc]

theorem names_applyRoot {b b' : Block} {key : String} {value : Value} {line : Int} {rs : List Finding}
    (h : applyRoot mode b key value line = ⟨rs, .ok b'⟩) : b'.names = b.names := by
  unfold applyRoot at h
  cases hd : RootDirective.ofKey? (Text.small key) with
  | none =>
    rw [hd] at h
    cases mode <;> cases h <;> rfl
  | some directive =>
    rw [hd] at h
    cases directive with
    | additionalProperties => cases value <;> cases mode <;> cases h <;> rfl
    | _ =>
      cases h
      rfl

theorem applyRoot_followedBy_of_ok (a : Block) {b b' : Block} {key : String} {value : Value} {line : Int}
    {rs : List Finding} (h : applyRoot mode b key value line = ⟨rs, .ok b'⟩) :
    applyRoot mode (a.followedBy b) key value line = ⟨rs, .ok (a.followedBy b')⟩ ∧ b'.names = b.names := by
  refine ⟨?_, names_applyRoot h⟩
  rw [applyRoot_followedBy, h]
  exact congrArg (Noted.mk · _) (List.append_nil rs)

end Root

/-- Every element of two lists in an order that keeps the order of each. -/
inductive Interleaves {α : Type} : List α → List α → List α → Prop
  | nil : Interleaves [] [] []
  | left {x : α} {xs ys zs : List α} (rest : Interleaves xs ys zs) : Interleaves (x :: xs) ys (x :: zs)
  | right {y : α} {xs ys zs : List α} (rest : Interleaves xs ys zs) : Interleaves xs (y :: ys) (y :: zs)

theorem Interleaves.refl {α : Type} (xs : List α) : Interleaves xs [] xs := by
  induction xs with
  | nil => exact .nil
  | cons x xs ih => exact .left ih

theorem Interleaves.append {α : Type} {xs ys zs us vs ws : List α} (h : Interleaves xs ys zs)
    (k : Interleaves us vs ws) : Interleaves (xs ++ us) (ys ++ vs) (zs ++ ws) := by
  induction h with
  | nil => exact k
  | left _ ih => exact .left ih
  | right _ ih => exact .right ih

theorem Interleaves.map {α β : Type} {xs ys zs : List α} (h : Interleaves xs ys zs) (f : α → β) :
    Interleaves (xs.map f) (ys.map f) (zs.map f) := by
  induction h with
  | nil => exact .nil
  | left _ ih => exact .left ih
  | right _ ih => exact .right ih

/-- The remark on a field that a block has already. -/
def declaredTwice (name : String) (line : Int) : Finding :=
  ⟨.warning, "Field '" ++ name ++ "' declared twice; later block wins", line, name⟩

/-- What reading lines onto a block comes to when the block follows another one: the same remarks, and in strict reading
one more for each name new to the block that the other one has, at a header of that name. -/
def Repeats (mode : Strictness) (a b b' : Block) (lines : List Line) (rs rs' : List Finding) : Prop :=
  ∃ (new : List String) (twice : List (String × Int)), b'.names = b.names ++ new ∧
    twice.map (·.1) = new.filter (fun name => mode.isStrict && a.hasField name) ∧
      (∀ p ∈ twice, ∃ l ∈ lines, l.fieldName? = some p.1 ∧ l.number = p.2) ∧
      Interleaves rs (twice.map fun p => declaredTwice p.1 p.2) rs'

section Repeats

variable {mode : Strictness} {a b b' b'' : Block} {lines more : List Line} {rs rs' ss ss' : List Finding}

theorem Repeats.of_names (h : b'.names = b.names) : Repeats mode a b b' lines rs rs :=
  ⟨[], [], by simp [h], rfl, by simp, .refl rs⟩

theorem Repeats.trans (h : Repeats mode a b b' lines rs rs') (k : Repeats mode a b' b'' lines ss ss') :
    Repeats mode a b b'' lines (rs ++ ss) (rs' ++ ss') := by
  obtain ⟨new, twice, hnames, hnew, hat, hrs⟩ := h
  obtain ⟨newer, twicer, hnames', hnewer, hat', hss⟩ := k
  refine ⟨new ++ newer, twice ++ twicer, by rw [hnames', hnames, List.append_assoc], ?_, fun p hp => ?_, ?_⟩
  · rw [List.map_append, List.filter_append, hnew, hnewer]
  · exact (List.mem_append.mp hp).elim (hat p) (hat' p)
  · rw [List.map_append]
    exact hrs.append hss

theorem Repeats.mono (h : Repeats mode a b b' lines rs rs') (hsub : lines ⊆ more) :
    Repeats mode a b b' more rs rs' := by
  obtain ⟨new, twice, hnames, hnew, hat, hrs⟩ := h
  refine ⟨new, twice, hnames, hnew, fun p hp => ?_, hrs⟩
  obtain ⟨l, hl, hp⟩ := hat p hp
  exact ⟨l, hsub hl, hp⟩

end Repeats

theorem when_report {mode : Strictness} (b : Bool) (severity : Severity) (message : String) (line : Int)
    (field : String) : Noted.when b (Reading.report mode severity message line field) =
      Noted.when (mode.isStrict && b) (.note ⟨severity, message, line, field⟩) := by
  cases b <;> cases mode <;> rfl

section Behind

variable {mode : Strictness}

theorem readField_followedBy (a : Block) {b b' : Block} {name : String} {header : Line} {rest : List Line}
    {rs : List Finding} (hn : b.names.Nodup) (hname : header.fieldName? = some name)
    (h : readField mode b name header rest = ⟨rs, .ok b'⟩) :
    ∃ rs', readField mode (a.followedBy b) name header rest = ⟨rs', .ok (a.followedBy b')⟩ ∧ b'.names.Nodup ∧
      Repeats mode a b b' [header] rs rs' := by
  unfold readField at h
  obtain ⟨gap, _, _, hgap, h₁, rfl⟩ := Noted.bind_eq_ok.mp h
  obtain ⟨below, entries, _, hentries, h₂, rfl⟩ := Noted.bind_eq_ok.mp h₁
  obtain ⟨known, _, _, hknown, h₃, rfl⟩ := Noted.bind_eq_ok.mp h₂
  obtain ⟨inner, f, _, hfield, h₄, rfl⟩ := Noted.bind_eq_ok.mp h₃
  cases h₄
  -- only the remark on a name that is there already may differ
  have hwhole : ∀ known', Noted.when ((a.followedBy b).hasField name)
      (Reading.warning mode ("Field '" ++ name ++ "' declared twice; later block wins") header.number name) =
        ⟨known', .ok ()⟩ →
      readField mode (a.followedBy b) name header rest = ⟨gap ++ (below ++ (known' ++ (inner ++ []))),
        .ok (a.followedBy { b with fields := putField name f b.fields })⟩ := by
    intro known' hknown'
    have hfields : (a.followedBy { b with fields := putField name f b.fields }) =
        { a.followedBy b with fields := putField name f (a.followedBy b).fields } := by
      simp only [Block.followedBy, putFields_putField hn]
    unfold readField
    rw [hgap, Noted.bind_of_ok, hentries, Noted.bind_of_ok, hknown', Noted.bind_of_ok, hfield, Noted.bind_of_ok,
      hfields]
    rfl
  have hnames : ({ b with fields := putField name f b.fields } : Block).names =
      if name ∈ b.names then b.names else b.names ++ [name] := names_putField
  by_cases hb : name ∈ b.names
  · rw [if_pos hb] at hnames
    have hboth : (a.followedBy b).hasField name = b.hasField name := by
      rw [hasField_followedBy, hasField_iff.mpr hb, Bool.or_true]
    exact ⟨_, hwhole known (hboth ▸ hknown), hnames ▸ hn, .of_names hnames⟩
  · rw [if_neg hb] at hnames
    have hnot : b.hasField name = false := Bool.eq_false_iff.mpr fun h => hb (hasField_iff.mp h)
    have hnodup : (b.names ++ [name]).Nodup := hn.concat hb |> (by simpa using ·)
    rw [hnot] at hknown
    cases hknown
    rw [hasField_followedBy, hnot, Bool.or_false, Reading.warning, when_report] at hwhole
    cases ha : mode.isStrict && a.hasField name with
    | true =>
      rw [ha] at hwhole
      refine ⟨_, hwhole [declaredTwice name header.number] rfl, hnames ▸ hnodup, [name], [(name, header.number)],
        hnames, by simp [ha], by simp [hname], ?_⟩
      exact (Interleaves.refl gap).append ((Interleaves.refl below).append
        (Interleaves.append (.right .nil) (.refl (inner ++ []))))
    | false =>
      rw [ha] at hwhole
      exact ⟨_, hwhole [] rfl, hnames ▸ hnodup, [name], [], hnames, by simp [ha], by simp, .refl _⟩

/-- Reading sections onto a block that follows another one is reading them onto the block, put behind the other
one. -/
theorem readSections_followedBy (a : Block) {b b' : Block} {lines : List Line} {rs : List Finding}
    (hn : b.names.Nodup) (h : readSections mode b lines = ⟨rs, .ok b'⟩) :
    ∃ rs', readSections mode (a.followedBy b) lines = ⟨rs', .ok (a.followedBy b')⟩ ∧
      Repeats mode a b b' lines rs rs' := by
  -- the names stay distinct, without which a repeated field could land at another place
  fun_induction readSections mode b lines generalizing rs b' with
  | case1 b =>
    cases h
    exact ⟨[], by rw [readSections]; rfl, .of_names rfl⟩
  | case2 b l rest hskip ih =>
    obtain ⟨rs', hwhole, hrep⟩ := ih hn h
    exact ⟨rs', by rw [readSections, if_pos hskip, hwhole], hrep.mono (List.subset_cons_self l rest)⟩
  | case3 b l rest hskip hend =>
    cases h
    exact ⟨[], by rw [readSections, if_neg hskip, if_pos hend]; rfl, .of_names rfl⟩
  | case4 b l rest hskip hend name hname ih =>
    obtain ⟨ss, mid, ts, hfield, hrest, rfl⟩ := Noted.bind_eq_ok.mp h
    obtain ⟨ss', hfield', hmid, hrep⟩ := readField_followedBy a hn hname hfield
    obtain ⟨ts', hrest', hrep'⟩ := ih mid hmid hrest
    refine ⟨ss' ++ ts', ?_, (hrep.mono (by simp)).trans (hrep'.mono ?_)⟩
    · rw [readSections, if_neg hskip, if_neg hend, hname]
      exact Noted.bind_eq_ok.mpr ⟨ss', _, ts', hfield', hrest', rfl⟩
    · exact List.subset_cons_of_subset l (List.dropWhile_sublist _).subset
  | case5 b l rest hskip hend hname hkey ih =>
    obtain ⟨ss, _, ts, hline, hrest, rfl⟩ := Noted.bind_eq_ok.mp h
    obtain ⟨ts', hrest', hrep⟩ := ih hn hrest
    refine ⟨ss ++ ts', ?_, (Repeats.of_names rfl).trans (hrep.mono (List.subset_cons_self l rest))⟩
    rw [readSections, if_neg hskip, if_neg hend, hname, hkey]
    exact Noted.bind_eq_ok.mpr ⟨ss, _, ts', hline, hrest', rfl⟩
  | case6 b l rest hskip hend hname key hkey ih =>
    obtain ⟨vs, value, _, hvalue, h₁, rfl⟩ := Noted.bind_eq_ok.mp h
    obtain ⟨ss, mid, ts, hroot, hrest, rfl⟩ := Noted.bind_eq_ok.mp h₁
    obtain ⟨hroot', hnames⟩ := applyRoot_followedBy_of_ok a hroot
    obtain ⟨ts', hrest', hrep⟩ := ih mid (hnames ▸ hn) hrest
    refine ⟨vs ++ (ss ++ ts'), ?_, ?_⟩
    · rw [readSections, if_neg hskip, if_neg hend, hname, hkey]
      exact Noted.bind_eq_ok.mpr ⟨vs, value, _, hvalue, Noted.bind_eq_ok.mpr ⟨ss, _, ts', hroot', hrest', rfl⟩, rfl⟩
    · have hsub := List.subset_cons_of_subset l (afterBelow_subset l.indent rest)
      exact (Repeats.of_names rfl).trans ((Repeats.of_names hnames).trans (hrep.mono hsub))
  | case7 b l rest hskip hend hname key value hvalue hkey ih =>
    obtain ⟨c, cs, rfl⟩ := List.exists_cons_of_ne_nil hvalue
    obtain ⟨vs, v, _, hscalar, h₁, rfl⟩ := Noted.bind_eq_ok.mp h
    obtain ⟨ss, mid, ts, hroot, hrest, rfl⟩ := Noted.bind_eq_ok.mp h₁
    obtain ⟨hroot', hnames⟩ := applyRoot_followedBy_of_ok a hroot
    obtain ⟨ts', hrest', hrep⟩ := ih mid (hnames ▸ hn) hrest
    refine ⟨vs ++ (ss ++ ts'), ?_, ?_⟩
    · rw [readSections, if_neg hskip, if_neg hend, hname, hkey]
      exact Noted.bind_eq_ok.mpr ⟨vs, v, _, hscalar, Noted.bind_eq_ok.mpr ⟨ss, _, ts', hroot', hrest', rfl⟩, rfl⟩
    · exact (Repeats.of_names rfl).trans ((Repeats.of_names hnames).trans (hrep.mono (List.subset_cons_self l rest)))

end Behind

end NoteSchema.Hint
