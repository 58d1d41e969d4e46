import NoteSchema.Proofs.Sample.Dereferenced
import NoteSchema.Proofs.Sample.Valid

namespace NoteSchema.Sample

/-- The names that a schema requires. -/
def requiredNames (ms : Members String) : List String :=
  match ms.find? "required" with
  | some (.arr names) => names.filterMap fun
    | .str s => some s
    | _ => none
  | _ => []

variable {ms : Members String} {f : Document → Result}

theorem mem_requiredNames {names : List Document} (h : ms.find? "required" = some (.arr names)) {s : String}
    (hs : .str s ∈ names) : s ∈ requiredNames ms := by
  rw [requiredNames, h]
  exact List.mem_filterMap.mpr ⟨_, hs, rfl⟩

section Keywords

variable {names : List String}

theorem present?_list {k : String} {d : Document} {ds : List Document} (hv : ms.find? k = some (.arr (d :: ds))) :
    present? ms k = some (.arr (d :: ds)) := by
  rw [present?, hv]
  rfl

theorem ofKeywords_anyOf {d : Document} {ds : List Document} (only : Only ["anyOf"] ms)
    (hv : ms.find? "anyOf" = some (.arr (d :: ds))) : ofKeywords f ms = f d := by
  have hall := only "allOf" (by decide) (by decide)
  have hone : present? ms "oneOf" = none := by simp [present?, only "oneOf" (by decide) (by decide)]
  simp [ofKeywords, hall, hone, present?_list hv, first, bind, Except.bind]

theorem Only.unbranched (only : Only names ms) (hn : "anyOf" ∉ names) (hnames : ∀ k ∈ names, k ∈ core) :
    ms.find? "allOf" = none ∧ present? ms "oneOf" = none ∧ present? ms "anyOf" = none ∧ ms.has "if" = false := by
  have hother : ∀ k ∈ others, k ∉ core → ms.find? k = none := fun k hk hcore =>
    only k (List.mem_append_right _ hk) fun h => hcore (hnames k h)
  refine ⟨hother "allOf" (by decide) (by decide), ?_, ?_, ?_⟩
  · simp [present?, hother "oneOf" (by decide) (by decide)]
  · simp [present?, only "anyOf" (by decide) hn]
  · simp [Members.has, hother "if" (by decide) (by decide)]

theorem ofKeywords_const {d : Document} (only : Only ["const"] ms) (hv : ms.find? "const" = some d) :
    ofKeywords f ms = document d := by
  obtain ⟨hall, hone, hany, hif⟩ := only.unbranched (by decide) (by decide)
  simp [ofKeywords, hall, hone, hany, hif, hv]

theorem ofKeywords_enum {d : Document} {ds : List Document} (only : Only ["enum"] ms)
    (hv : ms.find? "enum" = some (.arr (d :: ds))) : ofKeywords f ms = document d := by
  obtain ⟨hall, hone, hany, hif⟩ := only.unbranched (by decide) (by decide)
  have hconst := only "const" (by decide) (by decide)
  simp [ofKeywords, hall, hone, hany, hif, hconst, present?_list hv, first, bind, Except.bind]

/-- A schema without branches and without literals goes by its type. -/
theorem ofKeywords_eq_ofType (only : Only names ms) (hn : ∀ k ∈ ["anyOf", "const", "enum"], k ∉ names)
    (hnames : ∀ k ∈ names, k ∈ core) : ofKeywords f ms = ofType f ms := by
  obtain ⟨hall, hone, hany, hif⟩ := only.unbranched (hn _ (by simp)) hnames
  have hconst := only "const" (by decide) (hn _ (by simp))
  have henum : present? ms "enum" = none := by simp [present?, only "enum" (by decide) (hn _ (by simp))]
  simp [ofKeywords, hall, hone, hany, hif, hconst, henum]

theorem typeOf_str {t : String} (h : ms.find? "type" = some (.str t)) : typeOf ms = .str t := by
  simp [typeOf, h]

end Keywords

section Objects

variable (required : ∀ d, ms.find? "required" = some d → ∃ names : List String, d = .arr (names.map .str))

theorem sole_of_gives {properties : Document} {ks : List String} {more : Members Key}
    (h : List.Forall₂ (Gives f properties) (ks.map Json.str) more) : ∀ k ∈ more.keys, Members.Sole k := by
  rw [keys_of_gives h]
  intro k hk
  obtain ⟨s, _, rfl⟩ := List.mem_map.mp hk
  exact fun _ => Key.beq_text_iff

include required

theorem parts_required :
    parts ((ms.find? "required").getD (.arr [])) = .ok ((requiredNames ms).map .str) := by
  unfold requiredNames
  cases hr : ms.find? "required" with
  | none => rfl
  | some d =>
    obtain ⟨names, rfl⟩ := required d hr
    simp [parts, List.filterMap_map]

/-- The members of an object are those that its required names give. -/
theorem ofObject_eq_value {v : Instance} (ho : ofObject f ms = .ok (.value v)) :
    ∃ more : Members Key, v = .obj (Members.update [] more) ∧
      List.Forall₂ (Gives f ((ms.find? "properties").getD (.obj []))) ((requiredNames ms).map .str) more := by
  simp only [ofObject, parts_required required, bind, Except.bind] at ho
  obtain ⟨more, hmore, rfl⟩ := requiredMembers_eq_ok.mp ho
  exact ⟨more, rfl, hmore⟩

/-- The names of the members of an object are its required names, each of them once. -/
theorem ofObject_keys {v : Instance} (ho : ofObject f ms = .ok (.value v)) :
    ∃ members : Members Key, v = .obj members ∧ members.keys.Nodup ∧
      ∀ k, k ∈ members.keys ↔ ∃ s ∈ requiredNames ms, k = .text s := by
  obtain ⟨more, rfl, hmore⟩ := ofObject_eq_value required ho
  have hsole := sole_of_gives hmore
  refine ⟨_, rfl, Members.nodup_update_of_sole hsole List.nodup_nil, fun k => ?_⟩
  rw [Members.mem_keys_update_of_sole hsole, keys_of_gives hmore]
  simp [eq_comm]

end Objects

section Values

variable {v : Instance}

theorem truthy_succ (n : Nat) : Json.truthy (.number (.int (n + 1 : Nat)) : Document) = true := by
  simp only [Json.truthy, Number.isZero, Bool.not_eq_true', beq_eq_false_iff_ne]
  omega

theorem itemCount_nat (n : Nat) : itemCount (.int n) = .ok (max n 1) := by
  cases n with
  | zero => rfl
  | succ n =>
    simp only [itemCount, Json.int, truthy_succ, Bool.not_true, Bool.false_eq_true, if_false, Except.ok.injEq]
    omega

/-- A filler is as long as it has to be. -/
theorem le_length_filler {n : Nat} {s : String} (h : filler (.int n) = .ok s) : n ≤ s.length := by
  cases n with
  | zero => exact Nat.zero_le _
  | succ n =>
    have hpos : ¬ ((n + 1 : Nat) : Int) ≤ 0 := by omega
    simp only [filler, Json.int, truthy_succ, Bool.not_true, Bool.false_eq_true, if_false, if_neg hpos] at h
    by_cases hlimit : ((n + 1 : Nat) : Int) < lengthLimit
    · rw [if_pos hlimit] at h
      obtain rfl := Except.ok.inj h
      simp
    · rw [if_neg hlimit] at h
      exact absurd h (by simp)

/-- The items of an array are all alike, and there are as many as it asks for. -/
theorem ofArray_eq_value (ho : ofArray f ms = .ok (.value v)) :
    ∃ count o x, v = .arr (List.replicate count x) ∧ f ((ms.find? "items").getD (.obj [])) = .ok o ∧
      filled ((ms.find? "items").getD (.obj [])) o = some x ∧
        ∀ n : Nat, ms.find? "minItems" = some (.int n) → n ≤ count := by
  simp only [ofArray, bind, Except.bind] at ho
  split at ho
  next => cases ho
  next count hc =>
    split at ho
    next => cases ho
    next o ho' =>
      split at ho
      next => cases ho
      next x hx =>
        cases ho
        refine ⟨count, o, x, rfl, ho', hx, fun n hn => ?_⟩
        rw [hn, Option.getD_some, itemCount_nat] at hc
        cases hc
        exact le_max_left n 1

theorem ofArray_ne_shapeless : ofArray f ms ≠ .ok .shapeless := by
  simp only [ofArray, bind, Except.bind]
  split
  next => simp
  next =>
    split
    next => simp
    next => split <;> simp [pure, Except.pure]

theorem ofNumber_ne_shapeless : ofNumber ms ≠ .ok .shapeless := by
  unfold ofNumber
  split <;> simp [document]

theorem ofObject_ne_shapeless : ofObject f ms ≠ .ok .shapeless := by
  simp only [ofObject, bind, Except.bind]
  split
  next => simp
  next => exact requiredMembers_ne_shapeless

/-- A text has no pattern but the empty one, and it is as long as it has to be. -/
theorem ofString_eq_value (format : ms.find? "format" = none) (ho : ofString ms = .ok (.value v)) :
    ∃ s, v = .str s ∧ (∀ p, ms.find? "pattern" = some (.str p) → p = "") ∧
      ∀ n : Nat, ms.find? "minLength" = some (.int n) → n ≤ s.length := by
  simp only [ofString, format, Option.getD_none, formatText] at ho
  split at ho
  next => cases ho
  next hp =>
    obtain ⟨s, hs, rfl⟩ : ∃ s, filler ((ms.find? "minLength").getD .null) = .ok s ∧ v = .str s := by
      cases hf : filler ((ms.find? "minLength").getD .null) with
      | error e => simp [hf, Except.map] at ho
      | ok s =>
        rw [hf] at ho
        cases ho
        exact ⟨s, rfl, rfl⟩
    refine ⟨s, rfl, fun p hpat => ?_, fun n hn => ?_⟩
    · simpa [hpat, Json.truthy] using hp
    · rw [hn, Option.getD_some] at hs
      exact le_length_filler hs

end Values

theorem sample_ref {c : Corpus} {n : Nat} {here target home : Document} {ref : String}
    (h : ms.find? "$ref" = some (.str ref)) (resolved : resolve c here ref = .ok (target, home)) :
    sample c (n + 1) here (.obj ms) = sample c n home target := by
  cases ms with
  | nil => simp [Members.find?] at h
  | cons m ms => simp only [sample, h, resolved]

end NoteSchema.Sample
