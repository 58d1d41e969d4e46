import NoteSchema.Proofs.Schema.Independent

namespace NoteSchema.Schema

/-- Whether a path names nothing. -/
def Site.misses (s : Site) (path : String) (kind : ArtifactKind) : Bool := !(s.resolve path kind).toBool

/-- An error of a field that says that a path names nothing. -/
def unresolvedFor (name : String) (d : Diagnostic) : Bool :=
  d.field == name && d.isError && Text.startsWith "Cannot resolve reference" d.message

/-- How many paths of a field are said to name nothing. -/
def tally (name : String) (rs : List Remark) : Nat := (rs.filterMap Remark.problem?).countP (unresolvedFor name)

theorem tally_append (name : String) (rs ss : List Remark) : tally name (rs ++ ss) = tally name rs + tally name ss := by
  rw [tally, List.filterMap_append, List.countP_append]
  rfl

/-- Nothing is said of paths that name nothing. -/
def Silent {α : Type} (x : Compiling α) : Prop := ∀ name, tally name x.remarks = 0

section Steps

variable {α β : Type} {s : Site} {rs : List Remark}

theorem silent_pure (a : α) : Silent (pure a) := fun _ => rfl

theorem silent_lift (r : Except Fault α) : Silent (Noted.lift r) := fun _ => rfl

theorem silent_note (e : Emission) : Silent (Noted.note (.emission e)) := fun _ => rfl

theorem Silent.bind {x : Compiling α} {f : α → Compiling β} (hx : Silent x) (hf : ∀ a, Silent (f a)) :
    Silent (x >>= f) := by
  intro name
  obtain ⟨rs, _ | a⟩ := x
  · exact hx name
  · rw [Noted.bind_of_ok, tally_append, hf a name, Nat.add_zero]
    exact hx name

theorem silent_warning (s : Site) (message : String) : Silent (s.report .warning message) := by
  intro name
  simp [Site.report, Noted.note, tally, Remark.problem?, unresolvedFor, Diagnostic.isError]

theorem silent_wrongValue (s : Site) (v : Hint.Value) (type : String) :
    Silent (s.report .error ("Enum value '" ++ v.display ++ "' is not of type " ++ type)) := by
  intro name
  simp [Site.report, Noted.note, tally, Remark.problem?, unresolvedFor, Text.startsWith, Text.after?, Text.afterChars?]

theorem silent_numbersOf (s : Site) (type : String) (values : List Hint.Value) : Silent (numbersOf s type values) := by
  induction values with
  | nil => exact silent_pure _
  | cons v vs ih =>
    refine (silent_lift _).bind fun n => ?_
    cases n with
    | none => exact (silent_wrongValue s v type).bind fun _ => ih
    | some n => exact ih.bind fun _ => silent_pure _

theorem silent_typedValues (s : Site) (type : Option String) (values : List Hint.Value) :
    Silent (typedValues s type values) := by
  unfold typedValues
  split
  · exact silent_numbersOf s _ _
  · exact silent_numbersOf s _ _
  · exact silent_pure _

theorem silent_destinationOf (s : Site) (d : Hint.EnumDefinition) (id : ArtifactId) : Silent (destinationOf s d id) := by
  unfold destinationOf
  split
  next => exact silent_pure _
  next => exact silent_pure _
  next =>
    split
    next => exact silent_pure _
    next => exact (silent_warning s _).bind fun _ => silent_pure _

theorem silent_emissionOf (s : Site) (d : Hint.EnumDefinition) (id : ArtifactId) : Silent (emissionOf s d id) := by
  unfold emissionOf
  refine (silent_destinationOf s d id).bind fun _ => ?_
  refine (silent_typedValues s _ _).bind fun _ => ?_
  exact (silent_lift _).bind fun _ => silent_pure _

theorem startsWith_missing (path between reason : String) : Text.startsWith "Cannot resolve reference"
    ("Cannot resolve reference '" ++ path ++ between ++ reason) = true := by
  simp [Text.startsWith, Text.after?, Text.afterChars?]

/-- A path that names nothing is said so, once. -/
theorem tally_failure (s : Site) (e : Reference.Failure) (name : String) :
    tally name (s.report .error e.message).remarks = if name = s.field then 1 else 0 := by
  have hmessage : Text.startsWith "Cannot resolve reference" e.message = true :=
    startsWith_missing e.path "': " e.reason
  by_cases hname : name = s.field
  · simp [Site.report, Noted.note, tally, Remark.problem?, unresolvedFor, hmessage, Diagnostic.isError, hname]
  · simp [Site.report, Noted.note, tally, Remark.problem?, unresolvedFor, hname, Ne.symm hname]

/-- Whether an alternative of a class is a name of nothing. -/
def missesAlternative (s : Site) : Document → Bool
  | .str name => s.misses name .schema
  | _ => false

theorem tally_alternatives {ds others : List Document} (h : alternatives s ds = ⟨rs, .ok others⟩) (name : String) :
    tally name rs = if name = s.field then ds.countP (missesAlternative s) else 0 := by
  induction ds generalizing rs others with
  | nil =>
    cases h
    simp [tally]
  | cons d rest ih =>
    have hkept {out : Document} (hd : missesAlternative s d = false)
        (h : (do let others ← alternatives s rest; return out :: others) = ⟨rs, .ok others⟩) :
        tally name rs = if name = s.field then (d :: rest).countP (missesAlternative s) else 0 := by
      obtain ⟨first, tail, last, htail, hlast, rfl⟩ := Noted.bind_eq_ok.mp h
      cases hlast
      rw [List.append_nil, ih htail, List.countP_cons_of_neg (by simp [hd])]
    cases d with
    | str path =>
      rw [alternatives] at h
      split at h
      next target hok => exact hkept (by simp [missesAlternative, Site.misses, hok, Except.toBool]) h
      next e herror =>
        obtain ⟨first, u, last, hfirst, hlast, rfl⟩ := Noted.bind_eq_ok.mp h
        have hmissed : missesAlternative s (.str path) = true := by
          simp [missesAlternative, Site.misses, herror, Except.toBool]
        have htally := tally_failure s e name
        rw [hfirst] at htally
        rw [tally_append, htally, ih hlast, List.countP_cons_of_pos hmissed]
        split <;> omega
    | null => exact hkept rfl h
    | bool b => exact hkept rfl h
    | number n => exact hkept rfl h
    | arr items => exact hkept rfl h
    | obj members => exact hkept rfl h

theorem silent_when {b : Bool} {x : Compiling Unit} (h : Silent x) : Silent (Noted.when b x) := by
  unfold Noted.when
  split
  next => exact h
  next => exact silent_pure ()

theorem silent_noteUndeclared (s : Site) (b : Hint.Block) (names : List String) : Silent (noteUndeclared s b names) := by
  induction names with
  | nil => exact silent_pure ()
  | cons name rest ih => exact (silent_when (silent_warning _ _)).bind fun _ => ih

theorem silent_noteUnknownChoice (s : Site) (b : Hint.Block) (names : List String) :
    Silent (noteUnknownChoice s b names) := by
  induction names with
  | nil => exact silent_pure ()
  | cons name rest ih => exact (silent_when (silent_warning _ _)).bind fun _ => ih

/-- What comes after the fields of a block says nothing of paths in fields, only of alternatives. -/
theorem tally_ofProperties {b : Hint.Block} {properties : List (String × Node)} {schema : Class}
    (h : Class.ofProperties s b properties = ⟨rs, .ok schema⟩) (name : String) :
    tally name rs = if name = s.field then (b.oneOf ++ b.anyOf ++ b.allOf).countP (missesAlternative s) else 0 := by
  obtain ⟨r₁, _, rest₁, h₁, hrest₁, rfl⟩ := Noted.bind_eq_ok.mp h
  obtain ⟨r₂, oneOf, rest₂, h₂, hrest₂, rfl⟩ := Noted.bind_eq_ok.mp hrest₁
  obtain ⟨r₃, anyOf, rest₃, h₃, hrest₃, rfl⟩ := Noted.bind_eq_ok.mp hrest₂
  obtain ⟨r₄, allOf, rest₄, h₄, hrest₄, rfl⟩ := Noted.bind_eq_ok.mp hrest₃
  obtain ⟨r₅, _, rest₅, h₅, hrest₅, rfl⟩ := Noted.bind_eq_ok.mp hrest₄
  cases hrest₅
  have hundeclared := silent_noteUndeclared s b (distinctNames (b.required ++ requiredNames b.fields)) name
  have hchoice := silent_noteUnknownChoice s b b.xor name
  rw [h₁] at hundeclared
  rw [h₅] at hchoice
  simp only [tally_append, hundeclared, hchoice, tally_alternatives h₂, tally_alternatives h₃, tally_alternatives h₄,
    List.append_nil, List.countP_append]
  split <;> omega

end Steps

end NoteSchema.Schema
