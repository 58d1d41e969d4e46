import NoteSchema.File.Tree
import Mathlib.Data.List.Basic

namespace NoteSchema

/-- A place in a file tree, by the components that lead to it from the root. -/
abbrev Place := List String

namespace FileTree

/-- The place that a name leads to from another one. -/
def onward (place : Place) (name : String) : Place := if name = ".." then place.dropLast else place ++ [name]

/-- The place that names lead to from another one. -/
def endOf (place : Place) (names : List String) : Place := names.foldl onward place

/-- The place that is entered by a name from another one; the step up enters none. -/
def entered (place : Place) (name : String) : List Place := if name = ".." then [] else [place ++ [name]]

/-- The places that are entered on a way. -/
def way (place : Place) : List String → List Place
  | [] => []
  | name :: names => entered place name ++ way (onward place name) names

/-- Whether no folder of a name can stand at a place: the name is too long, or it is that of a file. -/
def blocks (t : FileTree) (place : Place) (name : String) : Bool :=
  name != ".." && (!fits name || (t.find? (place ++ [name])).any Entry.isFile)

/-- The folders of a way are there or can be made. -/
def Open (t : FileTree) (place : Place) : List String → Prop
  | [] => True
  | name :: names => t.blocks place name = false ∧ Open t (onward place name) names

/-- The folders of a way are there. -/
def Stands (t : FileTree) (place : Place) : List String → Prop
  | [] => True
  | name :: names =>
    (name ≠ ".." → fits name = true ∧ t.find? (place ++ [name]) = some .folder) ∧ Stands t (onward place name) names

/-- The places that are entered on a way before the first name that blocks it. -/
def reach (t : FileTree) (place : Place) : List String → List Place
  | [] => []
  | name :: names => if t.blocks place name then [] else entered place name ++ reach t (onward place name) names

/-- The place at which the paths of an anchor start. -/
def origin (t : FileTree) (anchor : Anchor) : Place := if anchor = .relative then t.home else []

@[simp] theorem start_eq (t : FileTree) (p : FilePath) : t.start p = t.origin p.anchor := rfl

variable {t t' : FileTree} {place q : Place} {e : Entry} {name : String} {names more : List String}

section Entries

theorem lookup_put (entries : List (Place × Entry)) :
    lookup q (put place e entries) = if q = place then some e else lookup q entries := by
  induction entries with
  | nil =>
    by_cases h : q = place
    · subst h
      simp [put, lookup]
    · simp [put, lookup, h, Ne.symm h]
  | cons entry rest ih =>
    obtain ⟨p, old⟩ := entry
    by_cases hp : p = place
    · subst hp
      by_cases hq : p = q
      · subst hq
        simp [put, lookup]
      · simp [put, lookup, hq, Ne.symm hq]
    · by_cases hq : p = q
      · subst hq
        simp [put, lookup, hp]
      · simp [put, lookup, hp, hq, ih]

theorem lookup_erase (entries : List (Place × Entry)) :
    lookup q (entries.filter fun entry => entry.1 ≠ place) = if q = place then none else lookup q entries := by
  induction entries with
  | nil => simp [lookup]
  | cons entry rest ih =>
    obtain ⟨p, old⟩ := entry
    by_cases hp : p = place
    · subst hp
      rw [List.filter_cons_of_neg (by simp), ih]
      by_cases hq : q = p
      · simp [hq]
      · simp [lookup, hq, Ne.symm hq]
    · rw [List.filter_cons_of_pos (by simpa using hp)]
      by_cases hq : p = q
      · subst hq
        simp [lookup, hp]
      · simp only [lookup, hq, if_false, ih]

theorem find?_set (h : place ≠ []) : (t.set place e).find? q = if q = place then some e else t.find? q := by
  unfold find? set
  by_cases hq : q = []
  · subst hq
    simp [Ne.symm h]
  · simp only [hq, if_false, lookup_put]

theorem find?_erase (h : place ≠ []) : (t.erase place).find? q = if q = place then none else t.find? q := by
  unfold find? erase
  by_cases hq : q = []
  · subst hq
    simp [Ne.symm h]
  · simp only [hq, if_false, lookup_erase]

/-- What is found at a place other than the root is one of the entries. -/
theorem mem_of_lookup {entries : List (Place × Entry)} (h : lookup q entries = some e) : (q, e) ∈ entries := by
  induction entries with
  | nil => cases h
  | cons entry rest ih =>
    obtain ⟨p, old⟩ := entry
    unfold lookup at h
    split at h
    next hp =>
      cases h
      subst hp
      exact List.mem_cons_self
    next => exact List.mem_cons_of_mem _ (ih h)

end Entries

section Ways

@[simp] theorem onward_up : onward place ".." = place.dropLast := rfl

theorem onward_name (h : name ≠ "..") : onward place name = place ++ [name] := if_neg h

theorem endOf_append : endOf place (names ++ more) = endOf (endOf place names) more := List.foldl_append

theorem endOf_concat : endOf place (names ++ [name]) = onward (endOf place names) name := endOf_append

theorem way_append : way place (names ++ more) = way place names ++ way (endOf place names) more := by
  induction names generalizing place with
  | nil => rfl
  | cons name names ih =>
    rw [List.cons_append, way, way, ih, List.append_assoc]
    rfl

theorem open_append : t.Open place (names ++ more) ↔ t.Open place names ∧ t.Open (endOf place names) more := by
  induction names generalizing place with
  | nil => simp [Open, endOf]
  | cons name names ih =>
    rw [List.cons_append, Open, Open, ih, and_assoc]
    rfl

theorem stands_append :
    t.Stands place (names ++ more) ↔ t.Stands place names ∧ t.Stands (endOf place names) more := by
  induction names generalizing place with
  | nil => simp [Stands, endOf]
  | cons name names ih =>
    rw [List.cons_append, Stands, Stands, ih, and_assoc]
    rfl

theorem reach_of_open (h : t.Open place names) : t.reach place names = way place names := by
  induction names generalizing place with
  | nil => rfl
  | cons name names ih =>
    rw [reach, way, h.1, ih h.2]
    rfl

theorem reach_append_of_open (h : t.Open place names) :
    t.reach place (names ++ more) = way place names ++ t.reach (endOf place names) more := by
  induction names generalizing place with
  | nil => rfl
  | cons name names ih =>
    rw [List.cons_append, reach, way, h.1, ih h.2, List.append_assoc]
    rfl

theorem reach_append_of_not_open (h : ¬ t.Open place names) :
    t.reach place (names ++ more) = t.reach place names := by
  induction names generalizing place with
  | nil => exact absurd trivial h
  | cons name names ih =>
    rw [List.cons_append, reach, reach]
    cases hb : t.blocks place name with
    | true => rfl
    | false => rw [ih fun hopen => h ⟨hb, hopen⟩]

/-- A way that stands is open. -/
theorem Stands.isOpen (h : t.Stands place names) : t.Open place names := by
  induction names generalizing place with
  | nil => trivial
  | cons name names ih =>
    refine ⟨?_, ih h.2⟩
    unfold blocks
    by_cases hup : name = ".."
    · simp [hup]
    · obtain ⟨hfits, hfound⟩ := h.1 hup
      simp [hfits, hfound, Entry.isFile]

theorem find?_of_mem_way (h : t.Stands place names) (hq : q ∈ way place names) : t.find? q = some .folder := by
  induction names generalizing place with
  | nil => cases hq
  | cons name names ih =>
    rcases List.mem_append.mp hq with hq | hq
    · unfold entered at hq
      split at hq
      next => cases hq
      next hup =>
        obtain rfl := List.mem_singleton.mp hq
        exact (h.1 hup).2
    · exact ih h.2 hq

end Ways

section Following

theorem follow_append : t.follow place e (names ++ more) =
    (t.follow place e names).bind fun found => t.follow found.1 found.2 more := by
  induction names generalizing place e with
  | nil => rfl
  | cons name names ih =>
    rw [List.cons_append, follow, follow]
    split
    next => rfl
    next =>
      split
      next => exact ih
      next =>
        split
        next => rfl
        next =>
          split
          next => rfl
          next => exact ih

theorem follow_file (content : Text.Bytes) (h : names ≠ []) :
    t.follow place (.file content) names = .error .notFolder := by
  cases names with
  | nil => exact absurd rfl h
  | cons name names => rfl

theorem follow_of_stands (h : t.Stands place names) :
    t.follow place .folder names = .ok (endOf place names, .folder) := by
  induction names generalizing place with
  | nil => rfl
  | cons name names ih =>
    by_cases hup : name = ".."
    · subst hup
      simpa [follow, Entry.isFile, endOf] using ih h.2
    · obtain ⟨hfits, hfound⟩ := h.1 hup
      have hrest := h.2
      rw [onward_name hup] at hrest
      simp only [follow, Entry.isFile, hup, hfits, hfound, ih hrest]
      simp [endOf, onward_name hup]

/-- Nothing can be made on the way: it is blocked, and all up to the name that blocks it is there. -/
def Stuck (t : FileTree) (place : Place) (names : List String) : Prop :=
  ¬ t.Open place names ∧ ∀ q ∈ t.reach place names, t.find? q ≠ none

theorem stuck_of_blocks (h : t.blocks place name = true) : t.Stuck place (name :: names) := by
  constructor
  · intro hopen
    exact absurd hopen.1 (by simp [h])
  · simp [reach, h]

theorem Stuck.cons (hname : name ≠ ".." → fits name = true ∧ t.find? (place ++ [name]) = some .folder)
    (h : t.Stuck (onward place name) names) : t.Stuck place (name :: names) := by
  have hb : t.blocks place name = false :=
    (Stands.isOpen (show t.Stands place [name] from ⟨hname, trivial⟩)).1
  refine ⟨fun hopen => h.1 hopen.2, fun q hq => ?_⟩
  rw [reach, hb] at hq
  rcases List.mem_append.mp hq with hq | hq
  · have hstands : t.Stands place [name] := ⟨hname, trivial⟩
    rw [find?_of_mem_way hstands (by simpa [way] using hq)]
    exact Option.some_ne_none _
  · exact h.2 q hq

/-- Following a way finds it standing, finds something missing, or is stuck. -/
theorem follow_cases (t : FileTree) (place : Place) (names : List String) :
    t.Stands place names ∨ t.follow place .folder names = .error .missing ∨
      t.Stuck place names ∧ t.follow place .folder names ≠ .error .missing ∧
        ∀ q, t.follow place .folder names ≠ .ok (q, .folder) := by
  induction names generalizing place with
  | nil => exact .inl trivial
  | cons name names ih =>
    by_cases hup : name = ".."
    · subst hup
      have hgo : t.follow place .folder (".." :: names) = t.follow place.dropLast .folder names := by
        simp [follow, Entry.isFile]
      rw [hgo]
      rcases ih place.dropLast with h | h | ⟨hstuck, h⟩
      · exact .inl ⟨fun hne => absurd rfl hne, h⟩
      · exact .inr (.inl h)
      · exact .inr (.inr ⟨.cons (fun hne => absurd rfl hne) hstuck, h⟩)
    · cases hfits : fits name with
      | false =>
        refine .inr (.inr ⟨stuck_of_blocks (by simp [blocks, hup, hfits]), ?_⟩)
        simp [follow, Entry.isFile, hup, hfits]
      | true =>
        cases hfound : t.find? (place ++ [name]) with
        | none =>
          refine .inr (.inl ?_)
          simp [follow, Entry.isFile, hup, hfits, hfound]
        | some next =>
          have hgo : t.follow place .folder (name :: names) = t.follow (place ++ [name]) next names := by
            simp [follow, Entry.isFile, hup, hfits, hfound]
          rw [hgo]
          cases next with
          | file content =>
            refine .inr (.inr ⟨stuck_of_blocks (by simp [blocks, hup, hfound, Entry.isFile]), ?_⟩)
            cases names with
            | nil => simp [follow]
            | cons _ _ => simp [follow, Entry.isFile]
          | folder =>
            have hname : name ≠ ".." → fits name = true ∧ t.find? (place ++ [name]) = some .folder :=
              fun _ => ⟨hfits, hfound⟩
            have hon : onward place name = place ++ [name] := onward_name hup
            rcases ih (place ++ [name]) with h | h | ⟨hstuck, h⟩
            · exact .inl ⟨hname, hon ▸ h⟩
            · exact .inr (.inl h)
            · exact .inr (.inr ⟨.cons hname (hon ▸ hstuck), h⟩)

/-- A way that leads to a folder stands. -/
theorem stands_of_follow (h : t.follow place .folder names = .ok (q, .folder)) :
    t.Stands place names ∧ q = endOf place names := by
  rcases t.follow_cases place names with hs | hm | ⟨_, _, hno⟩
  · rw [follow_of_stands hs] at h
    cases h
    exact ⟨hs, rfl⟩
  · rw [hm] at h
    cases h
  · exact absurd h (hno q)

end Following

section Slots

variable {anchor : Anchor}

@[simp] theorem parent_concat :
    FilePath.parent ⟨anchor, names ++ [name]⟩ = ⟨anchor, names⟩ := by
  simp [FilePath.parent]

/-- The last name of a path has a place in a folder that stands. -/
theorem slot_of_stands (h : t.Stands (t.origin anchor) names) :
    t.slot ⟨anchor, names ++ [name]⟩ =
      if name = ".." then .ok none
      else if fits name then .ok (some (endOf (t.origin anchor) names ++ [name]))
      else .error .nameTooLong := by
  simp only [slot, List.getLast?_concat, parent_concat, locate, start_eq, follow_of_stands h]

theorem stands_of_slot (h : t.slot ⟨anchor, names ++ [name]⟩ = .ok (some q)) :
    t.Stands (t.origin anchor) names ∧ name ≠ ".." ∧ fits name = true ∧ q = endOf (t.origin anchor) names ++ [name] := by
  have hs : t.Stands (t.origin anchor) names := by
    simp only [slot, List.getLast?_concat, parent_concat] at h
    split at h
    next => cases h
    next => cases h
    next hfound => exact (stands_of_follow hfound).1
  rw [slot_of_stands hs] at h
  split at h
  next => cases h
  next hup =>
    split at h
    next hfits =>
      cases h
      exact ⟨hs, hup, hfits, rfl⟩
    next => cases h

end Slots

end FileTree

end NoteSchema
