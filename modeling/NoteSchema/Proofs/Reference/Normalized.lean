import Mathlib.Data.List.Infix
import NoteSchema.Proofs.Reference.Identity
import NoteSchema.Proofs.Reference.Navigation

namespace NoteSchema

namespace Text

theorem split_append (sep : Char) (s t : String) :
    split sep (s ++ String.singleton sep ++ t) = split sep s ++ split sep t := by
  have hchars : (s ++ String.singleton sep ++ t).toList = s.toList ++ sep :: t.toList := by simp
  rw [split, hchars, splitChars_append, List.map_append]
  rfl

end Text

namespace Reference

/-- The parts of a path that lead somewhere, up or down. -/
def steps (path : String) : List String := (Text.split '/' path).filter fun part => part ≠ "" ∧ part ≠ "."

/-- Somewhere on the way the steps have led up more often than there was to leave: the height at the start and the steps
down. -/
def Climbs (height : Nat) (steps : List String) : Prop :=
  ∃ front, front <+: steps ∧ height + front.countP (· != "..") < front.count ".."

instance (height : Nat) (steps : List String) : Decidable (Climbs height steps) :=
  decidable_of_iff (∃ front ∈ steps.inits, height + front.countP (· != "..") < front.count "..") <| by
    simp only [List.mem_inits, Climbs]

variable {path name : String} {stack names parts : List String}

theorem not_climbs_nil (height : Nat) : ¬ Climbs height [] := by
  rintro ⟨front, hfront, hlt⟩
  rw [List.prefix_nil.mp hfront] at hlt
  simp at hlt

theorem climbs_up (height : Nat) (names : List String) :
    Climbs height (".." :: names) ↔ height = 0 ∨ Climbs (height - 1) names := by
  have hdown (rest : List String) : (".." :: rest).countP (· != "..") = rest.countP (· != "..") := by simp
  have hup (rest : List String) : (".." :: rest).count ".." = rest.count ".." + 1 := by simp
  constructor
  · rintro ⟨front, hfront, hlt⟩
    rcases List.prefix_cons_iff.mp hfront with rfl | ⟨rest, rfl, hrest⟩
    · simp at hlt
    · rw [hdown, hup] at hlt
      exact or_iff_not_imp_left.mpr fun hheight => ⟨rest, hrest, by omega⟩
  · rintro (rfl | ⟨rest, hrest, hlt⟩)
    · exact ⟨[".."], by simp, by decide⟩
    · exact ⟨".." :: rest, by simpa using hrest, by rw [hdown, hup]; omega⟩

theorem climbs_down (height : Nat) (names : List String) (hname : name ≠ "..") :
    Climbs height (name :: names) ↔ Climbs (height + 1) names := by
  have hdown (rest : List String) : (name :: rest).countP (· != "..") = rest.countP (· != "..") + 1 := by simp [hname]
  have hup (rest : List String) : (name :: rest).count ".." = rest.count ".." := by simp [hname]
  constructor
  · rintro ⟨front, hfront, hlt⟩
    rcases List.prefix_cons_iff.mp hfront with rfl | ⟨rest, rfl, hrest⟩
    · simp at hlt
    · rw [hdown, hup] at hlt
      exact ⟨rest, hrest, by omega⟩
  · rintro ⟨rest, hrest, hlt⟩
    exact ⟨name :: rest, by simpa using hrest, by rw [hdown, hup]; omega⟩

/-- Parts that lead nowhere leave the stack as it is. -/
theorem climbAll?_filter (stack names : List String) :
    climbAll? stack (names.filter fun part => part ≠ "" ∧ part ≠ ".") = climbAll? stack names := by
  induction names generalizing stack with
  | nil => rfl
  | cons name names ih =>
    by_cases hname : name = "" ∨ name = "."
    · rw [List.filter_cons_of_neg (by simpa [or_iff_not_imp_left] using hname), ih, climbAll?, climb?_idle hname]
    · rw [List.filter_cons_of_pos (by simpa [not_or] using hname), climbAll?, climbAll?]
      cases climb? stack name with
      | none => rfl
      | some next => exact ih next

/-- Climbing fails exactly where the steps up exceed what there is to leave: the stack and the steps down. -/
theorem climbAll?_eq_none_iff (hnames : ∀ name ∈ names, name ≠ "" ∧ name ≠ ".") :
    climbAll? stack names = none ↔ Climbs stack.length names := by
  induction names generalizing stack with
  | nil => simp [climbAll?, not_climbs_nil]
  | cons name names ih =>
    obtain ⟨⟨hempty, hdot⟩, hrest⟩ := List.forall_mem_cons.mp hnames
    rw [climbAll?]
    by_cases hup : name = ".."
    · subst hup
      rw [climbs_up]
      cases stack with
      | nil => simp [climb?]
      | cons top stack => simpa [climb?] using ih hrest
    · rw [climb?_name ⟨hempty, hdot, hup⟩, climbs_down _ _ hup]
      exact ih hrest

/-- What neither leads nowhere nor up is put on the stack. -/
theorem climbAll?_names (hnames : ∀ name ∈ names, name ≠ "" ∧ name ≠ "." ∧ name ≠ "..") (stack : List String) :
    climbAll? stack names = some (names.reverse ++ stack) := by
  induction names generalizing stack with
  | nil => rfl
  | cons name names ih =>
    obtain ⟨hname, hrest⟩ := List.forall_mem_cons.mp hnames
    rw [climbAll?, climb?_name hname, List.reverse_cons, List.append_assoc]
    exact ih hrest (name :: stack)

theorem normalize_eq_ok : normalize path = .ok parts ↔ climbAll? [] (Text.split '/' path) = some parts.reverse := by
  unfold normalize
  cases climbAll? [] (Text.split '/' path) with
  | none => simp
  | some stack => simp [List.reverse_eq_iff]

theorem normalize_eq_error : normalize path = .error ⟨path⟩ ↔ Climbs 0 (steps path) := by
  have hnone : climbAll? [] (steps path) = none ↔ Climbs 0 (steps path) :=
    climbAll?_eq_none_iff (by simp [steps])
  rw [← hnone, steps, climbAll?_filter]
  unfold normalize
  cases climbAll? [] (Text.split '/' path) <;> simp

theorem exists_normalize (h : ¬ Climbs 0 (steps path)) : ∃ parts, normalize path = .ok parts := by
  cases hpath : normalize path with
  | ok parts => exact ⟨parts, rfl⟩
  | error e =>
    have he : e = ⟨path⟩ := by
      unfold normalize at hpath
      split at hpath <;> cases hpath
      rfl
    exact absurd (normalize_eq_error.mp (he ▸ hpath)) h

/-- What is left of a path are names. -/
theorem names_of_normalize (h : normalize path = .ok parts) {part : String} (hpart : part ∈ parts) :
    part ≠ "" ∧ part ≠ "." ∧ part ≠ ".." ∧ '/' ∉ part.toList := by
  obtain ⟨hsplit, hempty, hdot, hup⟩ := mem_of_normalize h hpart
  exact ⟨hempty, hdot, hup, Text.not_mem_of_mem_split hsplit⟩

/-- A normalized path, written out, leads where its parts do. -/
theorem climbAll?_join (h : normalize path = .ok parts) :
    climbAll? [] (Text.split '/' (Text.join "/" parts)) = some parts.reverse := by
  by_cases hparts : parts = []
  · subst hparts
    rfl
  · have hsplit : Text.split '/' (Text.join "/" parts) = parts :=
      Text.split_join hparts fun part hpart => (names_of_normalize h hpart).2.2.2
    rw [hsplit, climbAll?_names, List.append_nil]
    intro part hpart
    obtain ⟨hempty, hdot, hup, _⟩ := names_of_normalize h hpart
    exact ⟨hempty, hdot, hup⟩

/-- What follows a path goes on from its normal form. -/
theorem normalize_append (h : normalize path = .ok parts) (more : String) :
    (normalize (path ++ "/" ++ more)).toOption =
      (climbAll? parts.reverse (Text.split '/' more)).map List.reverse := by
  have hclimb : climbAll? [] (Text.split '/' (path ++ "/" ++ more)) =
      climbAll? parts.reverse (Text.split '/' more) := by
    have hsplit := Text.split_append '/' path more
    rw [show path ++ "/" ++ more = path ++ String.singleton '/' ++ more from rfl, hsplit, climbAll?_append,
      normalize_eq_ok.mp h]
    rfl
  unfold normalize
  rw [hclimb]
  cases climbAll? parts.reverse (Text.split '/' more) <;> rfl

/-- A path fails to normalize exactly if, somewhere on the way, its steps have led up more often than down. Otherwise
its normal form is made of names, written out it is normal, and whatever follows the path may follow the normal form
instead. -/
theorem normalize_sound (path : String) :
    (normalize path = .error ⟨path⟩ ↔ Climbs 0 (steps path)) ∧
      (¬ Climbs 0 (steps path) → ∃ parts, normalize path = .ok parts ∧
        (∀ part ∈ parts, part ≠ "" ∧ part ≠ "." ∧ part ≠ ".." ∧ '/' ∉ part.toList) ∧
        normalize (Text.join "/" parts) = .ok parts ∧
        ∀ more, (normalize (path ++ "/" ++ more)).toOption =
          (normalize (Text.join "/" parts ++ "/" ++ more)).toOption) := by
  refine ⟨normalize_eq_error, fun hstays => ?_⟩
  obtain ⟨parts, hparts⟩ := exists_normalize hstays
  have hnormal : normalize (Text.join "/" parts) = .ok parts := normalize_eq_ok.mpr (climbAll?_join hparts)
  refine ⟨parts, hparts, fun part hpart => names_of_normalize hparts hpart, hnormal, fun more => ?_⟩
  rw [normalize_append hparts, normalize_append hnormal]

/-- As many steps down as up are not enough: halfway, `a/../../b` has left its start. -/
theorem shelf_normalized :
    ¬ Climbs 0 (steps "./a//b/../c/.") ∧
      (normalize "./a//b/../c/." = .ok ["a", "c"] ∧ normalize "a/../../b" = .error ⟨"a/../../b"⟩) ∧
      ∀ more, (normalize ("./a//b/../c/." ++ "/" ++ more)).toOption = (normalize ("a/c" ++ "/" ++ more)).toOption := by
  have hstays : ¬ Climbs 0 (steps "./a//b/../c/.") := by decide
  have hparts : normalize "./a//b/../c/." = .ok ["a", "c"] := by decide
  obtain ⟨parts, hnormal, _, _, hmore⟩ := (normalize_sound "./a//b/../c/.").2 hstays
  obtain rfl : ["a", "c"] = parts := Except.ok.inj (hparts.symm.trans hnormal)
  exact ⟨hstays, ⟨hparts, (normalize_sound "a/../../b").1.mpr (by decide)⟩, hmore⟩

end Reference

end NoteSchema
