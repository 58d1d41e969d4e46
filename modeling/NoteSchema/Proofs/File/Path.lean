import NoteSchema.File.Path
import NoteSchema.Proofs.Text.Split

namespace NoteSchema.FilePath

theorem splitChars_append {sep : Char} {ds : List Char} (h : sep ∉ ds) (cs : List Char) :
    ∃ front last, Text.splitChars sep (cs ++ ds) = front ++ [last ++ ds] := by
  induction cs with
  | nil => exact ⟨[], [], by simp [Text.splitChars_eq_singleton h]⟩
  | cons c cs ih =>
    obtain ⟨front, last, hsplit⟩ := ih
    rw [List.cons_append, Text.splitChars]
    split
    next => exact ⟨[] :: front, last, by rw [hsplit]; rfl⟩
    next =>
      rw [hsplit]
      cases front with
      | nil => exact ⟨[], c :: last, rfl⟩
      | cons piece front => exact ⟨(c :: piece) :: front, last, rfl⟩

/-- A text with a long ending is neither empty nor made of dots. -/
theorem ne_of_long {suffix : String} (hlong : 2 < suffix.length) (stem : String) :
    stem ++ suffix ≠ "" ∧ stem ++ suffix ≠ "." ∧ stem ++ suffix ≠ ".." := by
  have hlength : 2 < (stem ++ suffix).length := by
    rw [String.length_append]
    omega
  generalize stem ++ suffix = text at hlength
  refine ⟨?_, ?_, ?_⟩
  all_goals
    rintro rfl
    revert hlength
    decide

/-- The last component of a path text that ends with a suffix ends with it too. -/
theorem ofString_append {suffix : String} (hsep : '/' ∉ suffix.toList) (hlong : 2 < suffix.length) (stem : String) :
    ∃ front start, (ofString (stem ++ suffix)).names = front ++ [start ++ suffix] := by
  obtain ⟨front, last, hsplit⟩ := splitChars_append hsep stem.toList
  obtain ⟨hempty, hdot, _⟩ := ne_of_long hlong (String.ofList last)
  have hlast : String.ofList (last ++ suffix.toList) = String.ofList last ++ suffix := by simp
  refine ⟨(front.map String.ofList).filter fun name => name != "" && name != ".", String.ofList last, ?_⟩
  simp only [ofString, Text.split, String.toList_append, hsplit, List.map_append, List.map_cons, List.map_nil, hlast,
    List.filter_append]
  simp [hempty, hdot]

/-- The last component of a path that another one is taken from stays the last. -/
theorem append_concat (p : FilePath) {q : FilePath} {front : List String} {name : String} (h : q.names = front ++ [name]) :
    ∃ front, (p ++ q).names = front ++ [name] := by
  show ∃ front, (append p q).names = front ++ [name]
  unfold append
  split
  next => exact ⟨p.names ++ front, by rw [h, List.append_assoc]⟩
  next => exact ⟨front, h⟩

/-- A path made of texts, the last of which ends with a suffix, has a last component with that ending. -/
theorem append_ofStrings (suffix : String) (hsep : '/' ∉ suffix.toList) (hlong : 2 < suffix.length) (p : FilePath)
    (parts : List String) (stem : String) :
    ∃ front start, (p ++ ofStrings (parts ++ [stem ++ suffix])).names = front ++ [start ++ suffix] := by
  obtain ⟨_, start, hnames⟩ := ofString_append hsep hlong stem
  rw [ofStrings, List.foldl_append]
  obtain ⟨_, hinner⟩ := append_concat (parts.foldl (fun p s => p ++ ofString s) ⟨.relative, []⟩) hnames
  obtain ⟨front, houter⟩ := append_concat p hinner
  exact ⟨front, start, houter⟩

theorem partsLe_total (ps qs : List String) : (partsLe ps qs || partsLe qs ps) = true := by
  induction ps generalizing qs with
  | nil => rfl
  | cons a ps ih =>
    cases qs with
    | nil => rfl
    | cons b qs =>
      by_cases hab : a = b
      · subst hab
        simpa [partsLe] using ih qs
      · simpa [partsLe, hab, Ne.symm hab] using String.le_total a b

theorem partsLe_trans {ps qs rs : List String} (hpq : partsLe ps qs = true) (hqr : partsLe qs rs = true) :
    partsLe ps rs = true := by
  induction ps generalizing qs rs with
  | nil => rfl
  | cons a ps ih =>
    cases qs with
    | nil => cases hpq
    | cons b qs =>
      cases rs with
      | nil => cases hqr
      | cons c rs =>
        rw [partsLe] at hpq hqr ⊢
        by_cases hab : a = b
        · subst hab
          rw [if_pos rfl] at hpq
          by_cases hac : a = c
          · rw [if_pos hac] at hqr ⊢
            exact ih hpq hqr
          · rwa [if_neg hac] at hqr ⊢
        · rw [if_neg hab] at hpq
          have hle : a ≤ b := of_decide_eq_true hpq
          by_cases hbc : b = c
          · subst hbc
            rwa [if_neg hab]
          · rw [if_neg hbc] at hqr
            have hle' : b ≤ c := of_decide_eq_true hqr
            -- two texts that differ and come one after the other cannot come back to the first
            have hac : a ≠ c := by
              rintro rfl
              exact hab (String.le_antisymm hle hle')
            rw [if_neg hac]
            exact decide_eq_true (String.le_trans hle hle')

theorem partsLe_antisymm {ps qs : List String} (hpq : partsLe ps qs = true) (hqp : partsLe qs ps = true) : ps = qs := by
  induction ps generalizing qs with
  | nil =>
    cases qs with
    | nil => rfl
    | cons b qs => cases hqp
  | cons a ps ih =>
    cases qs with
    | nil => cases hpq
    | cons b qs =>
      rw [partsLe] at hpq hqp
      by_cases hab : a = b
      · subst hab
        rw [if_pos rfl] at hpq hqp
        rw [ih hpq hqp]
      · rw [if_neg hab] at hpq
        rw [if_neg (Ne.symm hab)] at hqp
        exact absurd (String.le_antisymm (of_decide_eq_true hpq) (of_decide_eq_true hqp)) hab

theorem le_total (p q : FilePath) : (p.le q || q.le p) = true := partsLe_total p.parts q.parts

theorem le_trans {p q r : FilePath} (hpq : p.le q = true) (hqr : q.le r = true) : p.le r = true := partsLe_trans hpq hqr

theorem le_refl (p : FilePath) : p.le p = true := by simpa using le_total p p

/-- Two paths that start alike and come before each other are one. -/
theorem le_antisymm {p q : FilePath} (hanchor : p.anchor = q.anchor) (hpq : p.le q = true) (hqp : q.le p = true) : p = q := by
  have hparts : p.parts = q.parts := partsLe_antisymm hpq hqp
  obtain ⟨anchor, names⟩ := p
  obtain ⟨_, names'⟩ := q
  subst hanchor
  cases anchor with
  | relative => exact congrArg _ hparts
  | root => exact congrArg _ (List.cons.inj hparts).2
  | doubleRoot => exact congrArg _ (List.cons.inj hparts).2

/-- Sorting by paths brings what they stand for into their order. -/
theorem pairwise_mergeSort_le {α : Type} (path : α → FilePath) (items : List α) :
    (items.mergeSort fun a b => (path a).le (path b)).Pairwise fun a b => (path a).le (path b) = true := by
  have htrans (a b c : α) (hab : (path a).le (path b) = true) (hbc : (path b).le (path c) = true) :
      (path a).le (path c) = true := le_trans hab hbc
  exact List.pairwise_mergeSort htrans (fun a b => le_total (path a) (path b)) items

end NoteSchema.FilePath
