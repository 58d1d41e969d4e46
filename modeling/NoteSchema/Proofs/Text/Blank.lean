import NoteSchema.Text.Blank

namespace NoteSchema.Text

variable {c : Char} {cs : List Char}

theorem mem_of_mem_dropEndBlanks (h : c ∈ dropEndBlanks cs) : c ∈ cs := by
  induction cs with
  | nil => cases h
  | cons d cs ih =>
    rw [dropEndBlanks] at h
    split at h
    next =>
      split at h
      next => cases h
      next => exact List.mem_cons.mpr (.inl (List.mem_singleton.mp h))
    next =>
      rcases List.mem_cons.mp h with rfl | h
      · exact List.mem_cons_self
      · exact List.mem_cons_of_mem d (ih h)

theorem mem_of_mem_trim {s : String} (h : c ∈ (trim s).toList) : c ∈ s.toList := by
  rw [trim, String.toList_ofList] at h
  exact (List.dropWhile_suffix isBlank).subset (mem_of_mem_dropEndBlanks h)

theorem dropEndBlanks_concat (cs : List Char) (h : isBlank c = false) : dropEndBlanks (cs ++ [c]) = cs ++ [c] := by
  induction cs with
  | nil => simp [dropEndBlanks, h]
  | cons d cs ih =>
    rw [List.cons_append, dropEndBlanks, ih]
    cases cs <;> rfl

theorem dropEndBlanks_of_isBlank (h : isBlank c = true) (cs : List Char) :
    dropEndBlanks (cs ++ [c]) = dropEndBlanks cs := by
  induction cs with
  | nil => simp [dropEndBlanks, h]
  | cons d cs ih => rw [List.cons_append, dropEndBlanks, dropEndBlanks, ih]

theorem trimChars_eq_self {first last : Char} {front rest : List Char} (hstart : cs = first :: rest)
    (hend : cs = front ++ [last]) (hfirst : isBlank first = false) (hlast : isBlank last = false) : trimChars cs = cs := by
  have hdrop : dropBlanks cs = cs := by rw [hstart, dropBlanks, List.dropWhile_cons_of_neg (by simp [hfirst])]
  rw [trimChars, hdrop, hend, dropEndBlanks_concat front hlast]

theorem trimChars_of_not_blank (h : ∀ c ∈ cs, isBlank c = false) : trimChars cs = cs := by
  cases cs with
  | nil => rfl
  | cons c rest =>
    have hne : c :: rest ≠ [] := List.cons_ne_nil c rest
    exact trimChars_eq_self rfl (List.dropLast_concat_getLast hne).symm (h c List.mem_cons_self)
      (h _ (List.getLast_mem hne))

/-- A text without blanks at its ends is trimmed. -/
theorem trim_eq_self {s : String} {first last : Char} {rest front : List Char} (hstart : s.toList = first :: rest)
    (hend : s.toList = front ++ [last]) (hfirst : isBlank first = false) (hlast : isBlank last = false) :
    trim s = s := by
  rw [trim, trimChars_eq_self hstart hend hfirst hlast, String.ofList_toList]

theorem trimChars_cons_of_blank (h : isBlank c = true) (cs : List Char) : trimChars (c :: cs) = trimChars cs := by
  rw [trimChars, trimChars, dropBlanks, List.dropWhile_cons_of_pos h, dropBlanks]

theorem length_dropEndBlanks_le (cs : List Char) : (dropEndBlanks cs).length ≤ cs.length := by
  induction cs with
  | nil => exact Nat.le_refl _
  | cons c cs ih =>
    rw [dropEndBlanks]
    split
    next => split <;> simp
    next => exact Nat.succ_le_succ ih

theorem length_trimChars_le (cs : List Char) : (trimChars cs).length ≤ cs.length :=
  Nat.le_trans (length_dropEndBlanks_le _) (List.dropWhile_sublist isBlank).length_le

/-- A text that is trimmed starts with no blank. -/
theorem isBlank_of_trimmed (h : trimChars (c :: cs) = c :: cs) : isBlank c = false := by
  cases hc : isBlank c with
  | false => rfl
  | true =>
    have hlength := length_trimChars_le cs
    rw [trimChars_cons_of_blank hc] at h
    rw [h, List.length_cons] at hlength
    omega

end NoteSchema.Text
