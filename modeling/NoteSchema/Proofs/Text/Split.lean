import NoteSchema.Text.Split

namespace NoteSchema.Text

theorem splitChars_ne_nil (sep : Char) (cs : List Char) : splitChars sep cs ≠ [] := by
  induction cs with
  | nil => simp [splitChars]
  | cons c cs ih =>
    rw [splitChars]
    split
    · simp
    · split <;> simp

theorem splitChars_append (sep : Char) (xs ys : List Char) :
    splitChars sep (xs ++ sep :: ys) = splitChars sep xs ++ splitChars sep ys := by
  induction xs with
  | nil => simp [splitChars]
  | cons x xs ih =>
    rw [List.cons_append, splitChars, splitChars, ih]
    split
    · rfl
    · obtain ⟨piece, pieces, hpieces⟩ := List.exists_cons_of_ne_nil (splitChars_ne_nil sep xs)
      rw [hpieces]
      rfl

theorem splitChars_eq_singleton {sep : Char} {part : List Char} (h : sep ∉ part) :
    splitChars sep part = [part] := by
  induction part with
  | nil => rfl
  | cons c cs ih =>
    simp only [List.mem_cons, not_or] at h
    simp [splitChars, Ne.symm h.1, ih h.2]

theorem splitChars_append_sep {sep : Char} {part rest : List Char} (h : sep ∉ part) :
    splitChars sep (part ++ sep :: rest) = part :: splitChars sep rest := by
  rw [splitChars_append, splitChars_eq_singleton h]
  rfl

/-- There is one more piece than separators. -/
theorem length_splitChars (sep : Char) (cs : List Char) : (splitChars sep cs).length = cs.count sep + 1 := by
  induction cs with
  | nil => rfl
  | cons c cs ih =>
    rw [splitChars, List.count_cons]
    split
    next hc => simp [ih, hc]
    next hc =>
      obtain ⟨piece, pieces, hpieces⟩ := List.exists_cons_of_ne_nil (splitChars_ne_nil sep cs)
      rw [hpieces] at ih ⊢
      simpa [hc] using ih

variable {sep c : Char} {cs : List Char} {parts : List String} {part rest stem s : String}

/-- The characters of the pieces of a text are characters of the text. -/
theorem mem_of_mem_splitChars {piece : List Char} (hpiece : piece ∈ splitChars sep cs) (hc : c ∈ piece) : c ∈ cs := by
  induction cs generalizing piece with
  | nil =>
    obtain rfl := List.mem_singleton.mp hpiece
    exact hc
  | cons d cs ih =>
    rw [splitChars] at hpiece
    split at hpiece
    next =>
      rcases List.mem_cons.mp hpiece with rfl | hpiece
      · cases hc
      · exact List.mem_cons_of_mem d (ih hpiece hc)
    next =>
      split at hpiece
      next hnil => exact absurd hnil (splitChars_ne_nil sep cs)
      next first more hsplit =>
        rcases List.mem_cons.mp hpiece with rfl | hpiece
        · rcases List.mem_cons.mp hc with rfl | hc
          · exact List.mem_cons_self
          · exact List.mem_cons_of_mem d (ih (hsplit ▸ List.mem_cons_self) hc)
        · exact List.mem_cons_of_mem d (ih (hsplit ▸ List.mem_cons_of_mem first hpiece) hc)

theorem mem_of_mem_split (hpart : part ∈ split sep s) (hc : c ∈ part.toList) : c ∈ s.toList := by
  obtain ⟨piece, hpiece, rfl⟩ := List.mem_map.mp hpart
  exact mem_of_mem_splitChars hpiece (by simpa using hc)

/-- The pieces of a text do not hold what it is split at. -/
theorem not_mem_of_mem_splitChars {piece : List Char} (h : piece ∈ splitChars sep cs) : sep ∉ piece := by
  induction cs generalizing piece with
  | nil =>
    obtain rfl := List.mem_singleton.mp h
    exact List.not_mem_nil
  | cons c cs ih =>
    rw [splitChars] at h
    split at h
    next =>
      rcases List.mem_cons.mp h with rfl | h
      · exact List.not_mem_nil
      · exact ih h
    next hc =>
      split at h
      next hnil => exact absurd hnil (splitChars_ne_nil sep cs)
      next first more hsplit =>
        rcases List.mem_cons.mp h with rfl | h
        · rw [List.mem_cons, not_or]
          exact ⟨Ne.symm hc, ih (hsplit ▸ List.mem_cons_self)⟩
        · exact ih (hsplit ▸ List.mem_cons_of_mem first h)

theorem not_mem_of_mem_split (h : part ∈ split sep s) : sep ∉ part.toList := by
  obtain ⟨piece, hpiece, rfl⟩ := List.mem_map.mp h
  rw [String.toList_ofList]
  exact not_mem_of_mem_splitChars hpiece

/-- The characters of a text that is given in two pieces. -/
theorem toList_ofList_append (cs ds : List Char) : (String.ofList cs ++ String.ofList ds).toList = cs ++ ds := by
  rw [String.toList_append, String.toList_ofList, String.toList_ofList]

/-- The characters of joined parts are those of the parts and of the separator. -/
theorem mem_join {sep : String} (hc : c ∈ (join sep parts).toList) :
    c ∈ sep.toList ∨ ∃ part ∈ parts, c ∈ part.toList := by
  induction parts with
  | nil => simp [join] at hc
  | cons first more ih =>
    cases more with
    | nil => exact .inr ⟨first, List.mem_cons_self, hc⟩
    | cons second more =>
      rw [join] at hc
      · simp only [String.toList_append, List.mem_append, or_assoc] at hc
        rcases hc with hc | hc | hc
        · exact .inr ⟨first, List.mem_cons_self, hc⟩
        · exact .inl hc
        · exact (ih hc).imp_right fun ⟨part, hpart, hc⟩ => ⟨part, List.mem_cons_of_mem _ hpart, hc⟩
      · simp

/-- Splitting undoes joining where no part holds the separator. -/
theorem split_join {sep : Char} (hne : parts ≠ []) (h : ∀ part ∈ parts, sep ∉ part.toList) :
    split sep (join (String.singleton sep) parts) = parts := by
  induction parts with
  | nil => exact absurd rfl hne
  | cons first more ih =>
    have hfirst : sep ∉ first.toList := h first List.mem_cons_self
    cases more with
    | nil => simp [join, split, splitChars_eq_singleton hfirst]
    | cons second more =>
      have hrest := ih (by simp) fun part hpart => h part (List.mem_cons_of_mem _ hpart)
      have hjoin : (join (String.singleton sep) (first :: second :: more)).toList =
          first.toList ++ sep :: (join (String.singleton sep) (second :: more)).toList := by
        rw [join]
        · simp
        · simp
      rw [split] at hrest ⊢
      rw [hjoin, splitChars_append_sep hfirst, List.map_cons, hrest, String.ofList_toList]

theorem join_append_first (sep s more : String) (xs : List String) :
    join sep ((s ++ more) :: xs) = s ++ join sep (more :: xs) := by
  cases xs with
  | nil => rfl
  | cons x xs => simp only [join, String.append_assoc]

theorem join_splitChars (sep : Char) (cs : List Char) :
    join (String.singleton sep) ((splitChars sep cs).map String.ofList) = String.ofList cs := by
  induction cs with
  | nil => rfl
  | cons c cs ih =>
    obtain ⟨piece, pieces, hpieces⟩ := List.exists_cons_of_ne_nil (splitChars_ne_nil sep cs)
    rw [hpieces, List.map_cons] at ih
    by_cases hc : c = sep
    · subst hc
      have hsplit : splitChars c (c :: cs) = [] :: piece :: pieces := by rw [splitChars, if_pos rfl, hpieces]
      rw [hsplit, List.map_cons, List.map_cons, join, ih]
      · exact String.toList_injective (by simp)
      · simp
    · have hsplit : splitChars sep (c :: cs) = (c :: piece) :: pieces := by
        rw [splitChars, if_neg hc, hpieces]
      have hhead : String.ofList (c :: piece) = String.singleton c ++ String.ofList piece :=
        String.toList_injective (by simp)
      rw [hsplit, List.map_cons, hhead, join_append_first, ih]
      exact String.toList_injective (by simp)

/-- Joining undoes splitting. -/
theorem join_split (sep : Char) (s : String) : join (String.singleton sep) (split sep s) = s := by
  rw [split, join_splitChars, String.ofList_toList]

theorem join_append_last (sep s more : String) (xs : List String) :
    join sep (xs ++ [s ++ more]) = join sep (xs ++ [s]) ++ more := by
  induction xs with
  | nil => rfl
  | cons x xs ih =>
    cases xs with
    | nil => simp [join, String.append_assoc]
    | cons y ys =>
      simp only [List.cons_append, join] at ih ⊢
      rw [ih, String.append_assoc, String.append_assoc, String.append_assoc]

theorem join_append {sep : String} {xs ys : List String} (hx : xs ≠ []) (hy : ys ≠ []) :
    join sep (xs ++ ys) = join sep xs ++ sep ++ join sep ys := by
  induction xs with
  | nil => exact absurd rfl hx
  | cons x xs ih =>
    cases xs with
    | nil =>
      obtain ⟨y, ys, rfl⟩ := List.exists_cons_of_ne_nil hy
      simp [join]
    | cons x' xs =>
      have h := ih (by simp)
      simp only [List.cons_append, join] at h ⊢
      simp only [h, String.append_assoc]

theorem cutChars_of_not_mem {sep : Char} {cs : List Char} (h : sep ∉ cs) : cutChars sep cs = (cs, none) := by
  induction cs with
  | nil => rfl
  | cons c cs ih =>
    obtain ⟨hc, hcs⟩ : sep ≠ c ∧ sep ∉ cs := by simpa using h
    simp [cutChars, ih hcs, Ne.symm hc]

theorem mem_of_mem_cutChars (h : c ∈ (cutChars sep cs).1) : c ∈ cs := by
  induction cs with
  | nil => cases h
  | cons d cs ih =>
    rw [cutChars] at h
    split at h
    next => cases h
    next =>
      rcases List.mem_cons.mp h with rfl | h
      · exact List.mem_cons_self
      · exact List.mem_cons_of_mem d (ih h)

theorem not_mem_cutChars (sep : Char) (cs : List Char) : sep ∉ (cutChars sep cs).1 := by
  induction cs with
  | nil => exact List.not_mem_nil
  | cons d cs ih =>
    rw [cutChars]
    split
    next => exact List.not_mem_nil
    next hd => simp [Ne.symm hd, ih]

theorem afterChars?_eq_some {part cs rest : List Char} : afterChars? part cs = some rest ↔ cs = part ++ rest := by
  induction part generalizing cs with
  | nil => simp [afterChars?, eq_comm]
  | cons p part ih =>
    cases cs with
    | nil => simp [afterChars?]
    | cons d cs =>
      rw [afterChars?]
      split
      next h => simp [ih, h]
      next h => simp [Ne.symm h]

theorem after?_eq_some : after? part s = some rest ↔ s = part ++ rest := by
  simp only [after?, Option.map_eq_some_iff, afterChars?_eq_some]
  constructor
  · rintro ⟨cs, hcs, rfl⟩
    exact String.toList_injective (by simpa using hcs)
  · rintro rfl
    exact ⟨rest.toList, by simp, by simp⟩

theorem before?_eq_some : before? part s = some stem ↔ s = stem ++ part := by
  simp only [before?, Option.map_eq_some_iff, afterChars?_eq_some]
  constructor
  · rintro ⟨cs, hcs, rfl⟩
    refine String.toList_injective ?_
    rw [← List.reverse_reverse s.toList, hcs]
    simp
  · rintro rfl
    exact ⟨stem.toList.reverse, by simp, by simp⟩

theorem before?_eq_none : before? part s = none ↔ ∀ stem, s ≠ stem ++ part := by
  rw [Option.eq_none_iff_forall_ne_some]
  exact forall_congr' fun stem => not_congr before?_eq_some

end NoteSchema.Text
