import NoteSchema.Json.Pointer
import NoteSchema.Proofs.Json.Order
import NoteSchema.Proofs.Text.Split

namespace NoteSchema.Json.Pointer

/-- A fragment that addresses a whole document, or that starts with exactly one slash. -/
def Rooted (fragment : String) : Prop :=
  fragment = "" ∨ ∃ cs, fragment.toList = '/' :: cs ∧ cs.head? ≠ some '/'

theorem restoreTildes_cons {c : Char} (cs : List Char) (h : c ≠ '~') :
    restoreTildes (c :: cs) = c :: restoreTildes cs := by
  cases cs <;> simp [restoreTildes, h]

theorem restoreSlashes_cons {c : Char} (cs : List Char) (h : c ≠ '~') :
    restoreSlashes (c :: cs) = c :: restoreSlashes cs := by
  cases cs <;> simp [restoreSlashes, h]

theorem escapeChars_cons {c : Char} (cs : List Char) (ht : c ≠ '~') (hl : c ≠ '/') :
    escapeChars (c :: cs) = c :: escapeChars cs := by
  rw [escapeChars]
  · exact ht
  · exact hl

theorem unescapeChars_escapeChars (cs : List Char) : unescapeChars (escapeChars cs) = cs := by
  unfold unescapeChars
  induction cs with
  | nil => rfl
  | cons c cs ih =>
    by_cases ht : c = '~'
    · subst c
      have hs : restoreSlashes ('~' :: '0' :: escapeChars cs) =
          '~' :: '0' :: restoreSlashes (escapeChars cs) := by
        rw [restoreSlashes, restoreSlashes_cons _ (by decide)]
        simp
      rw [escapeChars, hs, restoreTildes, ih]
    · by_cases hl : c = '/'
      · subst c
        rw [escapeChars, restoreSlashes, restoreTildes_cons _ (by decide), ih]
      · rw [escapeChars_cons cs ht hl, restoreSlashes_cons _ ht, restoreTildes_cons _ ht, ih]

theorem slash_not_mem_escapeChars (cs : List Char) : '/' ∉ escapeChars cs := by
  induction cs with
  | nil => simp [escapeChars]
  | cons c cs ih =>
    by_cases ht : c = '~'
    · subst c
      simp [escapeChars, ih]
    · by_cases hl : c = '/'
      · subst c
        simp [escapeChars, ih]
      · simp [escapeChars_cons cs ht hl, ih, Ne.symm hl]

theorem escape_toList (token : String) : (escape token).toList = escapeChars token.toList := by
  simp [escape]

/-- The pieces after the slashes of a text that is empty or starts with a slash. -/
def pieces : List Char → List (List Char)
  | [] => []
  | _ :: cs => Text.splitChars '/' cs

theorem tokens_eq_pieces {fragment : String} (h : Rooted fragment) :
    tokens fragment = (pieces fragment.toList).map fun cs => String.ofList (unescapeChars cs) := by
  rcases h with rfl | ⟨cs, hcs, hh⟩
  · rfl
  · have hne : fragment ≠ "" := by
      rintro rfl
      simp at hcs
    have hd : ('/' :: cs).dropWhile (· == '/') = cs := by
      cases cs with
      | nil => rfl
      | cons c cs =>
        have hc : c ≠ '/' := by simpa using hh
        simp [hc]
    simp [tokens, hne, hcs, hd, pieces]

theorem pieces_cons {part rest : List Char} (h : '/' ∉ part) (hr : rest = [] ∨ ∃ cs, rest = '/' :: cs) :
    pieces ('/' :: (part ++ rest)) = part :: pieces rest := by
  rcases hr with rfl | ⟨cs, rfl⟩
  · simp [pieces, Text.splitChars_eq_singleton h]
  · simp [pieces, Text.splitChars_append_sep h]

theorem follow_append (v : Document) (front back : List String) :
    follow v (front ++ back) = (follow v front).bind fun w => follow w back := by
  induction front generalizing v with
  | nil => rfl
  | cons token front ih =>
    simp only [List.cons_append, follow]
    cases step v token with
    | ok w => exact ih w
    | error e => rfl

theorem step_sorted (v : Document) (token : String) : step (sorted v) token = (step v token).map sorted := by
  cases v with
  | obj ms =>
    simp only [sorted, step, Members.find?_sortMembers, Members.find?_sortedValues]
    cases Members.find? token ms <;> rfl
  | arr items =>
    simp only [sorted, step, sortedItems_eq, List.getElem?_map]
    split
    · cases index? token with
      | none => rfl
      | some i => cases h : items[i]? <;> simp [h] <;> rfl
    · rfl
  | _ => rfl

theorem follow_sorted (v : Document) (path : List String) :
    follow (sorted v) path = (follow v path).map sorted := by
  induction path generalizing v with
  | nil => rfl
  | cons token path ih =>
    simp only [follow, step_sorted]
    cases step v token with
    | ok w => exact ih w
    | error e => rfl

end NoteSchema.Json.Pointer
