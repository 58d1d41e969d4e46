import NoteSchema.Hint.Note
import NoteSchema.Proofs.Hint.ListDirective

namespace NoteSchema.Text

variable {c : Char} {word cs rest : List Char}

theorem suffix_of_afterWord? (h : afterWord? word cs = some rest) : rest <:+ cs := by
  induction word generalizing cs with
  | nil => exact Option.some.inj h ▸ List.suffix_rfl
  | cons a word ih =>
    cases cs with
    | nil => cases h
    | cons c cs =>
      rw [afterWord?] at h
      split at h
      · exact (ih h).trans (List.suffix_cons c cs)
      · cases h

/-- A word does not go past a character that is none of its letters. -/
theorem afterWord?_append_of_last (hlast : ∀ a ∈ word, isLetterOf a c = false) (cs more : List Char) :
    afterWord? word (cs ++ c :: more) = (afterWord? word (cs ++ [c])).map (· ++ more) := by
  induction word generalizing cs with
  | nil => simp [afterWord?]
  | cons a word ih =>
    cases cs with
    | nil => simp [afterWord?, hlast a List.mem_cons_self]
    | cons d cs =>
      rw [List.cons_append, List.cons_append, afterWord?, afterWord?]
      split
      · exact ih (fun b hb => hlast b (List.mem_cons_of_mem a hb)) cs
      · rfl

/-- After a word that ends before the last character there is something left. -/
theorem afterWord?_ne_nil_of_last (hlast : ∀ a ∈ word, isLetterOf a c = false)
    (h : afterWord? word (cs ++ [c]) = some rest) : rest ≠ [] := by
  induction word generalizing cs with
  | nil =>
    rw [← Option.some.inj h]
    simp
  | cons a word ih =>
    cases cs with
    | nil => simp [afterWord?, hlast a List.mem_cons_self] at h
    | cons d cs =>
      rw [List.cons_append, afterWord?] at h
      split at h
      · exact ih (fun b hb => hlast b (List.mem_cons_of_mem a hb)) h
      · cases h

end NoteSchema.Text

namespace NoteSchema.Hint.Note

/-- A text in which nothing but spaces and tabs follows the last line feed. -/
def AtIndent (cs : List Char) : Prop := ∀ above gap, cs = above ++ gap → '\n' ∉ gap → ∀ c ∈ gap, isGap c = true

namespace AtIndent

variable {cs rest : List Char}

theorem of_suffix (h : AtIndent cs) (hrest : rest <:+ cs) : AtIndent rest := by
  obtain ⟨front, rfl⟩ := hrest
  rintro above gap rfl hline
  exact h (front ++ above) gap (List.append_assoc ..).symm hline

theorem of_line (above : List Char) {gap : List Char} (hgap : ∀ c ∈ gap, isGap c = true)
    (habove : above = [] ∨ ∃ front, above = front ++ ['\n']) : AtIndent (above ++ gap) := by
  intro front tail heq hline c hc
  rcases List.append_eq_append_iff.mp heq with ⟨middle, rfl, rfl⟩ | ⟨middle, rfl, rfl⟩
  · exact hgap c (List.mem_append_right middle hc)
  · -- the tail starts within the lines above, which end with a line feed
    rcases habove with habove | ⟨lines, habove⟩
    · obtain ⟨rfl, rfl⟩ := List.append_eq_nil_iff.mp habove
      exact hgap c hc
    · rcases List.eq_nil_or_concat middle with rfl | ⟨_, last, rfl⟩
      · exact hgap c hc
      · rw [List.concat_eq_append, ← List.append_assoc] at habove
        obtain ⟨_, rfl⟩ := List.append_inj' habove rfl |>.imp_right List.cons.inj |>.imp_right And.left
        simp at hline

/-- The last character is a line feed, a space or a tab. -/
theorem last (h : AtIndent cs) (hcs : cs ≠ []) : ∃ front c, cs = front ++ [c] ∧ (c = '\n' ∨ isGap c = true) := by
  obtain ⟨front, c, rfl⟩ := List.eq_nil_or_concat cs |>.resolve_left hcs
  rw [List.concat_eq_append] at h ⊢
  refine ⟨front, c, rfl, or_iff_not_imp_left.mpr fun hc => ?_⟩
  exact h front [c] rfl (by simpa using Ne.symm hc) c (List.mem_singleton_self c)

theorem all_isGap (h : AtIndent cs) (hline : '\n' ∉ cs) : ∀ c ∈ cs, isGap c = true := h [] cs rfl hline

end AtIndent

/-- A word none of whose letters stands for a line feed, a space or a tab. -/
def IsPlain (word : List Char) : Prop := ∀ a ∈ word, ∀ c ∈ ['\n', ' ', '\t'], Text.isLetterOf a c = false

instance (word : List Char) : Decidable (IsPlain word) :=
  have (a : Char) : Decidable (∀ c ∈ ['\n', ' ', '\t'], Text.isLetterOf a c = false) := List.decidableBAll _ _
  List.decidableBAll _ word

theorem IsPlain.misses {word : List Char} (h : IsPlain word) {c : Char} (hc : c = '\n' ∨ isGap c = true) :
    ∀ a ∈ word, Text.isLetterOf a c = false :=
  fun a ha => h a ha c (by simpa [isGap] using hc)

/-- A text behind a line that closes a note. -/
def behindEnd (cs : List Char) : List Char := ['e', 'n', 'd', ' ', 'n', 'o', 't', 'e', '\n'] ++ cs

theorem behindEnd_eq (cs : List Char) :
    behindEnd cs = 'e' :: (['n', 'd', ' ', 'n', 'o', 't', 'e', '\n'] ++ cs) := rfl

section Local

variable {word cs rest : List Char}

/-- A word that does not start as the closing line does is read within the text above that line. -/
theorem afterWord?_behindEnd {a : Char} (h : AtIndent cs) (hplain : IsPlain (a :: word))
    (ha : Text.isLetterOf a 'e' = false) (more : List Char) :
    Text.afterWord? (a :: word) (cs ++ behindEnd more) = (Text.afterWord? (a :: word) cs).map (· ++ behindEnd more) := by
  by_cases hcs : cs = []
  · subst hcs
    exact Text.afterWord?_of_head ha word _
  · obtain ⟨front, c, rfl, hc⟩ := h.last hcs
    rw [List.append_assoc, List.singleton_append, Text.afterWord?_append_of_last (hplain.misses hc)]

theorem dropWhile_behindEnd {p : Char → Bool} (hp : p 'e' = false) (cs more : List Char) :
    (cs ++ behindEnd more).dropWhile p = cs.dropWhile p ++ behindEnd more := by
  induction cs with
  | nil => rw [List.nil_append, behindEnd_eq, List.dropWhile_cons_of_neg (by simp [hp])]
           rfl
  | cons c cs ih =>
    rw [List.cons_append, List.dropWhile_cons, List.dropWhile_cons, ih]
    split <;> rfl

theorem afterBlanks?_behindEnd (cs more : List Char) :
    afterBlanks? (cs ++ behindEnd more) = (afterBlanks? cs).map (· ++ behindEnd more) := by
  cases cs with
  | nil =>
    have he : Text.isBlank 'e' = false := by decide
    simp [behindEnd_eq, afterBlanks?, he]
  | cons c cs =>
    rw [List.cons_append, afterBlanks?, afterBlanks?]
    split
    · exact congrArg some (dropWhile_behindEnd (by decide) cs more)
    · rfl

theorem suffix_of_afterBlanks? (h : afterBlanks? cs = some rest) : rest <:+ cs := by
  cases cs with
  | nil => cases h
  | cons c cs =>
    rw [afterBlanks?] at h
    split at h
    · exact Option.some.inj h ▸ (List.dropWhile_suffix _).trans (List.suffix_cons c cs)
    · cases h

theorem suffix_of_afterWordAndBlanks? {word : String} (h : afterWordAndBlanks? word cs = some rest) : rest <:+ cs := by
  obtain ⟨middle, hword, hblanks⟩ := Option.bind_eq_some_iff.mp h
  exact (suffix_of_afterBlanks? hblanks).trans (Text.suffix_of_afterWord? hword)

theorem afterWordAndBlanks?_behindEnd {a : Char} {word : String} (h : AtIndent cs) {letters : List Char}
    (hword : word.toList = a :: letters) (hplain : IsPlain (a :: letters)) (ha : Text.isLetterOf a 'e' = false)
    (more : List Char) :
    afterWordAndBlanks? word (cs ++ behindEnd more) = (afterWordAndBlanks? word cs).map (· ++ behindEnd more) := by
  rw [afterWordAndBlanks?, afterWordAndBlanks?, hword, afterWord?_behindEnd h hplain ha]
  cases Text.afterWord? (a :: letters) cs with
  | none => rfl
  | some rest => exact afterBlanks?_behindEnd rest more

theorem dropSide_behindEnd (h : AtIndent cs) (more : List Char) :
    dropSide (cs ++ behindEnd more) = dropSide cs ++ behindEnd more := by
  have hside : ∀ side ∈ sides, afterWordAndBlanks? side (cs ++ behindEnd more) =
      (afterWordAndBlanks? side cs).map (· ++ behindEnd more) := by
    intro side hside
    simp only [sides, List.mem_cons, List.not_mem_nil, or_false] at hside
    rcases hside with rfl | rfl | rfl | rfl | rfl <;>
      exact afterWordAndBlanks?_behindEnd h rfl (by decide) (by decide) more
  rw [dropSide, dropSide]
  generalize sides = ss at hside
  induction ss with
  | nil => rfl
  | cons side ss ih =>
    rw [List.findSome?_cons, List.findSome?_cons, hside side List.mem_cons_self]
    cases afterWordAndBlanks? side cs with
    | none => exact ih fun s hs => hside s (List.mem_cons_of_mem side hs)
    | some rest => rfl

theorem suffix_dropSide (cs : List Char) : dropSide cs <:+ cs := by
  rw [dropSide]
  cases hfind : sides.findSome? fun side => afterWordAndBlanks? side cs with
  | none => exact List.suffix_rfl
  | some rest =>
    obtain ⟨side, _, hside⟩ := List.exists_of_findSome?_eq_some hfind
    exact suffix_of_afterWordAndBlanks? hside

theorem afterLineEnd?_behindEnd (h : AtIndent cs) (more : List Char) :
    afterLineEnd? (cs ++ behindEnd more) = (afterLineEnd? cs).map (· ++ behindEnd more) := by
  cases cs with
  | nil => rfl
  | cons c cs =>
    by_cases hline : c = '\n'
    · subst hline
      rfl
    by_cases hreturn : c = '\r'
    · subst hreturn
      cases cs with
      | nil =>
        have hgap := h [] ['\r'] rfl (by decide) '\r' (List.mem_singleton_self _)
        cases hgap
      | cons d cs =>
        by_cases hd : d = '\n'
        · subst hd
          rfl
        · simp [afterLineEnd?, hd]
    · simp [afterLineEnd?, hline, hreturn]

theorem exists_of_afterLineEnd? (h : afterLineEnd? cs = some rest) : ∃ front, cs = front ++ '\n' :: rest := by
  unfold afterLineEnd? at h
  split at h
  next => exact ⟨[], congrArg _ (Option.some.inj h)⟩
  next => exact ⟨['\r'], congrArg (['\r', '\n'] ++ ·) (Option.some.inj h)⟩
  next => cases h

/-- The name of a class does not go past the line above a closing line. -/
theorem takeWhile_behindEnd {p : Char → Bool} (h : AtIndent cs) (hp : ∀ c, c = '\n' ∨ isGap c = true → p c = false)
    (hcs : cs ≠ []) (more : List Char) : (cs ++ behindEnd more).takeWhile p = cs.takeWhile p ∧
      (cs ++ behindEnd more).dropWhile p = cs.dropWhile p ++ behindEnd more := by
  obtain ⟨front, c, rfl, hc⟩ := h.last hcs
  clear h hcs
  induction front with
  | nil => simp [hp c hc]
  | cons d front ih =>
    simp only [List.cons_append, List.takeWhile_cons, List.dropWhile_cons, List.append_assoc] at ih ⊢
    split
    · exact ⟨congrArg (d :: ·) ih.1, ih.2⟩
    · exact ⟨rfl, by simp⟩

theorem not_isOwnerChar {c : Char} (hc : c = '\n' ∨ isGap c = true) : isOwnerChar c = false := by
  obtain rfl | rfl | rfl : c = '\n' ∨ c = ' ' ∨ c = '\t' := by simpa [isGap] using hc
  · rfl
  · rfl
  · rfl

/-- A header is read within the text above a line that closes a note. -/
theorem header?_behindEnd (h : AtIndent cs) (more : List Char) :
    header? (cs ++ behindEnd more) = (header? cs).map fun found => (found.1, found.2 ++ behindEnd more) := by
  have hgap : AtIndent (cs.dropWhile isGap) := h.of_suffix (List.dropWhile_suffix _)
  rw [header?, header?, dropWhile_behindEnd (by decide),
    afterWordAndBlanks?_behindEnd hgap rfl (by decide) (by decide)]
  cases hnote : afterWordAndBlanks? "note" (cs.dropWhile isGap) with
  | none => rfl
  | some side =>
    have hside : AtIndent (dropSide side) :=
      (hgap.of_suffix (suffix_of_afterWordAndBlanks? hnote)).of_suffix (suffix_dropSide side)
    simp only [Option.map_some, Option.bind_eq_bind, Option.bind_some]
    rw [dropSide_behindEnd (hgap.of_suffix (suffix_of_afterWordAndBlanks? hnote)),
      afterWordAndBlanks?_behindEnd hside rfl (by decide) (by decide)]
    cases hof : afterWordAndBlanks? "of" (dropSide side) with
    | none => rfl
    | some owner =>
      have howner : AtIndent owner := hside.of_suffix (suffix_of_afterWordAndBlanks? hof)
      simp only [Option.map_some, Option.bind_some]
      by_cases hnil : owner = []
      · subst hnil
        rfl
      · obtain ⟨htake, hdrop⟩ := takeWhile_behindEnd howner (fun c => not_isOwnerChar) hnil more
        rw [htake, hdrop, dropWhile_behindEnd (by decide), afterLineEnd?_behindEnd]
        · split
          next => rfl
          next =>
            split
            · rfl
            · cases afterLineEnd? ((owner.dropWhile isOwnerChar).dropWhile isGap) <;> rfl
        · exact (howner.of_suffix (List.dropWhile_suffix _)).of_suffix (List.dropWhile_suffix _)

/-- A header ends with the end of a line. -/
theorem exists_of_header? {owner : String} (h : header? cs = some (owner, rest)) :
    ∃ front, cs = front ++ '\n' :: rest := by
  simp only [header?, Option.bind_eq_bind] at h
  obtain ⟨side, hnote, h⟩ := Option.bind_eq_some_iff.mp h
  obtain ⟨name, hof, h⟩ := Option.bind_eq_some_iff.mp h
  have hname : name <:+ cs :=
    ((suffix_of_afterWordAndBlanks? hof).trans (suffix_dropSide side)).trans
      ((suffix_of_afterWordAndBlanks? hnote).trans (List.dropWhile_suffix _))
  split at h
  next => cases h
  next =>
    split at h
    next => cases h
    next =>
      obtain ⟨after, hline, h⟩ := Option.bind_eq_some_iff.mp h
      obtain ⟨-, rfl⟩ := Prod.mk.inj (Option.some.inj h)
      obtain ⟨front, hfront⟩ := exists_of_afterLineEnd? hline
      obtain ⟨upper, hupper⟩ := ((List.dropWhile_suffix _).trans (List.dropWhile_suffix _)).trans hname
      exact ⟨upper ++ front, by rw [List.append_assoc, ← hfront, hupper]⟩

theorem atWordEnd_append (hcs : cs ≠ []) (more : List Char) : Text.atWordEnd (cs ++ more) = Text.atWordEnd cs := by
  cases cs with
  | nil => exact absurd rfl hcs
  | cons c cs => rfl

theorem afterWord?_end_behindEnd (h : AtIndent cs) (hcs : cs ≠ []) (more : List Char) :
    Text.afterWord? "end".toList (cs ++ behindEnd more) =
      (Text.afterWord? "end".toList cs).map (· ++ behindEnd more) := by
  have hplain : IsPlain "end".toList := by decide
  obtain ⟨front, c, rfl, hc⟩ := h.last hcs
  rw [List.append_assoc, List.singleton_append, Text.afterWord?_append_of_last (hplain.misses hc)]

/-- The words that close a note are read within the text above a closing line, unless that text is the indentation of
this line. -/
theorem afterEnd?_behindEnd (h : AtIndent cs) (hgap : cs.dropWhile isGap ≠ []) (more : List Char) :
    afterEnd? (cs ++ behindEnd more) = (afterEnd? cs).map (· ++ behindEnd more) := by
  have hdrop : AtIndent (cs.dropWhile isGap) := h.of_suffix (List.dropWhile_suffix _)
  rw [afterEnd?, afterEnd?, dropWhile_behindEnd (by decide), afterWord?_end_behindEnd hdrop hgap]
  cases hend : Text.afterWord? "end".toList (cs.dropWhile isGap) with
  | none => rfl
  | some rest =>
    have hrest : AtIndent (Text.dropBlanks rest) :=
      (hdrop.of_suffix (Text.suffix_of_afterWord? hend)).of_suffix (List.dropWhile_suffix _)
    have hplain : IsPlain "note".toList := by decide
    simp only [Option.map_some, Option.bind_eq_bind, Option.bind_some]
    rw [Text.dropBlanks, dropWhile_behindEnd (by decide), ← Text.dropBlanks]
    rw [show "note".toList = ['n', 'o', 't', 'e'] from rfl] at hplain ⊢
    rw [afterWord?_behindEnd hrest hplain (by decide)]
    cases hnote : Text.afterWord? ['n', 'o', 't', 'e'] (Text.dropBlanks rest) with
    | none => rfl
    | some after =>
      have hafter : after ≠ [] := by
        by_cases hnil : Text.dropBlanks rest = []
        · rw [hnil] at hnote
          cases hnote
        · obtain ⟨front, c, heq, hc⟩ := hrest.last hnil
          rw [heq] at hnote
          exact Text.afterWord?_ne_nil_of_last (hplain.misses hc) hnote
      simp only [Option.map_some, Option.bind_some]
      rw [atWordEnd_append hafter]
      split <;> rfl

theorem suffix_of_afterEnd? (h : afterEnd? cs = some rest) : rest <:+ cs := by
  simp only [afterEnd?, Option.bind_eq_bind] at h
  obtain ⟨words, hend, h⟩ := Option.bind_eq_some_iff.mp h
  obtain ⟨after, hnote, h⟩ := Option.bind_eq_some_iff.mp h
  split at h
  · obtain rfl := Option.some.inj h
    exact ((Text.suffix_of_afterWord? hnote).trans (List.dropWhile_suffix _)).trans
      ((Text.suffix_of_afterWord? hend).trans (List.dropWhile_suffix _))
  · cases h

/-- The closing line, from its indentation on. -/
theorem afterEnd?_gap (hgap : cs.dropWhile isGap = []) (more : List Char) :
    afterEnd? (cs ++ behindEnd more) = some ('\n' :: more) := by
  rw [afterEnd?, dropWhile_behindEnd (by decide), hgap]
  rfl

theorem untilEnd?_of_some {c : Char} (h : afterEnd? (c :: cs) = some rest) :
    untilEnd? true (c :: cs) = some ([], rest) := by
  rw [untilEnd?, if_pos rfl, h]

theorem untilEnd?_of_none {atStart : Bool} {c : Char} (h : atStart = true → afterEnd? (c :: cs) = none) :
    untilEnd? atStart (c :: cs) = (untilEnd? (c == '\n') cs).map fun found => (c :: found.1, found.2) := by
  have hnone : (if atStart then afterEnd? (c :: cs) else none) = none := ite_eq_right_iff.mpr h
  rw [untilEnd?, hnone]

/-- A closing line ends the text of every note above it, if a line starts before it. What is left then ends with the
end of that line. -/
theorem untilEnd?_behindEnd (h : AtIndent cs) {atStart : Bool} (hstart : atStart = true ∨ '\n' ∈ cs) :
    ∃ body rest, rest.length ≤ cs.length + 8 ∧
      ∀ more, untilEnd? atStart (cs ++ behindEnd more) = some (body, rest ++ '\n' :: more) := by
  induction cs generalizing atStart with
  | nil =>
    obtain rfl : atStart = true := hstart.resolve_right List.not_mem_nil
    refine ⟨[], [], Nat.zero_le _, fun more => ?_⟩
    have hend := afterEnd?_gap (List.dropWhile_nil) more
    rw [List.nil_append, behindEnd_eq] at hend ⊢
    exact untilEnd?_of_some hend
  | cons c cs ih =>
    -- where no note closes here, the rest of the text is read on
    have hon (hline : '\n' ∈ c :: cs) (hnone : atStart = true → ∀ more, afterEnd? (c :: (cs ++ behindEnd more)) = none) :
        ∃ body rest, rest.length ≤ (c :: cs).length + 8 ∧
          ∀ more, untilEnd? atStart (c :: cs ++ behindEnd more) = some (body, rest ++ '\n' :: more) := by
      have hc := (List.mem_cons.mp hline).imp_left fun hc => beq_iff_eq.mpr hc.symm
      obtain ⟨body, rest, hlength, hread⟩ := ih (h.of_suffix (List.suffix_cons c cs)) hc
      refine ⟨c :: body, rest, by rw [List.length_cons]; omega, fun more => ?_⟩
      rw [List.cons_append, untilEnd?_of_none fun h => hnone h more, hread more]
      rfl
    cases atStart with
    | false => exact hon (hstart.resolve_left Bool.false_ne_true) fun h => absurd h Bool.false_ne_true
    | true =>
      by_cases hgap : (c :: cs).dropWhile isGap = []
      · exact ⟨[], [], Nat.zero_le _, fun more => untilEnd?_of_some (afterEnd?_gap hgap more)⟩
      · have hend := afterEnd?_behindEnd h hgap
        cases hclosed : afterEnd? (c :: cs) with
        | none =>
          have hline : '\n' ∈ c :: cs := by
            by_contra hline
            exact hgap (List.dropWhile_eq_nil_iff.mpr (h.all_isGap hline))
          exact hon hline fun _ more => by rw [← List.cons_append, hend, hclosed]; rfl
        | some rest =>
          refine ⟨[], rest ++ ['e', 'n', 'd', ' ', 'n', 'o', 't', 'e'], ?_, fun more => ?_⟩
          · rw [List.length_append]
            exact Nat.add_le_add_right (suffix_of_afterEnd? hclosed).length_le 8
          · have hmore := hend more
            rw [hclosed] at hmore
            rw [List.append_assoc]
            exact untilEnd?_of_some hmore

/-- A note is found in the same way whatever follows the line that closes it at the latest. -/
theorem start?_behindEnd (h : AtIndent cs) : (∀ more, start? (cs ++ behindEnd more) = none) ∨
    ∃ owner body header rest, rest ≤ cs.length + 8 ∧ ∀ more, start? (cs ++ behindEnd more) =
      some ⟨owner, body, header + (behindEnd more).length, rest + 1 + more.length⟩ := by
  cases hheader : header? cs with
  | none =>
    refine .inl fun more => ?_
    rw [start?, header?_behindEnd h, hheader]
    rfl
  | some found =>
    obtain ⟨owner, after⟩ := found
    obtain ⟨front, hfront⟩ := exists_of_header? hheader
    have hsuffix : after <:+ cs := ⟨front ++ ['\n'], by simp [hfront]⟩
    obtain ⟨body, rest, hlength, hread⟩ := untilEnd?_behindEnd (h.of_suffix hsuffix) (.inl rfl)
    have hle := hsuffix.length_le
    refine .inr ⟨owner, body, after.length, rest.length, by omega, fun more => ?_⟩
    rw [start?, header?_behindEnd h, hheader]
    simp only [Option.map_some, Option.bind_eq_bind, Option.bind_some, hread more, List.length_append, List.length_cons]
    congr 2
    omega

/-- The line that a character leads to. -/
def lineAfter (n : Nat) (c : Char) : Nat := if c = '\n' then n + 1 else n

theorem lineAfter_eq (n : Nat) (c : Char) (cs : List Char) :
    lineAfter n c + cs.count '\n' = n + (c :: cs).count '\n' := by
  rw [lineAfter, List.count_cons]
  by_cases hc : c = '\n'
  · simp [hc]
    omega
  · simp [hc]

/-- What a note found in a text of the given length is listed as. -/
def listed (found : Found) (n : Nat) (cs : List Char) : List Note :=
  if isMarked found.body then
    [⟨found.owner, String.ofList found.body, n + (cs.take (cs.length - found.afterHeader)).count '\n'⟩]
  else []

theorem scan_skip (skip n : Nat) (atStart : Bool) (c : Char) (cs : List Char) :
    scan (skip + 1) n atStart (c :: cs) = scan skip (lineAfter n c) (c == '\n') cs := rfl

theorem scan_of_none {atStart : Bool} {c : Char} (h : atStart = true → start? (c :: cs) = none) (n : Nat) :
    scan 0 n atStart (c :: cs) = scan 0 (lineAfter n c) (c == '\n') cs := by
  have hnone : (if atStart then start? (c :: cs) else none) = none := ite_eq_right_iff.mpr h
  rw [scan]
  dsimp only
  rw [hnone]
  rfl

theorem scan_of_some {c : Char} {found : Found} (h : start? (c :: cs) = some found) (n : Nat) :
    scan 0 n true (c :: cs) =
      listed found n (c :: cs) ++ scan (cs.length - found.afterEnd) (lineAfter n c) (c == '\n') cs := by
  rw [scan, listed]
  dsimp only
  rw [if_pos rfl, h]
  dsimp only
  split <;> rfl

/-- Once the characters of a note are passed, nothing starts before the next line. -/
theorem scan_line (line : List Char) (hline : '\n' ∉ line) {skip : Nat} (hskip : skip ≤ line.length + 1) (n : Nat)
    (more : List Char) : scan skip n false (line ++ '\n' :: more) = scan 0 (n + 1) true more := by
  induction line generalizing skip with
  | nil =>
    obtain rfl | rfl : skip = 0 ∨ skip = 1 := by simp only [List.length_nil] at hskip; omega
    · rfl
    · rfl
  | cons c line ih =>
    obtain ⟨hc, hline⟩ : '\n' ≠ c ∧ '\n' ∉ line := by simpa using hline
    have hnext : (c == '\n') = false := beq_false_of_ne (Ne.symm hc)
    have hsame : lineAfter n c = n := if_neg (Ne.symm hc)
    rw [List.cons_append]
    cases skip with
    | zero =>
      rw [scan_of_none fun h => absurd h Bool.false_ne_true, hnext, hsame]
      exact ih hline (Nat.zero_le _)
    | succ skip =>
      rw [scan_skip, hnext, hsame]
      exact ih hline (Nat.le_of_succ_le_succ hskip)

/-- The line that closes a note is passed, whatever of it belongs to a note above it. -/
theorem scan_closing {skip : Nat} (hskip : skip ≤ 8) (n : Nat) (atStart : Bool) (more : List Char) :
    scan skip n atStart (behindEnd more) = scan 0 (n + 1) true more := by
  cases skip with
  | zero =>
    rw [behindEnd_eq, scan_of_none fun _ => rfl]
    exact scan_line ['n', 'd', ' ', 'n', 'o', 't', 'e'] (by decide) (Nat.zero_le _) _ more
  | succ skip => exact scan_line ['n', 'd', ' ', 'n', 'o', 't', 'e'] (by decide) (Nat.le_of_lt hskip) _ more

/-- A note is the same with some characters behind those that it is found in. -/
theorem listed_append (owner : String) (body : List Char) (header after n : Nat) (cs tail : List Char) :
    listed ⟨owner, body, header + tail.length, after⟩ n (cs ++ tail) = listed ⟨owner, body, header, 0⟩ n cs := by
  simp only [listed, List.length_append, Nat.add_sub_add_right, List.take_append_of_le_length (Nat.sub_le _ _)]

/-- The notes of a text that goes on below a closing line are those up to this line and those below it. No more than
that line is passed with a note that starts above it. -/
theorem scan_behindEnd (h : AtIndent cs) {skip : Nat} (hskip : skip ≤ cs.length + 8) (n : Nat) (atStart : Bool)
    (more : List Char) : scan skip n atStart (cs ++ behindEnd more) =
      scan skip n atStart (cs ++ behindEnd []) ++ scan 0 (n + cs.count '\n' + 1) true more := by
  induction cs generalizing skip n atStart with
  | nil =>
    rw [List.nil_append, List.nil_append, scan_closing hskip, scan_closing hskip]
    rfl
  | cons c cs ih =>
    have htail : AtIndent cs := h.of_suffix (List.suffix_cons c cs)
    rw [List.cons_append, List.cons_append, ← lineAfter_eq]
    cases skip with
    | succ skip =>
      rw [scan_skip, scan_skip]
      exact ih htail (by rw [List.length_cons] at hskip; omega) _ _
    | zero =>
      have hon (hnone : ∀ more, atStart = true → start? (c :: (cs ++ behindEnd more)) = none) :
          scan 0 n atStart (c :: (cs ++ behindEnd more)) =
            scan 0 n atStart (c :: (cs ++ behindEnd [])) ++
              scan 0 (lineAfter n c + cs.count '\n' + 1) true more := by
        rw [scan_of_none (hnone more), scan_of_none (hnone [])]
        exact ih htail (Nat.zero_le _) _ _
      cases atStart with
      | false => exact hon fun _ h => absurd h Bool.false_ne_true
      | true =>
        rcases start?_behindEnd h with hnone | ⟨owner, body, header, rest, hrest, hfound⟩
        · exact hon fun more _ => hnone more
        · -- the note and the characters passed with it are the same, so that the induction goes on behind it
          have hpassed (more : List Char) :
              (cs ++ behindEnd more).length - (rest + 1 + more.length) = cs.length + 8 - rest := by
            simp only [behindEnd, List.length_append, List.length_cons, List.length_nil]
            omega
          have hscan (more : List Char) : scan 0 n true (c :: (cs ++ behindEnd more)) =
              listed ⟨owner, body, header, 0⟩ n (c :: cs) ++
                scan (cs.length + 8 - rest) (lineAfter n c) (c == '\n') (cs ++ behindEnd more) := by
            have hstart : start? (c :: (cs ++ behindEnd more)) = some _ := hfound more
            have hsome := scan_of_some hstart n
            rwa [hpassed, ← List.cons_append, listed_append] at hsome
          rw [hscan more, hscan [], ih htail (by rw [List.length_cons] at hrest; omega), List.append_assoc]

end Local

/-- A note that stands some lines further down. -/
def lower (lines : Nat) (n : Note) : Note := { n with line := lines + n.line }

/-- The notes of a text do not depend on the line that it starts at, but for their lines. -/
theorem scan_lower (lines skip n : Nat) (atStart : Bool) (cs : List Char) :
    scan skip (lines + n) atStart cs = (scan skip n atStart cs).map (lower lines) := by
  induction cs generalizing skip n atStart with
  | nil => rfl
  | cons c cs ih =>
    have hnext : lineAfter (lines + n) c = lines + lineAfter n c := by
      unfold lineAfter
      split <;> rfl
    cases skip with
    | succ skip => rw [scan_skip, scan_skip, hnext, ih]
    | zero =>
      cases hfound : if atStart then start? (c :: cs) else none with
      | none =>
        have hnone : atStart = true → start? (c :: cs) = none := ite_eq_right_iff.mp hfound
        rw [scan_of_none hnone, scan_of_none hnone, hnext, ih]
      | some found =>
        cases atStart with
        | false => cases hfound
        | true =>
          have hlisted : listed found (lines + n) (c :: cs) = (listed found n (c :: cs)).map (lower lines) := by
            unfold listed
            split
            · simp only [List.map_cons, List.map_nil, lower, Nat.add_assoc]
            · rfl
          rw [scan_of_some hfound, scan_of_some hfound, hnext, ih, hlisted, List.map_append]

section Found

variable {cs rest body : List Char}

/-- The text of a note is made of whole lines. -/
theorem exists_of_untilEnd? {atStart : Bool} (h : untilEnd? atStart cs = some (body, rest)) :
    (body = [] ∧ atStart = true ∨ ∃ front, body = front ++ ['\n']) ∧ ∃ more, cs = body ++ more := by
  induction cs generalizing atStart body with
  | nil => cases h
  | cons c cs ih =>
    cases hclosed : if atStart then afterEnd? (c :: cs) else none with
    | some after =>
      cases atStart with
      | false => cases hclosed
      | true =>
        rw [untilEnd?_of_some hclosed] at h
        obtain ⟨rfl, -⟩ := Prod.mk.inj (Option.some.inj h)
        exact ⟨.inl ⟨rfl, rfl⟩, _, rfl⟩
    | none =>
      rw [untilEnd?_of_none (ite_eq_right_iff.mp hclosed), Option.map_eq_some_iff] at h
      obtain ⟨⟨upper, after⟩, hupper, h⟩ := h
      obtain ⟨rfl, rfl⟩ := Prod.mk.inj h
      obtain ⟨hends, more, rfl⟩ := ih hupper
      refine ⟨.inr ?_, more, rfl⟩
      rcases hends with ⟨hnil, hc⟩ | ⟨front, hfront⟩
      · exact ⟨[], by rw [hnil, beq_iff_eq.mp hc]; rfl⟩
      · exact ⟨c :: front, congrArg (c :: ·) hfront⟩

/-- What is found at the start of a line is a header, the text of a note in whole lines, and more. -/
theorem exists_of_start? {found : Found} (h : start? cs = some found) : ∃ header more,
    cs = header ++ '\n' :: (found.body ++ more) ∧ found.afterHeader = (found.body ++ more).length ∧
      (found.body = [] ∨ ∃ front, found.body = front ++ ['\n']) := by
  simp only [start?, Option.bind_eq_bind] at h
  obtain ⟨⟨owner, below⟩, hheader, h⟩ := Option.bind_eq_some_iff.mp h
  obtain ⟨⟨body, after⟩, hbody, h⟩ := Option.bind_eq_some_iff.mp h
  obtain rfl := Option.some.inj h
  obtain ⟨header, rfl⟩ := exists_of_header? hheader
  obtain ⟨hends, more, rfl⟩ := exists_of_untilEnd? hbody
  exact ⟨header, more, rfl, rfl, hends.imp_left And.left⟩

/-- The text of a note in a text: it starts below a line end, is made of whole lines, and has the marker. -/
structure Within (n : Note) (cs : List Char) (first : Nat) : Prop where
  place : ∃ above below, cs = above ++ '\n' :: (n.body.toList ++ below) ∧ n.line = first + above.count '\n' + 1
  ends : n.body.toList = [] ∨ ∃ front, n.body.toList = front ++ ['\n']
  marked : isMarked n.body.toList = true

theorem Within.cons {n : Note} {first : Nat} {c : Char} (h : Within n cs (lineAfter first c)) :
    Within n (c :: cs) first := by
  obtain ⟨above, below, rfl, hline⟩ := h.place
  exact ⟨⟨c :: above, below, rfl, by rw [hline, lineAfter_eq]⟩, h.ends, h.marked⟩

/-- A note that is found stands in the text. -/
theorem within_of_mem_scan {n : Note} {skip first : Nat} {atStart : Bool} (h : n ∈ scan skip first atStart cs) :
    Within n cs first := by
  induction cs generalizing skip first atStart with
  | nil => cases h
  | cons c cs ih =>
    cases skip with
    | succ skip => exact (ih (scan_skip skip first atStart c cs ▸ h)).cons
    | zero =>
      cases hfound : if atStart then start? (c :: cs) else none with
      | none =>
        rw [scan_of_none (ite_eq_right_iff.mp hfound)] at h
        exact (ih h).cons
      | some found =>
        cases atStart with
        | false => cases hfound
        | true =>
          rw [scan_of_some hfound, List.mem_append] at h
          rcases h with h | h
          · obtain ⟨header, more, hcs, hlength, hends⟩ := exists_of_start? hfound
            unfold listed at h
            split at h
            next hmarked =>
              obtain rfl := List.mem_singleton.mp h
              refine ⟨⟨header, more, by simpa using hcs, ?_⟩, by simpa using hends, by simpa using hmarked⟩
              have hsplit : c :: cs = header ++ ['\n'] ++ (found.body ++ more) := by simpa using hcs
              have htake : (c :: cs).take ((c :: cs).length - found.afterHeader) = header ++ ['\n'] := by
                rw [hsplit, hlength, List.length_append, Nat.add_sub_cancel, List.take_left]
              simp only [htake, List.count_append, List.count_singleton_self, Nat.add_assoc]
            next => cases h
          · exact (ih h).cons

end Found

/-- Where a note is in its source. -/
theorem within_of_mem_extract {n : Note} {source : String} (h : n ∈ extract source) : Within n source.toList 1 :=
  within_of_mem_scan h

/-- A text whose last line closes a note, with spaces and tabs at most before the words that do. -/
def EndsClosed (s : String) : Prop :=
  ∃ above gap, s = above ++ gap ++ "end note\n" ∧ (above = "" ∨ Text.endsWith "\n" above = true) ∧
    ∀ c ∈ gap.toList, isGap c = true

variable {s : String}

theorem EndsClosed.toList_eq (h : EndsClosed s) : ∃ cs, AtIndent cs ∧ s.toList = cs ++ behindEnd [] := by
  obtain ⟨above, gap, rfl, habove, hgap⟩ := h
  refine ⟨above.toList ++ gap.toList, .of_line above.toList hgap ?_, by simp [behindEnd]⟩
  refine habove.imp (fun h => by simp [h]) fun h => ?_
  obtain ⟨front, hfront⟩ := Option.isSome_iff_exists.mp h
  exact ⟨front.toList, by simp [Text.before?_eq_some.mp hfront]⟩

/-- The notes of a text that goes on below a line that closes a note: no note of the upper part reaches into the lower
part, and the notes of the lower part are where they are in it. -/
theorem extract_append (h : EndsClosed s) (t : String) :
    extract (s ++ t) = extract s ++ (extract t).map (lower (s.toList.count '\n')) := by
  obtain ⟨cs, hcs, hs⟩ := h.toList_eq
  have hcount : s.toList.count '\n' = cs.count '\n' + 1 := by
    rw [hs, List.count_append]
    rfl
  have hfirst : 1 + cs.count '\n' + 1 = (cs.count '\n' + 1) + 1 := by omega
  rw [extract, extract, extract, String.toList_append, hcount, hs, List.append_assoc, ← scan_lower, ← hfirst]
  exact scan_behindEnd hcs (Nat.zero_le _) 1 true t.toList

/-- A closing line of no note, a note, a note without the marker and in it the header of a third one. -/
def strayEnd : String :=
  "end note\nnote of A\nSCHEMAHINTS\nend note\nnote of B\nplain\nnote of C\n" ++ " \t" ++ "end note\n"

theorem strayEnd_appended : EndsClosed strayEnd ∧
    extract (strayEnd ++ "note left of D\nSCHEMAHINTS\ntitle: D\nEnd  Note") =
      [⟨"A", "SCHEMAHINTS\n", 3⟩, ⟨"D", "SCHEMAHINTS\ntitle: D\n", 10⟩] := by
  have hclosed : EndsClosed strayEnd := ⟨_, _, rfl, .inr (by decide), List.all_eq_true.mp rfl⟩
  refine ⟨hclosed, ?_⟩
  rw [extract_append hclosed]
  decide

end NoteSchema.Hint.Note
