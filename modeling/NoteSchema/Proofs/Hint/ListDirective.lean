import NoteSchema.Proofs.Hint.Composed
import NoteSchema.Proofs.Hint.Spelled
import NoteSchema.Proofs.Text.Blank
import NoteSchema.Proofs.Text.Split

namespace NoteSchema.Text

theorem expandTabs_append (xs ys : List Char) : expandTabs (xs ++ ys) = expandTabs xs ++ expandTabs ys := by
  induction xs with
  | nil => rfl
  | cons c cs ih =>
    by_cases hc : c = '\t'
    · subst hc
      rw [List.cons_append, expandTabs, expandTabs, ih]
      rfl
    · rw [List.cons_append, expandTabs_cons hc, expandTabs_cons hc, ih]
      rfl

theorem expandTabs_eq_self {cs : List Char} (h : '\t' ∉ cs) : expandTabs cs = cs := by
  induction cs with
  | nil => rfl
  | cons c cs ih =>
    obtain ⟨hc, hcs⟩ := not_or.mp (List.mem_cons.not.mp h)
    rw [expandTabs_cons (Ne.symm hc), ih hcs]

theorem all_isBlank_expandTabs {cs : List Char} (h : cs.all isBlank = true) : (expandTabs cs).all isBlank = true := by
  have hspace : isBlank ' ' = true := by decide
  induction cs with
  | nil => rfl
  | cons c cs ih =>
    obtain ⟨hc, hcs⟩ := Bool.and_eq_true_iff.mp h
    by_cases ht : c = '\t'
    · subst ht
      rw [expandTabs, List.all_cons, List.all_cons, hspace, ih hcs]
      rfl
    · rw [expandTabs_cons ht, List.all_cons, hc, ih hcs]
      rfl

theorem beforeLast?_concat (q : Char) (cs : List Char) : beforeLast? q (cs ++ [q]) = some cs := by
  induction cs with
  | nil => simp [beforeLast?]
  | cons c cs ih =>
    rw [List.cons_append, beforeLast?, ih]
    · rfl
    · simp

/-- A text in quotes. -/
def quoted (q : Char) (s : String) : String := String.ofList (q :: (s.toList ++ [q]))

/-- The quotes around a text are found, whatever it holds. -/
theorem unquote?_quoted {q : Char} (hq : q = '"' ∨ q = '\'') (s : String) : unquote? (quoted q s) = some s := by
  rw [unquote?, quoted, String.toList_ofList, unquoteChars?, if_pos hq, beforeLast?_concat]
  exact congrArg some String.ofList_toList

theorem beforeLast?_eq_none {q : Char} {cs : List Char} (h : q ∉ cs) : beforeLast? q cs = none := by
  fun_induction beforeLast? q cs with
  | case1 => rfl
  | case2 => simp at h
  | case3 => rfl
  | case4 c cs hne ih => rw [ih fun hq => h (List.mem_cons_of_mem c hq), Option.map_none]

/-- Where the letter that a word starts with is another one the word is not read. -/
theorem afterWord?_of_head {a c : Char} (h : isLetterOf a c = false) (word cs : List Char) :
    afterWord? (a :: word) (c :: cs) = none := by
  rw [afterWord?, h]
  rfl

/-- A blank before a text goes to its first piece. -/
theorem map_trimChars_splitChars {sep c : Char} (hsep : c ≠ sep) (hc : isBlank c = true) (cs : List Char) :
    (splitChars sep (c :: cs)).map trimChars = (splitChars sep cs).map trimChars := by
  obtain ⟨piece, pieces, hpieces⟩ := List.exists_cons_of_ne_nil (splitChars_ne_nil sep cs)
  have hsplit : splitChars sep (c :: cs) = (c :: piece) :: pieces := by rw [splitChars, if_neg hsep, hpieces]
  rw [hsplit, hpieces, List.map_cons, List.map_cons, trimChars_cons_of_blank hc]

/-- Texts joined with a comma and a blank are read back. -/
theorem trimmed_split_join {ts : List String} (hne : ts ≠ []) (hcomma : ∀ t ∈ ts, ',' ∉ t.toList)
    (htrimmed : ∀ t ∈ ts, trimChars t.toList = t.toList) :
    (splitChars ',' (join ", " ts).toList).map trimChars = ts.map String.toList := by
  induction ts with
  | nil => exact absurd rfl hne
  | cons t ts ih =>
    have htc := hcomma t List.mem_cons_self
    have htt := htrimmed t List.mem_cons_self
    cases ts with
    | nil => rw [join, splitChars_eq_singleton htc, List.map_cons, List.map_nil, htt]; rfl
    | cons u us =>
      have hjoin : (join ", " (t :: u :: us)).toList = t.toList ++ ',' :: ' ' :: (join ", " (u :: us)).toList := by
        rw [join]
        · simp
        · simp
      have hrest := ih (by simp) (fun v hv => hcomma v (List.mem_cons_of_mem t hv)) fun v hv =>
        htrimmed v (List.mem_cons_of_mem t hv)
      rw [hjoin, splitChars_append_sep htc, List.map_cons, htt, map_trimChars_splitChars (by decide) (by decide), hrest]
      rfl

end NoteSchema.Text

namespace NoteSchema.Hint

/-- The number of characters that blanks before a text count for. -/
def width (pad : String) : Nat := (Text.expandTabs pad.toList).length

/-- A text behind blanks makes a line of its own indentation. -/
theorem ofText_append {pad text : String} {c : Char} {cs : List Char} (hpad : Text.allBlank pad = true)
    (htext : text.toList = c :: cs) (hc : Text.isBlank c = false) (htab : '\t' ∉ text.toList) (n : Int) :
    Line.ofText n (pad ++ text) = ⟨n, width pad, text.toList⟩ := by
  have hblank := List.all_eq_true.mp (Text.all_isBlank_expandTabs hpad)
  have hstop : ¬Text.isBlank c = true := by simp [hc]
  rw [Line.ofText, String.toList_append, Text.expandTabs_append, Text.expandTabs_eq_self htab, Line.ofChars, Text.dropBlanks,
    List.takeWhile_append_of_pos hblank, List.dropWhile_append_of_pos hblank, htext, List.takeWhile_cons_of_neg hstop,
    List.dropWhile_cons_of_neg hstop, List.append_nil, width]

/-- A text that may stand for one element of a list. -/
structure IsToken (s : String) : Prop where
  ne : s ≠ ""
  trimmed : Text.trim s = s
  comma : ',' ∉ s.toList
  tab : '\t' ∉ s.toList

theorem isToken_iff {s : String} : IsToken s ↔ s ≠ "" ∧ Text.trim s = s ∧ ',' ∉ s.toList ∧ '\t' ∉ s.toList :=
  ⟨fun h => ⟨h.ne, h.trimmed, h.comma, h.tab⟩, fun ⟨hne, htrim, hcomma, htab⟩ => ⟨hne, htrim, hcomma, htab⟩⟩

instance (s : String) : Decidable (IsToken s) := decidable_of_iff _ isToken_iff.symm

def listKeys : List String :=
  ["required", "oneof", "anyof", "allof", "xor", "enum", "x-enumnames", "x-enumdescriptions"]

/-- A directive that is given a list: the blanks before its key, the key in any case, and the texts of the list, each
with the blanks before it where it stands below the key on a line of its own. -/
structure ListDirective where
  pad : String
  key : String
  items : List (String × String)
  blank : Text.allBlank pad = true
  named : Text.small key ∈ listKeys
  ne : items ≠ []
  deeper : ∀ i ∈ items, Text.allBlank i.1 = true ∧ width pad < width i.1
  token : ∀ i ∈ items, IsToken i.2

/-- A bullet for a text behind blanks. -/
def bulletText (item : String × String) : String := item.1 ++ ("- " ++ item.2)

namespace ListDirective

variable (d : ListDirective)

def tokens : List String := d.items.map (·.2)

/-- The list in brackets behind the key. -/
def inline : String := d.pad ++ (d.key ++ ": [" ++ Text.join ", " d.tokens ++ "]")

def opener : String := d.pad ++ (d.key ++ ":")

/-- The lines of the list below the key, one bullet for each text. -/
def bullets : List String := d.items.map bulletText

end ListDirective

theorem toLower_eq_self_or_isAlpha (c : Char) : c.toLower = c ∨ c.isAlpha = true := by
  unfold Char.toLower
  split
  next h => exact .inr (Bool.or_eq_true_iff.mpr (.inl (decide_eq_true h)))
  next => exact .inl rfl

namespace IsToken

variable {s : String}

theorem trimChars_eq (h : IsToken s) : Text.trimChars s.toList = s.toList := by
  have htrim := congrArg String.toList h.trimmed
  rwa [Text.trim, String.toList_ofList] at htrim

/-- A text of a list starts with something. -/
theorem starts (h : IsToken s) : ∃ c cs, s.toList = c :: cs ∧ Text.isBlank c = false := by
  cases hs : s.toList with
  | nil => exact absurd (String.toList_eq_nil_iff.mp hs) h.ne
  | cons c cs =>
    have htrim := h.trimChars_eq
    rw [hs] at htrim
    exact ⟨c, cs, rfl, Text.isBlank_of_trimmed htrim⟩

/-- As a bullet a text of a list stands for itself, without quotes around it. -/
theorem itemText_eq (h : IsToken s) : itemText s.toList = Text.stripQuotes s := by
  rw [itemText, h.trimChars_eq, Text.beforeLast?_eq_none h.comma]
  simp only [String.ofList_toList]

end IsToken

/-- In brackets texts of a list stand for themselves, without quotes around them, unless the last one is empty then. -/
theorem inlineTokens_join {ts : List String} (hne : ts ≠ []) (h : ∀ t ∈ ts, IsToken t)
    (hlast : (ts.map Text.stripQuotes).getLast? ≠ some "") :
    inlineTokens (Text.join ", " ts).toList = ts.map Text.stripQuotes := by
  have hsplit := Text.trimmed_split_join hne (fun t ht => (h t ht).comma) fun t ht => (h t ht).trimChars_eq
  have htokens : (Text.splitChars ',' (Text.join ", " ts).toList).map
      (fun cs => Text.stripQuotes (String.ofList (Text.trimChars cs))) = ts.map Text.stripQuotes := by
    have hmap := congrArg (List.map fun cs => Text.stripQuotes (String.ofList cs)) hsplit
    simpa [List.map_map, Function.comp_def] using hmap
  have hsaid : (Text.join ", " ts).toList.all Text.isBlank = false := by
    obtain ⟨t, rest, rfl⟩ := List.exists_cons_of_ne_nil hne
    obtain ⟨c, cs, hstart, hc⟩ := (h t List.mem_cons_self).starts
    have hjoin := Text.join_append_first ", " t "" rest
    rw [String.append_empty] at hjoin
    rw [hjoin, String.toList_append, hstart, List.cons_append, List.all_cons, hc, Bool.false_and]
  rw [inlineTokens, hsaid]
  simp only [htokens, if_neg hlast, Bool.false_eq_true, if_false]

/-- A text in brackets is read as the list of its texts. -/
theorem readScalar_bracketed (inside : List Char) :
    readScalar ('[' :: (inside ++ [']'])) = pure (.list (inlineTokens inside)) := by
  have htrim : Text.trimChars ('[' :: (inside ++ [']'])) = '[' :: (inside ++ [']']) :=
    Text.trimChars_eq_self rfl (List.cons_append).symm (by decide) (by decide)
  have hinside : bracketed? ('[' :: (inside ++ [']'])) = some inside := Text.beforeLast?_concat ']' inside
  unfold readScalar Value.ofText
  simp only [String.toList_ofList, htrim, hinside]
  rfl

/-- A text in quotes is read as it stands, quotes and all. -/
theorem ofText_quoted {q : Char} (hq : q = '"' ∨ q = '\'') (s : String) :
    Value.ofText (Text.quoted q s) = .ok (.text (Text.quoted q s)) := by
  have hquote : Text.isBlank q = false ∧ q ≠ '[' ∧ Text.isDigit q = false ∧ q ≠ '-' ∧ q ≠ '+' ∧
      Text.isLetterOf 't' q = false ∧ Text.isLetterOf 'f' q = false := by rcases hq with rfl | rfl <;> decide
  obtain ⟨hblank, hbracket, hdigit, hminus, hplus, ht, hf⟩ := hquote
  have htrim : Text.trimChars (q :: (s.toList ++ [q])) = q :: (s.toList ++ [q]) :=
    Text.trimChars_eq_self rfl (List.cons_append ..).symm hblank hblank
  have hlist : bracketed? (q :: (s.toList ++ [q])) = none := by
    rw [bracketed?.eq_def]
    split
    next heq => exact absurd (List.cons.inj heq).1 hbracket
    next => rfl
  have hflag : flag? (q :: (s.toList ++ [q])) = none := by simp [flag?, Text.afterWord?, ht, hf]
  have hnumeral : Number.numeral? (q :: (s.toList ++ [q])) = none := by
    simp [Number.numeral?, hminus, hplus, hdigit]
  rw [Value.ofText, Text.quoted, String.toList_ofList, htrim]
  simp only [hlist, hflag, hnumeral]

theorem isKeyChar_of_toLower {c : Char} (h : Line.isKeyChar c.toLower = true) : Line.isKeyChar c = true := by
  rcases toLower_eq_self_or_isAlpha c with heq | halpha
  · rwa [heq] at h
  · simp [Line.isKeyChar, Char.isAlphanum, halpha]

theorem isKeyStart_of_toLower {c : Char} (h : Line.isKeyStart c.toLower = true) : Line.isKeyStart c = true := by
  rcases toLower_eq_self_or_isAlpha c with heq | halpha
  · rwa [heq] at h
  · simp [Line.isKeyStart, halpha]

theorem isBlank_of_isKeyStart {c : Char} (h : Line.isKeyStart c = true) : Text.isBlank c = false := by
  have hcodes : ∀ n < 123, 36 ≤ n → Text.blanks.contains n = false := by decide
  have hbounds : 36 ≤ c.toNat ∧ c.toNat < 123 := by
    rcases Bool.or_eq_true_iff.mp h with halpha | hdollar
    · rcases Bool.or_eq_true_iff.mp halpha with hupper | hlower
      · have hrange : c.val ≥ 'A'.val ∧ c.val ≤ 'Z'.val := of_decide_eq_true hupper
        have hlow : 65 ≤ c.toNat := UInt32.le_iff_toNat_le.mp hrange.1
        have hhigh : c.toNat ≤ 90 := UInt32.le_iff_toNat_le.mp hrange.2
        omega
      · obtain ⟨hfrom, hto⟩ := Bool.and_eq_true_iff.mp hlower
        have hlow : 97 ≤ c.toNat := UInt32.le_iff_toNat_le.mp (of_decide_eq_true hfrom)
        have hhigh : c.toNat ≤ 122 := UInt32.le_iff_toNat_le.mp (of_decide_eq_true hto)
        omega
    · obtain rfl := beq_iff_eq.mp hdollar
      decide
  exact hcodes _ hbounds.2 hbounds.1

/-- A word is read where its letters are, in any case. -/
theorem take_of_afterWord? {word cs rest : List Char} (hplain : 's' ∉ word ∧ 'k' ∉ word ∧ 'i' ∉ word)
    (h : Text.afterWord? word cs = some rest) : (cs.take word.length).map Char.toLower = word := by
  induction word generalizing cs with
  | nil => rfl
  | cons a word ih =>
    simp only [List.mem_cons, not_or] at hplain
    obtain ⟨⟨hs, hsword⟩, ⟨hk, hkword⟩, hi, hiword⟩ := hplain
    cases cs with
    | nil => cases h
    | cons c cs =>
      rw [Text.afterWord?] at h
      split at h
      next hletter =>
        have hc : c.toLower = a := by simpa [Text.isLetterOf, Ne.symm hs, Ne.symm hk, Ne.symm hi] using hletter
        rw [List.length_cons, List.take_succ_cons, List.map_cons, hc, ih ⟨hsword, hkword, hiword⟩ h]
      next => cases h

section Key

variable {key : String} (h : Text.small key ∈ listKeys)

include h

theorem map_toLower_key : key.toList.map Char.toLower ∈ listKeys.map String.toList := by
  have hmem := List.mem_map_of_mem (f := String.toList) h
  rwa [Text.small, String.toList_ofList] at hmem

/-- The key of a list starts with a letter that no other kind of line but the end of a note starts with. -/
theorem key_cons : ∃ c cs, key.toList = c :: cs ∧ Line.isKeyStart c = true ∧ (∀ d ∈ cs, Line.isKeyChar d = true) ∧
    c.toLower ∈ ['r', 'o', 'a', 'x', 'e'] := by
  have hkeys : ∀ k ∈ listKeys.map String.toList, ∃ d ds, k = d :: ds ∧ d ∈ ['r', 'o', 'a', 'x', 'e'] ∧
      Line.isKeyStart d = true ∧ ds.all Line.isKeyChar = true := by
    have hall : (listKeys.map String.toList).all (fun k => k.head?.any fun d =>
        decide (d ∈ ['r', 'o', 'a', 'x', 'e']) && Line.isKeyStart d && k.tail.all Line.isKeyChar) = true := by decide
    intro k hk
    have hshape := List.all_eq_true.mp hall k hk
    cases k with
    | nil => cases hshape
    | cons d ds =>
      simp only [List.head?_cons, Option.any_some, List.tail_cons, Bool.and_eq_true, decide_eq_true_iff] at hshape
      exact ⟨d, ds, rfl, hshape.1.1, hshape.1.2, hshape.2⟩
  obtain ⟨d, ds, hmap, hfirst, hstart, hrest⟩ := hkeys _ (map_toLower_key h)
  obtain ⟨c, cs, hkey, rfl, rfl⟩ := List.map_eq_cons_iff.mp hmap
  refine ⟨c, cs, hkey, isKeyStart_of_toLower hstart, fun e he => ?_, hfirst⟩
  exact isKeyChar_of_toLower (List.all_eq_true.mp hrest _ (List.mem_map_of_mem he))

/-- Behind the key of a list its directive is read. -/
theorem directive?_key (n : Int) (i : Nat) (value : List Char) :
    Line.directive? ⟨n, i, key.toList ++ ':' :: value⟩ = some (key, Text.trimChars value) := by
  obtain ⟨c, cs, hkey, hstart, hchars, -⟩ := key_cons h
  have hcolon : ¬Line.isKeyChar ':' = true := by decide
  have hblank : ¬Text.isBlank ':' = true := by decide
  have hdrop : Text.dropBlanks ((cs ++ ':' :: value).dropWhile Line.isKeyChar) = ':' :: value := by
    rw [List.dropWhile_append_of_pos hchars, List.dropWhile_cons_of_neg hcolon, Text.dropBlanks,
      List.dropWhile_cons_of_neg hblank]
  have htake : (cs ++ ':' :: value).takeWhile Line.isKeyChar = cs := by
    rw [List.takeWhile_append_of_pos hchars, List.takeWhile_cons_of_neg hcolon, List.append_nil]
  have hwhole : String.ofList (c :: cs) = key := by rw [← hkey, String.ofList_toList]
  simp only [Line.directive?, hkey, List.cons_append, hstart, if_true, hdrop, htake, hwhole]

/-- A line that starts with the key of a list is no other kind of line. -/
theorem plain_key (n : Int) (i : Nat) (value : List Char) : Line.Plain ⟨n, i, key.toList ++ ':' :: value⟩ := by
  obtain ⟨c, cs, hkey, hstart, -, hfirst⟩ := key_cons h
  have hne {m : Char} (hm : Line.isKeyStart m = false) : c ≠ m := by
    rintro rfl
    rw [hm] at hstart
    cases hstart
  have hend : ∀ k ∈ listKeys.map String.toList, 3 ≤ k.length ∧ k.take 3 ≠ "end".toList := by decide
  refine ⟨?_, ?_, ?_, ?_⟩
  · have hquote : c ≠ '\'' := hne (by decide)
    simp [Line.isSkipped, Line.isBlank, Line.isComment, hkey, hquote]
  · obtain ⟨hlength, htake⟩ := hend _ (map_toLower_key h)
    rw [List.length_map] at hlength
    unfold Line.isEnd
    cases hword : Text.afterWord? "end".toList (key.toList ++ ':' :: value) with
    | none => rfl
    | some rest =>
      have hread := take_of_afterWord? (by decide) hword
      have hthree : "end".toList.length = 3 := rfl
      rw [hthree, List.take_append_of_le_length hlength, List.map_take] at hread
      exact absurd hread htake
  · have hletter : Text.isLetterOf 'f' c = false := by
      have hlower : c.toLower ≠ 'f' := by
        intro heq
        rw [heq] at hfirst
        revert hfirst
        decide
      simp [Text.isLetterOf, hlower]
    have hnone : Text.afterWord? "field".toList (key.toList ++ ':' :: value) = none := by
      rw [hkey]
      exact Text.afterWord?_of_head hletter _ _
    simp only [Line.fieldName?, hnone]
  · have hdash : c ≠ '-' := hne (by decide)
    have hstar : c ≠ '*' := hne (by decide)
    rw [hkey]
    unfold Line.bullet?
    split
    next mark gap rest heq =>
      obtain ⟨rfl, -⟩ := List.cons.inj heq
      simp [hdash, hstar]
    next => rfl

end Key

section Bullet

variable {item : String × String} (h : IsToken item.2)

include h

theorem ofText_bulletText (hblank : Text.allBlank item.1 = true) (n : Int) :
    Line.ofText n (bulletText item) = ⟨n, width item.1, '-' :: ' ' :: item.2.toList⟩ := by
  have htext : ("- " ++ item.2).toList = '-' :: ' ' :: item.2.toList := by simp
  have htab : '\t' ∉ ("- " ++ item.2).toList := by
    rw [htext, List.mem_cons, List.mem_cons, not_or, not_or]
    exact ⟨by decide, by decide, h.tab⟩
  rw [bulletText, ofText_append hblank htext (by decide) htab, htext]

theorem bullet?_eq (n : Int) (i : Nat) : Line.bullet? ⟨n, i, '-' :: ' ' :: item.2.toList⟩ = some item.2.toList := by
  obtain ⟨c, cs, hstart, hc⟩ := h.starts
  have hdrop : Text.dropBlanks item.2.toList = item.2.toList := by
    rw [hstart, Text.dropBlanks, List.dropWhile_cons_of_neg (by simp [hc])]
  have hspace : Text.isBlank ' ' = true := by decide
  simp [Line.bullet?, hspace, hdrop]

theorem bullet_of_deeper {indent i : Nat} (hi : indent < i) (n : Int) :
    Line.Bullet indent ⟨n, i, '-' :: ' ' :: item.2.toList⟩ where
  said := rfl
  deeper := hi
  notEnd := rfl
  notField := rfl
  isBullet := by
    rw [bullet?_eq h]
    rfl

end Bullet

/-- Lines of bullets are read as their texts, without quotes around them. -/
theorem bullets_read {indent : Nat} {items : List (String × String)}
    (hdeeper : ∀ i ∈ items, Text.allBlank i.1 = true ∧ indent < width i.1) (htoken : ∀ i ∈ items, IsToken i.2) (n : Int) :
    (∀ l ∈ Line.ofTexts n (items.map bulletText), l.Bullet indent) ∧
      ∀ mode, readList mode (Line.ofTexts n (items.map bulletText)) =
        pure ((items.map (·.2)).map Text.stripQuotes) := by
  induction items generalizing n with
  | nil => exact ⟨fun _ hl => absurd hl List.not_mem_nil, fun _ => rfl⟩
  | cons i items ih =>
    obtain ⟨⟨hblank, hi⟩, hdeeper⟩ := List.forall_mem_cons.mp hdeeper
    obtain ⟨ht, htoken⟩ := List.forall_mem_cons.mp htoken
    obtain ⟨hbullets, hread⟩ := ih hdeeper htoken (n + 1)
    have hbullet := bullet_of_deeper ht hi n
    rw [List.map_cons, Line.ofTexts, ofText_bulletText ht hblank]
    refine ⟨List.forall_mem_cons.mpr ⟨hbullet, hbullets⟩, fun mode => ?_⟩
    rw [readList, hbullet.said, bullet?_eq ht, hread]
    simp only [Option.getD_some, ht.itemText_eq]
    rfl

namespace ListDirective

variable (d : ListDirective)

theorem tokens_ne : d.tokens ≠ [] := fun h => d.ne (List.map_eq_nil_iff.mp h)

theorem isToken_of_mem {t : String} (h : t ∈ d.tokens) : IsToken t := by
  obtain ⟨i, hi, rfl⟩ := List.mem_map.mp h
  exact d.token i hi

theorem tab_not_mem_key : '\t' ∉ d.key.toList := by
  obtain ⟨c, cs, hkey, hstart, hchars, -⟩ := key_cons d.named
  have hfirst : Line.isKeyStart '\t' = false := by decide
  have hinner : Line.isKeyChar '\t' = false := by decide
  rw [hkey]
  intro h
  rcases List.mem_cons.mp h with rfl | h
  · rw [hfirst] at hstart
    cases hstart
  · have := hchars _ h
    rw [hinner] at this
    cases this

/-- A line that starts with the key of a list behind its blanks. -/
theorem ofText_key (n : Int) {rest : String} (htab : '\t' ∉ rest.toList) :
    Line.ofText n (d.pad ++ (d.key ++ rest)) = ⟨n, width d.pad, d.key.toList ++ rest.toList⟩ := by
  obtain ⟨c, cs, hkey, hstart, -⟩ := key_cons d.named
  have hc : Text.isBlank c = false := isBlank_of_isKeyStart hstart
  have htext : (d.key ++ rest).toList = c :: (cs ++ rest.toList) := by rw [String.toList_append, hkey, List.cons_append]
  rw [ofText_append d.blank htext hc, String.toList_append]
  rw [String.toList_append, List.mem_append, not_or]
  exact ⟨d.tab_not_mem_key, htab⟩

theorem ofText_opener (n : Int) : Line.ofText n d.opener = ⟨n, width d.pad, d.key.toList ++ [':']⟩ :=
  d.ofText_key n (by decide)

theorem ofText_inline (n : Int) : Line.ofText n d.inline =
    ⟨n, width d.pad, d.key.toList ++ ':' :: ' ' :: '[' :: ((Text.join ", " d.tokens).toList ++ [']'])⟩ := by
  have htab : '\t' ∉ (": [" ++ Text.join ", " d.tokens ++ "]").toList := by
    simp only [String.toList_append, List.mem_append, not_or]
    refine ⟨⟨by decide, fun h => ?_⟩, by decide⟩
    rcases Text.mem_join h with h | ⟨t, ht, h⟩
    · revert h
      decide
    · exact (d.isToken_of_mem ht).tab h
  have hinline : d.inline = d.pad ++ (d.key ++ (": [" ++ Text.join ", " d.tokens ++ "]")) :=
    String.toList_injective (by simp [inline])
  rw [hinline, d.ofText_key n htab]
  simp

/-- Both spellings of a list give the same texts, unless the last one is empty without its quotes. -/
theorem spelled (hlast : (d.tokens.map Text.stripQuotes).getLast? ≠ some "") (n m : Int) :
    Spelled (Line.ofText n d.opener) (Line.ofText n d.inline) (Line.ofTexts m d.bullets) := by
  obtain ⟨hbullets, hread⟩ := bullets_read d.deeper d.token m
  have hvalue : Text.trimChars (' ' :: '[' :: ((Text.join ", " d.tokens).toList ++ [']'])) =
      '[' :: ((Text.join ", " d.tokens).toList ++ [']']) := by
    rw [Text.trimChars_cons_of_blank (by decide)]
    exact Text.trimChars_eq_self rfl (List.cons_append).symm (by decide) (by decide)
  have hdirective := directive?_key d.named n (width d.pad) (' ' :: '[' :: ((Text.join ", " d.tokens).toList ++ [']']))
  have hscalar := readScalar_bracketed (Text.join ", " d.tokens).toList
  rw [hvalue] at hdirective
  rw [inlineTokens_join d.tokens_ne (fun _ => d.isToken_of_mem) hlast] at hscalar
  rw [d.ofText_opener, d.ofText_inline]
  refine ⟨rfl, rfl, plain_key d.named n _ [], plain_key d.named n _ _, fun hnil => ?_, hbullets,
    ⟨d.key, _, _, directive?_key d.named n _ [], hdirective, List.cons_ne_nil _ _, hscalar, hread⟩⟩
  obtain ⟨i, items, hitems⟩ := List.exists_cons_of_ne_nil d.ne
  rw [bullets, hitems] at hnil
  cases hnil

/-- A line with the key of a list does not open a note. -/
theorem startsWithMarker_key (value : List Char) : startsWithMarker (d.key.toList ++ ':' :: value) = false := by
  obtain ⟨c, cs, hkey, hstart, -, hfirst⟩ := key_cons d.named
  have hlower : c.toLower ≠ 's' := by
    intro heq
    rw [heq] at hfirst
    revert hfirst
    decide
  have hlong : c.toNat ≠ 0x17F := by
    intro heq
    have hc : c = Char.ofNat 0x17F := by rw [← heq, Char.ofNat_toNat]
    rw [hc] at hstart
    revert hstart
    decide
  have hletter : Text.isLetterOf 's' c = false := by simp [Text.isLetterOf, hlower, hlong]
  have hnone := Text.afterWord?_of_head hletter "chemahints".toList (cs ++ ':' :: value)
  have hblank : ¬Text.isBlank c = true := by simp [isBlank_of_isKeyStart hstart]
  have hdrop : Text.dropBlanks (d.key.toList ++ ':' :: value) = c :: (cs ++ ':' :: value) := by
    rw [hkey, List.cons_append, Text.dropBlanks, List.dropWhile_cons_of_neg hblank]
  have hmarker : (Text.small marker).toList = 's' :: "chemahints".toList := by decide
  rw [startsWithMarker, hdrop, hmarker, hnone]

end ListDirective

end NoteSchema.Hint
