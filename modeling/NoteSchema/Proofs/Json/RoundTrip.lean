import NoteSchema.File.Store
import NoteSchema.Proofs.Json.Objects
import NoteSchema.Proofs.Json.Token

namespace NoteSchema

/-- Numbers without a fraction. -/
def Number.Whole : Number → Prop
  | .int _ => True
  | .float _ => False

/-- Numbers whose numeral has no more digits than the limit. -/
def Number.Short : Number → Prop
  | .int n => (Decimal.natChars n.natAbs).length ≤ Decimal.digitLimit
  | .float _ => True

instance : (n : Number) → Decidable n.Whole
  | .int _ => .isTrue trivial
  | .float _ => .isFalse id

instance : (n : Number) → Decidable n.Short
  | .int n => inferInstanceAs (Decidable ((Decimal.natChars n.natAbs).length ≤ Decimal.digitLimit))
  | .float _ => .isTrue trivial

namespace Json

open Decimal (natChars)

mutual
/-- The numbers in a value. -/
def numbers : Document → List Number
  | .number n => [n]
  | .arr items => numbersInItems items
  | .obj members => numbersInMembers members
  | _ => []

def numbersInItems : List Document → List Number
  | [] => []
  | v :: vs => numbers v ++ numbersInItems vs

def numbersInMembers : Members String → List Number
  | [] => []
  | (_, v) :: ms => numbers v ++ numbersInMembers ms
end

theorem mem_numbersInItems {n : Number} {xs : List Document} : n ∈ numbersInItems xs ↔ ∃ x ∈ xs, n ∈ numbers x := by
  induction xs with
  | nil => simp [numbersInItems]
  | cons x xs ih => simp [numbersInItems, ih]

theorem mem_numbersInMembers {n : Number} {ms : Members String} :
    n ∈ numbersInMembers ms ↔ ∃ m ∈ ms, n ∈ numbers m.2 := by
  induction ms with
  | nil => simp [numbersInMembers]
  | cons m ms ih => simp [numbersInMembers, ih]

/-- All numbers of a document are whole. -/
def Whole (d : Document) : Prop := ∀ n ∈ numbers d, n.Whole

/-- No number of a document is longer than the limit. -/
def Short (d : Document) : Prop := ∀ n ∈ numbers d, n.Short

instance (d : Document) : Decidable (Whole d) := inferInstanceAs (Decidable (∀ n ∈ numbers d, n.Whole))

instance (d : Document) : Decidable (Short d) := inferInstanceAs (Decidable (∀ n ∈ numbers d, n.Short))

theorem Whole.item {items : List Document} (h : Whole (.arr items)) {x : Document} (hx : x ∈ items) : Whole x :=
  fun n hn => h n (mem_numbersInItems.mpr ⟨x, hx, hn⟩)

theorem Whole.member {ms : Members String} (h : Whole (.obj ms)) {m : String × Document} (hm : m ∈ ms) : Whole m.2 :=
  fun n hn => h n (mem_numbersInMembers.mpr ⟨m, hm, hn⟩)

theorem Short.item {items : List Document} (h : Short (.arr items)) {x : Document} (hx : x ∈ items) : Short x :=
  fun n hn => h n (mem_numbersInItems.mpr ⟨x, hx, hn⟩)

theorem Short.member {ms : Members String} (h : Short (.obj ms)) {m : String × Document} (hm : m ∈ ms) : Short m.2 :=
  fun n hn => h n (mem_numbersInMembers.mpr ⟨m, hm, hn⟩)

section Space

variable {level : Nat} {rest : List Char}

theorem dropSpace_newLine (level : Nat) (cs : List Char) : dropSpace (newLine level ++ cs) = dropSpace cs := by
  have hspaces : ∀ c ∈ newLine level, isSpace c = true := by
    intro c hc
    rcases List.mem_cons.mp hc with rfl | hc
    · rfl
    · obtain rfl := (List.mem_replicate.mp hc).2
      rfl
  exact List.dropWhile_append_of_pos hspaces

theorem ends_newLine (level : Nat) (cs : List Char) : Ends (newLine level ++ cs) :=
  ⟨'\n', List.replicate (2 * level) ' ' ++ cs, rfl, .inr rfl⟩

/-- Characters with which a printed value starts: they are no space, and they close nothing. -/
structure Starts (c : Char) : Prop where
  visible : isSpace c = false
  item : c ≠ ']'
  member : c ≠ '}'
  text : c ≠ '\uFEFF'

instance (c : Char) : Decidable (Starts c) :=
  decidable_of_iff (isSpace c = false ∧ c ≠ ']' ∧ c ≠ '}' ∧ c ≠ '\uFEFF')
    ⟨fun ⟨h₁, h₂, h₃, h₄⟩ => ⟨h₁, h₂, h₃, h₄⟩, fun h => ⟨h.visible, h.item, h.member, h.text⟩⟩

theorem starts_of_isPlainDigit {c : Char} (h : isPlainDigit c = true) : Starts c := by
  refine ⟨?_, ?_, ?_, ?_⟩
  · by_contra hspace
    simp only [isSpace, Bool.not_eq_false, Bool.or_eq_true, beq_iff_eq] at hspace
    rcases hspace with ((rfl | rfl) | rfl) | rfl <;> cases h
  all_goals
    rintro rfl
    cases h

theorem chars_eq_cons (level : Nat) {d : Document} (h : Whole d) : ∃ c cs, chars level d = c :: cs ∧ Starts c := by
  cases d with
  | null => exact ⟨'n', ['u', 'l', 'l'], rfl, by decide⟩
  | bool b =>
    cases b with
    | true => exact ⟨'t', ['r', 'u', 'e'], rfl, by decide⟩
    | false => exact ⟨'f', ['a', 'l', 's', 'e'], rfl, by decide⟩
  | number n =>
    cases n with
    | float x => exact (h _ (List.mem_singleton_self _)).elim
    | int z =>
      cases z with
      | ofNat n =>
        obtain ⟨c, cs, hcs, hc⟩ := exists_digit n
        exact ⟨c, cs, hcs, starts_of_isPlainDigit hc⟩
      | negSucc n => exact ⟨'-', natChars (n + 1), rfl, by decide⟩
  | str s => exact ⟨'"', _, rfl, by decide⟩
  | arr items =>
    cases items with
    | nil => exact ⟨'[', [']'], rfl, by decide⟩
    | cons x xs => exact ⟨'[', _, rfl, by decide⟩
  | obj ms =>
    cases ms with
    | nil => exact ⟨'{', ['}'], rfl, by decide⟩
    | cons m ms => exact ⟨'{', _, rfl, by decide⟩

theorem dropSpace_chars (level : Nat) {d : Document} (h : Whole d) (rest : List Char) :
    dropSpace (chars level d ++ rest) = chars level d ++ rest := by
  obtain ⟨c, cs, hcs, hc⟩ := chars_eq_cons level h
  rw [hcs, List.cons_append, dropSpace, List.dropWhile_cons_of_neg (by simp [hc.visible])]

end Space

/-- What reading comes to where `d` was printed before `rest`: the document, provided that its names are told apart, or an
error if some number is too long. -/
def ReadsAs (result : Reading Document) (d : Document) (rest : List Char) (apart short : Prop) : Prop :=
  (∃ v, result = .ok (v, rest) ∧ (apart → v = d)) ∨ ((∃ e, result = .error e) ∧ ¬ short)

/-- A printed value is read back where a value is expected. -/
def Returns (d : Document) : Prop :=
  ∀ level budget rest, Ends rest → (chars level d ++ rest).length < budget →
    ReadsAs (readValue budget (chars level d ++ rest)) d rest (Distinct d) (Short d)

theorem dropSpace_itemChars_cons (level : Nat) {y : Document} (hy : Whole y) (ys : List Document) (rest : List Char) :
    ∃ more, dropSpace (itemChars level (y :: ys) ++ rest) = ',' :: more ∧
      dropSpace more = chars level y ++ (itemChars level ys ++ rest) ∧
      (chars level y ++ (itemChars level ys ++ rest)).length < (itemChars level (y :: ys) ++ rest).length := by
  refine ⟨newLine level ++ (chars level y ++ (itemChars level ys ++ rest)), ?_, ?_, ?_⟩
  · simp only [itemChars, List.cons_append, List.append_assoc]
    rfl
  · rw [dropSpace_newLine, dropSpace_chars level hy]
  · simp only [itemChars, List.length_append, List.length_cons]
    omega

theorem ends_itemChars (level : Nat) (ys : List Document) {rest : List Char} (h : Ends rest) :
    Ends (itemChars level ys ++ rest) := by
  cases ys with
  | nil => exact h
  | cons y ys => exact ⟨',', _, rfl, .inl rfl⟩

theorem readItems_chars {x : Document} {xs : List Document} (hw : ∀ y ∈ x :: xs, Whole y)
    (ih : ∀ y ∈ x :: xs, Returns y) (level outer budget : Nat) (acc : List Document) (rest : List Char)
    (hb : (chars level x ++ (itemChars level xs ++ (newLine outer ++ ']' :: rest))).length + 1 < budget) :
    ReadsAs (readItems budget acc (chars level x ++ (itemChars level xs ++ (newLine outer ++ ']' :: rest))))
      (.arr (acc.reverse ++ x :: xs)) rest (∀ y ∈ x :: xs, Distinct y) (∀ y ∈ x :: xs, Short y) := by
  induction xs generalizing x budget acc with
  | nil =>
    obtain ⟨budget, rfl⟩ := Nat.exists_eq_add_one_of_ne_zero (Nat.ne_zero_of_lt hb)
    rcases ih x List.mem_cons_self level budget _ (ends_itemChars level [] (ends_newLine outer (']' :: rest)))
        (by omega)
      with ⟨v, hv, heq⟩ | ⟨⟨e, he⟩, hlong⟩
    · have hclose : dropSpace (itemChars level ([] : List Document) ++ (newLine outer ++ ']' :: rest)) =
          ']' :: rest := dropSpace_newLine outer _
      refine .inl ⟨.arr (v :: acc).reverse, ?_, fun h => ?_⟩
      · simp only [readItems, hv, hclose]
      · rw [heq (h x List.mem_cons_self), List.reverse_cons]
    · exact .inr ⟨⟨e, by simp only [readItems, he]⟩, fun h => hlong (h x List.mem_cons_self)⟩
  | cons y ys ihs =>
    obtain ⟨budget, rfl⟩ := Nat.exists_eq_add_one_of_ne_zero (Nat.ne_zero_of_lt hb)
    obtain ⟨more, hcomma, hmore, hless⟩ := dropSpace_itemChars_cons level (hw y (by simp)) ys (newLine outer ++ ']' :: rest)
    rw [List.length_append] at hb
    rcases ih x List.mem_cons_self level budget _ (ends_itemChars level (y :: ys) (ends_newLine outer (']' :: rest)))
        (by rw [List.length_append]; omega) with ⟨v, hv, heq⟩ | ⟨⟨e, he⟩, hlong⟩
    · rcases ihs (fun z hz => hw z (List.mem_cons_of_mem x hz)) (fun z hz => ih z (List.mem_cons_of_mem x hz)) budget
        (v :: acc) (by omega) with ⟨w, hw', hsame⟩ | ⟨⟨e, he⟩, hlong⟩
      · refine .inl ⟨w, ?_, fun h => ?_⟩
        · simp only [readItems, hv, hcomma, hmore, hw']
        · rw [hsame fun z hz => h z (List.mem_cons_of_mem x hz), heq (h x List.mem_cons_self), List.reverse_cons,
            List.append_assoc, List.singleton_append]
      · refine .inr ⟨⟨e, ?_⟩, fun h => hlong fun z hz => h z (List.mem_cons_of_mem x hz)⟩
        simp only [readItems, hv, hcomma, hmore, he]
    · exact .inr ⟨⟨e, by simp only [readItems, he]⟩, fun h => hlong (h x List.mem_cons_self)⟩

theorem ends_memberChars (level : Nat) (ms : Members String) {rest : List Char} (h : Ends rest) :
    Ends (memberChars level ms ++ rest) := by
  cases ms with
  | nil => exact h
  | cons m ms => exact ⟨',', _, rfl, .inl rfl⟩

/-- The text of a member: its name, a colon and its value. -/
def memberText (level : Nat) (m : String × Document) : List Char :=
  stringChars m.1 ++ ':' :: ' ' :: chars level m.2

theorem memberChars_cons (level : Nat) (m : String × Document) (ms : Members String) :
    memberChars level (m :: ms) = ',' :: (newLine level ++ memberText level m ++ memberChars level ms) := by
  simp [memberChars, memberText, Name.text]

theorem dropSpace_memberText (level : Nat) (m : String × Document) (rest : List Char) :
    dropSpace (memberText level m ++ rest) = memberText level m ++ rest := rfl

theorem dropSpace_memberChars_cons (level : Nat) (m : String × Document) (ms : Members String) (rest : List Char) :
    ∃ more, dropSpace (memberChars level (m :: ms) ++ rest) = ',' :: more ∧
      dropSpace more = memberText level m ++ (memberChars level ms ++ rest) ∧
      (memberText level m ++ (memberChars level ms ++ rest)).length < (memberChars level (m :: ms) ++ rest).length := by
  refine ⟨newLine level ++ (memberText level m ++ (memberChars level ms ++ rest)), ?_, ?_, ?_⟩
  · rw [memberChars_cons]
    simp only [List.cons_append, List.append_assoc]
    rfl
  · rw [dropSpace_newLine, dropSpace_memberText]
  · rw [memberChars_cons]
    simp only [List.length_append, List.length_cons]
    omega

theorem length_memberText (level : Nat) (m : String × Document) :
    (chars level m.2).length < (memberText level m).length := by
  simp only [memberText, List.length_append, List.length_cons]
  omega

section MemberText

variable {budget level : Nat} (acc : Members String) {m : String × Document} {rest : List Char}

/-- Members are read from a name, a colon and a value on. -/
theorem memberText_eq (level : Nat) (h : Whole m.2) (rest : List Char) :
    ∃ cs, memberText level m ++ rest = '"' :: cs ∧
      (∀ start, readString start [] cs = .ok (m.1, ':' :: ' ' :: (chars level m.2 ++ rest))) ∧
      dropSpace (':' :: ' ' :: (chars level m.2 ++ rest)) = ':' :: ' ' :: (chars level m.2 ++ rest) ∧
      dropSpace (' ' :: (chars level m.2 ++ rest)) = chars level m.2 ++ rest := by
  obtain ⟨cs, hcs, hread⟩ := readString_stringChars m.1 (':' :: ' ' :: (chars level m.2 ++ rest))
  refine ⟨cs, ?_, hread, rfl, dropSpace_chars level h rest⟩
  rw [← hcs, memberText]
  simp

theorem readMembers_error {e : Stop} (hw : Whole m.2) (h : readValue budget (chars level m.2 ++ rest) = .error e) :
    readMembers (budget + 1) acc (memberText level m ++ rest) = .error e := by
  obtain ⟨cs, hcs, hname, hcolon, hvalue⟩ := memberText_eq level hw rest
  rw [hcs]
  simp only [readMembers, hname, hcolon, hvalue, h]

theorem readMembers_close {v : Document} {after more : List Char} (hw : Whole m.2)
    (h : readValue budget (chars level m.2 ++ rest) = .ok (v, after)) (hclose : dropSpace after = '}' :: more) :
    readMembers (budget + 1) acc (memberText level m ++ rest) = .ok (.obj (acc.set m.1 v), more) := by
  obtain ⟨cs, hcs, hname, hcolon, hvalue⟩ := memberText_eq level hw rest
  rw [hcs]
  simp only [readMembers, hname, hcolon, hvalue, h, hclose]

theorem readMembers_next {v : Document} {after more : List Char} (hw : Whole m.2)
    (h : readValue budget (chars level m.2 ++ rest) = .ok (v, after)) (hcomma : dropSpace after = ',' :: more) :
    readMembers (budget + 1) acc (memberText level m ++ rest) = readMembers budget (acc.set m.1 v) (dropSpace more) := by
  obtain ⟨cs, hcs, hname, hcolon, hvalue⟩ := memberText_eq level hw rest
  rw [hcs]
  simp only [readMembers, hname, hcolon, hvalue, h, hcomma]

end MemberText

theorem readMembers_chars {m : String × Document} {ms : Members String} (hw : ∀ n ∈ m :: ms, Whole n.2)
    (ih : ∀ n ∈ m :: ms, Returns n.2) (level outer budget : Nat) (acc : Members String) (rest : List Char)
    (hb : (memberText level m ++ (memberChars level ms ++ (newLine outer ++ '}' :: rest))).length + 1 < budget) :
    ReadsAs (readMembers budget acc (memberText level m ++ (memberChars level ms ++ (newLine outer ++ '}' :: rest))))
      (.obj (acc ++ m :: ms)) rest ((acc ++ m :: ms).keys.Nodup ∧ ∀ n ∈ m :: ms, Distinct n.2)
      (∀ n ∈ m :: ms, Short n.2) := by
  induction ms generalizing m budget acc with
  | nil =>
    obtain ⟨budget, rfl⟩ := Nat.exists_eq_add_one_of_ne_zero (Nat.ne_zero_of_lt hb)
    have hlength := length_memberText level m
    rw [List.length_append] at hb
    rcases ih m List.mem_cons_self level budget _ (ends_memberChars level [] (ends_newLine outer ('}' :: rest)))
      (by rw [List.length_append]; omega) with ⟨v, hv, heq⟩ | ⟨⟨e, he⟩, hlong⟩
    · have hclose : dropSpace (memberChars level ([] : Members String) ++ (newLine outer ++ '}' :: rest)) =
          '}' :: rest := dropSpace_newLine outer _
      refine .inl ⟨.obj (acc.set m.1 v), readMembers_close acc (hw m List.mem_cons_self) hv hclose, fun h => ?_⟩
      rw [heq (h.2 m List.mem_cons_self), Members.set_of_nodup h.1]
    · exact .inr ⟨⟨e, readMembers_error acc (hw m List.mem_cons_self) he⟩, fun h => hlong (h m List.mem_cons_self)⟩
  | cons n ns ihs =>
    obtain ⟨budget, rfl⟩ := Nat.exists_eq_add_one_of_ne_zero (Nat.ne_zero_of_lt hb)
    have hlength := length_memberText level m
    obtain ⟨more, hcomma, hmore, hless⟩ := dropSpace_memberChars_cons level n ns (newLine outer ++ '}' :: rest)
    rw [List.length_append] at hb
    rcases ih m List.mem_cons_self level budget _ (ends_memberChars level (n :: ns) (ends_newLine outer ('}' :: rest)))
      (by rw [List.length_append]; omega) with ⟨v, hv, heq⟩ | ⟨⟨e, he⟩, hlong⟩
    · have hnext := readMembers_next acc (hw m List.mem_cons_self) hv hcomma
      rw [hmore] at hnext
      rcases ihs (fun z hz => hw z (List.mem_cons_of_mem m hz)) (fun z hz => ih z (List.mem_cons_of_mem m hz)) budget
        (acc.set m.1 v) (by omega) with ⟨w, hread, hsame⟩ | ⟨⟨e, he⟩, hlong⟩
      · refine .inl ⟨w, ?_, fun h => ?_⟩
        · rw [hnext, hread]
        · rw [heq (h.2 m List.mem_cons_self), Members.set_of_nodup h.1, List.append_assoc, List.singleton_append] at hsame
          exact hsame ⟨h.1, fun z hz => h.2 z (List.mem_cons_of_mem m hz)⟩
      · refine .inr ⟨⟨e, ?_⟩, fun h => hlong fun z hz => h z (List.mem_cons_of_mem m hz)⟩
        rw [hnext, he]
    · exact .inr ⟨⟨e, readMembers_error acc (hw m List.mem_cons_self) he⟩, fun h => hlong (h m List.mem_cons_self)⟩

theorem returns_arr {items : List Document} (hw : Whole (.arr items)) (ih : ∀ x ∈ items, Returns x) :
    Returns (.arr items) := by
  intro level budget rest hends hb
  obtain ⟨budget, rfl⟩ := Nat.exists_eq_add_one_of_ne_zero (Nat.ne_zero_of_lt hb)
  cases items with
  | nil => exact .inl ⟨.arr [], rfl, fun _ => rfl⟩
  | cons x xs =>
    have htext : chars level (.arr (x :: xs)) ++ rest = '[' :: (newLine (level + 1) ++
        (chars (level + 1) x ++ (itemChars (level + 1) xs ++ (newLine level ++ ']' :: rest)))) := by
      simp [chars]
    obtain ⟨c, cs, hcs, hc⟩ := chars_eq_cons (level + 1) (hw.item List.mem_cons_self)
    have hopen : readValue (budget + 1) (chars level (.arr (x :: xs)) ++ rest) = readItems budget []
        (chars (level + 1) x ++ (itemChars (level + 1) xs ++ (newLine level ++ ']' :: rest))) := by
      rw [htext]
      simp only [readValue, dropSpace_newLine, dropSpace_chars _ (hw.item List.mem_cons_self)]
      rw [hcs, List.cons_append]
      split
      next heq => exact absurd (List.cons.inj heq).1 hc.item
      next => rfl
    rw [htext] at hb
    rw [hopen]
    rcases readItems_chars (fun y hy => hw.item hy) ih (level + 1) level budget [] rest
      (by simp only [newLine, List.length_cons, List.length_append] at hb ⊢; omega) with ⟨v, hv, heq⟩ | ⟨he, hlong⟩
    · exact .inl ⟨v, hv, fun h => heq fun y hy => h.item hy⟩
    · exact .inr ⟨he, fun h => hlong fun y hy => h.item hy⟩

theorem returns_obj {ms : Members String} (hw : Whole (.obj ms)) (ih : ∀ m ∈ ms, Returns m.2) : Returns (.obj ms) := by
  intro level budget rest hends hb
  obtain ⟨budget, rfl⟩ := Nat.exists_eq_add_one_of_ne_zero (Nat.ne_zero_of_lt hb)
  cases ms with
  | nil => exact .inl ⟨.obj [], rfl, fun _ => rfl⟩
  | cons m ms =>
    have htext : chars level (.obj (m :: ms)) ++ rest = '{' :: (newLine (level + 1) ++
        (memberText (level + 1) m ++ (memberChars (level + 1) ms ++ (newLine level ++ '}' :: rest)))) := by
      simp [chars, memberText, Name.text]
    have hopen : readValue (budget + 1) (chars level (.obj (m :: ms)) ++ rest) = readMembers budget []
        (memberText (level + 1) m ++ (memberChars (level + 1) ms ++ (newLine level ++ '}' :: rest))) := by
      rw [htext]
      simp only [readValue, dropSpace_newLine, dropSpace_memberText]
      rfl
    rw [htext] at hb
    rw [hopen]
    rcases readMembers_chars (fun n hn => hw.member hn) ih (level + 1) level budget [] rest
      (by simp only [newLine, List.length_cons, List.length_append] at hb ⊢; omega) with ⟨v, hv, heq⟩ | ⟨he, hlong⟩
    · exact .inl ⟨v, hv, fun h => heq ⟨h.nodup, fun n hn => h.member hn⟩⟩
    · exact .inr ⟨he, fun h => hlong fun n hn => h.member hn⟩

theorem readValue_digits {c : Char} {cs : List Char} (budget : Nat) (h : isPlainDigit c = true ∨ c = '-') :
    readValue (budget + 1) (c :: cs) = readScalar (c :: cs) := by
  unfold readValue
  split
  all_goals first | rfl | (cases (List.cons.inj ‹_›).1; rcases h with h | h <;> cases h)

theorem returns_int (z : Int) : Returns (int z) := by
  intro level budget rest hends hb
  obtain ⟨budget, rfl⟩ := Nat.exists_eq_add_one_of_ne_zero (Nat.ne_zero_of_lt hb)
  have hscalar : readValue (budget + 1) (chars level (int z : Document) ++ rest) =
      readScalar (Decimal.intChars z ++ rest) := by
    cases z with
    | ofNat n =>
      obtain ⟨c, cs, hcs, hc⟩ := exists_digit n
      rw [int, chars, numberChars, Number.chars, Decimal.intChars, hcs]
      exact readValue_digits budget (.inl hc)
    | negSucc n => exact readValue_digits budget (.inr rfl)
  rw [hscalar, readScalar_intChars z hends]
  split
  next hlong =>
    refine .inr ⟨⟨_, rfl⟩, fun h => ?_⟩
    exact absurd (h (.int z) (List.mem_singleton_self _)) (Nat.not_le.mpr hlong)
  next => exact .inl ⟨int z, rfl, fun _ => rfl⟩

/-- A printed value whose numbers are whole is read back wherever a value is expected. -/
theorem returns {d : Document} (hw : Whole d) : Returns d := by
  induction d using inductOn with
  | arr items ih => exact returns_arr hw fun x hx => ih x hx (hw.item hx)
  | obj ms ih => exact returns_obj hw fun m hm => ih m hm (hw.member hm)
  | number n =>
    cases n with
    | int z => exact returns_int z
    | float x => exact (hw _ (List.mem_singleton_self _)).elim
  | null =>
    intro level budget rest hends hb
    obtain ⟨budget, rfl⟩ := Nat.exists_eq_add_one_of_ne_zero (Nat.ne_zero_of_lt hb)
    exact .inl ⟨.null, rfl, fun _ => rfl⟩
  | bool b =>
    intro level budget rest hends hb
    obtain ⟨budget, rfl⟩ := Nat.exists_eq_add_one_of_ne_zero (Nat.ne_zero_of_lt hb)
    cases b <;> exact .inl ⟨_, rfl, fun _ => rfl⟩
  | str s =>
    intro level budget rest hends hb
    obtain ⟨budget, rfl⟩ := Nat.exists_eq_add_one_of_ne_zero (Nat.ne_zero_of_lt hb)
    obtain ⟨cs, hcs, hread⟩ := readString_stringChars s rest
    refine .inl ⟨.str s, ?_, fun _ => rfl⟩
    rw [chars, hcs]
    simp only [readValue, hread]
    rfl

/-- A text is read as the value at its start if nothing but blanks follows it. -/
theorem readAll_cons {c : Char} (cs : List Char) (hc : c ≠ '\uFEFF') :
    readAll (c :: cs) = (readValue (2 * (c :: cs).length + 2) (dropSpace (c :: cs))).bind fun read =>
      if dropSpace read.2 = [] then .ok read.1 else .error (.flaw .extra (dropSpace read.2).length) := by
  unfold readAll
  split
  next heq => exact absurd (List.cons.inj heq).1 hc
  next =>
    cases readValue (2 * (c :: cs).length + 2) (dropSpace (c :: cs)) with
    | error e => rfl
    | ok read =>
      obtain ⟨v, rest⟩ := read
      dsimp only [Except.bind]
      split
      next h => rw [h, if_pos rfl]
      next h => rw [if_neg h]

theorem readAll_chars {d : Document} (hw : Whole d) :
    (∃ v, readAll (chars 0 d ++ ['\n']) = .ok v ∧ (Distinct d → v = d)) ∨
      ((∃ e, readAll (chars 0 d ++ ['\n']) = .error e) ∧ ¬ Short d) := by
  obtain ⟨c, cs, hcs, hc⟩ := chars_eq_cons 0 hw
  have hstart := readAll_cons (cs ++ ['\n']) hc.text
  rw [← List.cons_append, ← hcs, dropSpace_chars 0 hw] at hstart
  rw [hstart]
  rcases returns hw 0 (2 * (chars 0 d ++ ['\n']).length + 2) ['\n'] ⟨'\n', [], rfl, .inr rfl⟩ (by omega) with
    ⟨v, hv, heq⟩ | ⟨⟨e, he⟩, hlong⟩
  · refine .inl ⟨v, ?_, heq⟩
    rw [hv]
    rfl
  · refine .inr ⟨⟨e, ?_⟩, hlong⟩
    rw [he]
    rfl

/-- What is read from the printed text of a document is the document. -/
theorem eq_of_read_text {d v : Document} (hw : Whole d) (hd : Distinct d) (h : read (text d) = .ok v) : v = d := by
  have htext : (text d).toList = chars 0 d ++ ['\n'] := String.toList_ofList
  rcases readAll_chars hw with ⟨w, hread, heq⟩ | ⟨⟨e, hread⟩, _⟩
  · simp only [read, htext, hread] at h
    cases h
    exact heq hd
  · simp only [read, htext, hread] at h
    split at h <;> simp_all

theorem exists_read_text {d : Document} (hw : Whole d) (hs : Short d) : ∃ v, read (text d) = .ok v := by
  have htext : (text d).toList = chars 0 d ++ ['\n'] := String.toList_ofList
  rcases readAll_chars hw with ⟨v, hread, _⟩ | ⟨_, hlong⟩
  · exact ⟨v, by simp only [read, htext, hread]⟩
  · exact absurd hs hlong

/-- The printed text of a document is read back. -/
theorem read_text {d : Document} (hw : Whole d) (hs : Short d) (hd : Distinct d) : read (text d) = .ok d := by
  obtain ⟨v, hv⟩ := exists_read_text hw hs
  rw [hv, eq_of_read_text hw hd hv]

end Json

/-- A printed document passes the check. -/
theorem Check.json_text {d : Document} (hw : Json.Whole d) (hs : Json.Short d) : Check.json (Json.text d) = .ok () := by
  obtain ⟨v, hv⟩ := Json.exists_read_text hw hs
  rw [Check.json, hv]

/-- A check that content passes does not bear on what becomes of it. -/
theorem Store.write_of_check {check : Check} {content : String} (h : check content = .ok ()) (s : Store) (p : FilePath) :
    s.write check p content = s.write Check.none p content := by
  simp only [Store.write, h, Check.none]

end NoteSchema
