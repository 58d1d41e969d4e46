import NoteSchema.Json.Printer
import NoteSchema.Json.Reader
import Mathlib.Tactic.SplitIfs

namespace NoteSchema

namespace Decimal

theorem digitChar_facts : ∀ n < 10, Json.isPlainDigit (digitChar n) = true ∧ Text.digitValue? (digitChar n) = some n ∧
    (digitChar n = '0' → n = 0) := by decide

theorem isPlainDigit_of_mem_natChars {n : Nat} {c : Char} (h : c ∈ natChars n) : Json.isPlainDigit c = true := by
  fun_induction natChars n with
  | case1 n hn =>
    obtain rfl := List.mem_singleton.mp h
    exact (digitChar_facts n hn).1
  | case2 n hn ih =>
    rcases List.mem_append.mp h with h | h
    · exact ih h
    · obtain rfl := List.mem_singleton.mp h
      exact (digitChar_facts (n % 10) (Nat.mod_lt n (by omega))).1

theorem natValue_natChars (n : Nat) : natValue (natChars n) = n := by
  fun_induction natChars n with
  | case1 n hn => simp [natValue, (digitChar_facts n hn).2.1]
  | case2 n hn ih =>
    have hlast := (digitChar_facts (n % 10) (Nat.mod_lt n (by omega))).2.1
    rw [natValue] at ih
    rw [natValue, List.foldl_append, ih]
    simp only [List.foldl_cons, List.foldl_nil, hlast, Option.getD_some]
    omega

/-- A numeral starts with a zero only if it stands for zero. -/
theorem natChars_eq_cons (n : Nat) : ∃ c cs, natChars n = c :: cs ∧ (c = '0' → n = 0 ∧ cs = []) := by
  fun_induction natChars n with
  | case1 n hn => exact ⟨_, [], rfl, fun h => ⟨(digitChar_facts n hn).2.2 h, rfl⟩⟩
  | case2 n hn ih =>
    obtain ⟨c, cs, hcs, hzero⟩ := ih
    refine ⟨c, cs ++ [digitChar (n % 10)], by rw [hcs, List.cons_append], fun h => ?_⟩
    have := (hzero h).1
    omega

end Decimal

namespace Json

open Decimal (natChars)

/-- What follows a value in a printed text: a comma or a line break. -/
def Ends (rest : List Char) : Prop := ∃ c cs, rest = c :: cs ∧ (c = ',' ∨ c = '\n')

section Number

variable {rest : List Char}

theorem wholeDigits_natChars (n : Nat) (h : Ends rest) : wholeDigits (natChars n ++ rest) = (natChars n, rest) := by
  obtain ⟨c, cs, hcs, hzero⟩ := Decimal.natChars_eq_cons n
  obtain ⟨e, es, rfl, he⟩ := h
  by_cases hc : c = '0'
  · obtain ⟨rfl, rfl⟩ := hzero hc
    rw [hcs, hc]
    rfl
  · have hwhole : wholeDigits (c :: (cs ++ e :: es)) =
        ((c :: (cs ++ e :: es)).takeWhile isPlainDigit, (c :: (cs ++ e :: es)).dropWhile isPlainDigit) := by
      unfold wholeDigits
      split
      next heq => exact absurd (List.cons.inj heq).1 hc
      next => rfl
    have hstop : isPlainDigit e = false := by rcases he with rfl | rfl <;> rfl
    have hall : ∀ d ∈ natChars n, isPlainDigit d = true := fun d => Decimal.isPlainDigit_of_mem_natChars
    rw [hcs] at hall ⊢
    rw [List.cons_append, hwhole, ← List.cons_append, List.takeWhile_append_of_pos hall, List.dropWhile_append_of_pos hall]
    simp [hstop]

theorem fractionDigits_of_ends (h : Ends rest) : fractionDigits rest = (none, rest) := by
  obtain ⟨e, es, rfl, rfl | rfl⟩ := h <;> rfl

theorem exponentPart_of_ends (h : Ends rest) : exponentPart rest = (none, rest) := by
  obtain ⟨e, es, rfl, rfl | rfl⟩ := h <;> rfl

theorem readNumber_natChars (left : Nat) (negative : Bool) (n : Nat) (h : Ends rest) :
    readNumber left negative (natChars n ++ rest) =
      if Decimal.digitLimit < (natChars n).length then .error (.tooLong ⟨(natChars n).length⟩)
      else .ok (.int (if negative then -(n : Int) else n), rest) := by
  obtain ⟨c, cs, hcs, _⟩ := Decimal.natChars_eq_cons n
  have hsome : (natChars n).isEmpty = false := by rw [hcs]; rfl
  simp only [readNumber, wholeDigits_natChars n h, hsome, fractionDigits_of_ends h, exponentPart_of_ends h,
    Decimal.readInt, Decimal.natValue_natChars, Bool.false_eq_true, if_false]
  by_cases hlong : Decimal.digitLimit < (natChars n).length
  · simp only [hlong, if_true]
  · simp only [hlong, if_false]

theorem readScalar_digit {c : Char} (cs : List Char) (h : isPlainDigit c = true) :
    readScalar (c :: cs) = (readNumber (c :: cs).length false (c :: cs)).map fun (n, rest) => (.number n, rest) := by
  unfold readScalar
  split
  all_goals first | rfl | (cases (List.cons.inj ‹_›).1; cases h)

theorem readScalar_minus {c : Char} (cs : List Char) (h : isPlainDigit c = true) :
    readScalar ('-' :: c :: cs) =
      (readNumber ('-' :: c :: cs).length true (c :: cs)).map fun (n, rest) => (.number n, rest) := by
  have hc : c ≠ 'I' := by
    rintro rfl
    cases h
  unfold readScalar
  split <;> simp_all

theorem exists_digit (n : Nat) : ∃ c cs, natChars n = c :: cs ∧ isPlainDigit c = true := by
  obtain ⟨c, cs, hcs, _⟩ := Decimal.natChars_eq_cons n
  exact ⟨c, cs, hcs, Decimal.isPlainDigit_of_mem_natChars (hcs ▸ List.mem_cons_self)⟩

/-- A whole number is read back unless its numeral is too long. -/
theorem readScalar_intChars (z : Int) (h : Ends rest) :
    readScalar (Decimal.intChars z ++ rest) =
      if Decimal.digitLimit < (natChars z.natAbs).length then .error (.tooLong ⟨(natChars z.natAbs).length⟩)
      else .ok (int z, rest) := by
  cases z with
  | ofNat n =>
    obtain ⟨c, cs, hcs, hc⟩ := exists_digit n
    rw [Decimal.intChars, hcs, List.cons_append, readScalar_digit _ hc, ← List.cons_append, ← hcs,
      readNumber_natChars _ _ _ h, show (Int.ofNat n).natAbs = n from rfl]
    split <;> rfl
  | negSucc n =>
    obtain ⟨c, cs, hcs, hc⟩ := exists_digit (n + 1)
    rw [Decimal.intChars, hcs, List.cons_append, List.cons_append, readScalar_minus _ hc, ← List.cons_append, ← hcs,
      readNumber_natChars _ _ _ h, Int.natAbs_negSucc]
    split <;> rfl

end Number

section String

variable {rest : List Char}

theorem hexDigits_control : ∀ n < 0x20, ∃ a b c d, Text.hexDigits 4 n = [a, b, c, d] ∧ hex4? a b c d = some n ∧
    isHigh n = false ∧ unitChar n = Char.ofNat n := by
  intro n hn
  have hall : ∀ n < 0x20,
      hex4? (Text.hexDigit (n / 16 / 16 / 16 % 16)) (Text.hexDigit (n / 16 / 16 % 16)) (Text.hexDigit (n / 16 % 16))
        (Text.hexDigit (n % 16)) = some n ∧ isHigh n = false ∧ unitChar n = Char.ofNat n := by decide
  exact ⟨_, _, _, _, rfl, hall n hn⟩

/-- An escaped code unit that is half of no pair is read as its character, whatever follows in the string. -/
theorem readString_unit (start : Nat) (acc : List Char) {a b c d next : Char} {n : Nat} {rest : List Char}
    (hn : hex4? a b c d = some n) (hlow : isHigh n = false) :
    readString start acc ('\\' :: 'u' :: a :: b :: c :: d :: next :: rest) =
      readString start (unitChar n :: acc) (next :: rest) := by
  conv => lhs; unfold readString
  split
  all_goals try simp_all
  all_goals grind

theorem readString_escape (start : Nat) (acc : List Char) {c d next : Char} {rest : List Char} (hc : c ≠ 'u')
    (hd : escaped? c = some d) :
    readString start acc ('\\' :: c :: next :: rest) = readString start (d :: acc) (next :: rest) := by
  conv => lhs; unfold readString
  split
  all_goals grind

theorem readString_plain (start : Nat) (acc : List Char) {c : Char} {rest : List Char} (hquote : c ≠ '"')
    (hslash : c ≠ '\\') (hcontrol : ¬ c.toNat < 0x20) :
    readString start acc (c :: rest) = readString start (c :: acc) rest := by
  conv => lhs; unfold readString
  split
  all_goals grind

/-- A printed character is read back, whatever follows in the string. -/
theorem readString_stringChar (start : Nat) (acc : List Char) (c next : Char) (rest : List Char) :
    readString start acc (stringChar c ++ next :: rest) = readString start (c :: acc) (next :: rest) := by
  unfold stringChar
  split_ifs with h₁ h₂ h₃ h₄ h₅ h₆ h₇ h₈
  · exact readString_escape start acc (by decide) (by rw [h₁]; rfl)
  · exact readString_escape start acc (by decide) (by rw [h₂]; rfl)
  · exact readString_escape start acc (by decide) (by rw [h₃]; rfl)
  · exact readString_escape start acc (by decide) (by rw [h₄]; rfl)
  · exact readString_escape start acc (by decide) (by rw [h₅]; rfl)
  · exact readString_escape start acc (by decide) (by rw [h₆]; rfl)
  · exact readString_escape start acc (by decide) (by rw [h₇]; rfl)
  · obtain ⟨a, b, d, e, hdigits, hread, hlow, hunit⟩ := hexDigits_control c.toNat h₈
    rw [hdigits]
    refine (readString_unit start acc hread hlow).trans ?_
    rw [hunit, Char.ofNat_toNat]
  · exact readString_plain start acc h₁ h₂ h₈

theorem readString_flatMap (start : Nat) (acc cs rest : List Char) :
    readString start acc (cs.flatMap stringChar ++ '"' :: rest) = .ok (String.ofList (acc.reverse ++ cs), rest) := by
  induction cs generalizing acc with
  | nil => simp [readString]
  | cons c cs ih =>
    have hnext : ∃ next more, cs.flatMap stringChar ++ '"' :: rest = next :: more := by
      cases hcs : cs.flatMap stringChar with
      | nil => exact ⟨'"', rest, rfl⟩
      | cons d ds => exact ⟨d, ds ++ '"' :: rest, rfl⟩
    obtain ⟨next, more, hmore⟩ := hnext
    rw [List.flatMap_cons, List.append_assoc, hmore, readString_stringChar, ← hmore, ih]
    simp

/-- A printed string is read back after its opening quote. -/
theorem readString_stringChars (s : String) (rest : List Char) :
    ∃ cs, stringChars s ++ rest = '"' :: cs ∧ ∀ start, readString start [] cs = .ok (s, rest) := by
  refine ⟨s.toList.flatMap stringChar ++ '"' :: rest, by simp [stringChars], fun start => ?_⟩
  rw [readString_flatMap, List.reverse_nil, List.nil_append, String.ofList_toList]

end String

end Json

end NoteSchema
