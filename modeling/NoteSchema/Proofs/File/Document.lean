import NoteSchema.Corpus.Load
import NoteSchema.Proofs.Json.Canonical
import NoteSchema.Proofs.Json.Order
import NoteSchema.Proofs.Text.Utf8

namespace NoteSchema

namespace Text

theorem plainBreaks_eq_self {cs : List Char} (h : '\r' ∉ cs) : plainBreaks cs = cs := by
  fun_induction plainBreaks cs with
  | case1 => rfl
  | case2 cs ih => simp at h
  | case3 cs hcs ih => simp at h
  | case4 c cs hbreak hcs ih => rw [ih fun hmem => h (List.mem_cons_of_mem c hmem)]

end Text

namespace Json

theorem not_return_mem_stringChar (c : Char) : '\r' ∉ stringChar c := by
  unfold stringChar
  split_ifs with h₁ h₂ h₃ h₄ h₅ h₆ h₇ h₈
  · decide
  · decide
  · decide
  · decide
  · decide
  · decide
  · decide
  · have hall : ∀ n < 0x20, '\r' ∉ '\\' :: 'u' :: Text.hexDigits 4 n := by decide
    exact hall c.toNat h₈
  · exact fun h => h₄ (List.mem_singleton.mp h).symm

theorem not_return_mem_stringChars (s : String) : '\r' ∉ stringChars s := by
  simp only [stringChars, List.mem_cons, List.mem_append, List.mem_flatMap, List.not_mem_nil, or_false, not_or]
  refine ⟨by decide, ?_, by decide⟩
  rintro ⟨c, -, hc⟩
  exact not_return_mem_stringChar c hc

theorem not_return_mem_newLine (level : Nat) : '\r' ∉ newLine level := by
  simp [newLine, List.mem_replicate]

theorem not_return_mem_itemChars {xs : List Document} (h : ∀ x ∈ xs, ∀ level, '\r' ∉ chars level x) (level : Nat) :
    '\r' ∉ itemChars level xs := by
  induction xs with
  | nil => simp [itemChars]
  | cons x xs ih =>
    simp only [itemChars, List.mem_cons, List.mem_append, not_or]
    exact ⟨by decide, ⟨not_return_mem_newLine level, h x List.mem_cons_self level⟩,
      ih fun y hy => h y (List.mem_cons_of_mem x hy)⟩

theorem not_return_mem_memberChars {ms : Members String} (h : ∀ m ∈ ms, ∀ level, '\r' ∉ chars level m.2) (level : Nat) :
    '\r' ∉ memberChars level ms := by
  induction ms with
  | nil => simp [memberChars]
  | cons m ms ih =>
    rw [memberChars_cons, memberText]
    simp only [List.mem_cons, List.mem_append, not_or]
    exact ⟨by decide, ⟨not_return_mem_newLine level, not_return_mem_stringChars m.1, by decide, by decide,
      h m List.mem_cons_self level⟩, ih fun n hn => h n (List.mem_cons_of_mem m hn)⟩

/-- No carriage return stands in a printed document. -/
theorem not_return_mem_chars {d : Document} (hw : Whole d) (level : Nat) : '\r' ∉ chars level d := by
  induction d using inductOn generalizing level with
  | null => simp [chars]
  | bool b => cases b <;> simp [chars]
  | number n =>
    cases n with
    | float x => exact (hw _ (List.mem_singleton_self _)).elim
    | int z =>
      have hdigits (n : Nat) : '\r' ∉ Decimal.natChars n := fun hmem => by
        cases Decimal.isPlainDigit_of_mem_natChars hmem
      cases z with
      | ofNat n => exact hdigits n
      | negSucc n =>
        rw [chars, numberChars, Number.chars, Decimal.intChars, List.mem_cons, not_or]
        exact ⟨by decide, hdigits (n + 1)⟩
  | str s => exact not_return_mem_stringChars s
  | arr items ih =>
    have h := not_return_mem_itemChars (fun x hx => ih x hx (hw.item hx)) (level + 1)
    cases items with
    | nil => simp [chars]
    | cons x xs =>
      simp only [itemChars, chars, List.mem_cons, List.mem_append, not_or] at h ⊢
      exact ⟨by decide, ⟨⟨h.2.1, h.2.2⟩, not_return_mem_newLine level⟩, by decide⟩
  | obj ms ih =>
    have h := not_return_mem_memberChars (fun m hm => ih m hm (hw.member hm)) (level + 1)
    cases ms with
    | nil => simp [chars]
    | cons m ms =>
      simp only [memberChars, chars, List.mem_cons, List.mem_append, not_or] at h ⊢
      exact ⟨by decide, ⟨h.2, not_return_mem_newLine level⟩, by decide⟩

theorem not_return_mem_text {d : Document} (hw : Whole d) : '\r' ∉ (text d).toList := by
  rw [text, String.toList_ofList, List.mem_append, not_or]
  exact ⟨not_return_mem_chars hw 0, by decide⟩

end Json

namespace FileTree

variable {t : FileTree} {p : FilePath}

/-- A file that holds an encoded text without carriage returns is read as that text. -/
theorem readText_of_encoded {s : String} (h : t.read p = .ok (Text.Utf8.encode s)) (hs : '\r' ∉ s.toList) :
    t.readText p = .ok s := by
  rw [readText, h]
  simp only [Text.Utf8.decode_encode, Text.plainBreaks_eq_self hs, String.ofList_toList]

/-- A file that holds a printed document is read as that document. -/
theorem readDocument_of_printed {d : Document} (h : t.read p = .ok (Text.Utf8.encode (Json.text d)))
    (hw : Json.Whole d) (hd : Json.Distinct d) (hcheck : Check.json (Json.text d) = .ok ()) :
    t.readDocument p = .ok d := by
  rw [readDocument, readText_of_encoded h (Json.not_return_mem_text hw)]
  cases hread : Json.read (Json.text d) with
  | ok v =>
    obtain rfl := Json.eq_of_read_text hw hd hread
    simp only [hread, Except.mapError]
  | error e => simp [Check.json, hread] at hcheck

end FileTree

namespace Json

/-- The text of a document without fractions and overlong numbers is read as the document, members in their order, and
so is a file of it; such a text is never refused by the check, in either order of members. Putting the members in order
first and while printing comes to one text, and this is the same text just for documents that are the same up to the
order of members. -/
theorem text_faithful {d : Document} (hw : Whole d) (hs : Short d) (hd : Distinct d) :
    (read (text d) = .ok d ∧
      ∀ (t : FileTree) p, t.read p = .ok (Text.Utf8.encode (text d)) → t.readDocument p = .ok d) ∧
    (∀ content ∈ [text d, sortedText d], Check.json content = .ok () ∧
      ∀ (s : Store) p, s.write Check.json p content = s.write Check.none p content) ∧
    text (sorted d) = sortedText d ∧
    ∀ e, Whole e → Short e → Distinct e → (sortedText d = sortedText e ↔ Rearranged d e) := by
  have hplain : Check.json (text d) = .ok () := Check.json_text hw hs
  have hsorted : Check.json (sortedText d) = .ok () := by
    rw [← text_sorted]
    exact Check.json_text hw.sorted hs.sorted
  refine ⟨⟨read_text hw hs hd, fun t p h => FileTree.readDocument_of_printed h hw hd hplain⟩, fun content hc => ?_,
    text_sorted d, fun e hw' hs' hd' => sortedText_inj hw hs hd hw' hs' hd'⟩
  simp only [List.mem_cons, List.not_mem_nil, or_false] at hc
  rcases hc with rfl | rfl
  · exact ⟨hplain, Store.write_of_check hplain⟩
  · exact ⟨hsorted, Store.write_of_check hsorted⟩

/-- A document with names out of order, escapes, a long number and empty parts. -/
def loose : Document :=
  .obj [("b\"\\", .arr [.int (-10000000000000000000000000000000000000000), .str "\x00\x1f\t\r/é\u2028😀", .arr [], .obj []]),
    ("a", .obj [("z", .null), ("y", .bool true), ("", .int 0)])]

/-- The same document but for the order of names. -/
def turned : Document :=
  .obj [("a", .obj [("", .int 0), ("y", .bool true), ("z", .null)]),
    ("b\"\\", .arr [.int (-10000000000000000000000000000000000000000), .str "\x00\x1f\t\r/é\u2028😀", .arr [], .obj []])]

/-- A folder with a file of the document. -/
def looseFolder : FileTree := ⟨["w"], [(["w"], .folder), (["w", "a.json"], .file (Text.Utf8.encode (text loose)))]⟩

theorem loose_faithful : Whole loose ∧ Short loose ∧ Distinct loose ∧ read (text loose) = .ok loose ∧
    looseFolder.readDocument ⟨.relative, ["a.json"]⟩ = .ok loose ∧ Check.json (sortedText loose) = .ok () ∧
    text (sorted loose) = sortedText loose ∧ sortedText loose = sortedText turned ∧ text loose ≠ text turned ∧
    sortedText loose ≠ sortedText (.obj []) := by
  have hw : Whole loose := by decide
  have hs : Short loose := by decide +kernel
  have hd : Distinct loose := distinct_iff.mpr (by decide)
  have hw' : Whole turned := by decide
  have hs' : Short turned := by decide +kernel
  have hd' : Distinct turned := distinct_iff.mpr (by decide)
  obtain ⟨⟨hread, hfile⟩, hcheck, hsorted, hsame⟩ := text_faithful hw hs hd
  have hturned : Rearranged loose turned := by
    refine .obj (by decide) fun k v w hv hw => ?_
    simp only [List.mem_cons, List.not_mem_nil, or_false, Prod.mk.injEq] at hv hw
    rcases hv with ⟨rfl, rfl⟩ | ⟨rfl, rfl⟩ <;> rcases hw with ⟨hk, rfl⟩ | ⟨hk, rfl⟩
    · exact absurd hk (by decide)
    · exact (Permuted.refl (distinct_iff.mpr (by decide))).rearranged
    · exact (Permuted.of_perm (by decide) (distinct_iff.mpr (by decide))).rearranged
    · exact absurd hk (by decide)
  refine ⟨hw, hs, hd, hread, hfile looseFolder _ rfl, (hcheck _ (by simp)).1, hsorted,
    (hsame turned hw' hs' hd').mpr hturned, fun h => ?_, fun h => ?_⟩
  · exact absurd ((text_inj hw hs hd hw' hs' hd').mp h) (by decide)
  · have hempty := (hsame (.obj []) (by decide) (by decide) (.obj List.nodup_nil (by simp))).mp h
    cases hempty with
    | obj names _ => exact absurd names.length_eq (by decide)

end Json

end NoteSchema
