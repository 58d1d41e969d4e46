import NoteSchema.Text.Utf8

namespace NoteSchema.Text.Utf8

theorem toNat_ofNat {n : Nat} (h : n < 256) : (UInt8.ofNat n).toNat = n := by
  rw [UInt8.toNat_ofNat', Nat.mod_eq_of_lt h]

/-- A byte that continues a character adds six bits. -/
theorem tail?_continuation {more low high used code m : Nat} (rest : Bytes) (hlow : low ≤ m % 64 + 128)
    (hhigh : m % 64 + 128 < high) :
    tail? (more + 1) low high used code (UInt8.ofNat (m % 64 + 128) :: rest) =
      tail? more 0x80 0xC0 (used + 1) (code * 64 + m % 64) rest := by
  rw [tail?, toNat_ofNat (by omega), if_pos ⟨hlow, hhigh⟩, Nat.add_sub_cancel]

theorem payload_two (b : Nat) : payload b 2 = b - 0xC0 := rfl

theorem payload_three (b : Nat) : payload b 3 = b - 0xE0 := rfl

theorem payload_four (b : Nat) : payload b 4 = b - 0xF0 := rfl

/-- A first byte and those that it asks for are read as the character whose code they give. -/
theorem step_of_tail {b : UInt8} {width low high : Nat} {rest : Bytes} {c : Char} (left : Bytes)
    (hlead : lead? b.toNat = some ⟨width, low, high⟩)
    (htail : tail? (width - 1) low high 1 (payload b.toNat width) rest = .ok (c.toNat, left)) :
    step b rest = .char c width := by
  simp only [step, hlead, htail, Char.ofNat_toNat]

section Widths

variable {c : Char} (rest : Bytes)

theorem step_one (hhigh : c.toNat < 0x80) : step (UInt8.ofNat c.toNat) rest = .char c 1 := by
  have hb : (UInt8.ofNat c.toNat).toNat = c.toNat := toNat_ofNat (by omega)
  have hlead : lead? (UInt8.ofNat c.toNat).toNat = some ⟨1, 0, 0⟩ := by rw [hb, lead?, if_pos hhigh]
  refine step_of_tail rest hlead ?_
  rw [hb]
  rfl

theorem step_two (hlow : 0x80 ≤ c.toNat) (hhigh : c.toNat < 0x800) :
    step (UInt8.ofNat (c.toNat / 64 % 0x20 + 0xC0)) (UInt8.ofNat (c.toNat % 64 + 128) :: rest) = .char c 2 := by
  have hb : (UInt8.ofNat (c.toNat / 64 % 0x20 + 0xC0)).toNat = c.toNat / 64 % 0x20 + 0xC0 := toNat_ofNat (by omega)
  have hlead : lead? (UInt8.ofNat (c.toNat / 64 % 0x20 + 0xC0)).toNat = some ⟨2, 0x80, 0xC0⟩ := by
    rw [hb, lead?, if_neg (by omega), if_neg (by omega), if_pos (by omega)]
  have hcode : (c.toNat / 64 % 0x20 + 0xC0 - 0xC0) * 64 + c.toNat % 64 = c.toNat := by omega
  refine step_of_tail rest hlead ?_
  rw [hb, show (2 - 1 : Nat) = 0 + 1 from rfl, tail?_continuation _ (by omega) (by omega), payload_two, tail?, hcode]

theorem step_three (hlow : 0x800 ≤ c.toNat) (hhigh : c.toNat < 0x10000) (hvalid : c.toNat < 0xD800 ∨ 0xDFFF < c.toNat) :
    step (UInt8.ofNat (c.toNat / 4096 % 0x10 + 0xE0))
      (UInt8.ofNat (c.toNat / 64 % 64 + 128) :: UInt8.ofNat (c.toNat % 64 + 128) :: rest) = .char c 3 := by
  have hb : (UInt8.ofNat (c.toNat / 4096 % 0x10 + 0xE0)).toNat = c.toNat / 4096 % 0x10 + 0xE0 := toNat_ofNat (by omega)
  have hlead : lead? (UInt8.ofNat (c.toNat / 4096 % 0x10 + 0xE0)).toNat =
      some ⟨3, if c.toNat / 4096 % 0x10 + 0xE0 = 0xE0 then 0xA0 else 0x80,
        if c.toNat / 4096 % 0x10 + 0xE0 = 0xED then 0xA0 else 0xC0⟩ := by
    rw [hb, lead?, if_neg (by omega), if_neg (by omega), if_neg (by omega), if_pos (by omega)]
  have hcode : ((c.toNat / 4096 % 0x10 + 0xE0 - 0xE0) * 64 + c.toNat / 64 % 64) * 64 + c.toNat % 64 = c.toNat := by omega
  refine step_of_tail rest hlead ?_
  rw [hb, show (3 - 1 : Nat) = 1 + 1 from rfl, tail?_continuation _ (by split <;> omega) (by split <;> omega),
    show (1 : Nat) = 0 + 1 from rfl, tail?_continuation _ (by omega) (by omega), payload_three, tail?, hcode]

theorem step_four (hlow : 0x10000 ≤ c.toNat) (hhigh : c.toNat < 0x110000) :
    step (UInt8.ofNat (c.toNat / 262144 % 8 + 0xF0))
      (UInt8.ofNat (c.toNat / 4096 % 64 + 128) :: UInt8.ofNat (c.toNat / 64 % 64 + 128) ::
        UInt8.ofNat (c.toNat % 64 + 128) :: rest) = .char c 4 := by
  have hb : (UInt8.ofNat (c.toNat / 262144 % 8 + 0xF0)).toNat = c.toNat / 262144 % 8 + 0xF0 := toNat_ofNat (by omega)
  have hlead : lead? (UInt8.ofNat (c.toNat / 262144 % 8 + 0xF0)).toNat =
      some ⟨4, if c.toNat / 262144 % 8 + 0xF0 = 0xF0 then 0x90 else 0x80,
        if c.toNat / 262144 % 8 + 0xF0 = 0xF4 then 0x90 else 0xC0⟩ := by
    rw [hb, lead?, if_neg (by omega), if_neg (by omega), if_neg (by omega), if_neg (by omega), if_pos (by omega)]
  have hcode : (((c.toNat / 262144 % 8 + 0xF0 - 0xF0) * 64 + c.toNat / 4096 % 64) * 64 + c.toNat / 64 % 64) * 64 +
      c.toNat % 64 = c.toNat := by omega
  refine step_of_tail rest hlead ?_
  rw [hb, show (4 - 1 : Nat) = 2 + 1 from rfl, tail?_continuation _ (by split <;> omega) (by split <;> omega),
    show (2 : Nat) = 1 + 1 from rfl, tail?_continuation _ (by omega) (by omega), show (1 : Nat) = 0 + 1 from rfl,
    tail?_continuation _ (by omega) (by omega), payload_four, tail?, hcode]

end Widths

/-- The bytes of a character are read as that character. -/
theorem step_encodeChar (c : Char) (rest : Bytes) :
    ∃ b bs, String.utf8EncodeChar c = b :: bs ∧ step b (bs ++ rest) = .char c (bs.length + 1) := by
  have hvalid : c.toNat < 0xD800 ∨ 0xDFFF < c.toNat ∧ c.toNat < 0x110000 := c.valid
  simp only [String.utf8EncodeChar, show c.val.toNat = c.toNat from rfl]
  split
  next h => exact ⟨_, [], rfl, step_one rest (by omega)⟩
  next h₁ =>
    split
    next h₂ => exact ⟨_, [_], rfl, step_two rest (by omega) (by omega)⟩
    next h₂ =>
      split
      next h₃ => exact ⟨_, [_, _], rfl, step_three rest (by omega) (by omega) (by omega)⟩
      next h₃ => exact ⟨_, [_, _, _], rfl, step_four rest (by omega) (by omega)⟩

theorem decodeFrom_skipped (position : Nat) (bs rest : Bytes) :
    decodeFrom position bs.length (bs ++ rest) = decodeFrom (position + bs.length) 0 rest := by
  induction bs generalizing position with
  | nil => rfl
  | cons b bs ih =>
    rw [List.cons_append, List.length_cons, decodeFrom, ih]
    congr 1
    omega

theorem decodeFrom_encode (position : Nat) (cs : List Char) :
    decodeFrom position 0 (cs.flatMap String.utf8EncodeChar) = .ok cs := by
  induction cs generalizing position with
  | nil => rfl
  | cons c cs ih =>
    obtain ⟨b, bs, hbytes, hstep⟩ := step_encodeChar c (cs.flatMap String.utf8EncodeChar)
    rw [List.flatMap_cons, hbytes, List.cons_append, decodeFrom, hstep]
    simp only [Nat.add_sub_cancel]
    rw [decodeFrom_skipped, ih]
    rfl

/-- Decoding undoes encoding. -/
theorem decode_encode (s : String) : decode (encode s) = .ok s := by
  rw [decode, encode, decodeFrom_encode, Except.map, String.ofList_toList]

end NoteSchema.Text.Utf8
