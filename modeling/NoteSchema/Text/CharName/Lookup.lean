import NoteSchema.Text.CharName.Row
import NoteSchema.Text.CharName.Aliases
import NoteSchema.Text.CharName.Ancient
import NoteSchema.Text.CharName.EastAsian
import NoteSchema.Text.CharName.Eastern
import NoteSchema.Text.CharName.European
import NoteSchema.Text.CharName.Forms
import NoteSchema.Text.CharName.Notations
import NoteSchema.Text.CharName.Phonetic
import NoteSchema.Text.CharName.Pictographs
import NoteSchema.Text.CharName.Symbols

namespace NoteSchema.Text.CharName

def codeDigits (code : Nat) : Nat := if code < 0x10000 then 4 else 5

/-- Characters that are named for their code points, after a common stem. -/
structure Numbered where
  stem : String
  first : Nat
  last : Nat
deriving Repr

def Numbered.find? (r : Numbered) (name : List Char) : Option Nat := do
  let digits ← afterChars? r.stem.toList name
  let code ← hex? digits
  if r.first ≤ code ∧ code ≤ r.last ∧ digits.length = codeDigits code then some code else none

def numbered : List Numbered :=
  [⟨"CJK COMPATIBILITY IDEOGRAPH-", 0xF900, 0xFA6D⟩,
   ⟨"CJK COMPATIBILITY IDEOGRAPH-", 0xFA70, 0xFAD9⟩,
   ⟨"CJK COMPATIBILITY IDEOGRAPH-", 0x2F800, 0x2FA1D⟩,
   ⟨"KHITAN SMALL SCRIPT CHARACTER-", 0x18B00, 0x18CD5⟩,
   ⟨"NUSHU CHARACTER-", 0x1B170, 0x1B2FB⟩]

/-- The first and the last of each run of unified ideographs. -/
def unifiedIdeographs : List (Nat × Nat) :=
  [(0x3400, 0x4DBF), (0x4E00, 0x9FFF), (0x20000, 0x2A6DF), (0x2A700, 0x2B738),
   (0x2B740, 0x2B81D), (0x2B820, 0x2CEA1), (0x2CEB0, 0x2EBE0), (0x30000, 0x3134A)]

def ideograph? (digits : List Char) : Option Nat :=
  if digits.length = 4 ∨ digits.length = 5 then
    (hex? digits).filter fun code => unifiedIdeographs.any fun r => r.1 ≤ code && code ≤ r.2
  else none

def leads : List String :=
  ["G", "GG", "N", "D", "DD", "R", "M", "B", "BB", "S", "SS", "", "J", "JJ", "C", "K", "T", "P", "H"]

def vowels : List String :=
  ["A", "AE", "YA", "YAE", "EO", "E", "YEO", "YE", "O", "WA", "WAE", "OE", "YO", "U", "WEO", "WE",
   "WI", "YU", "EU", "YI", "I"]

def tails : List String :=
  ["", "G", "GG", "GS", "N", "NJ", "NH", "D", "L", "LG", "LM", "LB", "LS", "LT", "LP", "LH", "M",
   "B", "BS", "S", "SS", "NG", "J", "C", "K", "T", "P", "H"]

/-- The longest sound that a text starts with: its place among the sounds, and the rest of the text. -/
def sound? (sounds : List String) (cs : List Char) : Option (Nat × List Char) :=
  sounds.zipIdx.foldl (fun best (sound, i) =>
    match afterChars? sound.toList cs, best with
    | none, _ => best
    | some rest, none => some (i, rest)
    | some rest, some (_, shortest) =>
      if rest.length < shortest.length then some (i, rest) else best) none

def firstSyllable : Nat := 0xAC00

def syllable? (cs : List Char) : Option Nat := do
  let (lead, cs) ← sound? leads cs
  let (vowel, cs) ← sound? vowels cs
  let (tail, cs) ← sound? tails cs
  if cs = [] then
    some (firstSyllable + (lead * vowels.length + vowel) * tails.length + tail)
  else none

/-- The names of version 14 of the character standard that follow no rule, and the aliases. -/
def tables : List String :=
  [european, phonetic, eastern, symbols, eastAsian, forms, ancient, notations, pictographs, aliases]

def rows : List Row := tables.flatMap Row.ofTable

/-- The code point of a listed or numbered name, in capitals. -/
def listed? (name : List Char) : Option Nat :=
  match rows.findSome? (Row.find? · name) with
  | some code => some code
  | none => numbered.findSome? (Numbered.find? · name)

/-- The code point of the character with a name. The names of syllables and unified ideographs are in
capitals, others may be written in any case. -/
def find? (name : String) : Option Nat :=
  match afterChars? "HANGUL SYLLABLE ".toList name.toList with
  | some sounds => syllable? sounds
  | none =>
    match afterChars? "CJK UNIFIED IDEOGRAPH-".toList name.toList with
    | some digits => ideograph? digits
    | none => listed? (name.toList.map Char.toUpper)

end NoteSchema.Text.CharName
