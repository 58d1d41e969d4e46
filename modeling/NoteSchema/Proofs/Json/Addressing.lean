import Mathlib.Algebra.Group.Nat.Defs
import NoteSchema.Proofs.Json.Objects
import NoteSchema.Proofs.Json.Token

namespace NoteSchema

namespace Decimal

theorem isDigit_of_mem_natChars {n : Nat} {c : Char} (h : c ∈ natChars n) : Text.isDigit c = true := by
  have hplain := isPlainDigit_of_mem_natChars h
  obtain ⟨hlow, hhigh⟩ : '0' ≤ c ∧ c ≤ '9' := by simpa [Json.isPlainDigit] using hplain
  have hascii : c.toNat < 128 := lt_of_le_of_lt (show c.toNat ≤ '9'.toNat from hhigh) (by decide)
  simp [Text.isDigit, Text.digitValue?, hascii, hlow, hhigh]

theorem natChars_of_lt {n : Nat} (h : n < 10) : natChars n = [digitChar n] := by
  rw [natChars, if_pos h]

/-- A number below a power of ten has at most as many digits as its exponent. -/
theorem length_natChars_le {n k : Nat} (hk : 0 < k) (h : n < 10 ^ k) : (natChars n).length ≤ k := by
  induction k generalizing n with
  | zero => omega
  | succ k ih =>
    rw [natChars]
    split
    next => simp
    next hlarge =>
      have hrest : n / 10 < 10 ^ k := by
        rw [Nat.div_lt_iff_lt_mul (by decide), ← Nat.pow_succ]
        exact h
      have hpos : 0 < k := by
        rcases Nat.eq_zero_or_pos k with rfl | hpos
        · omega
        · exact hpos
      have := ih hpos hrest
      rw [List.length_append, List.length_singleton]
      omega

theorem natText_injective {i j : Nat} (h : natText i = natText j) : i = j := by
  have hchars : natChars i = natChars j := by simpa [natText] using congrArg String.toList h
  rw [← natValue_natChars i, ← natValue_natChars j, hchars]

end Decimal

namespace Json.Pointer

open Decimal (natChars natText digitLimit)

/-- One step down into a value: to a member by its name, or to an item by the numeral of its index. -/
inductive Leads : Document → String → Document → Prop
  | member {ms : Members String} {name : String} {w : Document} (found : ms.find? name = some w) :
      Leads (.obj ms) name w
  | item {items : List Document} {i : Nat} {w : Document} (found : items[i]? = some w) :
      Leads (.arr items) (natText i) w

/-- The steps of a path lead from a value down to a node in it. -/
inductive Reaches : Document → List String → Document → Prop
  | here (v : Document) : Reaches v [] v
  | onward {v x w : Document} {token : String} {path : List String} (leads : Leads v token x)
      (rest : Reaches x path w) : Reaches v (token :: path) w

/-- The pointer that spells a path: every token escaped, after a slash. -/
def pointerOf (path : List String) : String := String.join (path.map fun token => "/" ++ escape token)

/-- A token of digits that is no numeral of an index: it has zeros in front, digits of another script or digits
that are not decimal, or it is too long to be read. -/
def OddIndex (token : String) : Prop :=
  isIndexToken token = true ∧ ∀ i, token = natText i → digitLimit < (natChars i).length

/-- A path comes to an array with such a token. -/
inductive Misread : Document → List String → Prop
  | here {items : List Document} {token : String} {path : List String} (odd : OddIndex token) :
      Misread (.arr items) (token :: path)
  | onward {v x : Document} {token : String} {path : List String} (leads : Leads v token x)
      (rest : Misread x path) : Misread v (token :: path)

theorem pointerOf_cons (token : String) (path : List String) :
    pointerOf (token :: path) = "/" ++ escape token ++ pointerOf path := by
  simp [pointerOf, String.join_cons]

theorem pointerOf_toList (path : List String) :
    (pointerOf path).toList = [] ∨ ∃ cs, (pointerOf path).toList = '/' :: cs := by
  cases path with
  | nil => exact Or.inl rfl
  | cons token path => exact Or.inr ⟨(escape token ++ pointerOf path).toList, by simp [pointerOf_cons]⟩

theorem pieces_pointerOf (path : List String) :
    pieces (pointerOf path).toList = path.map fun token => escapeChars token.toList := by
  induction path with
  | nil => rfl
  | cons token path ih =>
    have hchars : (pointerOf (token :: path)).toList =
        '/' :: (escapeChars token.toList ++ (pointerOf path).toList) := by
      simp [pointerOf_cons, escape_toList]
    rw [hchars, pieces_cons (slash_not_mem_escapeChars _) (pointerOf_toList path), ih, List.map_cons]

theorem escapeChars_eq_nil {cs : List Char} (h : escapeChars cs = []) : cs = [] := by
  rw [← unescapeChars_escapeChars cs, h]
  rfl

/-- A path that does not start with an empty name, unless it is nothing else, is spelled with one slash in front. -/
theorem rooted_pointerOf {path : List String} (hfront : path.head? = some "" → path = [""]) :
    Rooted (pointerOf path) := by
  cases path with
  | nil => exact Or.inl rfl
  | cons token path =>
    have hchars : (pointerOf (token :: path)).toList =
        '/' :: (escapeChars token.toList ++ (pointerOf path).toList) := by
      simp [pointerOf_cons, escape_toList]
    refine Or.inr ⟨_, hchars, ?_⟩
    intro hslash
    cases htoken : escapeChars token.toList with
    | nil =>
      have hempty : token = "" := by simpa using escapeChars_eq_nil htoken
      subst token
      obtain rfl : path = [] := by simpa using hfront rfl
      rw [htoken] at hslash
      simp [pointerOf] at hslash
    | cons c cs =>
      rw [htoken, List.cons_append, List.head?_cons, Option.some.injEq] at hslash
      subst c
      have hmem : '/' ∈ escapeChars token.toList := by
        rw [htoken]
        exact List.mem_cons_self
      exact slash_not_mem_escapeChars _ hmem

/-- A pointer is read as the path that it spells. -/
theorem tokens_pointerOf {path : List String} (hfront : path.head? = some "" → path = [""]) :
    tokens (pointerOf path) = path := by
  rw [tokens_eq_pieces (rooted_pointerOf hfront), pieces_pointerOf, List.map_map]
  have hsame : ∀ token ∈ path,
      ((fun cs => String.ofList (unescapeChars cs)) ∘ fun token => escapeChars token.toList) token = id token := by
    intro token _
    simp [unescapeChars_escapeChars]
  rw [List.map_congr_left hsame, List.map_id]

theorem isIndexToken_natText (i : Nat) : isIndexToken (natText i) = true := by
  obtain ⟨c, cs, hcs, _⟩ := Decimal.natChars_eq_cons i
  have hne : natChars i ≠ [] := by simp [hcs]
  have hall : ∀ d ∈ natChars i, Text.isDigitLike d = true := by
    intro d hd
    simp [Text.isDigitLike, Decimal.isDigit_of_mem_natChars hd]
  simpa [isIndexToken, natText] using And.intro hne hall

theorem index?_natText {i : Nat} (h : (natChars i).length ≤ digitLimit) : index? (natText i) = some i := by
  have hall : ∀ d ∈ natChars i, Text.isDigit d = true := fun d hd => Decimal.isDigit_of_mem_natChars hd
  simpa [index?, natText, h, Decimal.natValue_natChars i] using hall

theorem not_oddIndex_natText {i : Nat} (h : (natChars i).length ≤ digitLimit) : ¬ OddIndex (natText i) := by
  rintro ⟨_, hlong⟩
  have := hlong i rfl
  omega

/-- A token that is no odd index leads where it should, and nowhere otherwise. -/
theorem step_eq_ok_iff {v : Document} {token : String} (hodd : ∀ items, v = .arr items → ¬ OddIndex token)
    (w : Document) : step v token = .ok w ↔ Leads v token w := by
  cases v with
  | obj ms =>
    constructor
    · intro h
      rcases step_cases h with ⟨ms', hms, hw⟩ | ⟨_, _, harr, _⟩
      · cases hms
        exact .member hw
      · cases harr
    · rintro ⟨hw⟩
      simp [step, hw]
  | arr items =>
    constructor
    · intro h
      rcases step_cases h with ⟨_, hobj, _⟩ | ⟨items', i, harr, hdigits, hi, hw⟩
      · cases hobj
      · cases harr
        have hplain : ¬ ∀ j, token = natText j → digitLimit < (natChars j).length :=
          fun hall => hodd items rfl ⟨hdigits, hall⟩
        push Not at hplain
        obtain ⟨j, rfl, hj⟩ := hplain
        rw [index?_natText hj] at hi
        cases hi
        exact .item hw
    · intro h
      cases h with
      | @item _ i _ hw =>
        have hshort : (natChars i).length ≤ digitLimit := by
          by_contra hlong
          refine hodd items rfl ⟨isIndexToken_natText i, fun j hj => ?_⟩
          rw [← Decimal.natText_injective hj]
          omega
        simp [step, isIndexToken_natText, index?_natText hshort, hw]
  | _ =>
    constructor
    · intro h
      cases h
    · intro h
      cases h

theorem step_eq_error {v : Document} {token : String} (hodd : ∀ items, v = .arr items → ¬ OddIndex token)
    {e : Failure} (h : step v token = .error e) : e = .nowhere token := by
  cases v with
  | arr items =>
    unfold step at h
    dsimp only at h
    split at h
    next hdigits =>
      have hplain : ¬ ∀ j, token = natText j → digitLimit < (natChars j).length :=
        fun hall => hodd items rfl ⟨hdigits, hall⟩
      push Not at hplain
      obtain ⟨j, rfl, hj⟩ := hplain
      rw [index?_natText hj] at h
      dsimp only at h
      split at h
      · cases h
      · cases h
        rfl
    next =>
      cases h
      rfl
  | obj ms =>
    unfold step at h
    dsimp only at h
    split at h
    · cases h
    · cases h
      rfl
  | _ =>
    cases h
    rfl

theorem odd_of_misread {v : Document} {token : String} {path : List String} (hread : ¬ Misread v (token :: path)) :
    ∀ items, v = .arr items → ¬ OddIndex token := by
  rintro items rfl hodd
  exact hread (.here hodd)

theorem follow_eq_ok_iff {v : Document} {path : List String} (hread : ¬ Misread v path) (w : Document) :
    follow v path = .ok w ↔ Reaches v path w := by
  induction path generalizing v with
  | nil =>
    constructor
    · intro h
      cases h
      exact .here _
    · intro h
      cases h
      rfl
  | cons token path ih =>
    have hstep := step_eq_ok_iff (odd_of_misread hread)
    constructor
    · intro h
      obtain ⟨x, hx, hw⟩ := follow_cons h
      have hleads := (hstep x).mp hx
      exact .onward hleads ((ih fun hrest => hread (.onward hleads hrest)).mp hw)
    · intro h
      cases h with
      | @onward _ x _ _ _ hleads hrest =>
        rw [follow, (hstep x).mpr hleads]
        exact (ih fun hmis => hread (.onward hleads hmis)).mpr hrest

theorem follow_eq_error {v : Document} {path : List String} (hread : ¬ Misread v path) {e : Failure}
    (h : follow v path = .error e) : ∃ token ∈ path, e = .nowhere token := by
  induction path generalizing v with
  | nil => cases h
  | cons token path ih =>
    rw [follow] at h
    split at h
    next x hx =>
      have hleads := (step_eq_ok_iff (odd_of_misread hread) x).mp hx
      obtain ⟨other, hother, he⟩ := ih (fun hrest => hread (.onward hleads hrest)) h
      exact ⟨other, List.mem_cons_of_mem token hother, he⟩
    next e' he' =>
      cases h
      exact ⟨token, List.mem_cons_self, step_eq_error (odd_of_misread hread) he'⟩

theorem Leads.not_oddIndex {v x : Document} {token : String} (h : Leads v token x)
    (hsize : ∀ items, v = .arr items → items.length ≤ 10 ^ digitLimit) :
    ∀ items, v = .arr items → ¬ OddIndex token := by
  rintro items rfl hodd
  cases h with
  | @item _ i _ hfound =>
    have hlt : i < items.length := (List.getElem?_eq_some_iff.mp hfound).1
    have hbound : i < 10 ^ digitLimit := lt_of_lt_of_le hlt (hsize items rfl)
    exact not_oddIndex_natText (Decimal.length_natChars_le (by decide) hbound) hodd

/-- A path that reaches a node is not misread, as long as arrays are of a size whose indices can be read. -/
theorem Reaches.not_misread {v w : Document} {path : List String} (h : Reaches v path w)
    (hsize : ∀ p items, Reaches v p (.arr items) → items.length ≤ 10 ^ digitLimit) : ¬ Misread v path := by
  induction h with
  | here v =>
    intro hmis
    cases hmis
  | @onward v x w token path hleads _ ih =>
    have htoken : ∀ items, v = .arr items → ¬ OddIndex token := by
      refine hleads.not_oddIndex fun items hv => ?_
      subst hv
      exact hsize [] items (.here _)
    intro hmis
    cases hmis with
    | here hodd => exact htoken _ rfl hodd
    | @onward _ x' _ _ hleads' hrest =>
      have hstep := (step_eq_ok_iff htoken x).mpr hleads
      have hstep' := (step_eq_ok_iff htoken x').mpr hleads'
      obtain rfl : x = x' := Except.ok.inj (hstep.symm.trans hstep')
      exact ih (fun p items hreach => hsize (token :: p) items (.onward hleads hreach)) hrest

/-- The pointer that spells a path of names and indices addresses exactly the node that the path reaches, as long as no
array has more items than there are indices that can be read; and where the path reaches none, the failure names one of
its tokens. Two things are excepted. A pointer is read without the slashes in front, so that an empty name may not come
first, unless it is the whole path. And at an array a token of digits is read in more spellings than the numeral of an
index, one of which has no value at all. -/
theorem pointer_addresses {v : Document} {path : List String} (hfront : path.head? = some "" → path = [""])
    (hsize : ∀ p items, Reaches v p (.arr items) → items.length ≤ 10 ^ digitLimit) :
    (∀ w, Reaches v path w → resolve v (pointerOf path) = .ok w) ∧
    ((∀ w, ¬ Reaches v path w) → ¬ Misread v path →
      ∃ token ∈ path, resolve v (pointerOf path) = .error (.nowhere token)) := by
  have hresolve : resolve v (pointerOf path) = follow v path := by rw [resolve, tokens_pointerOf hfront]
  refine ⟨fun w hreach => ?_, fun hnone hread => ?_⟩
  · rw [hresolve]
    exact (follow_eq_ok_iff (hreach.not_misread hsize) w).mpr hreach
  · rw [hresolve]
    cases hfollow : follow v path with
    | ok w => exact absurd ((follow_eq_ok_iff hread w).mp hfollow) (hnone w)
    | error e =>
      obtain ⟨token, htoken, rfl⟩ := follow_eq_error hread hfollow
      exact ⟨token, htoken, rfl⟩

/-- An array below a name with a slash and a tilde in it and an empty name. -/
def nested : Document := .obj [("a/b~", .obj [("", .arr [.bool true, .null])])]

theorem not_misread_nested {i : Nat} (hi : (natChars i).length ≤ digitLimit) :
    ¬ Misread nested ["a/b~", "", natText i] := by
  intro hmis
  obtain _ | ⟨⟨⟨⟩⟩, hmis⟩ := hmis
  obtain _ | ⟨⟨⟨⟩⟩, hmis⟩ := hmis
  obtain hodd | ⟨_, hmis⟩ := hmis
  · exact not_oddIndex_natText hi hodd
  · cases hmis

theorem reaches_nested {i : Nat} {w : Document} :
    Reaches nested ["a/b~", "", natText i] w ↔ ([.bool true, .null] : List Document)[i]? = some w := by
  constructor
  · intro h
    obtain _ | ⟨⟨⟨⟩⟩, h⟩ := h
    obtain _ | ⟨⟨⟨⟩⟩, h⟩ := h
    obtain _ | ⟨hleads, h⟩ := h
    cases h
    generalize htoken : natText i = token at hleads
    obtain _ | hitem := hleads
    rwa [← Decimal.natText_injective htoken] at hitem
  · intro hitem
    exact .onward (.member rfl) (.onward (.member rfl) (.onward (.item hitem) (.here w)))

theorem reaches_singleton {name : String} {v w : Document} {p : List String} (h : Reaches (.obj [(name, v)]) p w) :
    w = .obj [(name, v)] ∨ ∃ q, p = name :: q ∧ Reaches v q w := by
  obtain _ | ⟨⟨hfound⟩, hrest⟩ := h
  · exact Or.inl rfl
  · rw [Members.find?_cons] at hfound
    split at hfound
    next hname =>
      cases hfound
      obtain rfl := eq_of_beq hname
      exact Or.inr ⟨_, rfl, hrest⟩
    next => cases hfound

theorem nested_size {p : List String} {items : List Document} (h : Reaches nested p (.arr items)) :
    items.length ≤ 10 ^ digitLimit := by
  have hsmall : 2 ≤ 10 ^ digitLimit := le_trans (by decide : 2 ≤ 10 ^ 1) (Nat.pow_le_pow_right (by decide) (by decide))
  obtain hself | ⟨q, _, h⟩ := reaches_singleton h
  · cases hself
  obtain hself | ⟨q, _, h⟩ := reaches_singleton h
  · cases hself
  obtain _ | @⟨_, x, _, _, _, hleads, hrest⟩ := h
  · exact hsmall
  · obtain _ | hitem := hleads
    have hx : x = .bool true ∨ x = .null := by simpa using List.mem_of_getElem? hitem
    rcases hx with rfl | rfl
    · obtain _ | ⟨⟨⟩, _⟩ := hrest
    · obtain _ | ⟨⟨⟩, _⟩ := hrest

theorem nested_addressed :
    (["a/b~", "", "1"].head? = some "" → ["a/b~", "", "1"] = [""]) ∧
      (∀ p items, Reaches nested p (.arr items) → items.length ≤ 10 ^ digitLimit) ∧
      Reaches nested ["a/b~", "", "1"] .null ∧ resolve nested "/a~1b~0//1" = .ok .null ∧
      (∀ w, ¬ Reaches nested ["a/b~", "", "2"] w) ∧ ¬ Misread nested ["a/b~", "", "2"] ∧
      ∃ token ∈ ["a/b~", "", "2"], resolve nested "/a~1b~0//2" = .error (.nowhere token) := by
  have hnumeral : ∀ i < 10, natText i = String.singleton (Decimal.digitChar i) ∧ (natChars i).length ≤ digitLimit := by
    intro i hi
    rw [natText, Decimal.natChars_of_lt hi]
    exact ⟨rfl, by simp [digitLimit]⟩
  have htexts : natText 1 = "1" ∧ natText 2 = "2" := ⟨(hnumeral 1 (by decide)).1, (hnumeral 2 (by decide)).1⟩
  have hpointers : pointerOf ["a/b~", "", "1"] = "/a~1b~0//1" ∧ pointerOf ["a/b~", "", "2"] = "/a~1b~0//2" := by decide
  have hreached : Reaches nested ["a/b~", "", "1"] .null := htexts.1 ▸ reaches_nested.mpr rfl
  have hmissed : ∀ w, ¬ Reaches nested ["a/b~", "", "2"] w := by
    intro w h
    rw [← htexts.2, reaches_nested] at h
    cases h
  have hread : ¬ Misread nested ["a/b~", "", "2"] := htexts.2 ▸ not_misread_nested (hnumeral 2 (by decide)).2
  have haddressed := (pointer_addresses (by decide) fun _ _ => nested_size).1 .null hreached
  have hlost := (pointer_addresses (by decide) fun _ _ => nested_size).2 hmissed hread
  rw [hpointers.1] at haddressed
  rw [hpointers.2] at hlost
  exact ⟨by decide, fun _ _ => nested_size, hreached, haddressed, hmissed, hread, hlost⟩

/-- An empty name in front is not looked for, a digit that is no decimal digit has no value, and a zero in front is
read over. -/
theorem spellings_misread :
    (Reaches (.obj [("", .obj [("a", .null)])]) ["", "a"] .null ∧
      resolve (.obj [("", .obj [("a", .null)])]) (pointerOf ["", "a"]) = .error (.nowhere "a")) ∧
    ((∀ w, ¬ Reaches (.arr [.null]) ["²"] w) ∧
      resolve (.arr [.null]) (pointerOf ["²"]) = .error (.badIndex "²")) ∧
    ((∀ w, ¬ Reaches (.arr [.null]) ["00"] w) ∧ resolve (.arr [.null]) (pointerOf ["00"]) = .ok .null) := by
  have hodd : ∀ token : String, Decimal.natValue token.toList = 0 → token ≠ "0" →
      ∀ w, ¬ Reaches (.arr [.null]) [token] w := by
    intro token hzero hne w h
    obtain _ | ⟨hleads, _⟩ := h
    generalize htoken : token = t at hleads
    obtain _ | @⟨_, i, _, _⟩ := hleads
    have hi : i = 0 := by
      rw [← hzero, htoken, natText, String.toList_ofList, Decimal.natValue_natChars]
    refine hne ?_
    rw [htoken, hi, natText, Decimal.natChars_of_lt (by decide)]
    rfl
  refine ⟨⟨?_, by decide⟩, ⟨hodd "²" (by decide) (by decide), by decide⟩, ⟨hodd "00" (by decide) (by decide), by decide⟩⟩
  exact .onward (.member rfl) (.onward (.member rfl) (.here _))

end Json.Pointer

end NoteSchema
