import NoteSchema.Pattern.Check

namespace NoteSchema.Pattern

/-- A token as it stands in a pattern. -/
def Token.chars (t : Token) : List Char := if t.escaped then ['\\', t.char] else [t.char]

def spelling (ts : List Token) : List Char := ts.flatMap Token.chars

/-- The digits of a bound of a repeat in braces. -/
inductive Bound (cs : List Char) : List Char → Prop
  | only {ds : List Char} (h : '\x7b' :: (ds ++ ['\x7d']) <:+: cs) : Bound cs ds
  | least {ds high : List Char} (h : '\x7b' :: (ds ++ ',' :: (high ++ ['\x7d'])) <:+: cs) : Bound cs ds
  | most {low ds : List Char} (h : '\x7b' :: (low ++ ',' :: (ds ++ ['\x7d'])) <:+: cs) : Bound cs ds

/-- A flag is set for the whole pattern. -/
def Flagged (cs : List Char) (flag : Char) : Prop :=
  ∃ on, '(' :: '?' :: (on ++ [')']) <:+: cs ∧ flag ∈ on

/-- What is in a pattern that cannot be checked. -/
inductive Excess (cs : List Char) : Fault → Prop
  | digits {ds : List Char} (h : Bound cs ds) (hdigits : ∀ d ∈ ds, d.isDigit = true)
    (hlength : Decimal.digitLimit < ds.length) : Excess cs .value
  | repeats {ds : List Char} (h : Bound cs ds) (hdigits : ∀ d ∈ ds, d.isDigit = true)
    (hvalue : Width.endless ≤ Decimal.natValue ds) : Excess cs .range
  | code {letter : Char} {ds : List Char} (h : '\\' :: letter :: ds <:+: cs) (hletter : letter ∈ ['x', 'u', 'U'])
    (hdigits : ∀ d ∈ ds, Reader.isHex d = true) (hvalue : Reader.codeLimit < Reader.hexValue ds) : Excess cs .range
  | flags (ha : Flagged cs 'a') (hu : Flagged cs 'u') : Excess cs .value

/-- Where a pattern is read: behind some text, with what is known of the flags set so far. -/
structure At (cs before : List Char) (s : State) : Prop where
  text : before ++ spelling s.rest <:+ cs
  ascii : s.ascii = true → Flagged cs 'a'
  wide : s.wide = true → Flagged cs 'u'

/-- Reading from states of a kind leads to states of a kind, and fails for a fault only if the pattern has an excess. -/
def Reads {α : Type} (cs : List Char) (P : State → Prop) (x : Reader α) (Q : α → State → Prop) : Prop :=
  ∀ s, P s → (∀ a t, x s = .ok (a, t) → Q a t) ∧ ∀ f, x s = .error (.fault f) → Excess cs f

namespace At

variable {cs before : List Char} {s : State}

theorem drop (h : At cs before s) : At cs [] s := ⟨(List.suffix_append _ _).trans h.text, h.ascii, h.wide⟩

theorem isInfix (h : At cs before s) : before <:+: cs := (List.prefix_append _ _).isInfix.trans h.text.isInfix

end At

namespace Reads

variable {α β : Type} {cs before : List Char} {P P' : State → Prop} {Q Q' : α → State → Prop} {R : β → State → Prop}

theorem pure {a : α} (h : ∀ s, P s → Q a s) : Reads cs P (pure a) Q := fun s hs =>
  ⟨fun _ _ heq => by cases heq; exact h s hs, fun _ heq => (nomatch heq)⟩

theorem bind {x : Reader α} {f : α → Reader β} (hx : Reads cs P x Q) (hf : ∀ a, Reads cs (Q a) (f a) R) :
    Reads cs P (x >>= f) R := by
  intro s hs
  obtain ⟨hresult, hfault⟩ := hx s hs
  have hrun : (x >>= f) s = x s >>= fun p => f p.1 p.2 := rfl
  rw [hrun]
  cases hxs : x s with
  | error e =>
    exact ⟨fun _ _ heq => (nomatch heq), fun f heq => hfault f (hxs.trans (congrArg _ (Except.error.inj heq)))⟩
  | ok p => exact hf p.1 p.2 (hresult p.1 p.2 hxs)

theorem mono {x : Reader α} (h : Reads cs P x Q) (hP : ∀ s, P' s → P s) (hQ : ∀ a s, Q a s → Q' a s) :
    Reads cs P' x Q' :=
  fun s hs => ⟨fun a t heq => hQ a t ((h s (hP s hs)).1 a t heq), (h s (hP s hs)).2⟩

theorem flaw {f : Flaw} {offset : Option Nat} : Reads cs P (throw (.flaw f offset) : Reader α) Q := fun _ _ =>
  ⟨fun _ _ heq => (nomatch heq), fun _ heq => (nomatch heq)⟩

theorem fault {f : Fault} (h : ∀ s, P s → Excess cs f) : Reads cs P (throw (.fault f) : Reader α) Q := fun s hs =>
  ⟨fun _ _ heq => (nomatch heq), fun _ heq => by cases heq; exact h s hs⟩

theorem ite {c : Prop} [Decidable c] {x y : Reader α} (hx : c → Reads cs P x Q) (hy : ¬ c → Reads cs P y Q) :
    Reads cs P (if c then x else y) Q := by
  split
  next hc => exact hx hc
  next hc => exact hy hc

theorem bindGet {f : State → Reader α} (h : ∀ s, P s → Reads cs (· = s) (f s) Q) : Reads cs P (get >>= f) Q :=
  fun s hs => h s hs s rfl

theorem set {s : State} (h : P' s) : Reads cs P (set s) fun _ => P' := fun _ _ =>
  ⟨fun _ _ heq => by cases heq; exact h, fun _ heq => (nomatch heq)⟩

theorem assume {x : Reader α} {p : Prop} (h : p → Reads cs P x Q) : Reads cs (fun s => p ∧ P s) x Q :=
  fun s hs => h hs.1 s hs.2

theorem modify {g : State → State} (h : ∀ s, P s → P' (g s)) : Reads cs P (modify g) fun _ => P' := fun s hs =>
  ⟨fun _ _ heq => by cases heq; exact h s hs, fun _ heq => (nomatch heq)⟩

theorem refuse {f : Flaw} {offset : Nat} : Reads cs P (Reader.refuse f offset : Reader α) Q := flaw

theorem refused {f : Flaw} {offset : Nat} {next : α → Reader β} : Reads cs P (Reader.refuse f offset >>= next) R :=
  bind (Q := fun _ _ => False) refuse fun _ _ hf => hf.elim

end Reads

namespace Reader

variable {cs before : List Char} {P : State → Prop} {α : Type}

theorem reads_peek : Reads cs P peek fun o s => s.rest.head? = o ∧ P s :=
  .bindGet fun s hs => .pure fun t heq => by obtain rfl : t = s := heq; exact ⟨rfl, hs⟩

/-- Looking for the offset changes nothing. -/
theorem reads_offset : Reads cs P offset fun _ => P := .bindGet fun _ hs => .pure fun _ heq => heq ▸ hs

theorem reads_guardEnd : Reads cs P guardEnd fun _ => P := by
  refine .bindGet fun s hs => ?_
  split
  · exact .refuse
  · exact .pure fun _ heq => heq ▸ hs

/-- The text that taking the next token adds. -/
def taken (o : Option Token) : List Char := (o.map Token.chars).getD []

theorem reads_take_peeked {o : Option Token} : Reads cs (fun s => s.rest.head? = o ∧ At cs before s) take
    fun o' s => o' = o ∧ At cs (before ++ taken o) s := by
  refine .bindGet fun s ⟨hpeeked, hs⟩ => ?_
  subst hpeeked
  split
  next hrest => exact .pure fun t heq => by simpa [hrest, taken] using heq ▸ hs
  next t rest hrest =>
    have hnext : At cs (before ++ t.chars) { s with rest } :=
      ⟨by simpa [hrest, spelling] using hs.text, hs.ascii, hs.wide⟩
    exact .bind (.set hnext) fun _ => .bind reads_guardEnd fun _ => .pure fun _ h => by simpa [hrest, taken] using h

/-- What is taken stands behind what stood there before. -/
theorem reads_take : Reads cs (At cs before) take fun o => At cs (before ++ taken o) := fun s hs =>
  (reads_take_peeked.mono (fun _ h => h) fun _ _ ⟨heq, h⟩ => heq ▸ h) s ⟨rfl, hs⟩

theorem taken_of_isChar {t : Token} {c : Char} (h : t.isChar c = true) : taken (some t) = [c] := by
  obtain ⟨hplain, hchar⟩ := Bool.and_eq_true_iff.mp h
  rw [taken, Option.map_some, Option.getD_some, Token.chars, if_neg (by simpa using hplain), beq_iff_eq.mp hchar]

theorem reads_takeIf {c : Char} :
    Reads cs (At cs before) (takeIf c) fun b => At cs (if b then before ++ [c] else before) := by
  refine .bind reads_peek fun o => ?_
  split
  next t =>
    split
    next hc => exact .bind reads_take_peeked fun _ => .pure fun _ h => by simpa [taken_of_isChar hc] using h.2
    next => exact .pure fun _ h => h.2
  next => exact .pure fun _ h => h.2

theorem reads_takeWhile {p : Char → Bool} (n : Nat) :
    Reads cs (At cs before) (takeWhile p n) fun ds s => (∀ d ∈ ds, p d = true) ∧ At cs (before ++ ds) s := by
  induction n generalizing before with
  | zero => exact .pure fun _ h => ⟨fun _ hd => absurd hd List.not_mem_nil, by simpa using h⟩
  | succ n ih =>
    refine .bind reads_peek fun o => ?_
    split
    next t =>
      split
      next hp =>
        obtain ⟨hplain, hp⟩ := Bool.and_eq_true_iff.mp hp
        have hchars : taken (some t) = [t.char] := by simpa [taken, Token.chars] using hplain
        refine .bind reads_take_peeked fun _ => .bind (ih.mono (fun _ h => h.2) fun _ _ h => h) fun ds =>
          .pure fun _ h => ?_
        rw [hchars, List.append_assoc] at h
        exact ⟨fun d hd => (List.mem_cons.mp hd).elim (fun heq => heq ▸ hp) (h.1 d), h.2⟩
      next => exact .pure fun _ h => ⟨fun _ hd => absurd hd List.not_mem_nil, by simpa using h.2⟩
    next => exact .pure fun _ h => ⟨fun _ hd => absurd hd List.not_mem_nil, by simpa using h.2⟩

end Reader

/-- Reading that leads on from anywhere. -/
def Safe {α : Type} (cs : List Char) (x : Reader α) : Prop := Reads cs (At cs []) x fun _ => At cs []

namespace Safe

variable {cs before : List Char} {α β : Type} {x : Reader α}

theorem behind (h : Safe cs x) : Reads cs (At cs before) x fun _ => At cs [] :=
  h.mono (fun _ hs => hs.drop) fun _ _ hs => hs

theorem pure (a : α) : Safe cs (Pure.pure a : Reader α) := Reads.pure fun _ hs => hs

theorem bind {f : α → Reader β} (hx : Safe cs x) (hf : ∀ a, Safe cs (f a)) : Safe cs (x >>= f) := Reads.bind hx hf

theorem refuse {f : Flaw} {offset : Nat} : Safe cs (Reader.refuse f offset : Reader α) := Reads.refuse

theorem refused {f : Flaw} {offset : Nat} {next : α → Reader β} : Safe cs (Reader.refuse f offset >>= next) :=
  Reads.refused

theorem flaw {f : Flaw} {offset : Option Nat} : Safe cs (throw (.flaw f offset) : Reader α) := Reads.flaw

theorem ite {c : Prop} [Decidable c] {x y : Reader α} (hx : Safe cs x) (hy : Safe cs y) : Safe cs (if c then x else y) :=
  Reads.ite (fun _ => hx) fun _ => hy

theorem bindGet {f : State → Reader α} (h : ∀ s, At cs [] s → Safe cs (f s)) : Safe cs (get >>= f) :=
  Reads.bindGet fun s hs => (h s hs).mono (fun _ heq => heq ▸ hs) fun _ _ ht => ht

/-- A change of what is known of groups and names only. -/
theorem modify {g : State → State} (hrest : ∀ s, (g s).rest = s.rest) (hascii : ∀ s, (g s).ascii = s.ascii)
    (hwide : ∀ s, (g s).wide = s.wide) : Safe cs (modify g) :=
  Reads.modify fun s hs => ⟨hrest s ▸ hs.text, hascii s ▸ hs.ascii, hwide s ▸ hs.wide⟩

end Safe

namespace Reader

variable {cs : List Char} {α : Type}

theorem safe_offset : Safe cs offset := reads_offset

theorem safe_peek : Safe cs peek := reads_peek.mono (fun _ h => h) fun _ _ h => h.2

theorem safe_take : Safe cs take := reads_take.mono (fun _ h => h) fun _ _ h => h.drop

theorem safe_takeIf (c : Char) : Safe cs (takeIf c) := reads_takeIf.mono (fun _ h => h) fun _ _ h => h.drop

theorem safe_takeWhile (p : Char → Bool) (n : Nat) : Safe cs (takeWhile p n) :=
  (reads_takeWhile n).mono (fun _ h => h) fun _ _ h => h.2.drop

theorem safe_takeUntil (terminator : Char) (what : String) (n : Nat) (before : String) :
    Safe cs (takeUntil terminator what before n) := by
  induction n generalizing before with
  | zero => exact .bindGet fun _ _ => .refuse
  | succ n ih =>
    refine safe_offset.bind fun here => safe_take.bind fun o => ?_
    split
    next => split <;> exact .refuse
    next =>
      split
      next =>
        split
        · exact .refuse
        · exact .pure _
      next => exact ih _

theorem safe_takeName (terminator : Char) (what : String) : Safe cs (takeName terminator what) :=
  .bindGet fun _ _ => safe_takeUntil terminator what _ ""

theorem safe_guardLookBehind (group : Nat) : Safe cs (guardLookBehind group) := by
  refine .bindGet fun s _ => ?_
  split
  · exact .pure _
  · split
    · exact safe_offset.bind fun _ => .refuse
    · split
      · exact safe_offset.bind fun _ => .refuse
      · exact .pure _

theorem safe_guardName (name : String) : Safe cs (guardName name) := by
  unfold guardName
  split
  · exact safe_offset.bind fun _ => .refuse
  · exact .pure _

theorem safe_openGroup (name : Option String) : Safe cs (openGroup name) := by
  refine .bindGet fun s hs => Safe.bind (.set ⟨hs.text, hs.ascii, hs.wide⟩) fun _ => ?_
  split
  · exact .pure _
  · split
    · exact safe_offset.bind fun _ => .refuse
    · exact Safe.bind (.modify (fun _ => rfl) (fun _ => rfl) fun _ => rfl) fun _ => .pure _

theorem safe_closeGroup (group : Nat) (w : Width) : Safe cs (closeGroup group w) :=
  .modify (fun _ => rfl) (fun _ => rfl) fun _ => rfl

theorem safe_condition : Safe cs condition := by
  have hgroup (group : Nat) : Safe cs (guardLookBehind group >>= fun _ => (Pure.pure group : Reader Nat)) :=
    (safe_guardLookBehind group).bind fun _ => .pure _
  refine (safe_takeName _ _).bind fun name => safe_offset.bind fun here => .ite (.bindGet fun s _ => ?_) ?_
  · cases findName? name s.names with
    | none => exact .refused
    | some group => exact (Safe.pure group).bind hgroup
  · cases Decimal.whole? name with
    | none => exact .refused
    | some n =>
      refine .ite .refused (.ite .refused (.ite .refused ?_))
      refine Safe.bind (.modify (fun s => ?_) (fun s => ?_) fun s => ?_) fun _ => (Safe.pure _).bind hgroup
      all_goals split <;> rfl

/-- The number of repeats that the digits of a bound ask for. -/
def bound (ds : List Char) (standard : Nat) : Reader Nat :=
  if ds.isEmpty then pure standard
  else if Decimal.digitLimit < ds.length then throw (.fault .value)
  else if Width.endless ≤ Decimal.natValue ds then throw (.fault .range)
  else pure (Decimal.natValue ds)

theorem safe_bound {ds : List Char} (h : Bound cs ds) (hdigits : ∀ d ∈ ds, d.isDigit = true) (standard : Nat) :
    Safe cs (bound ds standard) := by
  unfold bound
  split
  · exact .pure _
  · split
    next hlength => exact .fault fun _ _ => .digits h hdigits hlength
    next =>
      split
      next hvalue => exact .fault fun _ _ => .repeats h hdigits hvalue
      next => exact .pure _

/-- The bounds of a repeat, once its digits have been read. -/
theorem reads_bounds {before low high : List Char} (start : Nat) (hdigits : ∀ d ∈ low ++ high, d.isDigit = true)
    (h : before ++ ['\x7d'] <:+: cs → Bound cs low ∧ Bound cs high) : Reads cs (At cs before)
      (do
        if !(← takeIf '\x7d') then return none
        let least ← bound low 0
        let most ← bound high Width.endless
        if !high.isEmpty && most < least then refuse .reversedRepeat start
        return some (least, most) : Reader (Option (Nat × Nat))) fun _ => At cs [] := by
  refine .bind reads_takeIf fun b => ?_
  cases b with
  | false => exact .pure fun _ hs => hs.drop
  | true =>
    intro s hs
    obtain ⟨hlow, hhigh⟩ := h hs.isInfix
    have hsafe : Safe cs (do
        let least ← bound low 0
        let most ← bound high Width.endless
        if !high.isEmpty && most < least then refuse .reversedRepeat start
        return some (least, most) : Reader (Option (Nat × Nat))) := by
      refine (safe_bound hlow (fun d hd => hdigits d (List.mem_append_left high hd)) _).bind fun least =>
        (safe_bound hhigh (fun d hd => hdigits d (List.mem_append_right low hd)) _).bind fun most => ?_
      dsimp only
      split
      · exact .refused
      · exact .pure _
    exact hsafe s hs.drop

theorem reads_braces (start : Nat) : Reads cs (At cs ['\x7b']) (braces start) fun _ => At cs [] := by
  refine .bindGet fun s hs => .bind ((reads_takeWhile _).mono (fun _ heq => heq ▸ hs) fun _ _ h => h) fun low =>
    .assume fun hlow => .bind reads_takeIf fun b => ?_
  cases b with
  | false =>
    refine .bind (Q := fun high s => high = low ∧ At cs (['\x7b'] ++ low) s) (.pure fun _ hs => ⟨rfl, hs⟩) fun high =>
      .assume fun heq => ?_
    subst heq
    refine reads_bounds start (fun d hd => (List.mem_append.mp hd).elim (hlow d) (hlow d)) fun h => ?_
    exact ⟨.only (by simpa using h), .only (by simpa using h)⟩
  | true =>
    refine .bind (reads_takeWhile _) fun high => .assume fun hhigh => ?_
    refine reads_bounds start (fun d hd => (List.mem_append.mp hd).elim (hlow d) (hhigh d)) fun h => ?_
    exact ⟨.least (by simpa using h), .most (by simpa using h)⟩

theorem safe_repetition : Safe cs repetition := by
  refine safe_peek.bind fun o => ?_
  split
  · exact .pure _
  · split
    · exact safe_take.bind fun _ => .pure _
    · split
      · exact safe_take.bind fun _ => .pure _
      · exact .pure _

theorem safe_repeatLast (start least most : Nat) (items : List Item) : Safe cs (repeatLast start least most items) := by
  unfold repeatLast
  split
  · exact .refuse
  · split
    · exact .refuse
    · exact .refuse
    · exact safe_repetition.bind fun _ => .pure _

theorem safe_takeOff (off : List Char) (flag : Token) (n : Nat) : Safe cs (takeOff off flag n) := by
  induction n generalizing off flag with
  | zero => exact safe_offset.bind fun _ => .refuse
  | succ n ih =>
    unfold takeOff
    refine .ite (safe_offset.bind fun _ => .refused) (safe_take.bind fun o => ?_)
    cases o with
    | none => exact safe_offset.bind fun _ => .refuse
    | some t => exact .ite (.pure _) (.ite (ih _ _) (.ite (safe_offset.bind fun _ => .refuse)
        (safe_offset.bind fun _ => .refuse)))

theorem safe_skipLine (n : Nat) : Safe cs (skipLine n) := by
  induction n with
  | zero => exact .pure _
  | succ n ih =>
    refine safe_take.bind fun o => ?_
    split
    · exact .pure _
    · split
      · exact .pure _
      · exact ih

theorem safe_skipComment (start n : Nat) : Safe cs (skipComment start n) := by
  induction n with
  | zero => exact .refuse
  | succ n ih =>
    refine safe_take.bind fun o => ?_
    split
    · exact .refuse
    · split
      · exact .pure _
      · exact ih

theorem safe_close (start : Nat) : Safe cs (close start) := by
  refine (safe_takeIf _).bind fun b => ?_
  split
  · exact .refuse
  · exact .pure _

/-- An item that ends with a closing parenthesis. -/
theorem safe_closed (start : Nat) (item : Item) : Safe cs (do
    close start
    return some item) := (safe_close start).bind fun _ => .pure _

theorem safe_refuseEscape (f : String → Flaw) (escape : List Char) : Safe cs (refuseEscape f escape : Reader α) :=
  safe_offset.bind fun _ => .refuse

theorem reads_hexEscape {letter : Char} (hletter : letter ∈ ['x', 'u', 'U']) (digits : Nat) :
    Reads cs (At cs ['\\', letter]) (hexEscape letter digits) fun _ => At cs [] := by
  refine .bind (reads_takeWhile digits) fun ds => ?_
  dsimp only
  split
  · exact (safe_refuseEscape _ _).behind.mono (fun _ h => h.2) fun _ _ h => h
  · split
    next hvalue => exact .fault fun _ h => .code h.2.isInfix hletter h.1 hvalue
    next =>
      split
      · exact (safe_refuseEscape _ _).behind.mono (fun _ h => h.2) fun _ _ h => h
      · exact .pure fun _ h => h.2.drop

theorem safe_namedEscape : Safe cs namedEscape := by
  refine (safe_takeIf _).bind fun b => ?_
  dsimp only
  split
  · exact safe_offset.bind fun _ => .refused
  · refine (safe_takeName _ _).bind fun name => ?_
    split
    · exact .pure _
    · exact safe_offset.bind fun _ => .refuse

theorem safe_groupReference (escape : List Char) (group : Nat) : Safe cs (groupReference escape group) := by
  refine .bindGet fun s _ => ?_
  split
  · split
    · exact safe_refuseEscape _ _
    · exact (safe_guardLookBehind group).bind fun _ => .pure _
  · exact safe_offset.bind fun _ => .refuse

theorem safe_numberEscape (c : Char) : Safe cs (numberEscape c) := by
  refine (safe_takeWhile _ _).bind fun ds => ?_
  cases ds with
  | nil => exact safe_groupReference _ _
  | cons d _ =>
    refine .ite ((safe_takeWhile _ _).bind fun third => ?_) ((Safe.pure _).bind fun third => ?_)
    all_goals
      cases third with
      | nil => exact safe_groupReference _ _
      | cons e _ => exact .ite (safe_refuseEscape _ _) (.pure _)

theorem reads_setEscape (c : Char) : Reads cs (At cs ['\\', c]) (setEscape c) fun _ => At cs [] := by
  have hcode (hc : c ∈ ['x', 'u', 'U']) (digits : Nat) :
      Reads cs (At cs ['\\', c]) (do return Member.code (← hexEscape c digits)) fun _ => At cs [] :=
    .bind (reads_hexEscape hc digits) fun _ => .pure fun _ h => h
  unfold setEscape
  cases simpleEscape? c with
  | some n => exact .pure fun _ h => h.drop
  | none =>
    refine .ite (fun _ => .pure fun _ h => h.drop) fun _ => .ite (fun hc => hcode (by simp [hc]) 2) fun _ =>
      .ite (fun hc => hcode (by simp [hc]) 4) fun _ => .ite (fun hc => hcode (by simp [hc]) 8) fun _ => Safe.behind ?_
    refine .ite (safe_namedEscape.bind fun _ => .pure _) (.ite ?_ (.ite (safe_refuseEscape _ _) (.pure _)))
    exact (safe_takeWhile _ _).bind fun ds => .ite (safe_refuseEscape _ _) (.pure _)

theorem reads_escapeItem (c : Char) : Reads cs (At cs ['\\', c]) (escapeItem c) fun _ => At cs [] := by
  have hcode (hc : c ∈ ['x', 'u', 'U']) (digits : Nat) :
      Reads cs (At cs ['\\', c]) (do let _ ← hexEscape c digits; return Item.one) fun _ => At cs [] :=
    .bind (reads_hexEscape hc digits) fun _ => .pure fun _ h => h
  unfold escapeItem
  refine .ite (fun _ => .pure fun _ h => h.drop) fun _ => .ite (fun _ => .pure fun _ h => h.drop) fun _ =>
    .ite (fun hc => hcode (by simp [hc]) 2) fun _ => .ite (fun hc => hcode (by simp [hc]) 4) fun _ =>
    .ite (fun hc => hcode (by simp [hc]) 8) fun _ => Safe.behind ?_
  exact .ite (safe_namedEscape.bind fun _ => .pure _) (.ite ((safe_takeWhile _ _).bind fun _ => .pure _)
    (.ite (safe_numberEscape c) (.ite (safe_refuseEscape _ _) (.pure _))))

theorem reads_memberOf (t : Token) : Reads cs (At cs (taken (some t))) (memberOf t) fun _ => At cs [] := by
  unfold memberOf
  split
  next hescaped => simpa [taken, Token.chars, hescaped] using reads_setEscape t.char
  next => exact .pure fun _ h => h.drop

theorem safe_setRest (start n : Nat) (empty : Bool) : Safe cs (setRest start empty n) := by
  have hbad (this that : Token) : Safe cs (do
      refuse (.badRange this.text that.text) ((← offset) - (this.length + 1 + that.length)) : Reader Unit) :=
    safe_offset.bind fun _ => .refuse
  induction n generalizing empty with
  | zero => exact .refuse
  | succ n ih =>
    refine Reads.bind reads_take fun o => ?_
    cases o with
    | none => exact .refuse
    | some this =>
      refine .ite (fun _ => .pure fun _ h => h.drop) fun _ => .bind (reads_memberOf this) fun low =>
        (safe_takeIf _).bind fun b => .ite (Reads.bind reads_take fun o => ?_) (ih false)
      cases o with
      | none => exact .refuse
      | some that =>
        refine .ite (fun _ => .pure fun _ h => h.drop) fun _ => .bind (reads_memberOf that) fun high => ?_
        match low, high with
        | .code a, .code b => exact Safe.ite (hbad this that) (ih false)
        | .code _, .family => exact hbad this that
        | .family, _ => exact hbad this that

theorem taken_of_isIn {t : Token} {chars : String} (h : t.isIn chars = true) : taken (some t) = [t.char] := by
  have hplain : t.escaped = false := by simpa using (Bool.and_eq_true_iff.mp h).1
  simp [taken, Token.chars, hplain]

/-- Flags are read behind the mark that opens them. -/
theorem reads_takeOn {on : List Char} {flag : Token} (n : Nat) :
    Reads cs (At cs ('(' :: '?' :: (on.reverse ++ [flag.char]))) (takeOn on flag n) fun p =>
      At cs ('(' :: '?' :: (p.1.reverse ++ [p.2.char])) := by
  induction n generalizing on flag with
  | zero => exact .bind reads_offset fun _ => .refuse
  | succ n ih =>
    unfold takeOn
    refine .ite (fun _ => .bind reads_offset fun _ => .refused) fun _ =>
      .ite (fun _ => .bind reads_offset fun _ => .refused) fun _ => .bind reads_take fun o => ?_
    cases o with
    | none => exact .bind reads_offset fun _ => .refuse
    | some t =>
      refine .ite (fun ht => ?_) fun _ => .ite (fun ht => ?_) fun _ =>
        .ite (fun _ => .bind reads_offset fun _ => .refuse) fun _ => .bind reads_offset fun _ => .refuse
      · exact .pure fun _ h => by simpa [taken_of_isIn ht] using h
      · exact ih.mono (fun _ h => by simpa [taken_of_isIn ht] using h) fun _ _ h => h

theorem reads_takeFlags {first : Token} :
    Reads cs (At cs ['(', '?', first.char]) (takeFlags first) fun _ => At cs [] := by
  have hend (on off : List Char) : Safe cs (do
      if off.contains 't' then refuse .globalFlagOff ((← offset) - 1)
      if on.any off.contains then refuse .flagOnAndOff ((← offset) - 1)
      return Flags.group (on.contains 'x') (off.contains 'x')) :=
    .ite (safe_offset.bind fun _ => .refused) (.ite (safe_offset.bind fun _ => .refused) (.pure _))
  refine .bindGet fun s hs => ?_
  extract_lets size after
  have hafter (p : List Char × Token) :
      Reads cs (At cs ('(' :: '?' :: (p.1.reverse ++ [p.2.char]))) (after p) fun _ => At cs [] := by
    obtain ⟨on, stop⟩ := p
    refine .ite (fun hstop => ?_) fun _ => Safe.behind ?_
    · -- the flags between the mark and the parenthesis hold for the whole
      obtain ⟨-, hstop⟩ := Bool.and_eq_true_iff.mp hstop
      have hflag {s : State} (hs : At cs ('(' :: '?' :: (on.reverse ++ [stop.char])) s) {c : Char}
          (hc : on.contains c = true) : Flagged cs c :=
        ⟨on.reverse, beq_iff_eq.mp hstop ▸ hs.isInfix, by simpa using hc⟩
      refine .bind (.modify fun s hs => ⟨hs.drop.text, fun h => ?_, fun h => ?_⟩) fun _ => .pure fun _ h => h
      · exact (Bool.or_eq_true_iff.mp h).elim hs.ascii (hflag hs)
      · exact (Bool.or_eq_true_iff.mp h).elim hs.wide (hflag hs)
    · refine .ite (safe_offset.bind fun _ => .refused)
        (.ite (safe_take.bind fun o => ?_) ((Safe.pure _).bind (hend on)))
      cases o with
      | none => exact safe_offset.bind fun _ => .refused
      | some t => exact .ite ((safe_takeOff _ _ _).bind (hend on)) (.ite (safe_offset.bind fun _ => .refused)
          (safe_offset.bind fun _ => .refused))
  refine .ite (fun _ => ?_) fun _ => .bind ((reads_takeOn size).mono (fun _ heq => heq ▸ hs) fun _ _ h => h) hafter
  exact .bind (Q := fun p => At cs ('(' :: '?' :: (p.1.reverse ++ [p.2.char]))) (.pure fun _ heq => heq ▸ hs) hafter

/-- The parts of a pattern are read on within a budget. -/
structure ReadsOn (cs : List Char) (n : Nat) : Prop where
  alternatives : ∀ outer verbose, Safe cs (alternatives n outer verbose)
  moreAlternatives : ∀ outer verbose b, Safe cs (moreAlternatives n outer verbose b)
  sequence : ∀ first verbose items, Safe cs (sequence n first verbose items)
  group : ∀ first verbose empty start, Reads cs (At cs ['(']) (group n first verbose empty start) fun _ => At cs []
  contents : ∀ verbose start capture, Safe cs (contents n verbose start capture)

theorem readsOn_zero (cs : List Char) : ReadsOn cs 0 where
  alternatives _ _ := by rw [alternatives]; exact .pure _
  moreAlternatives _ _ b := by rw [moreAlternatives]; exact .pure _
  sequence _ _ items := by rw [sequence]; exact .pure _
  group _ _ _ _ := by rw [group]; exact .pure fun _ h => h.drop
  contents _ _ _ := by rw [contents]; exact .pure _

namespace ReadsOn

variable {n : Nat}

theorem alternatives_succ (h : ReadsOn cs n) (outer verbose : Bool) :
    Safe cs (Reader.alternatives (n + 1) outer verbose) := by
  rw [Reader.alternatives]
  exact (h.sequence _ _ _).bind fun _ => h.moreAlternatives _ _ _

theorem moreAlternatives_succ (h : ReadsOn cs n) (outer verbose : Bool) (b : Body) :
    Safe cs (Reader.moreAlternatives (n + 1) outer verbose b) := by
  rw [Reader.moreAlternatives]
  have hrest (verbose : Bool) : Safe cs (do
      let items ← Reader.sequence n false verbose []
      Reader.moreAlternatives n outer verbose (b.either (.ofItems items))) :=
    (h.sequence _ _ _).bind fun _ => h.moreAlternatives _ _ _
  refine (safe_takeIf _).bind fun bar => .ite (.ite ?_ ((Safe.pure _).bind hrest)) (.pure _)
  exact .bindGet fun s _ => (Safe.pure _).bind hrest

theorem contents_succ (h : ReadsOn cs n) (verbose : Bool) (start : Nat) (capture : Option (Option String)) :
    Safe cs (Reader.contents (n + 1) verbose start capture) := by
  rw [Reader.contents.eq_def]
  cases capture with
  | none =>
    refine (Safe.pure _).bind fun number => (h.alternatives _ _).bind fun b => (safe_close start).bind fun _ => ?_
    cases number with
    | none => exact .pure _
    | some group => exact (safe_closeGroup _ _).bind fun _ => .pure _
  | some name =>
    dsimp only
    rw [map_eq_pure_bind, bind_assoc]
    refine (safe_openGroup name).bind fun _ => (Safe.pure _).bind fun number => ?_
    refine (h.alternatives _ _).bind fun b => (safe_close start).bind fun _ => ?_
    cases number with
    | none => exact .pure _
    | some group => exact (safe_closeGroup _ _).bind fun _ => .pure _

/-- A repeat in braces, or a brace that stands for itself. -/
theorem reads_brace (h : ReadsOn cs n) (first verbose : Bool) (items : List Item) (start : Nat) :
    Reads cs (At cs ['\x7b'])
      (do
        match ← peek with
        | some next =>
          if next.isChar '\x7d' then Reader.sequence n first verbose (.one :: items)
          else
            let s ← get
            match ← braces next.offset with
            | some (least, most) => Reader.sequence n first verbose (← repeatLast start least most items)
            | none =>
              modify fun now => { now with rest := s.rest }
              Reader.sequence n first verbose (.one :: items)
        | none => Reader.sequence n first verbose (.one :: items)) fun _ => At cs [] := by
  have hitem : Reads cs (At cs ['\x7b']) (Reader.sequence n first verbose (.one :: items)) fun _ => At cs [] :=
    (h.sequence _ _ _).behind
  refine .bind (reads_peek.mono (fun _ hs => hs) fun _ _ hs => hs.2) fun o => ?_
  split
  next next =>
    split
    · exact hitem
    · refine .bindGet fun s hs =>
        .bind ((reads_braces next.offset).mono (fun _ heq => heq ▸ hs) fun _ _ ht => ht) fun bounds => ?_
      split
      · exact (safe_repeatLast _ _ _ _).bind fun _ => h.sequence _ _ _
      · exact .bind (.modify fun t ht => ⟨hs.drop.text, ht.ascii, ht.wide⟩) fun _ => h.sequence _ _ _
  next => exact hitem

theorem sequence_succ (h : ReadsOn cs n) (first verbose : Bool) (items : List Item) :
    Safe cs (Reader.sequence (n + 1) first verbose items) := by
  rw [Reader.sequence]
  refine Reads.bind reads_peek fun o => ?_
  split
  next => exact .pure fun _ hs => hs.2
  next this =>
    refine .ite (fun _ => .pure fun _ hs => hs.2) fun _ => ?_
    refine .bind (reads_take_peeked.mono (fun _ hs => hs) fun _ _ hs => hs.2) fun _ => ?_
    rw [List.nil_append]
    have hnext (verbose : Bool) (items : List Item) : Safe cs (Reader.sequence n first verbose items) := h.sequence _ _ _
    have hrepeat (least most : Nat) : Safe cs (do
        Reader.sequence n first verbose (← repeatLast this.offset least most items)) :=
      (safe_repeatLast _ _ _ _).bind fun _ => hnext _ _
    refine .ite (fun _ => (hnext _ _).behind) fun _ => ?_
    refine .ite (fun _ => ?_) fun _ => .ite (fun hescaped => ?_) fun hescaped => ?_
    · exact Safe.behind (.bindGet fun s _ => (safe_skipLine _).bind fun _ => hnext _ _)
    · rw [show taken (some this) = ['\\', this.char] by simp [taken, Token.chars, hescaped]]
      exact .bind (reads_escapeItem this.char) fun _ => hnext _ _
    have hchar : taken (some this) = [this.char] := by simp [taken, Token.chars, hescaped]
    refine .ite (fun _ => ?_) fun _ => ?_
    · exact Safe.behind ((safe_takeIf _).bind fun _ => .bindGet fun s _ => (safe_setRest _ _ _).bind fun _ => hnext _ _)
    refine .ite (fun _ => (hrepeat _ _).behind) fun _ => .ite (fun _ => (hrepeat _ _).behind) fun _ =>
      .ite (fun _ => (hrepeat _ _).behind) fun _ => .ite (fun hbrace => ?_) fun _ => .ite (fun hopen => ?_) fun _ => ?_
    · rw [hchar, hbrace]
      exact h.reads_brace first verbose items this.offset
    · rw [hchar, hopen]
      refine .bind (h.group _ _ _ _) fun item => ?_
      split
      · exact hnext _ _
      · exact Safe.bindGet fun s _ => hnext _ _
    · exact .ite (fun _ => (hnext _ _).behind) fun _ => (hnext _ _).behind

theorem group_succ (h : ReadsOn cs n) (first verbose empty : Bool) (start : Nat) :
    Reads cs (At cs ['(']) (Reader.group (n + 1) first verbose empty start) fun _ => At cs [] := by
  have hcontents (verbose : Bool) (capture : Option (Option String)) :
      Safe cs (do return some (← Reader.contents n verbose start capture)) :=
    (h.contents _ _ _).bind fun _ => .pure _
  rw [Reader.group]
  refine .bind reads_takeIf fun mark => ?_
  cases mark with
  | false => exact (hcontents _ _).behind
  | true =>
    refine .bind (Q := fun o => At cs (['(', '?'] ++ taken o))
      (reads_take.mono (fun _ hs => hs) fun _ _ hs => hs) fun o => ?_
    cases o with
    | none => exact .bind reads_offset fun _ => .refuse
    | some t =>
      dsimp only
      refine .ite (fun _ => Safe.behind ?_) fun _ => .ite (fun _ => (hcontents _ _).behind) fun _ =>
        .ite (fun _ => Safe.behind ?_) fun _ => .ite (fun _ => Safe.behind ?_) fun _ =>
        .ite (fun _ => Safe.behind ?_) fun _ => .ite (fun _ => Safe.behind ?_) fun _ =>
        .ite (fun _ => (hcontents _ _).behind) fun _ => .ite (fun hflags => ?_) fun _ =>
        .bind reads_offset fun _ => .refuse
      · -- named groups and references to them
        refine (safe_takeIf _).bind fun b => .ite ?_ ((safe_takeIf _).bind fun b => .ite ?_ ?_)
        · exact (safe_takeName _ _).bind fun name => (safe_guardName name).bind fun _ => hcontents _ _
        · refine (safe_takeName _ _).bind fun name => (safe_guardName name).bind fun _ => safe_offset.bind fun here =>
            .bindGet fun s _ => ?_
          split
          · exact .refuse
          · split
            · exact .refuse
            · exact (safe_guardLookBehind _).bind fun _ => .pure _
        · refine safe_take.bind fun o => ?_
          split <;> exact safe_offset.bind fun _ => .refuse
      · exact .bindGet fun s _ => (safe_skipComment _ _).bind fun _ => .pure _
      · exact (h.alternatives _ _).bind fun b => safe_closed start (.ahead b)
      · -- what looks behind
        have hbody (inside : Bool) : Safe cs (do
            let b ← Reader.alternatives n false verbose
            if inside then modify fun s => { s with lookBehind := none }
            close start
            return some (Item.behind b)) := by
          refine (h.alternatives _ _).bind fun b => .ite ?_ (safe_closed start (.behind b))
          exact Safe.bind (.modify (fun _ => rfl) (fun _ => rfl) fun _ => rfl) fun _ => safe_closed start (.behind b)
        refine safe_take.bind fun o => ?_
        cases o with
        | none => exact safe_offset.bind fun _ => .refuse
        | some u =>
          refine .ite (safe_offset.bind fun _ => .refused) (.bindGet fun s _ => ?_)
          exact .ite (Safe.bind (.modify (fun _ => rfl) (fun _ => rfl) fun _ => rfl) fun _ => hbody _) (hbody _)
      · -- a choice by a group
        have hend (yes no : Body) : Safe cs (do
            let no ← Pure.pure no
            close start
            return some (Item.ofBody (yes.either no))) := (Safe.pure no).bind fun _ => safe_closed start _
        refine safe_condition.bind fun _ => (h.sequence _ _ _).bind fun yes => (safe_takeIf _).bind fun b =>
          .ite ((h.sequence _ _ _).bind fun no => safe_peek.bind fun o => ?_) (hend _ _)
        cases o with
        | none => exact hend _ _
        | some u => exact .ite (safe_offset.bind fun _ => .refused) (hend _ _)
      · -- flags
        have hchar : taken (some t) = [t.char] := by
          rcases Bool.or_eq_true_iff.mp hflags with ht | ht
          · exact taken_of_isIn ht
          · rw [taken_of_isChar ht, beq_iff_eq.mp (Bool.and_eq_true_iff.mp ht).2]
        rw [hchar]
        refine .bind reads_takeFlags fun flags => ?_
        cases flags with
        | whole => exact Safe.ite .refused (.pure _)
        | group on off => exact hcontents _ _

theorem succ (h : ReadsOn cs n) : ReadsOn cs (n + 1) :=
  ⟨h.alternatives_succ, h.moreAlternatives_succ, h.sequence_succ, h.group_succ, h.contents_succ⟩

end ReadsOn

theorem readsOn (cs : List Char) (n : Nat) : ReadsOn cs n := by
  induction n with
  | zero => exact readsOn_zero cs
  | succ n ih => exact ih.succ

theorem safe_guardStep (plain : Bool) (step : Step) : Safe cs (guardStep plain step) := by
  unfold guardStep
  cases step with
  | repetition r => exact .ite .flaw (.pure _)
  | lookBehind w =>
    have hvarying : Safe cs
        (if w.low ≠ w.high then throw (.flaw .varyingLookBehind none) else Pure.pure () : Reader Unit) :=
      .ite .flaw (.pure _)
    exact .ite (Safe.flaw.bind fun _ => hvarying) hvarying

theorem safe_forM {step : α → Reader PUnit} (h : ∀ a, Safe cs (step a)) (as : List α) : Safe cs (as.forM step) := by
  induction as with
  | nil => exact .pure _
  | cons a as ih => exact (h a).bind fun _ => ih

theorem safe_whole : Safe cs whole := by
  have hend (s : State) (b : Body) : Safe cs (do
      if !s.rest.isEmpty then refuse .unbalanced (← offset)
      match s.references.find? fun r => s.groups.length ≤ r.1 with
      | some (group, here) => refuse (.invalidReference group) here
      | none => Pure.pure ()
      b.steps.forM (guardStep s.plain)) := by
    refine .ite (safe_offset.bind fun _ => .refused) ?_
    split
    · exact .refused
    · exact safe_forM (safe_guardStep _) b.steps
  refine Reads.bind reads_guardEnd fun _ => Safe.bindGet fun s _ => ((readsOn cs _).alternatives _ _).bind fun b =>
    Reads.bindGet fun s hs => .ite (fun hflags => ?_) fun _ => (hend s b).mono (fun _ heq => heq ▸ hs) fun _ _ h => h
  obtain ⟨hascii, hwide⟩ := Bool.and_eq_true_iff.mp hflags
  exact .bind (Q := fun _ _ => False) (.fault fun _ _ => .flags (hs.ascii hascii) (hs.wide hwide)) fun _ _ hf => hf.elim

end Reader

/-- The text of the tokens of a pattern is the pattern, but for a lone backslash at its end. -/
theorem spelling_ofChars (n : Nat) (cs : List Char) : spelling (Token.ofChars n cs).1 <+: cs := by
  fun_induction Token.ofChars n cs with
  | case1 => exact List.nil_prefix
  | case2 => exact List.nil_prefix
  | case3 n c cs ts broken heq ih =>
    rw [heq] at ih
    exact (List.prefix_append_right_inj ['\\', c]).mpr ih
  | case4 n c cs _ _ ts broken heq ih =>
    rw [heq] at ih
    exact (List.prefix_append_right_inj [c]).mpr ih

section Infix

variable {text cs : List Char}

theorem Bound.mono {ds : List Char} (h : Bound text ds) (htext : text <:+: cs) : Bound cs ds := by
  cases h with
  | only h => exact .only (h.trans htext)
  | least h => exact .least (h.trans htext)
  | most h => exact .most (h.trans htext)

theorem Flagged.mono {flag : Char} (h : Flagged text flag) (htext : text <:+: cs) : Flagged cs flag := by
  obtain ⟨on, hon, hflag⟩ := h
  exact ⟨on, hon.trans htext, hflag⟩

theorem Excess.mono {f : Fault} (h : Excess text f) (htext : text <:+: cs) : Excess cs f := by
  cases h with
  | digits h hdigits hlength => exact .digits (h.mono htext) hdigits hlength
  | repeats h hdigits hvalue => exact .repeats (h.mono htext) hdigits hvalue
  | code h hletter hdigits hvalue => exact .code (h.trans htext) hletter hdigits hvalue
  | flags ha hu => exact .flags (ha.mono htext) (hu.mono htext)

end Infix

/-- A pattern is right or has a flaw that can be told, unless it asks for more than can be held: a repeat or a character
whose number is too large, or two ways of reading characters at once. -/
theorem excess_of_check {pattern : String} {f : Fault} (h : check pattern = .error (.fault f)) :
    Excess pattern.toList f := by
  have hfault {start : State} (hrun : (Reader.whole.run start).map (fun _ => ()) = .error (.fault f)) :
      Reader.whole start = .error (.fault f) := by
    change (Reader.whole start).map _ = _ at hrun
    cases hwhole : Reader.whole start with
    | ok p => simp [hwhole, Except.map] at hrun
    | error e => simpa [hwhole, Except.map] using hrun
  have hat {start : State} (hrest : start.rest = (Token.ofChars 0 pattern.toList).1) (hascii : start.ascii = false)
      (hwide : start.wide = false) : At (spelling start.rest) [] start :=
    ⟨List.suffix_rfl, fun ha => absurd ha (by simp [hascii]), fun hw => absurd hw (by simp [hwide])⟩
  have hexcess := (Reader.safe_whole _ (hat rfl rfl rfl)).2 f (hfault h)
  exact hexcess.mono (spelling_ofChars 0 pattern.toList).isInfix

end NoteSchema.Pattern
