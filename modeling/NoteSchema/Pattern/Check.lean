import NoteSchema.Number.Decimal
import NoteSchema.Pattern.Escape
import NoteSchema.Text.Identifier

namespace NoteSchema.Pattern

namespace Reader

def findName? (name : String) : List (String × Nat) → Option Nat
  | [] => none
  | (n, group) :: rest => if n = name then some group else findName? name rest

def guardName (name : String) : Reader Unit := do
  if !Text.isIdentifier name then
    refuse (.badGroupName name) ((← offset) - (name.length + 1))

def openGroup (name : Option String) : Reader Nat := do
  let s ← get
  let group := s.groups.length
  set { s with groups := s.groups ++ [none] }
  match name with
  | none => return group
  | some name =>
    match findName? name s.names with
    | some earlier =>
      refuse (.redefinition name group earlier) ((← offset) - (name.length + 1))
    | none =>
      modify fun s => { s with names := s.names ++ [(name, group)] }
      return group

def closeGroup (group : Nat) (w : Width) : Reader Unit :=
  modify fun s => { s with groups := s.groups.set group (some w) }

def groupLimit : Nat := Nat.pow 2 30 - 1

def condition : Reader Nat := do
  let name ← takeName ')' "group name"
  let here := (← offset) - (name.length + 1)
  let group ←
    if Text.isIdentifier name then
      match findName? name (← get).names with
      | some group => pure group
      | none => refuse (.unknownGroup name) here
    else
      match Decimal.whole? name with
      | none => refuse (.badGroupName name) here
      | some n =>
        if n < 0 then refuse (.badGroupName name) here
        else if n = 0 then refuse .groupNumberZero here
        else if groupLimit ≤ n.toNat then refuse (.invalidReference n.toNat) here
        else do
          modify fun s =>
            if s.references.any (·.1 == n.toNat) then s
            else { s with references := s.references ++ [(n.toNat, here)] }
          pure n.toNat
  guardLookBehind group
  return group

/-- The bounds of a repeat in braces: its tokens have been taken up to the closing brace. There are
none if the text is no repeat. -/
def braces (start : Nat) : Reader (Option (Nat × Nat)) := do
  let size := (← get).rest.length
  let low ← takeWhile (·.isDigit) size
  let high ← if ← takeIf ',' then takeWhile (·.isDigit) size else pure low
  if !(← takeIf '\x7d') then return none
  let number (ds : List Char) (standard : Nat) : Reader Nat :=
    if ds.isEmpty then pure standard
    else if Decimal.digitLimit < ds.length then throw (.fault .value)
    else if Width.endless ≤ Decimal.natValue ds then throw (.fault .range)
    else pure (Decimal.natValue ds)
  let least ← number low 0
  let most ← number high Width.endless
  if !high.isEmpty && most < least then refuse .reversedRepeat start
  return some (least, most)

/-- Takes the mark after a repeat that tells how often it repeats. -/
def repetition : Reader Repetition := do
  match ← peek with
  | none => return .greedy
  | some t =>
    if t.isChar '?' then
      let _ ← take
      return .lazy
    else if t.isChar '+' then
      let _ ← take
      return .possessive
    else return .greedy

def repeatLast (start : Nat) (least most : Nat) (items : List Item) : Reader (List Item) :=
  match items with
  | [] => refuse .nothingToRepeat start
  | item :: rest =>
    match item.kind with
    | .place => refuse .nothingToRepeat start
    | .repetition => refuse .multipleRepeat start
    | .other => do
      return item.repeated (← repetition) least most :: rest

def isFlag (t : Token) : Bool := t.isIn "iLmsxatu"

def isLetterToken (t : Token) : Bool :=
  !t.escaped && Text.isAlphabetic t.char

/-- What the flags of a group do: they hold for the whole pattern, or for the group. -/
inductive Flags
  | whole
  | group (verboseOn verboseOff : Bool)
deriving DecidableEq, Repr

/-- Takes flags to be turned on, up to the token after them; `on` holds those before. -/
def takeOn (on : List Char) (flag : Token) : Nat → Reader (List Char × Token)
  | 0 => do refuse (.missing "-, : or )") (← offset)
  | n + 1 => do
    let c := flag.char
    if c = 'L' then refuse .flagForBytes (← offset)
    let on := c :: on
    if (c = 'a' || c = 'u') && on.contains 'a' && on.contains 'u' then
      refuse .incompatibleFlags (← offset)
    match ← take with
    | none => refuse (.missing "-, : or )") (← offset)
    | some t =>
      if t.isIn ")-:" then return (on, t)
      else if isFlag t then takeOn on t n
      else if isLetterToken t then refuse .unknownFlag ((← offset) - t.length)
      else refuse (.missing "-, : or )") ((← offset) - t.length)

/-- Takes flags to be turned off, up to the colon. -/
def takeOff (off : List Char) (flag : Token) : Nat → Reader (List Char)
  | 0 => do refuse (.missing ":") (← offset)
  | n + 1 => do
    let c := flag.char
    if c = 'a' || c = 'u' || c = 'L' then refuse .flagKeptOn (← offset)
    let off := c :: off
    match ← take with
    | none => refuse (.missing ":") (← offset)
    | some t =>
      if t.isChar ':' then return off
      else if isFlag t then takeOff off t n
      else if isLetterToken t then refuse .unknownFlag ((← offset) - t.length)
      else refuse (.missing ":") ((← offset) - t.length)

def takeFlags (first : Token) : Reader Flags := do
  let size := (← get).rest.length + 1
  let (on, stop) ← if first.isChar '-' then pure ([], first) else takeOn [] first size
  if stop.isChar ')' then
    modify fun s => { s with
      verbose := s.verbose || on.contains 'x'
      ascii := s.ascii || on.contains 'a'
      wide := s.wide || on.contains 'u'
      plain := s.plain || on.contains 't' }
    return .whole
  if on.contains 't' then refuse .globalFlagOn ((← offset) - 1)
  let off ←
    if stop.isChar '-' then
      match ← take with
      | none => do refuse (.missing "flag") (← offset)
      | some t =>
        if isFlag t then takeOff [] t size
        else if isLetterToken t then do refuse .unknownFlag ((← offset) - t.length)
        else do refuse (.missing "flag") ((← offset) - t.length)
    else pure []
  if off.contains 't' then refuse .globalFlagOff ((← offset) - 1)
  if on.any off.contains then refuse .flagOnAndOff ((← offset) - 1)
  return .group (on.contains 'x') (off.contains 'x')

def skipLine : Nat → Reader Unit
  | 0 => return
  | n + 1 => do
    match ← take with
    | none => return
    | some t => if t.isChar '\n' then return else skipLine n

def skipComment (start : Nat) : Nat → Reader Unit
  | 0 => refuse .openComment start
  | n + 1 => do
    match ← take with
    | none => refuse .openComment start
    | some t => if t.isChar ')' then return else skipComment start n

def close (start : Nat) : Reader Unit := do
  if !(← takeIf ')') then refuse .openGroup start

mutual
/-- Reads alternatives. Outside all groups, `outer`, flags for the whole pattern may stand first. -/
def alternatives : Nat → Bool → Bool → Reader Body
  | 0, _, _ => return .empty
  | budget + 1, outer, verbose => do
    let items ← sequence budget outer verbose []
    moreAlternatives budget outer verbose (.ofItems items)

def moreAlternatives : Nat → Bool → Bool → Body → Reader Body
  | 0, _, _, b => return b
  | budget + 1, outer, verbose, b => do
    if ← takeIf '|' then
      let verbose ← if outer then pure (← get).verbose else pure verbose
      let items ← sequence budget false verbose []
      moreAlternatives budget outer verbose (b.either (.ofItems items))
    else return b

/-- Reads items onto `items`, the last one first, up to a bar, a closing parenthesis or the end. -/
def sequence : Nat → Bool → Bool → List Item → Reader (List Item)
  | 0, _, _, items => return items
  | budget + 1, first, verbose, items => do
    match ← peek with
    | none => return items
    | some this =>
      if this.isIn "|)" then return items
      let _ ← take
      if verbose && this.isIn " \t\n\r\x0b\x0c" then sequence budget first verbose items
      else if verbose && this.isChar '#' then
        skipLine ((← get).rest.length + 1)
        sequence budget first verbose items
      else if this.escaped then
        let item ← escapeItem this.char
        sequence budget first verbose (item :: items)
      else if this.char = '[' then
        let _ ← takeIf '^'
        setRest this.offset true ((← get).rest.length + 1)
        sequence budget first verbose (.one :: items)
      else if this.char = '?' then
        sequence budget first verbose (← repeatLast this.offset 0 1 items)
      else if this.char = '*' then
        sequence budget first verbose (← repeatLast this.offset 0 Width.endless items)
      else if this.char = '+' then
        sequence budget first verbose (← repeatLast this.offset 1 Width.endless items)
      else if this.char = '\x7b' then
        match ← peek with
        | some next =>
          if next.isChar '\x7d' then sequence budget first verbose (.one :: items)
          else
            let s ← get
            match ← braces next.offset with
            | some (least, most) =>
              sequence budget first verbose (← repeatLast this.offset least most items)
            | none =>
              modify fun now => { now with rest := s.rest }
              sequence budget first verbose (.one :: items)
        | none => sequence budget first verbose (.one :: items)
      else if this.char = '(' then
        match ← group budget first verbose items.isEmpty this.offset with
        | some item => sequence budget first verbose (item :: items)
        | none => sequence budget first (verbose || (first && (← get).verbose)) items
      else if this.isIn "^$" then sequence budget first verbose (.place :: items)
      else sequence budget first verbose (.one :: items)

/-- Reads what follows an opening parenthesis at `start`; comments and flags for the whole pattern are
no items. -/
def group : Nat → Bool → Bool → Bool → Nat → Reader (Option Item)
  | 0, _, _, _, _ => return none
  | budget + 1, first, verbose, empty, start => do
    if !(← takeIf '?') then
      return some (← contents budget verbose start (some none))
    match ← take with
    | none => do refuse .unexpectedEnd (← offset)
    | some t =>
      if t.isChar 'P' then
        if ← takeIf '<' then
          let name ← takeName '>' "group name"
          guardName name
          return some (← contents budget verbose start (some (some name)))
        else if ← takeIf '=' then
          let name ← takeName ')' "group name"
          guardName name
          let here := (← offset) - (name.length + 1)
          let s ← get
          match findName? name s.names with
          | none => refuse (.unknownGroup name) here
          | some g =>
            match closedGroup? s g with
            | none => refuse .openGroupReference here
            | some w => do
              guardLookBehind g
              return some (.ofBody ⟨w, []⟩)
        else
          match ← take with
          | none => do refuse .unexpectedEnd (← offset)
          | some u => do refuse (.unknownExtension ("P" ++ u.text)) ((← offset) - (u.length + 2))
      else if t.isChar ':' then return some (← contents budget verbose start none)
      else if t.isChar '#' then
        skipComment start ((← get).rest.length + 1)
        return none
      else if t.isIn "=!" then
        let b ← alternatives budget false verbose
        close start
        return some (.ahead b)
      else if t.isChar '<' then
        match ← take with
        | none => do refuse .unexpectedEnd (← offset)
        | some u =>
          if !u.isIn "=!" then
            refuse (.unknownExtension ("<" ++ u.text)) ((← offset) - (u.length + 2))
          let s ← get
          if s.lookBehind.isNone then
            modify fun s => { s with lookBehind := some s.groups.length }
          let b ← alternatives budget false verbose
          if s.lookBehind.isNone then modify fun s => { s with lookBehind := none }
          close start
          return some (.behind b)
      else if t.isChar '(' then
        let _ ← condition
        let yes := Body.ofItems (← sequence budget false verbose [])
        let no ←
          if ← takeIf '|' then
            let b := Body.ofItems (← sequence budget false verbose [])
            match ← peek with
            | some u => if u.isChar '|' then refuse .tooManyBranches (← offset)
            | none => pure ()
            pure b
          else pure .empty
        close start
        return some (.ofBody (yes.either no))
      else if t.isChar '>' then return some (← contents budget verbose start none)
      else if isFlag t || t.isChar '-' then
        match ← takeFlags t with
        | .whole =>
          if !first || !empty then refuse .lateFlags start
          return none
        | .group on off =>
          return some (← contents budget ((verbose || on) && !off) start none)
      else do refuse (.unknownExtension t.text) ((← offset) - t.length - 1)

/-- Reads the contents of a group and its end; a capturing group has a number and may have a name. -/
def contents : Nat → Bool → Nat → Option (Option String) → Reader Item
  | 0, _, _, _ => return .ofBody .empty
  | budget + 1, verbose, start, capture => do
    let number ←
      match capture with
      | some name => some <$> openGroup name
      | none => pure none
    let b ← alternatives budget false verbose
    close start
    match number with
    | some n => closeGroup n b.width
    | none => pure ()
    return .ofBody b
end

/-- The greatest distance that a look-behind may bridge. -/
def reach : Nat := Nat.pow 2 32 - 1

/-- A step of a pattern that has been read: a plain one has no repetitions, and a look-behind looks for
texts of one length within reach. -/
def guardStep (plain : Bool) : Step → Reader Unit
  | .repetition r => do
    if plain then throw (.flaw (.barredRepetition r) none)
  | .lookBehind w => do
    if reach < w.low then throw (.flaw .farLookBehind none)
    if w.low ≠ w.high then throw (.flaw .varyingLookBehind none)

def whole : Reader Unit := do
  guardEnd
  let b ← alternatives (4 * (← get).rest.length + 8) true false
  let s ← get
  if s.ascii && s.wide then throw (.fault .value)
  if !s.rest.isEmpty then refuse .unbalanced (← offset)
  match s.references.find? fun r => s.groups.length ≤ r.1 with
  | some (group, here) => refuse (.invalidReference group) here
  | none => pure ()
  b.steps.forM (guardStep s.plain)

end Reader

def check (pattern : String) : Except Refusal Unit :=
  let cs := pattern.toList
  let (rest, broken) := Token.ofChars 0 cs
  let start : State :=
    { rest, broken, size := cs.length, groups := [none], names := [], lookBehind := none,
      references := [], verbose := false, ascii := false, wide := false, plain := false }
  (Reader.whole.run start).map fun _ => ()

def flawText (f : Flaw) : Option Nat → String
  | some offset => f.message ++ " at position " ++ Decimal.natText offset
  | none => f.message

end NoteSchema.Pattern
