import NoteSchema.Noted
import NoteSchema.Number.Decimal
import NoteSchema.Text.Quoted

namespace NoteSchema.Pattern

/-- A character of a pattern, or a backslash and the character after it, with its offset. -/
structure Token where
  offset : Nat
  escaped : Bool
  char : Char
deriving DecidableEq, Repr

namespace Token

def text (t : Token) : String :=
  if t.escaped then String.ofList ['\\', t.char] else String.ofList [t.char]

def length (t : Token) : Nat := if t.escaped then 2 else 1

/-- Whether a token is the given character, not escaped. -/
def isChar (t : Token) (c : Char) : Bool := !t.escaped && t.char == c

/-- Whether a token is one of the given characters, not escaped. -/
def isIn (t : Token) (cs : String) : Bool := !t.escaped && cs.toList.contains t.char

/-- The tokens of a pattern and whether a backslash without a character ends it. -/
def ofChars : Nat → List Char → List Token × Bool
  | _, [] => ([], false)
  | _, ['\\'] => ([], true)
  | n, '\\' :: c :: cs =>
    let (ts, broken) := ofChars (n + 2) cs
    (⟨n, true, c⟩ :: ts, broken)
  | n, c :: cs =>
    let (ts, broken) := ofChars (n + 1) cs
    (⟨n, false, c⟩ :: ts, broken)

end Token

/-- How often a piece is taken when it may be repeated: as often as possible, as rarely as possible, or as
often as possible once for all. -/
inductive Repetition
  | greedy
  | lazy
  | possessive
deriving DecidableEq, Repr

def Repetition.operator : Repetition → String
  | greedy => "MAX_REPEAT"
  | lazy => "MIN_REPEAT"
  | possessive => "POSSESSIVE_REPEAT"

/-- What is wrong with a pattern. -/
inductive Flaw
  | brokenEscape
  | badEscape (escape : String)
  | incompleteEscape (escape : String)
  | octalRange (escape : String)
  | missing (what : String)
  | missingEnd (terminator : Char)
  | unknownName (name : String)
  | openSet
  | badRange (low high : String)
  | nothingToRepeat
  | multipleRepeat
  | reversedRepeat
  | unexpectedEnd
  | unknownExtension (text : String)
  | badGroupName (name : String)
  | unknownGroup (name : String)
  | openGroupReference
  | lookBehindReference
  | invalidReference (group : Nat)
  | groupNumberZero
  | redefinition (name : String) (group earlier : Nat)
  | tooManyBranches
  | openGroup
  | openComment
  | lateFlags
  | unknownFlag
  | flagForBytes
  | incompatibleFlags
  | flagKeptOn
  | flagOnAndOff
  | globalFlagOn
  | globalFlagOff
  | unbalanced
  | varyingLookBehind
  | farLookBehind
  | barredRepetition (r : Repetition)
deriving DecidableEq, Repr

namespace Flaw

def message : Flaw → String
  | brokenEscape => "bad escape (end of pattern)"
  | badEscape escape => "bad escape " ++ escape
  | incompleteEscape escape => "incomplete escape " ++ escape
  | octalRange escape => "octal escape value " ++ escape ++ " outside of range 0-0o377"
  | missing what => "missing " ++ what
  | missingEnd terminator => "missing " ++ String.ofList [terminator] ++ ", unterminated name"
  | unknownName name => "undefined character name " ++ Text.literal name
  | openSet => "unterminated character set"
  | badRange low high => "bad character range " ++ low ++ "-" ++ high
  | nothingToRepeat => "nothing to repeat"
  | multipleRepeat => "multiple repeat"
  | reversedRepeat => "min repeat greater than max repeat"
  | unexpectedEnd => "unexpected end of pattern"
  | unknownExtension text => "unknown extension ?" ++ text
  | badGroupName name => "bad character in group name " ++ Text.literal name
  | unknownGroup name => "unknown group name " ++ Text.literal name
  | openGroupReference => "cannot refer to an open group"
  | lookBehindReference => "cannot refer to group defined in the same lookbehind subpattern"
  | invalidReference group => "invalid group reference " ++ Decimal.natText group
  | groupNumberZero => "bad group number"
  | redefinition name group earlier =>
    "redefinition of group name " ++ Text.literal name ++ " as group " ++ Decimal.natText group ++
      "; was group " ++ Decimal.natText earlier
  | tooManyBranches => "conditional backref with more than two branches"
  | openGroup => "missing ), unterminated subpattern"
  | openComment => "missing ), unterminated comment"
  | lateFlags => "global flags not at the start of the expression"
  | unknownFlag => "unknown flag"
  | flagForBytes => "bad inline flags: cannot use 'L' flag with a str pattern"
  | incompatibleFlags => "bad inline flags: flags 'a', 'u' and 'L' are incompatible"
  | flagKeptOn => "bad inline flags: cannot turn off flags 'a', 'u' and 'L'"
  | flagOnAndOff => "bad inline flags: flag turned on and off"
  | globalFlagOn => "bad inline flags: cannot turn on global flag"
  | globalFlagOff => "bad inline flags: cannot turn off global flag"
  | unbalanced => "unbalanced parenthesis"
  | varyingLookBehind => "look-behind requires fixed-width pattern"
  | farLookBehind => "looks too much behind"
  | barredRepetition r => "internal: unsupported template operator " ++ r.operator

end Flaw

/-- Why a pattern is refused: a flaw, with its offset where it has one, or a value that the reading
cannot hold. -/
inductive Refusal
  | flaw (f : Flaw) (offset : Option Nat)
  | fault (f : Fault)
deriving DecidableEq, Repr

end NoteSchema.Pattern
