import NoteSchema.Json.Basic
import NoteSchema.Text.Split

namespace NoteSchema.Json.Pointer

/-- A token with `~` and `/` escaped. -/
def escapeChars : List Char → List Char
  | [] => []
  | '~' :: cs => '~' :: '0' :: escapeChars cs
  | '/' :: cs => '~' :: '1' :: escapeChars cs
  | c :: cs => c :: escapeChars cs

/-- Writes `/` for every `~1`. -/
def restoreSlashes : List Char → List Char
  | [] => []
  | '~' :: '1' :: cs => '/' :: restoreSlashes cs
  | c :: cs => c :: restoreSlashes cs

/-- Writes `~` for every `~0`. -/
def restoreTildes : List Char → List Char
  | [] => []
  | '~' :: '0' :: cs => '~' :: restoreTildes cs
  | c :: cs => c :: restoreTildes cs

def escape (token : String) : String := String.ofList (escapeChars token.toList)

def unescapeChars (cs : List Char) : List Char := restoreTildes (restoreSlashes cs)

def unescape (token : String) : String := String.ofList (unescapeChars token.toList)

/-- The tokens of a fragment; any number of slashes may lead it. -/
def tokens (fragment : String) : List String :=
  if fragment = "" then []
  else
    (Text.splitChars '/' (fragment.toList.dropWhile (· == '/'))).map fun cs =>
      String.ofList (unescapeChars cs)

/-- Why a pointer addresses nothing: a token leads nowhere, or a token of digits is no index. -/
inductive Failure
  | nowhere (token : String)
  | badIndex (token : String)
deriving DecidableEq, Repr

/-- The index that a token of digits names. -/
def index? (token : String) : Option Nat :=
  if token.toList.all Text.isDigit && token.toList.length ≤ Decimal.digitLimit then
    some (Decimal.natValue token.toList)
  else none

def isIndexToken (token : String) : Bool :=
  token != "" && token.toList.all Text.isDigitLike

/-- The value that one token leads to. -/
def step (v : Document) (token : String) : Except Failure Document :=
  match v with
  | .obj members =>
    match Members.find? token members with
    | some w => .ok w
    | none => .error (.nowhere token)
  | .arr items =>
    if isIndexToken token then
      match index? token with
      | none => .error (.badIndex token)
      | some i =>
        match items[i]? with
        | some w => .ok w
        | none => .error (.nowhere token)
    else .error (.nowhere token)
  | _ => .error (.nowhere token)

/-- The value at the end of a path of tokens. -/
def follow (v : Document) : List String → Except Failure Document
  | [] => .ok v
  | token :: rest =>
    match step v token with
    | .ok w => follow w rest
    | .error e => .error e

/-- The value that a fragment addresses. -/
def resolve (v : Document) (fragment : String) : Except Failure Document :=
  follow v (tokens fragment)

def Failure.message (fragment : String) : Failure → String
  | .nowhere token | .badIndex token =>
    "Pointer #" ++ fragment ++ " does not resolve at '" ++ token ++ "'"

end NoteSchema.Json.Pointer
