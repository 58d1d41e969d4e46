import NoteSchema.Text.Split

namespace NoteSchema

inductive Opt
  | config
  | base
  | root
  | debug
  | file
  | emitEnums
  | noEmitEnums
  | strict
  | top
  | out
  | mode
  | maxDepth
  | format
deriving DecidableEq, Repr

namespace Opt

def long : Opt → String
  | config => "--config"
  | base => "--base-id"
  | root => "--root"
  | debug => "--debug"
  | file => "--file"
  | emitEnums => "--emit-enums"
  | noEmitEnums => "--no-emit-enums"
  | strict => "--strict"
  | top => "--top"
  | out => "--out"
  | mode => "--mode"
  | maxDepth => "--max-depth"
  | format => "--format"

def letter? : Opt → Option Char
  | config => some 'c'
  | file => some 'f'
  | out => some 'o'
  | mode => some 'm'
  | _ => none

/-- Whether a value follows; every option with a short form has one. -/
def takesValue : Opt → Bool
  | debug | emitEnums | noEmitEnums | strict => false
  | _ => true

end Opt

abbrev Given := List (Opt × String)

namespace Given

def before (o : Opt) (value : String) (rest : Option Given) : Option Given :=
  rest.map ((o, value) :: ·)

/-- Reads arguments that may only be the given options; there is no reading of anything else, nor of
an option that lacks its value or has one too many. -/
def read? (options : List Opt) : List String → Option Given
  | [] => some []
  | arg :: rest =>
    if arg = "--" then if rest = [] then some [] else none
    else
      let (name, value) := Text.cutChars '=' arg.toList
      match options.find? fun o => o.long.toList == name, value, rest with
      | some o, some value, rest =>
        if o.takesValue then before o (String.ofList value) (read? options rest) else none
      | some o, none, [] => if o.takesValue then none else some [(o, "")]
      | some o, none, next :: rest =>
        if o.takesValue then before o next (read? options rest)
        else before o "" (read? options (next :: rest))
      | none, _, rest =>
        match arg.toList with
        | '-' :: '-' :: _ => none
        | '-' :: letter :: value =>
          match options.find? fun o => o.letter? == some letter, value, rest with
          | some o, _ :: _, rest => before o (String.ofList value) (read? options rest)
          | some o, [], next :: rest => before o next (read? options rest)
          | _, _, _ => none
        | _ => none

/-- The value of an option; the one given last counts. -/
def value? (g : Given) (o : Opt) : Option String :=
  (g.reverse.find? fun given => given.1 == o).map (·.2)

def has (g : Given) (o : Opt) : Bool := g.any fun given => given.1 == o

def values (g : Given) (o : Opt) : List String :=
  (g.filter fun given => given.1 == o).map (·.2)

/-- Whether the one or the other of two options was given last. -/
def switch? (g : Given) (on off : Opt) : Option Bool :=
  (g.reverse.find? fun given => given.1 == on || given.1 == off).map (·.1 == on)

end Given

end NoteSchema
