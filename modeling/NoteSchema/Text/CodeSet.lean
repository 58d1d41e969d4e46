namespace NoteSchema.Text

/-- A set of code points, given by the increasing points at which membership changes. -/
structure CodeSet where
  turns : List Nat

namespace CodeSet

/-- A point lies in the set when an odd number of turns is at or below it. -/
def contains (s : CodeSet) (n : Nat) : Bool :=
  (s.turns.takeWhile (· ≤ n)).length % 2 == 1

end CodeSet

end NoteSchema.Text
