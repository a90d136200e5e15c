/-
  Splitting texts at characters.
-/
namespace Rowgate.Text

/-- The parts of a text between occurrences of `c`. -/
def parts (c : Char) : List Char → List (List Char)
  | [] => [[]]
  | d :: r =>
    match parts c r with
    | [] => [[d]]
    | p :: ps => if d = c then [] :: p :: ps else (d :: p) :: ps

/-- What stands before and after the first `c`, if there is one. -/
def cut? (c : Char) : List Char → Option (List Char × List Char)
  | [] => none
  | d :: r => if d = c then some ([], r) else (cut? c r).map fun (a, b) => (d :: a, b)

/-- `cut?`, with everything before a `c` that is not there. -/
def cut (c : Char) (s : List Char) : List Char × Option (List Char) :=
  match cut? c s with
  | some (a, b) => (a, some b)
  | none => (s, none)

end Rowgate.Text
