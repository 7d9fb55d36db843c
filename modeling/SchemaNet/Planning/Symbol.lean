/-!
Names of predicates, schemas, parameters and objects, and the identifier of a
ground entity. Names are ordered as strings of code points.
-/

namespace SchemaNet

abbrev Symbol := String

/-- Starts the name of a parameter that is still free, such as `?x`. -/
def freeMark : Char := '?'

def Symbol.isFree (name : Symbol) : Bool :=
  name.toList.head? == some freeMark

/-- The head and the arguments, each argument after one space: `on a b`. -/
def identOf (head : Symbol) (args : List Symbol) : String :=
  args.foldl (fun ident arg => ident ++ " " ++ arg) head

/-- The elements of a list without the later repetitions of a key. -/
def distinctBy {α κ : Type} [DecidableEq κ] (key : α → κ) : List α → List α
  | [] => []
  | x :: rest => x :: (distinctBy key rest).filter fun y => key y ≠ key x

end SchemaNet
