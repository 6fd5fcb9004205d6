import CallTrace.Index.Symbol

/-!
# The best implementation

Among symbols of one name, the one that most likely holds the code: the longest that does not lie in
an interface file, when it is more than a signature, and otherwise the longest of all.
-/

namespace CallTrace

/-- The part of a path after its last slash or backslash. -/
def fileName (path : String) : List Char :=
  (path.toList.reverse.takeWhile fun character => character != '/' && character != '\\').reverse

/-- Whether the name of a file looks like that of an interface: a capital `I` before another capital
letter. -/
def isInterfaceFile (path : String) : Bool :=
  match fileName path with
  | 'I' :: second :: _ => Text.isUppercase second
  | _ => false

namespace Symbol

/-- The longer of two symbols, the first of them when they are equally long. -/
def longer (first second : Symbol) : Symbol :=
  if second.lineSpan ≤ first.lineSpan then first else second

/-- The longest of some symbols, the earliest of those when there are several. -/
def longest : List Symbol → Option Symbol
  | [] => none
  | first :: rest => some (rest.foldl longer first)

/-- Declarations that cover fewer lines than this are taken for signatures. -/
def minBodySpan : Int64 := 3

/-- The symbol that most likely holds the code. -/
def bestImplementation (candidates : List Symbol) : Option Symbol :=
  match candidates with
  | [only] => some only
  | _ =>
    match longest (candidates.filter fun symbol => !isInterfaceFile symbol.filePath) with
    | some symbol =>
      if minBodySpan ≤ symbol.lineSpan then some symbol else longest candidates
    | none => longest candidates

end Symbol

end CallTrace
