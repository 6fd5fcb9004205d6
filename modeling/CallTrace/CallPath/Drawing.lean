import CallTrace.CallPath.Node

/-!
# Call trees as text

A line for every call, under the call it leads on from and indented by two blanks more. An upward
call reads `caller -> called name`, a downward one `container -> target`. A question mark stands for
an unknown container and after the name of an unknown target.
-/

namespace CallTrace

/-- Where a call stands. -/
def Identifier.location (identifier : Identifier) : String :=
  match identifier.line with
  | some line => identifier.filePath ++ ":" ++ toString line.toInt
  | none => identifier.filePath

/-- The blanks in front of a line at a level. -/
def levelBlanks (level : Nat) : String :=
  String.ofList (List.replicate (2 * level) ' ')

namespace CallNode

/-- The name of the symbol around a call. -/
def containerLabel (container : Option Symbol) : String :=
  (container.map Symbol.name).getD "?"

/-- The name of what is called. -/
def calledLabel (identifier : Identifier) (target : Option Symbol) : CallDirection → String
  | .upward => identifier.name
  | .downward =>
    match target with
    | some symbol => symbol.name
    | none => identifier.name ++ "?"

mutual

/-- The lines of a tree, indented by so many levels more than the depths of its calls. -/
def lines (offset : Nat) : CallNode → List String
  | ⟨identifier, container, target, depth, direction, children⟩ =>
    (levelBlanks (offset + depth) ++ containerLabel container ++ " -> " ++
      calledLabel identifier target direction ++ "  (" ++ identifier.location ++ ")") ::
        listLines offset children

/-- The lines of some trees. -/
def listLines (offset : Nat) : List CallNode → List String
  | [] => []
  | node :: rest => lines offset node ++ listLines offset rest

end

end CallNode

/-- The text of some lines, each with a line break after it. -/
def joinLines (lines : List String) : String :=
  String.join (lines.map (· ++ "\n"))

/-- The text of some trees. -/
def drawTrees (nodes : List CallNode) : String :=
  joinLines (CallNode.listLines 0 nodes)

namespace CallPath

/-- The lines of one side of a path. -/
def sideLines (nodes : List CallNode) : List String :=
  if nodes.isEmpty then ["  (none)"] else CallNode.listLines 1 nodes

/-- The line of the symbol in the middle of a path. -/
def targetLine (symbol : Symbol) : String :=
  symbol.name ++ " [" ++ symbol.kind.text ++ "] " ++ symbol.filePath ++ ":" ++
    toString symbol.startLine.toInt ++ "-" ++ toString symbol.endLine.toInt

/-- The text of callers and callees. -/
def draw (path : CallPath) : String :=
  joinLines
    ([targetLine path.target, "callers:"] ++ sideLines path.callers ++
      ["callees:"] ++ sideLines path.callees)

end CallPath

end CallTrace
