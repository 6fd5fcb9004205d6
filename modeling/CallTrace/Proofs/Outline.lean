import CallTrace.CallPath.Drawing
import CallTrace.Proofs.EveryNode
import CallTrace.Proofs.Levels
import CallTrace.Proofs.SingleLine

/-!
# Outlines of call trees

A drawing of call trees has a line for every node, in preorder, and the blanks in front of a line
tell the depth of its node. Since nodes have the depth of the level at which they are nested, the
lines tell how the nodes are nested: trees that are drawn alike have the same shape. All this
presumes that names hold no line break and that the names of symbols do not begin with a blank.
-/

namespace CallTrace

/-! ## Lines of a text -/

namespace Text

/-- The lines of a text. What follows the last line break is a line unless it is empty. -/
def lines (text : String) : List String :=
  let parts := split '\n' text.toList
  let whole := if parts.getLast? = some [] then parts.dropLast else parts
  whole.map String.ofList

/-- The number of blanks at the beginning of a line. -/
def leadingBlanks (line : String) : Nat :=
  (line.toList.takeWhile (· == ' ')).length

end Text

theorem lines_joinLines {lines : List String} (single : ∀ line ∈ lines, IsSingleLine line) :
    Text.lines (joinLines lines) = lines := by
  rw [Text.lines, joinLines, split_join_lines single]
  simp

/-- The text begins with something else than a blank. -/
def Text.StartsFilled (text : String) : Prop :=
  ∃ first rest, text.toList = first :: rest ∧ first ≠ ' '

namespace Text.StartsFilled

variable {text : String}

theorem of_head? (nonempty : text ≠ "") (notBlank : text.toList.head? ≠ some ' ') :
    StartsFilled text := by
  obtain ⟨first, rest, starts⟩ : ∃ first rest, text.toList = first :: rest :=
    List.exists_cons_of_ne_nil (by simpa using nonempty)
  exact ⟨first, rest, starts, by simpa [starts] using notBlank⟩

theorem append (filled : StartsFilled text) (later : String) : StartsFilled (text ++ later) := by
  obtain ⟨first, rest, starts, notBlank⟩ := filled
  exact ⟨first, rest ++ later.toList, by rw [String.toList_append, starts, List.cons_append],
    notBlank⟩

theorem leadingBlanks_levelBlanks (filled : StartsFilled text) (level : Nat) :
    leadingBlanks (levelBlanks level ++ text) = 2 * level := by
  obtain ⟨first, rest, starts, notBlank⟩ := filled
  rw [leadingBlanks, levelBlanks, String.toList_append, String.toList_ofList, starts,
    List.takeWhile_append_of_pos (by simp)]
  simp [notBlank]

end Text.StartsFilled

/-! ## Symbols and identifiers that fit on lines -/

/-- A symbol of which nothing breaks a line, and whose name begins with something else than a
blank. -/
structure Symbol.IsPlain (symbol : Symbol) : Prop where
  /-- The name has no line break. -/
  name : IsSingleLine symbol.name
  /-- The kind has none. -/
  kind : IsSingleLine symbol.kind.text
  /-- The file has none. -/
  filePath : IsSingleLine symbol.filePath
  /-- The name is not empty. -/
  nonempty : symbol.name ≠ ""
  /-- It does not begin with a blank. -/
  notBlank : symbol.name.toList.head? ≠ some ' '

instance : DecidablePred Symbol.IsPlain := fun symbol =>
  decidable_of_iff
    (IsSingleLine symbol.name ∧ IsSingleLine symbol.kind.text ∧ IsSingleLine symbol.filePath ∧
      symbol.name ≠ "" ∧ symbol.name.toList.head? ≠ some ' ')
    ⟨fun ⟨name, kind, filePath, nonempty, notBlank⟩ => ⟨name, kind, filePath, nonempty, notBlank⟩,
      fun ⟨name, kind, filePath, nonempty, notBlank⟩ => ⟨name, kind, filePath, nonempty, notBlank⟩⟩

/-- An identifier of which nothing breaks a line. -/
structure Identifier.IsPlain (identifier : Identifier) : Prop where
  /-- The name has no line break. -/
  name : IsSingleLine identifier.name
  /-- The kind has none. -/
  kind : IsSingleLine identifier.kind.text
  /-- The file has none. -/
  filePath : IsSingleLine identifier.filePath

instance : DecidablePred Identifier.IsPlain := fun identifier =>
  decidable_of_iff
    (IsSingleLine identifier.name ∧ IsSingleLine identifier.kind.text ∧
      IsSingleLine identifier.filePath)
    ⟨fun ⟨name, kind, filePath⟩ => ⟨name, kind, filePath⟩,
      fun ⟨name, kind, filePath⟩ => ⟨name, kind, filePath⟩⟩

/-- All symbols or identifiers of an answer are plain. -/
def Query.IsPlain : (query : Query) → query.Answer → Prop
  | .allSymbols, symbols => ∀ symbol ∈ symbols, symbol.IsPlain
  | .identifiersNamed _ _, found => ∀ identifier ∈ found, identifier.IsPlain
  | .identifiersWithin _, found => ∀ identifier ∈ found, identifier.IsPlain

/-- All symbols and identifiers of a store are plain. -/
def Conditions.ArePlain {ε : Type} (conditions : Conditions ε) : Prop :=
  ∀ asked query answer, conditions.answer asked query = .ok answer → query.IsPlain answer

theorem IndexDocument.isPlain_answer {document : IndexDocument}
    (symbols : ∀ symbol ∈ document.symbols, symbol.IsPlain)
    (identifiers : ∀ identifier ∈ document.identifiers, identifier.IsPlain) (query : Query) :
    query.IsPlain (document.answer query) := by
  cases query with
  | allSymbols => exact symbols
  | identifiersNamed name caseSensitive =>
      exact fun identifier isFound => identifiers identifier (List.mem_of_mem_filter isFound)
  | identifiersWithin id =>
      exact fun identifier isFound => identifiers identifier (List.mem_of_mem_filter isFound)

theorem Identifier.IsPlain.isSingleLine_location {identifier : Identifier}
    (plain : identifier.IsPlain) : IsSingleLine identifier.location := by
  rw [location]
  split
  · exact (plain.filePath.append (by decide)).append (.ofInt _)
  · exact plain.filePath

namespace CallNode

/-- A node that is made of plain symbols and a plain identifier. -/
structure IsPlain (node : CallNode) : Prop where
  /-- The call. -/
  identifier : node.identifier.IsPlain
  /-- The symbol around it. -/
  container : ∀ symbol, node.container = some symbol → symbol.IsPlain
  /-- The symbol that it refers to. -/
  target : ∀ symbol, node.target = some symbol → symbol.IsPlain

/-- What is drawn of a node, without the blanks in front. -/
def label (node : CallNode) : String :=
  containerLabel node.container ++ (" -> " ++
    (calledLabel node.identifier node.target node.direction ++
      ("  (" ++ (node.identifier.location ++ ")"))))

/-- The line of a node. -/
def line (offset : Nat) (node : CallNode) : String :=
  levelBlanks (offset + node.depth) ++ node.label

theorem lines_eq (offset : Nat) (node : CallNode) :
    lines offset node = node.line offset :: listLines offset node.children := by
  cases node
  simp only [lines, line, label, String.append_assoc]

/-- Trees are drawn node by node, in preorder. -/
theorem listLines_eq_map (offset : Nat) (trees : List CallNode) :
    listLines offset trees = (inPreorder trees).map (line offset) := by
  induction trees using forestInduction with
  | nil => rfl
  | cons node rest below beside =>
      rw [listLines, lines_eq, below, beside, inPreorder_cons, List.map_cons, List.map_append,
        List.cons_append]

variable {node : CallNode}

theorem IsPlain.isSingleLine_containerLabel (plain : node.IsPlain) :
    IsSingleLine (containerLabel node.container) := by
  cases around : node.container with
  | none => decide
  | some symbol => exact (plain.container symbol around).name

theorem IsPlain.isSingleLine_calledLabel (plain : node.IsPlain) :
    IsSingleLine (calledLabel node.identifier node.target node.direction) := by
  rw [calledLabel.eq_def]
  split
  · exact plain.identifier.name
  · split
    · rename_i symbol refers
      exact (plain.target symbol refers).name
    · exact plain.identifier.name.append (by decide)

theorem IsPlain.isSingleLine_line (plain : node.IsPlain) (offset : Nat) :
    IsSingleLine (node.line offset) := by
  have blanks : IsSingleLine (levelBlanks (offset + node.depth)) :=
    .ofList fun member => absurd (List.eq_of_mem_replicate member) (by decide)
  have location : IsSingleLine (node.identifier.location ++ ")") :=
    plain.identifier.isSingleLine_location.append (by decide)
  have called := plain.isSingleLine_calledLabel.append (.append (by decide : IsSingleLine "  (") location)
  exact blanks.append (plain.isSingleLine_containerLabel.append
    (.append (by decide : IsSingleLine " -> ") called))

theorem IsPlain.leadingBlanks_line (plain : node.IsPlain) (offset : Nat) :
    Text.leadingBlanks (node.line offset) = 2 * (offset + node.depth) := by
  have filled : Text.StartsFilled (containerLabel node.container) := by
    cases around : node.container with
    | none => exact ⟨'?', [], rfl, by decide⟩
    | some symbol =>
        have symbolPlain := plain.container symbol around
        exact .of_head? symbolPlain.nonempty symbolPlain.notBlank
  exact (filled.append _).leadingBlanks_levelBlanks _

/-! ## Shapes -/

/-- Two lists of trees have the same shape: they are nested in the same way. -/
inductive SameShape : List CallNode → List CallNode → Prop where
  /-- There is no tree. -/
  | nil : SameShape [] []
  /-- The trees under the first nodes have the same shape, and so have the other trees. -/
  | cons {node other : CallNode} {rest later : List CallNode}
      (below : SameShape node.children other.children) (beside : SameShape rest later) :
      SameShape (node :: rest) (other :: later)

/-- The depths of the nodes of some trees, in preorder. -/
def depths (trees : List CallNode) : List Nat :=
  (inPreorder trees).map CallNode.depth

theorem depths_cons (node : CallNode) (rest : List CallNode) :
    depths (node :: rest) = node.depth :: (depths node.children ++ depths rest) := by
  rw [depths, inPreorder_cons, List.map_cons, List.map_append, depths, depths]

variable {maxDepth level : Nat}

theorem AreLevelled.of_cons {rest : List CallNode}
    (levelled : AreLevelled maxDepth level (node :: rest)) :
    node.depth = level ∧ AreLevelled maxDepth (level + 1) node.children ∧
      AreLevelled maxDepth level rest := by
  obtain ⟨first, others⟩ := List.forall_mem_cons.mp levelled
  cases first with
  | intro _ _ below => exact ⟨rfl, below, others⟩

/-- Every node has as many nodes above it as its depth tells. -/
theorem AreLevelled.depth_eq_length {trees : List CallNode}
    (levelled : AreLevelled maxDepth level trees) {above : List CallNode}
    (isLevel : above.length = level) :
    ∀ entry ∈ preorderAll above trees, entry.1.depth = entry.2.length := by
  induction trees using forestInduction generalizing level above with
  | nil => exact fun _ member => absurd member List.not_mem_nil
  | cons node rest below beside =>
      obtain ⟨isDepth, under, others⟩ := levelled.of_cons
      rw [preorderAll, preorder_eq, List.cons_append, List.forall_mem_cons, List.forall_mem_append]
      exact ⟨isDepth.trans isLevel.symm, below under (by rw [List.length_cons, isLevel]),
        beside others isLevel⟩

theorem AreLevelled.le_of_mem_depths {trees : List CallNode}
    (levelled : AreLevelled maxDepth level trees) : ∀ depth ∈ depths trees, level ≤ depth := by
  induction trees using forestInduction generalizing level with
  | nil => exact fun _ member => absurd member List.not_mem_nil
  | cons node rest below beside =>
      obtain ⟨isDepth, under, others⟩ := levelled.of_cons
      rw [depths_cons, List.forall_mem_cons, List.forall_mem_append]
      exact ⟨isDepth.ge, fun depth isUnder => Nat.le_of_succ_le (below under depth isUnder),
        beside others⟩

/-- The depths under a node end where a depth is that of the node again. -/
theorem takeWhile_depths {under beside : List CallNode} {otherDepth : Nat}
    (levelledUnder : AreLevelled maxDepth (level + 1) under)
    (levelledBeside : AreLevelled otherDepth level beside) :
    (depths under ++ depths beside).takeWhile (level < ·) = depths under := by
  have deeper : ∀ depth ∈ depths under, decide (level < depth) = true := fun depth isUnder =>
    decide_eq_true (levelledUnder.le_of_mem_depths depth isUnder)
  rw [List.takeWhile_append_of_pos deeper]
  cases beside with
  | nil => simp [depths]
  | cons node rest => simp [depths_cons, levelledBeside.of_cons.1]

/-- The depths of the nodes determine how the nodes are nested. -/
theorem sameShape_of_depths {trees others : List CallNode} {otherDepth : Nat}
    (first : AreLevelled maxDepth level trees) (second : AreLevelled otherDepth level others)
    (same : depths trees = depths others) : SameShape trees others := by
  induction trees using forestInduction generalizing level others with
  | nil =>
      cases others with
      | nil => exact .nil
      | cons other later => simp [depths] at same
  | cons node rest below beside =>
      cases others with
      | nil => simp [depths] at same
      | cons other later =>
          obtain ⟨-, firstUnder, firstBeside⟩ := first.of_cons
          obtain ⟨-, secondUnder, secondBeside⟩ := second.of_cons
          rw [depths_cons, depths_cons] at same
          -- The nodes under the first one end where its own depth comes again, or at the end.
          have sameRest := (List.cons.inj same).2
          have sameUnder : depths node.children = depths other.children := by
            rw [← takeWhile_depths firstUnder firstBeside,
              ← takeWhile_depths secondUnder secondBeside, sameRest]
          rw [sameUnder] at sameRest
          exact .cons (below firstUnder secondUnder sameUnder)
            (beside firstBeside secondBeside (List.append_cancel_left sameRest))

end CallNode

/-! ## Outlines -/

open CallNode

/-- A text that has a line for every node of some trees. -/
structure IsOutline (drawing : String) (trees : List CallNode) : Prop where
  /-- The lines are those of the nodes, in preorder. -/
  lines_eq : Text.lines drawing = (inPreorder trees).map (CallNode.line 0)
  /-- The depth of a node tells how many nodes are above it. -/
  nested : ∀ entry ∈ preorderAll [] trees, entry.1.depth = entry.2.length
  /-- The blanks in front of a line tell the depth of its node. -/
  blanks : ∀ node ∈ inPreorder trees, Text.leadingBlanks (node.line 0) = 2 * node.depth

/-- Two outlines that are the same text are outlines of nodes of the same depths. -/
theorem IsOutline.depths_eq {drawing : String} {trees others : List CallNode}
    (first : IsOutline drawing trees) (second : IsOutline drawing others) :
    depths trees = depths others := by
  have blanks {nodes : List CallNode} (outline : IsOutline drawing nodes) :
      (Text.lines drawing).map Text.leadingBlanks = (depths nodes).map (2 * ·) := by
    rw [outline.lines_eq, depths, List.map_map, List.map_map]
    exact List.map_congr_left outline.blanks
  have apart : Function.Injective (2 * · : Nat → Nat) := fun _ _ doubled =>
    Nat.eq_of_mul_eq_mul_left Nat.two_pos doubled
  exact List.map_injective_iff.mpr apart ((blanks first).symm.trans (blanks second))

/-- Trees of plain nodes that stand at their levels. -/
structure AreOutlined (trees : List CallNode) : Prop where
  /-- Every node is plain. -/
  plain : HoldsThroughout CallNode.IsPlain trees
  /-- The roots have depth zero, and other nodes the depth of their level. -/
  levelled : ∃ maxDepth, AreLevelled maxDepth 0 trees

namespace AreOutlined

variable {trees others : List CallNode}

theorem isSingleLine_of_mem (outlined : AreOutlined trees) (offset : Nat) :
    ∀ line ∈ listLines offset trees, IsSingleLine line := by
  rw [listLines_eq_map]
  exact List.forall_mem_map.mpr fun node isNode =>
    (outlined.plain node isNode).isSingleLine_line offset

theorem isOutline_drawTrees (outlined : AreOutlined trees) : IsOutline (drawTrees trees) trees where
  lines_eq := by
    rw [drawTrees, lines_joinLines (outlined.isSingleLine_of_mem 0), listLines_eq_map]
  nested := by
    obtain ⟨_, levelled⟩ := outlined.levelled
    exact levelled.depth_eq_length rfl
  blanks node isNode := by
    rw [(outlined.plain node isNode).leadingBlanks_line, Nat.zero_add]

/-- What is drawn alike has the same shape. -/
theorem sameShape (first : AreOutlined trees) (second : AreOutlined others)
    (same : drawTrees trees = drawTrees others) : SameShape trees others := by
  obtain ⟨_, levelled⟩ := first.levelled
  obtain ⟨_, othersLevelled⟩ := second.levelled
  have outline := second.isOutline_drawTrees
  rw [← same] at outline
  exact sameShape_of_depths levelled othersLevelled
    (first.isOutline_drawTrees.depths_eq outline)

end AreOutlined

namespace CallPath

/-- The lines of one side of a drawn path. -/
def outlineSide (trees : List CallNode) : List String :=
  if trees = [] then ["  (none)"] else (inPreorder trees).map (CallNode.line 1)

theorem sideLines_eq_outlineSide (trees : List CallNode) : sideLines trees = outlineSide trees := by
  simp only [sideLines, outlineSide, List.isEmpty_iff, listLines_eq_map]

theorem length_outlineSide (trees : List CallNode) :
    (outlineSide trees).length = (inPreorder trees).length + if trees = [] then 1 else 0 := by
  cases trees <;> simp [outlineSide]

theorem isSingleLine_targetLine {symbol : Symbol} (plain : symbol.IsPlain) :
    IsSingleLine (targetLine symbol) := by
  have lines := (IsSingleLine.ofInt symbol.startLine.toInt).append
    (.append (by decide : IsSingleLine "-") (.ofInt symbol.endLine.toInt))
  have location := plain.filePath.append (.append (by decide : IsSingleLine ":") lines)
  have called := plain.kind.append (.append (by decide : IsSingleLine "] ") location)
  simpa only [targetLine, String.append_assoc] using
    plain.name.append (.append (by decide : IsSingleLine " [") called)

theorem isSingleLine_of_mem_sideLines {trees : List CallNode} (outlined : AreOutlined trees) :
    ∀ line ∈ sideLines trees, IsSingleLine line := by
  rw [sideLines]
  split
  · decide
  · exact outlined.isSingleLine_of_mem 1

/-- A path that is drawn as the symbol in the middle and the outlines of both sides. -/
structure IsOutlined (path : CallPath) : Prop where
  /-- Both sides stand under their headings. -/
  lines_eq : Text.lines path.draw =
    [targetLine path.target, "callers:"] ++ outlineSide path.callers ++ ["callees:"] ++
      outlineSide path.callees
  /-- There are three lines more than nodes, and one for each empty side. -/
  length_lines : (Text.lines path.draw).length =
    3 + ((inPreorder path.callers).length + (inPreorder path.callees).length) +
      ((if path.callers = [] then 1 else 0) + (if path.callees = [] then 1 else 0))
  /-- The blanks in front of the line of a node tell its depth. -/
  blanks : ∀ node ∈ inPreorder path.callers ++ inPreorder path.callees,
    Text.leadingBlanks (node.line 1) = 2 * (node.depth + 1)

theorem isOutlined {path : CallPath} (target : path.target.IsPlain)
    (callers : AreOutlined path.callers) (callees : AreOutlined path.callees) :
    path.IsOutlined := by
  have single : ∀ line ∈ [targetLine path.target, "callers:"] ++ sideLines path.callers ++
      ["callees:"] ++ sideLines path.callees, IsSingleLine line := by
    simp only [List.forall_mem_append, List.forall_mem_cons]
    exact ⟨⟨⟨⟨isSingleLine_targetLine target, by decide, List.forall_mem_nil _⟩,
      isSingleLine_of_mem_sideLines callers⟩, by decide, List.forall_mem_nil _⟩,
      isSingleLine_of_mem_sideLines callees⟩
  have lines_eq : Text.lines path.draw = [targetLine path.target, "callers:"] ++
      outlineSide path.callers ++ ["callees:"] ++ outlineSide path.callees := by
    rw [draw, lines_joinLines single, sideLines_eq_outlineSide, sideLines_eq_outlineSide]
  refine ⟨lines_eq, ?_, ?_⟩
  · rw [lines_eq]
    simp only [List.length_append, List.length_cons, List.length_nil, length_outlineSide]
    omega
  · rintro node isNode
    have plain : node.IsPlain :=
      (List.mem_append.mp isNode).elim (callers.plain node) (callees.plain node)
    rw [plain.leadingBlanks_line, Nat.add_comm]

/-! ## Traces over plain stores -/

theorem holdsOfMade_isPlain : Tracer.HoldsOfMade Query.IsPlain CallNode.IsPlain where
  upward symbols name caseSensitive found symbolsPlain foundPlain call isFound depth children := by
    refine ⟨foundPlain call isFound, fun symbol isAround => ?_, fun symbol refers => ?_⟩
    · obtain ⟨id, -, located⟩ := Option.bind_eq_some_iff.mp isAround
      exact symbolsPlain symbol (Snapshot.mem_of_get?_ofList located)
    · exact symbolsPlain symbol (Snapshot.mem_of_target_ofList refers)
  downward symbols found symbolsPlain root isListed foundPlain call isFound depth children _ := by
    refine ⟨foundPlain call isFound, fun symbol isAround => ?_, fun symbol refers => ?_⟩
    · cases isAround
      exact symbolsPlain root isListed
    · exact symbolsPlain symbol (Snapshot.mem_of_target_ofList refers)

theorem directionsEnsure_areOutlined (name : String) (options : TraceOptions) :
    DirectionsEnsure Query.IsPlain name options fun trees =>
      HoldsThroughout CallNode.IsPlain trees ∧ AreLevelled options.maxDepth 0 trees :=
  (holdsOfMade_isPlain.directionsEnsure name options).and
    (directionsEnsure_areLevelled Query.IsPlain name options)

/-- Trees to which a trace of one direction comes over a plain store. -/
inductive IsPlainTrace : List CallNode → Prop where
  /-- The store may behave in any way apart from that. -/
  | intro {ε : Type} {conditions : Conditions ε} (plain : conditions.ArePlain)
      {config : Config} {direction : CallDirection} {name : String} {options : TraceOptions}
      {progress reached : Progress} {trees : List CallNode}
      (comes : (trace config direction name options).conduct conditions progress =
        (.ok trees, reached)) :
      IsPlainTrace trees

/-- A path to which a trace of both directions comes over a plain store. -/
inductive IsPlainPath : CallPath → Prop where
  /-- One direction is followed after the other. -/
  | inOrder {ε : Type} {conditions : Conditions ε} (plain : conditions.ArePlain)
      {config : Config} {name : String} {options : TraceOptions} {progress reached : Progress}
      {path : CallPath}
      (comes : (traceBoth config name options).conduct conditions progress = (.ok path, reached)) :
      IsPlainPath path
  /-- The directions are followed side by side. -/
  | sideBySide {ε : Type} {conditions : Conditions ε} (plain : conditions.ArePlain)
      {config : Config} {name : String} {options : TraceOptions} {cancelledBefore : Bool}
      {path : CallPath} {progress : Progress}
      (comes : SideBySide conditions config name options cancelledBefore (.ok path) progress) :
      IsPlainPath path

theorem IsPlainTrace.areOutlined {trees : List CallNode} (traced : IsPlainTrace trees) :
    AreOutlined trees := by
  cases traced with
  | @intro _ _ plain config direction name options _ _ _ comes =>
      obtain ⟨allPlain, levelled⟩ :=
        ((directionsEnsure_areOutlined name (options.clamp config)).trace direction).of_conduct plain comes
      exact ⟨allPlain, _, levelled⟩

theorem IsMadeOf.isOutlined {path : CallPath} {maxDepth : Nat}
    (made : path.IsMadeOf Query.IsPlain fun trees =>
      HoldsThroughout CallNode.IsPlain trees ∧ AreLevelled maxDepth 0 trees) :
    path.IsOutlined := by
  obtain ⟨⟨symbols, plain, isListed⟩, ⟨callersPlain, callers⟩, calleesPlain, callees⟩ := made
  exact CallPath.isOutlined (plain _ isListed) ⟨callersPlain, _, callers⟩
    ⟨calleesPlain, _, callees⟩

theorem IsPlainPath.isOutlined {path : CallPath} (traced : IsPlainPath path) :
    path.IsOutlined := by
  cases traced with
  | @inOrder _ _ plain config name options _ _ _ comes =>
      exact ((directionsEnsure_areOutlined name (options.clamp config)).traceBoth.of_conduct plain
        comes).isOutlined
  | @sideBySide _ _ plain config name options _ _ _ comes =>
      exact ((directionsEnsure_areOutlined name (options.clamp config)).sideBySide plain comes).isOutlined

/-- Over a plain store the trees of a trace are drawn as outlines, and those that are drawn alike
have the same shape. A path is drawn as the outlines of both its sides. -/
theorem isOutline_of_isPlain :
    (∀ trees, IsPlainTrace trees → IsOutline (drawTrees trees) trees) ∧
      (∀ trees others, IsPlainTrace trees → IsPlainTrace others →
        drawTrees trees = drawTrees others → SameShape trees others) ∧
      ∀ path, IsPlainPath path → path.IsOutlined :=
  ⟨fun _ traced => traced.areOutlined.isOutline_drawTrees,
    fun _ _ traced othersTraced => traced.areOutlined.sameShape othersTraced.areOutlined,
    fun _ traced => traced.isOutlined⟩

/-- The callers of a method that is called twice, and a path around it. -/
theorem isOutline_of_isPlain_recursive :
    let options : TraceOptions := ⟨3, true, false⟩
    let trees := Answers.trees recursiveDocument.answer .upward "run" options
    trees.length = 2 ∧ ∃ path, IsPlainTrace trees ∧ IsPlainPath path ∧
      IsOutline (drawTrees trees) trees ∧ SameShape trees trees ∧ path.IsOutlined := by
  intro options trees
  let sound : Query.Kind → Nat → Option Empty := fun _ _ => none
  have plain : (Conditions.numbered sound recursiveDocument.answer).ArePlain := by
    rintro _ query _ ⟨⟩
    exact IndexDocument.isPlain_answer (by decide) (by decide) query
  have callers : alone sound recursiveDocument.answer default "run" options .upward = .ok trees :=
    outcome_trace recursiveDocument.answer default .upward "run" options
  have callees : alone sound recursiveDocument.answer default "run" options .downward = .ok _ :=
    outcome_trace recursiveDocument.answer default .downward "run" options
  have isKnown : HasSymbol recursiveDocument.answer "run" true :=
    ⟨⟨1, "run", .ofText "method", "src/Runner.cs", 3, 12⟩, .tail _ (.head _), by decide⟩
  obtain ⟨target, isTarget⟩ :
      ∃ target, (Answers.tracer recursiveDocument.answer (options.clamp default)).implementation
        "run" = some target := exists_implementation isKnown
  obtain ⟨progress, inOrder, uncancelled⟩ :=
    exists_sideBySide sound recursiveDocument.answer default "run" options false
  have comes := inOrder.eq_joint uncancelled
  rw [joint_of_known rfl isTarget, callers, callees] at comes
  obtain ⟨drawn, alike, outlined⟩ := isOutline_of_isPlain
  have traced : IsPlainTrace trees := .intro plain (Prod.ext callers rfl)
  have isPath : IsPlainPath ⟨target, trees, _⟩ := .inOrder plain (Prod.ext comes rfl)
  exact ⟨rfl, _, traced, isPath, drawn trees traced, alike trees trees traced traced rfl,
    outlined _ isPath⟩

end CallPath

end CallTrace
