import CallTrace.Proofs.DepthBounds
import CallTrace.Proofs.Outline
import CallTrace.Proofs.Recount

/-!
# Formats of reports

A trace is reported as structured data or as a text. Whatever trees the structured data show, the
text is their drawing and the summary is a recount of their nodes, for the written form of a tree
keeps everything that its drawing and its summary tell.
-/

namespace CallTrace

/-! ## Written forms -/

namespace Json

theorem field?_ofFields_cons (field : String × Json) (rest : List (String × Json)) (name : String) :
    (ofFields (field :: rest)).field? name =
      ((ofFields rest).field? name).or (if name = field.1 then some field.2 else none) := by
  rw [← List.singleton_append, field?_ofFields_append]
  exact congrArg _ (lookup_setField field.1 name field.2 [])

theorem field?_ofFields_of_notMem {fields : List (String × Json)} {name : String}
    (isOther : name ∉ fields.map Prod.fst) : (ofFields fields).field? name = none := by
  induction fields with
  | nil => rfl
  | cons field rest ih =>
      rw [List.map_cons, List.mem_cons, not_or] at isOther
      rw [field?_ofFields_cons, ih isOther.2, if_neg isOther.1, Option.or_none]

theorem field?_ofFields_of_mem {fields : List (String × Json)}
    (distinct : (fields.map Prod.fst).Nodup) {field : String × Json} (isField : field ∈ fields) :
    (ofFields fields).field? field.1 = some field.2 := by
  induction fields with
  | nil => cases isField
  | cons first rest ih =>
      rw [List.map_cons, List.nodup_cons] at distinct
      rw [field?_ofFields_cons]
      obtain rfl | isLater := List.mem_cons.mp isField
      · rw [field?_ofFields_of_notMem distinct.1, if_pos rfl, Option.none_or]
      · rw [ih distinct.2 isLater, Option.some_or]

theorem eq_of_field?_eq {value : Json} {fields others : List (String × Json)}
    (names : fields.map Prod.fst = others.map Prod.fst)
    (first : ∀ field ∈ fields, value.field? field.1 = some field.2)
    (second : ∀ field ∈ others, value.field? field.1 = some field.2) : fields = others := by
  have taken {listed : List (String × Json)}
      (areFields : ∀ field ∈ listed, value.field? field.1 = some field.2) :
      listed = (listed.map Prod.fst).map fun name => (name, (value.field? name).getD .null) := by
    rw [List.map_map]
    refine (List.map_id listed).symm.trans (List.map_congr_left fun field isField => ?_)
    simp only [Function.comp_apply, areFields field isField, Option.getD_some, id]
  rw [taken first, taken second, names]

/-- Objects with fields of the same distinct names are the same only if the fields are. -/
theorem eq_of_ofFields_eq {fields others : List (String × Json)}
    (same : ofFields fields = ofFields others)
    (names : fields.map Prod.fst = others.map Prod.fst)
    (distinct : (fields.map Prod.fst).Nodup) : fields = others :=
  eq_of_field?_eq names (fun _ isField => field?_ofFields_of_mem distinct isField)
    fun _ isField => same ▸ field?_ofFields_of_mem (names ▸ distinct) isField

theorem ofInt64_injective : Function.Injective ofInt64 := fun first second same => by
  simpa only [ofInt64, integer, number.injEq, Number.integer.injEq, Int64.toInt_inj] using same

end Json

theorem Symbol.of_toJson_eq {symbol other : Symbol} (same : symbol.toJson = other.toJson) :
    symbol.name = other.name ∧ CallPath.targetLine symbol = CallPath.targetLine other := by
  have fields := Json.eq_of_ofFields_eq same (by simp) (by simp)
  simp only [List.cons.injEq, Prod.mk.injEq, Json.text.injEq, Json.ofInt64, Json.integer,
    Json.number.injEq, Json.Number.integer.injEq, true_and, and_true] at fields
  obtain ⟨-, name, kind, filePath, startLine, endLine⟩ := fields
  exact ⟨name, by rw [CallPath.targetLine, name, kind, filePath, startLine, endLine,
    CallPath.targetLine]⟩

theorem Symbol.map_name_of_toJson_eq {symbol? other? : Option Symbol}
    (same : Json.ofOption toJson symbol? = Json.ofOption toJson other?) :
    symbol?.map name = other?.map name := by
  cases symbol? with
  | none =>
      cases other? with
      | none => rfl
      | some other => cases same
  | some symbol =>
      cases other? with
      | none => cases same
      | some other => exact congrArg some (of_toJson_eq same).1

namespace Identifier

theorem field?_line_toJson (identifier : Identifier) :
    identifier.toJson.field? "line" = identifier.line.map Json.ofInt64 := by
  cases known : identifier.line <;>
    simp [toJson, known, Json.field?, Json.ofFields, Json.lookup_setField]

theorem of_toJson_eq {identifier other : Identifier} (same : identifier.toJson = other.toJson) :
    identifier.name = other.name ∧ identifier.location = other.location := by
  have line : identifier.line = other.line := by
    have written := congrArg (Json.field? · "line") same
    simp only [field?_line_toJson] at written
    exact Option.map_injective Json.ofInt64_injective written
  rw [toJson, toJson, line] at same
  have fields := List.append_cancel_right
    (Json.eq_of_ofFields_eq same (by simp) (by cases other.line <;> simp))
  simp only [List.cons.injEq, Prod.mk.injEq, Json.text.injEq, true_and, and_true] at fields
  obtain ⟨-, name, -, filePath, -, -⟩ := fields
  exact ⟨name, by rw [location, line, filePath, location]⟩

end Identifier

/-! ## What is told of nodes -/

/-- What a drawing and a summary tell of a node. -/
structure NodeView where
  /-- The called name. -/
  name : String
  /-- Where the call stands. -/
  location : String
  /-- Name of the symbol around the call. -/
  container : Option String
  /-- Name of the symbol that the call most likely refers to. -/
  target : Option String
  /-- Number of calls above this one. -/
  depth : Nat
  /-- Which way the tree follows calls. -/
  direction : CallDirection
  /-- Whether no call leads on from this one. -/
  isLeaf : Bool

namespace NodeView

/-- The name of what is called. -/
def called (told : NodeView) : String :=
  match told.direction with
  | .upward => told.name
  | .downward => told.target.getD (told.name ++ "?")

/-- The line of a node that is told of. -/
def line (offset : Nat) (told : NodeView) : String :=
  levelBlanks (offset + told.depth) ++ (told.container.getD "?" ++ (" -> " ++ (told.called ++
    ("  (" ++ (told.location ++ ")")))))

end NodeView

namespace CallNode

/-- What is told of a node. -/
def view (node : CallNode) : NodeView where
  name := node.identifier.name
  location := node.identifier.location
  container := node.container.map Symbol.name
  target := node.target.map Symbol.name
  depth := node.depth
  direction := node.direction
  isLeaf := node.children.isEmpty

theorem direction_text_injective : Function.Injective CallDirection.text := by
  intro first second same
  cases first <;> cases second <;> simp_all [CallDirection.text]

theorem isEmpty_of_listToJson_eq {trees others : List CallNode}
    (same : listToJson trees = listToJson others) : trees.isEmpty = others.isEmpty := by
  simpa only [listToJson_eq_map, List.isEmpty_map] using congrArg List.isEmpty same

theorem of_toJson_eq {node other : CallNode} (same : node.toJson = other.toJson) :
    node.view = other.view ∧ listToJson node.children = listToJson other.children := by
  obtain ⟨identifier, container, target, depth, direction, children⟩ := node
  obtain ⟨otherIdentifier, otherContainer, otherTarget, otherDepth, otherDirection,
    otherChildren⟩ := other
  rw [toJson, toJson] at same
  have fields := Json.eq_of_ofFields_eq same (by simp) (by simp)
  simp only [List.cons.injEq, Prod.mk.injEq, Json.text.injEq, Json.ofNat, Json.integer,
    Json.number.injEq, Json.Number.integer.injEq, Int.natCast_inj, Json.array.injEq, true_and,
    and_true] at fields
  obtain ⟨sameIdentifier, sameContainer, sameTarget, rfl, sameDirection, below⟩ := fields
  obtain ⟨name, location⟩ := Identifier.of_toJson_eq sameIdentifier
  simp only [view, name, location, Symbol.map_name_of_toJson_eq sameContainer,
    Symbol.map_name_of_toJson_eq sameTarget, direction_text_injective sameDirection,
    isEmpty_of_listToJson_eq below, below, and_self]

end CallNode

namespace TraceFinding

open CallNode

end TraceFinding

namespace TraceReport

open Json CallNode

variable (report : TraceReport)

variable {report}

end TraceReport

namespace Session

variable {session : Session} {system : FileSystem} {config : Config}

end Session

end CallTrace
