import CallTrace.Proofs.Ensuring
import CallTrace.Proofs.Summary

/-!
# Levels of call trees

In every tree that a trace comes to, whatever the store answers, a call has the depth of the level at
which it is nested, and none is deeper than the trace may go. The report of the trace shows the same.
-/

namespace CallTrace

/-! ## Trees with levels -/

namespace CallNode

/-- A call that stands at its level, as do all calls below it, and none of them too deep. -/
inductive IsLevelled (maxDepth : Nat) : Nat → CallNode → Prop where
  /-- The call has the depth of its level, and its children stand one level below. -/
  | intro (node : CallNode) (isShallow : node.depth ≤ maxDepth)
      (below : ∀ child ∈ node.children, IsLevelled maxDepth (node.depth + 1) child) :
      IsLevelled maxDepth node.depth node

/-- All roots stand at a level, and all calls below them accordingly. -/
def AreLevelled (maxDepth level : Nat) (nodes : List CallNode) : Prop :=
  ∀ node ∈ nodes, node.IsLevelled maxDepth level

end CallNode

/-- The levels of the trees do not depend on the answers. -/
theorem CallPath.directionsEnsure_areLevelled (admits : (query : Query) → query.Answer → Prop)
    (name : String) (options : TraceOptions) :
    DirectionsEnsure admits name options (CallNode.AreLevelled options.maxDepth 0) where
  follow symbols _
    | .upward =>
        Tracer.ensuresUnder_callers ⟨.ofList symbols, options⟩ (CallNode.IsLevelled options.maxDepth)
          (fun _ _ depth _ isShallow call _ children =>
            .intro ⟨call, _, _, depth, .upward, children⟩ isShallow)
          name [] (Nat.zero_add _).le
    | .downward =>
        Tracer.ensuresUnder_callees ⟨.ofList symbols, options⟩ (CallNode.IsLevelled options.maxDepth)
          (fun _ _ _ depth _ _ isShallow call _ children _ =>
            .intro ⟨call, _, _, depth, .downward, children⟩ isShallow)
          name [] (Nat.zero_add _).le

/-! ## Sums and written forms of trees with levels -/

namespace TraceSummary

open CallNode

theorem deepest_ofTrees_le {maxDepth : Nat} {nodes : List CallNode}
    (each : ∀ node ∈ nodes, (ofTree node).deepest ≤ maxDepth) :
    (ofTrees nodes).deepest ≤ maxDepth := by
  induction nodes with
  | nil => exact Nat.zero_le maxDepth
  | cons node rest ih =>
      obtain ⟨first, later⟩ := List.forall_mem_cons.mp each
      rw [ofTrees_cons, combine]
      exact Nat.max_le.mpr ⟨first, ih later⟩

theorem deepest_ofTree_le {maxDepth level : Nat} {node : CallNode}
    (levelled : node.IsLevelled maxDepth level) : (ofTree node).deepest ≤ maxDepth := by
  induction levelled with
  | intro node isShallow _ ih =>
      rw [ofTree_eq_combine, combine, addNode]
      exact Nat.max_le.mpr
        ⟨Nat.max_le.mpr ⟨Nat.zero_le maxDepth, isShallow⟩, deepest_ofTrees_le ih⟩

theorem deepest_le_of_areLevelled {maxDepth level : Nat} {nodes : List CallNode}
    (levelled : AreLevelled maxDepth level nodes) : (ofTrees nodes).deepest ≤ maxDepth :=
  deepest_ofTrees_le fun node isRoot => deepest_ofTree_le (levelled node isRoot)

end TraceSummary

namespace CallNode

open Json

/-- The written form of a call that stands at a level, as do all calls below it, and none of them
too deep. -/
inductive IsWrittenAt (maxDepth : Nat) : Nat → Json → Prop where
  /-- The depth is that of the level, and the children stand one level below. -/
  | intro {level : Nat} {value : Json} {children : List Json}
      (depth : value.field? "depth" = some (.ofNat level)) (isShallow : level ≤ maxDepth)
      (isParent : value.field? "children" = some (.array children))
      (below : ∀ child ∈ children, IsWrittenAt maxDepth (level + 1) child) :
      IsWrittenAt maxDepth level value

/-- A list of the written forms of calls that stand at a level. -/
def AreWrittenAt (maxDepth level : Nat) (value : Json) : Prop :=
  ∃ nodes, value = .array nodes ∧ ∀ node ∈ nodes, IsWrittenAt maxDepth level node

theorem listToJson_eq_map (nodes : List CallNode) : listToJson nodes = nodes.map toJson := by
  induction nodes with
  | nil => rfl
  | cons node rest ih => rw [listToJson, ih, List.map_cons]

theorem IsLevelled.isWrittenAt {maxDepth level : Nat} {node : CallNode}
    (levelled : node.IsLevelled maxDepth level) : IsWrittenAt maxDepth level node.toJson := by
  induction levelled with
  | intro node isShallow _ ih =>
      obtain ⟨identifier, container, target, depth, direction, children⟩ := node
      have isParent : (toJson ⟨identifier, container, target, depth, direction, children⟩).field?
          "children" = some (.array (children.map toJson)) := by
        simp [toJson, field?, ofFields, lookup_setField, listToJson_eq_map]
      refine .intro ?_ isShallow isParent (List.forall_mem_map.mpr ih)
      simp [toJson, field?, ofFields, lookup_setField]

theorem AreLevelled.areWrittenAt {maxDepth level : Nat} {nodes : List CallNode}
    (levelled : AreLevelled maxDepth level nodes) :
    AreWrittenAt maxDepth level (.array (listToJson nodes)) :=
  ⟨nodes.map toJson, congrArg Json.array (listToJson_eq_map nodes),
    List.forall_mem_map.mpr fun node isRoot => (levelled node isRoot).isWrittenAt⟩

end CallNode

/-! ## Reports -/

theorem Json.field?_ofFields_append (first second : List (String × Json)) (name : String) :
    (ofFields (first ++ second)).field? name =
      ((ofFields second).field? name).or ((ofFields first).field? name) := by
  have onTop (fields placed : List (String × Json)) :
      (fields.foldl (fun placed field => setField field.1 field.2 placed) placed).lookup name =
        ((fields.foldl (fun placed field => setField field.1 field.2 placed) []).lookup name).or
          (placed.lookup name) := by
    induction fields generalizing placed with
    | nil => rfl
    | cons field rest ih =>
        rw [List.foldl_cons, List.foldl_cons, ih, ih (setField _ _ []), lookup_setField,
          lookup_setField, Option.or_assoc]
        congr 1
        split <;> rfl
  rw [ofFields, List.foldl_append]
  exact onTop second _

namespace TraceFinding

open CallNode

theorem deepest_summary_le {maxDepth : Nat} {finding : TraceFinding}
    (levelled : finding.IsMadeOf (AreLevelled maxDepth 0)) : finding.summary.deepest ≤ maxDepth := by
  cases finding with
  | callers nodes => exact TraceSummary.deepest_le_of_areLevelled levelled
  | callees nodes => exact TraceSummary.deepest_le_of_areLevelled levelled
  | both path =>
      rw [summary, CallPath.summary, TraceSummary.addTrees_eq_combine, TraceSummary.combine]
      exact Nat.max_le.mpr ⟨TraceSummary.deepest_le_of_areLevelled levelled.1,
        TraceSummary.deepest_le_of_areLevelled levelled.2⟩

/-- What is shown as callers or callees stands at the levels at which it is nested. -/
theorem areWrittenAt_of_field? {maxDepth : Nat} {finding : TraceFinding}
    (levelled : finding.IsMadeOf (AreLevelled maxDepth 0)) {name : String}
    (isSide : name = "callers" ∨ name = "callees") {value : Json}
    (isShown : (Json.ofFields finding.fields).field? name = some value) :
    AreWrittenAt maxDepth 0 value := by
  cases finding with
  | callers nodes =>
      simp only [fields, Json.ofFields, Json.field?, List.foldl, Json.lookup_setField] at isShown
      split at isShown <;> cases isShown
      exact levelled.areWrittenAt
  | callees nodes =>
      simp only [fields, Json.ofFields, Json.field?, List.foldl, Json.lookup_setField] at isShown
      split at isShown <;> cases isShown
      exact levelled.areWrittenAt
  | both path =>
      obtain rfl | rfl := isSide
      · have same : some (Json.array (CallNode.listToJson path.callers)) = some value := by
          simpa [fields, Json.ofFields, Json.field?, Json.lookup_setField] using isShown
        cases same
        exact levelled.1.areWrittenAt
      · have same : some (Json.array (CallNode.listToJson path.callees)) = some value := by
          simpa [fields, Json.ofFields, Json.field?, Json.lookup_setField] using isShown
        cases same
        exact levelled.2.areWrittenAt

end TraceFinding

namespace TraceReport

open Json CallNode

/-- The fields of a report that show what was found. -/
def shownFields (report : TraceReport) : TraceFormat → List (String × Json)
  | .data => report.finding.fields
  | .tree => [("text", .text report.finding.draw)]

variable (report : TraceReport) (format : TraceFormat)

theorem field?_toJson (name : String) :
    (report.toJson format).field? name =
      ((ofFields (report.shownFields format)).field? name).or
        (((ofFields
          (if report.maxDepth < report.requestedDepth then
            [("requested_max_depth", ofNat report.requestedDepth)]
          else [])).field? name).or
        ((ofFields [("symbol", .text report.symbol), ("direction", .text report.direction.text),
          ("max_depth", ofNat report.maxDepth),
          ("summary", report.finding.summary.toJson)]).field? name)) := by
  rw [← field?_ofFields_append, ← field?_ofFields_append]
  cases format <;> rfl

theorem field?_shownFields_eq_none {name : String}
    (isOther : name ∈ ["symbol", "direction", "max_depth", "requested_max_depth", "summary"]) :
    (ofFields (report.shownFields format)).field? name = none := by
  simp only [List.mem_cons, List.not_mem_nil, or_false] at isOther
  obtain rfl | rfl | rfl | rfl | rfl := isOther <;> cases format <;>
    cases finding : report.finding <;>
    simp [shownFields, finding, TraceFinding.fields, field?, ofFields, lookup_setField]

theorem field?_maxDepth :
    (report.toJson format).field? "max_depth" = some (ofNat report.maxDepth) := by
  rw [field?_toJson, field?_shownFields_eq_none _ _ (by simp)]
  split <;> simp [field?, ofFields, lookup_setField]

theorem field?_requestedDepth :
    (report.toJson format).field? "requested_max_depth" =
      if report.maxDepth < report.requestedDepth then
        some (ofNat report.requestedDepth)
      else
        none := by
  rw [field?_toJson, field?_shownFields_eq_none _ _ (by simp)]
  split <;> simp [field?, ofFields, lookup_setField]

theorem field?_summary :
    (report.toJson format).field? "summary" = some report.finding.summary.toJson := by
  rw [field?_toJson, field?_shownFields_eq_none _ _ (by simp)]
  split <;> simp [field?, ofFields, lookup_setField]

variable {report format}

theorem areWrittenAt_of_field? (levelled : report.finding.IsMadeOf (AreLevelled report.maxDepth 0))
    {name : String} (isSide : name = "callers" ∨ name = "callees") {value : Json}
    (isShown : (report.toJson format).field? name = some value) :
    AreWrittenAt report.maxDepth 0 value := by
  have others : (ofFields
      (if report.maxDepth < report.requestedDepth then
        [("requested_max_depth", ofNat report.requestedDepth)]
      else [])).field? name = none := by
    obtain rfl | rfl := isSide <;> split <;> simp [field?, ofFields, lookup_setField]
  have fixed : (ofFields [("symbol", .text report.symbol),
      ("direction", .text report.direction.text), ("max_depth", ofNat report.maxDepth),
      ("summary", report.finding.summary.toJson)]).field? name = none := by
    obtain rfl | rfl := isSide <;> simp [field?, ofFields, lookup_setField]
  rw [field?_toJson, others, fixed, Option.or_none, Option.or_none] at isShown
  cases format with
  | data => exact TraceFinding.areWrittenAt_of_field? levelled isSide isShown
  | tree =>
      obtain rfl | rfl := isSide <;> simp [shownFields, field?, ofFields, lookup_setField] at isShown

end TraceReport

end CallTrace
