import CallTrace.CallPath.Drawing
import CallTrace.CallPath.Summary
import CallTrace.CallPath.Trace

/-!
# Trace reports

A report says what was traced and how far, sums up the trees that were found, and shows them either
as structured data or as a text.
-/

namespace CallTrace

/-- How the trees of a report are shown. -/
inductive TraceFormat where
  /-- As structured data. -/
  | data
  /-- As a text. -/
  | tree
deriving DecidableEq, Repr

/-- The format that a word names. -/
def TraceFormat.ofText? : String → Option TraceFormat
  | "json" => some data
  | "tree" | "text" => some tree
  | _ => none

/-- What was found in a direction. -/
inductive TraceFinding where
  /-- Callers. -/
  | callers (nodes : List CallNode)
  /-- Callees. -/
  | callees (nodes : List CallNode)
  /-- Callers and callees of a symbol. -/
  | both (path : CallPath)
deriving Repr

namespace TraceFinding

/-- Trace a name in a direction. -/
def inquiry (name : String) (options : TraceOptions) (direction : TraceDirection)
    (config : Config := default) : Inquiry TraceFinding :=
  match direction with
  | .up => return callers (← CallPath.traceUpward config name options)
  | .down => return callees (← CallPath.traceDownward config name options)
  | .both => return both (← CallPath.traceBoth config name options)

/-- The summary of what was found. -/
def summary : TraceFinding → TraceSummary
  | callers nodes => .ofTrees nodes
  | callees nodes => .ofTrees nodes
  | both path => path.summary

/-- What was found, as a text. -/
def draw : TraceFinding → String
  | callers nodes => drawTrees nodes
  | callees nodes => drawTrees nodes
  | both path => path.draw

/-- What was found, as named values. -/
def fields : TraceFinding → List (String × Json)
  | callers nodes => [("callers", .array (CallNode.listToJson nodes))]
  | callees nodes => [("callees", .array (CallNode.listToJson nodes))]
  | both path => [
    ("target_symbol", path.target.toJson),
    ("callers", .array (CallNode.listToJson path.callers)),
    ("callees", .array (CallNode.listToJson path.callees))]

end TraceFinding

/-- What was traced, how far, and what was found. -/
structure TraceReport where
  /-- The traced name. -/
  symbol : String
  /-- The direction. -/
  direction : TraceDirection
  /-- Depth of the deepest calls. -/
  maxDepth : Nat
  /-- The depth that was asked for. -/
  requestedDepth : Nat
  /-- What was found. -/
  finding : TraceFinding
deriving Repr

/-- The written form of a report. The depth that was asked for is only given when it is not kept. -/
def TraceReport.toJson (report : TraceReport) (format : TraceFormat) : Json :=
  let requested :=
    if report.maxDepth < report.requestedDepth then
      [("requested_max_depth", Json.ofNat report.requestedDepth)]
    else
      []
  let shown :=
    match format with
    | .data => report.finding.fields
    | .tree => [("text", .text report.finding.draw)]
  Json.ofFields (
    [("symbol", .text report.symbol),
      ("direction", .text report.direction.text),
      ("max_depth", Json.ofNat report.maxDepth),
      ("summary", report.finding.summary.toJson)] ++ requested ++ shown)

end CallTrace
