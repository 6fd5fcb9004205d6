import CallTrace.CallPath.Node
import CallTrace.CallPath.Options
import CallTrace.Index.Implementation
import CallTrace.Index.Target
import CallTrace.Inquiry.Basic

/-!
# Tracing calls

Callers are found from a name: its calls, the symbols around them, the calls of the names of those,
and so on. Callees are found from the best implementation of a name: the calls inside it, the
symbols that they refer to, the calls inside the best implementations of the names of those, and so
on. A trace ends at its greatest depth, so it ends on recursive code too, which it goes through
again and again unless cycles are suppressed. The settings bound that depth, whatever is asked for.
-/

namespace CallTrace

/-- What a trace goes by. -/
structure Tracer where
  /-- The symbols. -/
  snapshot : Snapshot
  /-- How far the trace goes. -/
  options : TraceOptions

namespace Tracer

variable (tracer : Tracer)

/-- Whether a symbol is passed over because it stands on the branch. -/
def suppresses (branch : List Int64) (symbol : Symbol) : Bool :=
  tracer.options.suppressCycles && branch.contains symbol.id

/-- The best implementation of a name. -/
def implementation (name : String) : Option Symbol :=
  Symbol.bestImplementation (tracer.snapshot.matching name tracer.options.caseSensitive)

/-- The calls of a name and, on so many levels, what leads to them. The branch holds the symbols
whose callers are being traced. -/
def callers (name : String) (depth : Nat) (branch : List Int64) :
    Nat → Inquiry (List CallNode)
  | 0 => return []
  | levels + 1 => do
    Inquiry.pause
    let found ← Inquiry.query (.identifiersNamed name tracer.options.caseSensitive)
    Inquiry.forEach (found.filter Identifier.isCall) fun identifier => do
      let container := tracer.snapshot.container identifier
      let target := tracer.snapshot.target identifier
      let children ←
        match container with
        | none => pure []
        | some caller =>
          if tracer.suppresses branch caller then
            pure []
          else
            callers caller.name (depth + 1) (caller.id :: branch) levels
      return { identifier, container, target, depth, direction := .upward, children }

/-- The calls inside the best implementation of a name and, on so many levels, what they lead to.
The branch holds the symbols whose callees are being traced. -/
def callees (name : String) (depth : Nat) (branch : List Int64) :
    Nat → Inquiry (List CallNode)
  | 0 => return []
  | levels + 1 =>
    match tracer.implementation name with
    | none => return []
    | some root =>
      if tracer.suppresses branch root then
        return []
      else do
        Inquiry.pause
        let found ← Inquiry.query (.identifiersWithin root.id)
        Inquiry.forEach (found.filter Identifier.isCall) fun identifier => do
          let target := tracer.snapshot.target identifier
          let children ←
            match target with
            | none => pure []
            | some callee => callees callee.name (depth + 1) (root.id :: branch) levels
          return {
            identifier, container := some root, target, depth, direction := .downward, children }

/-- All callers of a name. -/
def upward (name : String) : Inquiry (List CallNode) :=
  tracer.callers name 0 [] (tracer.options.maxDepth + 1)

/-- All callees of a name. -/
def downward (name : String) : Inquiry (List CallNode) :=
  tracer.callees name 0 [] (tracer.options.maxDepth + 1)

/-- All callers or all callees of a name. -/
def follow : CallDirection → String → Inquiry (List CallNode)
  | .upward => tracer.upward
  | .downward => tracer.downward

/-- Trace the callers or the callees of a name as far as the options say. -/
def trace (direction : CallDirection) (name : String) (options : TraceOptions) :
    Inquiry (List CallNode) := do
  let snapshot ← Inquiry.snapshot
  follow { snapshot, options } direction name

end Tracer

namespace CallPath

variable (config : Config)

/-- Trace the callers or the callees of a name, no further than the settings allow. -/
def trace (direction : CallDirection) (name : String) (options : TraceOptions) :
    Inquiry (List CallNode) :=
  Tracer.trace direction name (options.clamp config)

/-- Trace the callers of a name. -/
def traceUpward (name : String) (options : TraceOptions) : Inquiry (List CallNode) :=
  trace config .upward name options

/-- Trace the callees of a name. -/
def traceDownward (name : String) (options : TraceOptions) : Inquiry (List CallNode) :=
  trace config .downward name options

/-- Trace the callers and the callees of a name that some symbol must have. -/
def traceBoth (name : String) (options : TraceOptions) : Inquiry CallPath := do
  let snapshot ← Inquiry.snapshot
  let tracer : Tracer := { snapshot, options := options.clamp config }
  match tracer.implementation name with
  | none => .notFound name
  | some target =>
    let callers ← tracer.upward name
    let callees ← tracer.downward name
    return { target, callers, callees }

end CallPath

end CallTrace
