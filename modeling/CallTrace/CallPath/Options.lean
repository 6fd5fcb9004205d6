import CallTrace.Config
import CallTrace.Text.Lowercase

/-!
# What is traced, and how far

The direction of a trace is named by one of several words, whose case does not matter.
-/

namespace CallTrace

/-- Which callers and callees are traced. -/
inductive TraceDirection where
  /-- Callers. -/
  | up
  /-- Callees. -/
  | down
  /-- Callers and callees. -/
  | both
deriving DecidableEq, Repr

namespace TraceDirection

/-- The direction that a word names. -/
def ofText? (word : String) : Option TraceDirection :=
  match Text.lowercase word with
  | "up" | "upward" | "callers" | "in" => some up
  | "down" | "downward" | "callees" | "out" => some down
  | "both" | "all" => some both
  | _ => none

/-- The word for a direction. -/
def text : TraceDirection → String
  | up => "up"
  | down => "down"
  | both => "both"

end TraceDirection

/-- How a name is traced. -/
structure TraceOptions where
  /-- Depth of the deepest calls. -/
  maxDepth : Nat
  /-- Whether the case of the traced name matters. -/
  caseSensitive : Bool
  /-- Whether a symbol is passed over that already stands on the same branch. -/
  suppressCycles : Bool
deriving DecidableEq, Repr

/-- The options with a depth that the settings allow. -/
def TraceOptions.clamp (options : TraceOptions) (config : Config) : TraceOptions :=
  { options with maxDepth := min options.maxDepth config.maxDepthLimit }

@[simp]
theorem TraceOptions.clamp_clamp (options : TraceOptions) (config : Config) :
    (options.clamp config).clamp config = options.clamp config := by
  simp [clamp]

end CallTrace
