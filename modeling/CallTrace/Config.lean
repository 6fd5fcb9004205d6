import CallTrace.Text.Blank
import CallTrace.Text.Integer

/-!
# Settings

Settings have defaults that named variables may override. A variable whose text is not a number of
the right size is passed over. Depths stay within bounds, whatever the variables say.
-/

namespace CallTrace

/-- The settings. -/
structure Config where
  /-- Greatest number of connections to a database. -/
  poolSize : Nat
  /-- Number of connections that are kept open. -/
  poolMinIdle : Nat
  /-- Depth of a trace when none is asked for. -/
  defaultMaxDepth : Nat
  /-- Number of nodes above which a trace is unusually large. -/
  maxNodesWarn : Nat
  /-- Greatest depth of a trace, whatever is asked for. -/
  maxDepthLimit : Nat
deriving DecidableEq, Repr

/-- The depth that a trace has by default. -/
def defaultTraceDepth : Nat := 10

/-- The settings when no variable is set. -/
instance : Inhabited Config :=
  ⟨{ poolSize := 10
     poolMinIdle := 2
     defaultMaxDepth := defaultTraceDepth
     maxNodesWarn := 10000
     maxDepthLimit := 32 }⟩

namespace Config

/-- The greatest depth limit that can be set. -/
def depthCeiling : Nat := 256

/-- The number that a variable sets, or the default. -/
def override (limit : Nat) (variableText : Option String) (default : Nat) : Nat :=
  (variableText.bind fun text => Text.natural? limit (Text.trim text)).getD default

/-- The settings with depths that stay within bounds. -/
def withinBounds (config : Config) : Config :=
  let limit := min config.maxDepthLimit depthCeiling
  { config with maxDepthLimit := limit, defaultMaxDepth := min config.defaultMaxDepth limit }

/-- The settings under some variables. -/
def ofVariables (lookup : String → Option String) : Config :=
  let base : Config := default
  withinBounds {
    poolSize := override Text.maxCount32 (lookup "REFTRACE_POOL_SIZE") base.poolSize
    poolMinIdle := override Text.maxCount32 (lookup "REFTRACE_POOL_MIN_IDLE") base.poolMinIdle
    defaultMaxDepth :=
      override Text.maxCount64 (lookup "REFTRACE_DEFAULT_MAX_DEPTH") base.defaultMaxDepth
    maxNodesWarn := override Text.maxCount64 (lookup "REFTRACE_MAX_NODES_WARN") base.maxNodesWarn
    maxDepthLimit :=
      override Text.maxCount64 (lookup "REFTRACE_MAX_DEPTH_LIMIT") base.maxDepthLimit }

/-- Whether connections can be kept as the settings say. -/
def poolIsSound (config : Config) : Bool :=
  config.poolSize != 0 && config.poolMinIdle ≤ config.poolSize

end Config

end CallTrace
