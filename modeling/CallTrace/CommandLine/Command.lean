import CallTrace.CommandLine.Arguments
import CallTrace.FileSystem.Path
import CallTrace.Text.Integer

/-!
# Commands

A command says what to do with which workspace and which database. It is read from arguments:
options that hold for all commands, the name of the command, and its own options.
-/

namespace CallTrace.CommandLine

/-- What to do. -/
inductive Action where
  /-- Import an index document. -/
  | importFile (path : Path) (append : Bool)
  /-- Count what the workspace holds. -/
  | stats
  /-- List the references to a name. -/
  | references (name : String) (caseSensitive : Bool)
  /-- List the references to the name of a symbol. -/
  | referencesOf (id : Int64)
  /-- Trace callers and callees. -/
  | trace (name direction : String) (maxDepth : Option Nat) (caseSensitive suppressCycles : Bool)
      (format : String)
  /-- Answer a single request, whose parameters may be in a file. -/
  | request (method params : String) (paramsFile : Option Path) (id : String)
  /-- Answer requests, one on a line. -/
  | serve
  /-- Answer calls of the tool. -/
  | serveTool
deriving DecidableEq, Repr

/-- What to do, and with what. -/
structure Command where
  /-- The directory of the workspace. -/
  workspace : Path
  /-- The path of the database. -/
  database : Path
  /-- What to do. -/
  action : Action
deriving DecidableEq, Repr

/-- The option for the level of log messages, which holds for all commands. -/
def logLevel : OptionRule :=
  textOption "log-level"

/-- Options that every command has. -/
def commonRules : List OptionRule :=
  [logLevel, pathOption "workspace", pathOption "db"]

/-- The options of the command with a name. -/
def rules? : String → Option (List OptionRule)
  | "import" => some (commonRules ++ [pathOption "path", flag "append"])
  | "stats" | "serve" | "mcp-serve" => some commonRules
  | "references" => some (commonRules ++ [
    textOption "name", valued "id" fun text => (Text.integer? text).isSome,
    flag "case-sensitive"])
  | "trace" => some (commonRules ++ [
    textOption "name", textOption "direction",
    valued "max-depth" fun text => (Text.natural? Text.maxCount64 text).isSome,
    flag "case-sensitive", flag "suppress-cycles", textOption "format"])
  | "request" => some (commonRules ++ [
    textOption "method", textOption "params", pathOption "params-file", textOption "id"])
  | _ => none

/-- What the command with a name is to do, given its options. -/
def action? (given : Given) : String → Option Action
  | "import" => do
    let path ← given.lookup "path"
    return .importFile ⟨path⟩ (given.lookup "append").isSome
  | "stats" => some .stats
  | "references" =>
    match given.lookup "name", given.lookup "id" with
    | some name, none => some (.references name (given.lookup "case-sensitive").isSome)
    | none, some id => (Text.integer? id).map .referencesOf
    | _, _ => none
  | "trace" => do
    let name ← given.lookup "name"
    return .trace name ((given.lookup "direction").getD "both")
      ((given.lookup "max-depth").bind (Text.natural? Text.maxCount64))
      (given.lookup "case-sensitive").isSome (given.lookup "suppress-cycles").isSome
      ((given.lookup "format").getD "json")
  | "request" => do
    let method ← given.lookup "method"
    return .request method ((given.lookup "params").getD "\x7b\x7d")
      ((given.lookup "params-file").map Path.mk) ((given.lookup "id").getD "1")
  | "serve" => some .serve
  | "mcp-serve" => some .serveTool
  | _ => none

/-- The command that some arguments give. -/
def Command.ofArguments (arguments : List String) : Except Interruption Command := do
  let (name, rest) ← readLeadingOptions [logLevel] [] arguments.length arguments
  match rules? name with
  | none => if name = "help" then helpFor rest else .error .mistake
  | some rules =>
    let given ← readOptions rules [] rest.length rest
    match action? given name with
    | none => .error .mistake
    | some action =>
      let workspace : Path := ⟨(given.lookup "workspace").getD "."⟩
      let database := ((given.lookup "db").map Path.mk).getD workspace.defaultDatabase
      return { workspace, database, action }
where
  /-- Ask for help, on at most one command. -/
  helpFor : List String → Except Interruption Command
    | [] => .error .help
    | [name] => .error (if name == "help" || (rules? name).isSome then .help else .mistake)
    | _ => .error .mistake

end CallTrace.CommandLine
