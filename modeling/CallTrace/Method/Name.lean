import CallTrace.Json.Basic

/-!
# Methods

The methods that can be asked for, their names, and what they tell about themselves. A few methods
have a second, shorter name. The case of a name matters.
-/

namespace CallTrace

/-- Something that can be asked for. -/
inductive Method where
  /-- Describe the methods. -/
  | help
  /-- List the names of the methods. -/
  | listMethods
  /-- Count what the workspace holds. -/
  | stats
  /-- Import an index document. -/
  | importDocument
  /-- Remove what the workspace holds. -/
  | clear
  /-- List the workspaces of the database. -/
  | listWorkspaces
  /-- Get a symbol by its number. -/
  | getSymbol
  /-- Find the references to a name. -/
  | findReferences
  /-- Find the references to the name of a symbol. -/
  | findReferencesOf
  /-- Trace callers and callees. -/
  | traceCallPath
deriving DecidableEq, Repr

namespace Method

/-- All methods, in the order in which they are listed. -/
def all : List Method :=
  [help, listMethods, stats, importDocument, clear, listWorkspaces, getSymbol, findReferences,
    findReferencesOf, traceCallPath]

/-- The name of a method. -/
def name : Method → String
  | help => "help"
  | listMethods => "list_methods"
  | stats => "stats"
  | importDocument => "import"
  | clear => "clear"
  | listWorkspaces => "list_workspaces"
  | getSymbol => "get_symbol"
  | findReferences => "find_references"
  | findReferencesOf => "find_references_by_id"
  | traceCallPath => "trace_call_path"

/-- Second names of methods. -/
def aliases : List (String × Method) :=
  [("references", findReferences), ("references_by_id", findReferencesOf),
    ("trace", traceCallPath)]

/-- The method that goes by a name. -/
def ofName? (name : String) : Option Method :=
  (aliases.lookup name).or (all.find? fun method => method.name == name)

/-- What a method does. -/
def purpose : Method → String
  | help => "Describe available methods."
  | listMethods => "List method names and aliases."
  | stats => "Count symbols and identifiers stored for the workspace."
  | importDocument =>
    "Load an index document (\x7bsymbols, identifiers\x7d) into the workspace."
  | clear => "Delete every symbol and identifier stored for the workspace."
  | listWorkspaces => "Workspaces present in the database file."
  | getSymbol => "One symbol by id, or null."
  | findReferences =>
    "Every usage of a name with its containing and most likely target symbol."
  | findReferencesOf => "References to a symbol id, matched by name ignoring case."
  | traceCallPath => "Callers (up), callees (down) or both, as depth-bounded trees."

/-- The parameters of a method. -/
def parameters : Method → String
  | help | listMethods | stats | clear | listWorkspaces => "\x7b\x7d"
  | importDocument => "\x7bpath, append\x7d"
  | getSymbol => "\x7bid\x7d"
  | findReferences => "\x7bname, case_sensitive, resolved_only, limit\x7d"
  | findReferencesOf => "\x7bid, resolved_only, limit\x7d"
  | traceCallPath =>
    "\x7bname, direction (up|down|both), max_depth, case_sensitive, suppress_cycles, " ++
      "format (json|tree)\x7d"

/-- The description of a method. -/
def description (method : Method) : Json :=
  Json.ofFields [
    ("name", .text method.name),
    ("summary", .text method.purpose),
    ("params", .text method.parameters)]

/-- What holds for several methods. -/
def notes : List String := [
  "Name lookups ignore case unless case_sensitive is true; target resolution always ignores case.",
  "Empty results mean nothing was found; trace_call_path with direction both fails when the " ++
    "symbol does not exist."]

/-- The description of all methods. -/
def helpPage : Json :=
  Json.ofFields [
    ("methods", Json.ofList description all),
    ("notes", Json.ofList Json.text notes)]

/-- The names of all methods. -/
def nameList : Json :=
  Json.ofList (fun method => .text method.name) all

/-- The names and second names of all methods. -/
def listPage : Json :=
  Json.ofFields [
    ("methods", nameList),
    ("aliases",
      Json.ofFields (aliases.map fun second => (second.1, .text second.2.name)))]

end Method

end CallTrace
