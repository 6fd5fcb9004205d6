import CallTrace.CommandLine.Footprint

/-!
# The program

Looks at the parts of the file system that a command is about, carries it out, writes back what has
changed, and prints. The servers do so line by line.
-/

namespace CallTrace.Program

open CommandLine

/-- Look at a location. -/
def look (system : FileSystem) (location : Location) : IO FileSystem := do
  match ← (IO.FS.realPath location.toText).toBaseIO with
  | .error _ => return system
  | .ok file =>
    if ← file.isDir then
      return system.put location .directory
    else
      return system.put location (.ofBytes (← IO.FS.readBinFile file))

/-- Look at everything on the way along some paths. -/
def lookAlong (system : FileSystem) (paths : List Path) : IO FileSystem :=
  (paths.flatMap system.trail).foldlM look system

/-- Write back what has changed. -/
def writeBack (before after : FileSystem) : IO Unit :=
  (after.changesFrom before).forM fun (location, entry) =>
    match entry with
    | .directory => IO.FS.createDirAll location.toText
    | .file content => IO.FS.writeBinFile location.toText content
    | .database content => IO.FS.writeBinFile location.toText content.toFile

/-- Print a text and a complaint, and end with a code. -/
def finish (ending : Ending) : IO UInt32 := do
  (← IO.getStdout).putStr ending.output
  (← IO.getStderr).putStr ending.complaint
  return ending.code.toUInt32

/-- The next line of the input that is not blank, if it is a text. -/
partial def nextLine (input : IO.FS.Stream) : IO (Option String) := do
  let line ← try input.getLine catch _ => pure ""
  match Server.textLines line.toUTF8.toList with
  | [] => return none
  | lines =>
    match Server.requestLines lines with
    | [] => nextLine input
    | request :: _ => return some request

/-- Print a line at once. -/
def printLine (line : String) : IO Unit := do
  let output ← IO.getStdout
  output.putStr (line ++ "\n")
  output.flush

/-- Serve requests on lines to the end of the input. -/
partial def serve (config : Config) (session : Session) (system : FileSystem) : IO UInt32 := do
  match ← nextLine (← IO.getStdin) with
  | none => return 0
  | some line =>
    let before ← lookAlong system (Session.filesOfLine session.root line)
    let (response, after) := session.respondToLine before config line
    writeBack before after
    printLine response.text
    serve config session after

/-- Serve calls of the tool to the end of the input. -/
partial def serveTool (config : Config) (server : ToolServer) : IO UInt32 := do
  match ← nextLine (← IO.getStdin) with
  | none => return 0
  | some line =>
    let before ← lookAlong server.system (server.pathsOfLine line)
    let (outcome, reached) := { server with system := before }.respondToLine config line
    writeBack before reached.system
    match outcome with
    | .error failure => finish (.failed "" failure)
    | .ok answer =>
      answer.forM fun value => printLine value.compact
      serveTool config reached

/-- The variables of the environment that matter. -/
def readConfig : IO Config := do
  let names := ["REFTRACE_POOL_SIZE", "REFTRACE_POOL_MIN_IDLE", "REFTRACE_DEFAULT_MAX_DEPTH",
    "REFTRACE_MAX_NODES_WARN", "REFTRACE_MAX_DEPTH_LIMIT"]
  let values ← names.mapM fun name => return (name, ← IO.getEnv name)
  return .ofVariables fun name => (values.lookup name).join

/-- The file system as it is seen from the working directory. -/
def start : IO FileSystem := do
  let directory : Path := ⟨toString (← IO.currentDir)⟩
  lookAlong (.empty directory) [directory]

/-- Look at everything that a command is about. What a file tells may lead to more. -/
def lookFor (command : Command) : IO FileSystem := do
  let working ← start
  let known ← lookAlong working (command.paths working)
  lookAlong known (command.paths known)

/-- Carry out a command. -/
def perform (config : Config) (command : Command) : IO UInt32 := do
  let before ← lookFor command
  match command.action with
  | .serveTool =>
    serveTool config
      { workspace := command.workspace, database := command.database, sessions := []
        system := before }
  | .serve =>
    let (outcome, after) := Session.start config before command.workspace command.database
    writeBack before after
    match outcome with
    | .error failure => finish (.failed "" failure)
    | .ok session => serve config session after
  | _ =>
    let (ending, after) := command.run config before []
    writeBack before after
    finish ending

end CallTrace.Program

/-- Run the program with its arguments. -/
def main (arguments : List String) : IO UInt32 := do
  match CallTrace.CommandLine.Command.ofArguments arguments with
  | .error interruption => CallTrace.Program.finish interruption.ending
  | .ok command => CallTrace.Program.perform (← CallTrace.Program.readConfig) command
