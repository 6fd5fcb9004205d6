import CallTrace.CommandLine.Command
import CallTrace.Server.LineServer
import CallTrace.Server.ToolServer

/-!
# Running commands

A command writes its result to the output and ends with a code: zero when it succeeds, one with a
complaint when it fails, two when the arguments are mistaken, and one hundred and one when the
program cannot go on.
-/

namespace CallTrace.CommandLine

open Json

/-- How a command ended. -/
structure Ending where
  /-- The code. -/
  code : Nat
  /-- What was written to the output. -/
  output : String
  /-- What was complained about. -/
  complaint : String
deriving DecidableEq, Repr

namespace Ending

/-- A text with its later lines moved to the right. -/
def indentLater (blanks : Nat) (text : String) : String :=
  String.intercalate ("\n" ++ String.ofList (List.replicate blanks ' '))
    ((Text.split '\n' text.toList).map String.ofList)

/-- The causes of a failure in lines of their own, numbered when there are several. -/
def causeLines : List String → List String
  | [] => []
  | [cause] => ["    " ++ indentLater 4 cause]
  | causes => causes.zipIdx.map fun (cause, position) =>
    let label := toString position
    String.ofList (List.replicate (5 - label.length) ' ') ++ label ++ ": " ++ indentLater 7 cause

/-- The complaint about a failure. -/
def complaintText (failure : Failure) : String :=
  let causes :=
    match causeLines failure.causes with
    | [] => ""
    | lines => "\n\nCaused by:\n" ++ String.intercalate "\n" lines
  "Error: " ++ failure.message ++ causes ++ "\n"

/-- The command succeeded. -/
def success (output : String) : Ending :=
  ⟨0, output, ""⟩

/-- The command failed, after some output. -/
def failed (output : String) (failure : Failure) : Ending :=
  if failure.isFatal then ⟨101, output, ""⟩ else ⟨1, output, complaintText failure⟩

/-- The ending of a command that yields its output or fails. -/
def ofOutcome (outcome : Except Failure String) : Ending :=
  match outcome with
  | .ok output => success output
  | .error failure => failed "" failure

end Ending

/-- A short reminder of the commands. -/
def usage : String :=
  "Usage: reftrace [--log-level LEVEL] " ++
    "import|stats|references|trace|request|serve|mcp-serve [OPTIONS]\n"

/-- The ending when no command was read. -/
def Interruption.ending : Interruption → Ending
  | .help => .success usage
  | .version => .success ("reftrace " ++ ToolServer.programVersion ++ "\n")
  | .mistake => ⟨2, "", ""⟩

variable (config : Config) (system : FileSystem)

/-- Answer a request for a method in a session of its own. -/
def askOnce (workspace database : Path) (method : Method) (params : Json) :
    Except Failure Json × FileSystem :=
  match Session.start config system workspace database with
  | (.error failure, reached) => (.error failure, reached)
  | (.ok session, reached) => session.request reached config method.name params

/-- A result as output: a text that it holds goes out as it is, everything else as data. -/
def resultOutput (result : Json) : String :=
  match (result.field? "text").bind Json.text? with
  | some shown => shown
  | none => result.pretty ++ "\n"

/-- The method that an action asks for, with its parameters. -/
def methodOf? : Action → Option (Method × Json)
  | .importFile path append =>
    some (.importDocument, ofFields [
      ("path", .text (system.absolute path).text), ("append", .boolean append)])
  | .stats => some (.stats, ofFields [])
  | .references name caseSensitive =>
    some (.findReferences, ofFields [
      ("name", .text name), ("case_sensitive", .boolean caseSensitive)])
  | .referencesOf id => some (.findReferencesOf, ofFields [("id", ofInt64 id)])
  | .trace name direction maxDepth caseSensitive suppressCycles format =>
    some (.traceCallPath, ofFields (
      [("name", .text name),
        ("direction", .text direction),
        ("case_sensitive", .boolean caseSensitive),
        ("suppress_cycles", .boolean suppressCycles),
        ("format", .text format)] ++
      (maxDepth.map fun depth => ("max_depth", ofNat depth)).toList))
  | .request .. | .serve | .serveTool => none

/-- The parameters of a single request. -/
def requestParams (params : String) : Option Path → Except Failure String
  | none => .ok params
  | some path => (system.readText path).mapError (.unreadable path)

/-- Answer a single request. -/
def answerRequest (command : Command) (method params : String) (paramsFile : Option Path)
    (id : String) : Ending × FileSystem :=
  match requestParams system params paramsFile with
  | .error failure => (.failed "" failure, system)
  | .ok params =>
    let (outcome, reached) :=
      LineServer.call config system command.workspace command.database method params id
    (.ofOutcome (outcome.map fun response => response.text ++ "\n"), reached)

/-- Serve requests on lines. -/
def serveLines (command : Command) (input : List String) : Ending × FileSystem :=
  let (outcome, reached) :=
    LineServer.serve config system command.workspace command.database input
  (.ofOutcome (outcome.map fun responses =>
    String.join (responses.map fun response => response.text ++ "\n")), reached)

/-- Serve calls of the tool. -/
def serveToolLines (command : Command) (input : List String) : Ending × FileSystem :=
  let (answers, failure, reached) :=
    ToolServer.serve config system command.workspace command.database input
  let output := String.join (answers.map fun answer => answer.compact ++ "\n")
  (match failure with
    | none => .success output
    | some failure => .failed output failure,
    reached.system)

/-- Carry out a command on some lines of input. -/
def Command.run (command : Command) (input : List String) : Ending × FileSystem :=
  match command.action with
  | .request method params paramsFile id =>
    answerRequest config system command method params paramsFile id
  | .serve => serveLines config system command input
  | .serveTool => serveToolLines config system command input
  | action =>
    match methodOf? system action with
    | none => (.success "", system)
    | some (method, params) =>
      let (outcome, reached) :=
        askOnce config system command.workspace command.database method params
      (.ofOutcome (outcome.map fun result =>
        match method with
        | .traceCallPath => resultOutput result
        | _ => result.pretty ++ "\n"), reached)

/-- Run the program with some arguments on some lines of input. What it kept in memory is gone when
it has ended. -/
def run (arguments input : List String) : Ending × FileSystem :=
  match Command.ofArguments arguments with
  | .error interruption => (interruption.ending, system)
  | .ok command =>
    let (ending, reached) := command.run config system input
    (ending, { reached with memory := system.memory })

end CallTrace.CommandLine
