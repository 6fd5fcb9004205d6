/-!
# Arguments

Arguments are read from left to right. An option begins with two dashes; its value follows after an
equals sign or as the next argument, which must not look like an option. Every option may be given
once. A request for help ends the reading, and so does the first mistake.
-/

namespace CallTrace.CommandLine

/-- Why arguments were not read to their end. -/
inductive Interruption where
  /-- Help is asked for. -/
  | help
  /-- The version is asked for. -/
  | version
  /-- There is a mistake. -/
  | mistake
deriving DecidableEq, Repr

/-- An option that is understood. -/
structure OptionRule where
  /-- Its name, without the dashes. -/
  name : String
  /-- Whether it has a value. -/
  hasValue : Bool
  /-- Whether a value is allowed. -/
  allows : String → Bool

/-- An option whose value is allowed when a condition holds. -/
def valued (name : String) (allows : String → Bool) : OptionRule :=
  ⟨name, true, allows⟩

/-- An option with any value. -/
def textOption (name : String) : OptionRule :=
  valued name fun _ => true

/-- An option with a path, which cannot be empty. -/
def pathOption (name : String) : OptionRule :=
  valued name fun text => !text.isEmpty

/-- An option without value. -/
def flag (name : String) : OptionRule :=
  ⟨name, false, fun _ => true⟩

/-- Options that have been given, with their values; an option without value has an empty one. -/
abbrev Given := List (String × String)

/-- Split an option at its first equals sign. -/
def splitOption (body : List Char) : String × Option String :=
  let name := String.ofList (body.takeWhile (· != '='))
  match body.dropWhile (· != '=') with
  | [] => (name, none)
  | _ :: value => (name, some (String.ofList value))

/-- Whether an argument can be the value of the option before it. -/
def standsAlone (argument : String) : Bool :=
  argument == "-" || argument.toList.head? != some '-'

/-- Add an option, unless it is there already or its value is not allowed. -/
def add (given : Given) (rule : OptionRule) (value : String) : Except Interruption Given :=
  if (given.lookup rule.name).isSome || !rule.allows value then
    .error .mistake
  else
    .ok ((rule.name, value) :: given)

/-- Read an option with the value that is attached to it, or else with the next argument. The result
is what has been given, and the arguments that follow. -/
def readOption (rules : List OptionRule) (given : Given) (name : String)
    (attached : Option String) (rest : List String) :
    Except Interruption (Given × List String) := do
  match rules.find? fun rule => rule.name == name with
  | none => .error .mistake
  | some rule =>
    match rule.hasValue, attached, rest with
    | false, none, rest => return (← add given rule "", rest)
    | false, some _, _ => .error .mistake
    | true, some value, rest => return (← add given rule value, rest)
    | true, none, [] => .error .mistake
    | true, none, value :: rest =>
      if standsAlone value then return (← add given rule value, rest) else .error .mistake

/-- Read options to the end of the arguments. Every round takes at least one argument off, so as
many rounds as there are arguments are enough. -/
def readOptions (rules : List OptionRule) (given : Given) :
    Nat → List String → Except Interruption Given
  | _, [] => .ok given
  | 0, _ => .error .mistake
  | rounds + 1, argument :: rest =>
    match argument.toList with
    | ['-', '-'] => if rest.isEmpty then .ok given else .error .mistake
    | '-' :: '-' :: body =>
      let (name, attached) := splitOption body
      if name = "help" then
        .error (if attached.isNone then .help else .mistake)
      else do
        let (given, rest) ← readOption rules given name attached rest
        readOptions rules given rounds rest
    | '-' :: 'h' :: _ => .error .help
    | _ => .error .mistake

/-- Read options up to the first argument that is none. The result is that argument, and the
arguments after it. -/
def readLeadingOptions (rules : List OptionRule) (given : Given) :
    Nat → List String → Except Interruption (String × List String)
  | _, [] => .error .mistake
  | 0, _ => .error .mistake
  | rounds + 1, argument :: rest =>
    match argument.toList with
    | ['-', '-'] => .error .mistake
    | '-' :: '-' :: body =>
      let (name, attached) := splitOption body
      if name = "help" then
        .error (if attached.isNone then .help else .mistake)
      else if name = "version" then
        .error (if attached.isNone then .version else .mistake)
      else do
        let (given, rest) ← readOption rules given name attached rest
        readLeadingOptions rules given rounds rest
    | '-' :: 'h' :: _ => .error .help
    | '-' :: 'V' :: _ => .error .version
    | '-' :: _ => .error .mistake
    | _ => .ok (argument, rest)

end CallTrace.CommandLine
