import CallTrace.Proofs.Effects
import CallTrace.Proofs.LineByLine
import CallTrace.Proofs.Scanning
import CallTrace.Server.LineServer

/-!
# The line server, line by line

Every line that is not blank gets one response, in the order of the lines. Lines that are blank, that
are no requests, whose requests fail or whose requests only read leave nothing behind, so the
responses to all other lines are the same without them.
-/

namespace CallTrace

open Server (Exchange Serves)

/-! ## Lines with their responses -/

/-- The identification that a line gives when it is a request, if it gives one. -/
def Request.givenId? (line : String) : Option Json :=
  match ofLine line, record.outline.reader.readText line with
  | .ok _, .ok draft => draft.id
  | _, _ => none

theorem Request.id_eq {line : String} {request : Request} (reads : ofLine line = .ok request) :
    request.id = (givenId? line).getD .null := by
  obtain ⟨draft, drafted, finished⟩ := record.exists_draft reads
  rw [givenId?, reads, drafted]
  cases named : draft.method with
  | none =>
      simp only [record, named] at finished
      cases finished
  | some method =>
      simp only [record, named] at finished
      cases finished
      rfl

/-- The response is written on one line, with either a result or a failure beside the
identification. -/
def Response.IsWritten (response : Response) : Prop :=
  IsSingleLine response.text ∧
    ((∃ result, response.outcome = .ok result ∧
        response.text = (Json.object [("id", response.id), ("result", result)]).compact) ∨
      ∃ message, response.outcome = .error message ∧
        response.text =
          (Json.object [("id", response.id),
            ("error", .ofFields [("message", .text message)])]).compact)

/-- The response is one to a line. -/
structure Response.Answers (response : Response) (line : String) : Prop where
  /-- It carries the identification that the line gives, and none when the line gives none. -/
  id : response.id = (Request.givenId? line).getD .null
  /-- A line that is no request is refused. -/
  misread : ∀ misread, Request.ofLine line = .error misread →
    response.outcome = .error ("invalid request: " ++ misread.message)
  /-- It is written on one line, with either a result or a failure. -/
  written : response.IsWritten

theorem Response.isWritten (response : Response) : response.IsWritten := by
  refine ⟨response.isSingleLine_text, ?_⟩
  rw [response.text_eq, fields]
  cases response.outcome with
  | ok result => exact Or.inl ⟨result, rfl, rfl⟩
  | error message => exact Or.inr ⟨message, rfl, rfl⟩

namespace LineServer

/-- A line that is not blank has a response to it. A blank one has none and leaves everything as it
was. -/
inductive IsProper : Exchange FileSystem Response → Prop where
  /-- The line is blank. -/
  | blank {line : String} {system : FileSystem} (blank : Text.allBlank line = true) :
      IsProper ⟨line, system, none, system⟩
  /-- The line has been answered. -/
  | answered {line : String} {before after : FileSystem} {response : Response}
      (asks : Text.allBlank line = false) (answers : response.Answers line) :
      IsProper ⟨line, before, some response, after⟩

/-- The line is one that later responses do not depend on. -/
inductive IsIdle : Exchange FileSystem Response → Prop where
  /-- The line is blank. -/
  | blank {exchange : Exchange FileSystem Response} (blank : Text.allBlank exchange.line = true) :
      IsIdle exchange
  /-- The line is no request. -/
  | misread {exchange : Exchange FileSystem Response} (misread : Json.Misread)
      (fails : Request.ofLine exchange.line = .error misread) : IsIdle exchange
  /-- The request failed. -/
  | failed {exchange : Exchange FileSystem Response} {response : Response} (message : String)
      (responds : exchange.response? = some response)
      (failed : response.outcome = .error message) : IsIdle exchange
  /-- The request is neither for an import nor for the removal of a workspace's content. -/
  | reading {exchange : Exchange FileSystem Response} (request : Request)
      (reads : Request.ofLine exchange.line = .ok request)
      (noImport : Method.ofName? request.method ≠ some .importDocument)
      (noClear : Method.ofName? request.method ≠ some .clear) : IsIdle exchange

end LineServer

/-! ## One line -/

namespace Session

variable {config : Config} {session : Session} {system reached : FileSystem} {line : String}
  {response : Response}

theorem respond_eq (config : Config) (session : Session) (system : FileSystem)
    (request : Request) :
    session.respond system config request =
      let answer := session.request system config request.method request.params
      ({ id := request.id, outcome := answer.1.mapError Failure.message }, answer.2) :=
  rfl

theorem answers_respondToLine
    (responds : session.respondToLine system config line = (response, reached)) :
    response.Answers line := by
  rw [respondToLine] at responds
  split at responds
  · rename_i request reads
    cases responds
    refine ⟨Request.id_eq reads, fun misread fails => ?_, Response.isWritten _⟩
    rw [reads] at fails
    cases fails
  · rename_i misread fails
    cases responds
    refine ⟨?_, fun other otherFails => ?_, Response.isWritten _⟩
    · simp [Request.givenId?, fails]
    · rw [fails] at otherFails
      cases otherFails
      rfl

/-- An idle line that is not blank leaves everything as it was. -/
theorem eq_of_isIdle (asks : Text.allBlank line = false)
    (responds : session.respondToLine system config line = (response, reached))
    (idle : LineServer.IsIdle ⟨line, system, some response, reached⟩) : reached = system := by
  rw [respondToLine] at responds
  split at responds
  -- Only what is read as a request can change anything, by what it asks for.
  · rename_i request reads
    rw [respond_eq] at responds
    cases responds
    have answered := answered_request config session system request.method request.params
    cases idle with
    | blank blank =>
        rw [asks] at blank
        cases blank
    | misread misread fails =>
        rw [reads] at fails
        cases fails
    | failed message isResponse failed =>
        cases isResponse
        refine answered.eq_of_idle (Or.inl ?_)
        cases outcome : (session.request system config request.method request.params).1 with
        | ok result =>
            simp only [outcome] at failed
            cases failed
        | error failure => exact ⟨failure, rfl⟩
    | reading other readsOther noImport noClear =>
        rw [reads] at readsOther
        cases readsOther
        exact answered.eq_of_idle
          (Or.inr ((Method.namesWriting_eq_false_iff _).mpr ⟨noImport, noClear⟩))
  · cases responds
    rfl

/-! ## Many lines -/

/-- A session responds to a line and leaves a file system behind. -/
def Responds (config : Config) (session : Session) (system : FileSystem) (line : String)
    (response? : Option Response) (reached : FileSystem) : Prop :=
  ∃ response, response? = some response ∧
    session.respondToLine system config line = (response, reached)

theorem exists_responds (config : Config) (session : Session) (system : FileSystem)
    (line : String) : ∃ response? reached, session.Responds config system line response? reached :=
  ⟨_, _, _, rfl, rfl⟩

variable {final : FileSystem} {exchanges : List (Exchange FileSystem Response)}

theorem isProper_of_serves (serves : Serves (session.Responds config) system exchanges final) :
    ∀ exchange ∈ exchanges, LineServer.IsProper exchange := by
  refine serves.forall_exchanges (fun _ _ => .blank) ?_
  rintro line before _ after asks ⟨response, rfl, responds⟩
  exact .answered asks (answers_respondToLine responds)

theorem after_eq_of_serves (serves : Serves (session.Responds config) system exchanges final) :
    ∀ exchange ∈ exchanges, LineServer.IsIdle exchange → exchange.after = exchange.before := by
  refine serves.forall_exchanges (fun _ _ _ _ => rfl) ?_
  rintro line before _ after asks ⟨response, rfl, responds⟩ idle
  exact eq_of_isIdle asks responds idle

theorem respondToLines_eq (serves : Serves (session.Responds config) system exchanges final) :
    session.respondToLines config system (Server.requestLines (exchanges.map Exchange.line)) =
      (exchanges.filterMap Exchange.response?, final) := by
  refine serves.collected Prod.mk (fun _ => rfl) ?_
  rintro before line _ after rest responses last ⟨response, rfl, responds⟩ later
  simp [respondToLines, responds, later]

theorem exists_start_empty :
    ∃ session opened, start default (.empty ⟨"/"⟩) ⟨"/"⟩ ⟨"/index.db"⟩ = (.ok session, opened) ∧
      session.seat = .file ["index.db"] := by
  let before := FileSystem.empty ⟨"/"⟩
  have absent : before.get? ["index.db"] = none := by
    simp [before, FileSystem.get?, FileSystem.empty]
  have opensFile : ∃ reached, before.openAt (.plain "/index.db") ⟨"/index.db"⟩ ["index.db"] =
      (.ok (), reached) := by
    rw [FileSystem.openAt, absent]
    exact ⟨_, rfl⟩
  obtain ⟨reached, opensFile⟩ := opensFile
  have opens : before.openDatabase ⟨"/index.db"⟩ = (.ok ⟨.file ["index.db"], false⟩, reached) := by
    have parent : before.ensureParent ⟨"/index.db"⟩ = (.ok (), before) := rfl
    have address : Address.ofPath ⟨"/index.db"⟩ = .ok (.plain "/index.db") := rfl
    have keeping : (Address.plain "/index.db").keeping = .file ⟨"/index.db"⟩ := rfl
    have location : before.databaseLocation? ⟨"/index.db"⟩ = some ["index.db"] := by decide
    rw [FileSystem.openDatabase, parent]
    simp only [address, FileSystem.openAddress, keeping, FileSystem.openFile, location, opensFile]
    rfl
  exact ⟨_, reached, start_of_openDatabase ⟨"/"⟩ rfl opens, rfl⟩

end Session

namespace LineServer

/-- Every line of the input gets exactly one response, in the order of the lines, unless it is
blank, and the responses can be told apart at the line breaks. An idle line leaves everything as it
was, and whichever such lines are deleted from the input, all other lines get the responses that they
got, and the same is left behind. -/
theorem serve_exchanges {config : Config} {session : Session} {system opened : FileSystem}
    {workspace database : Path}
    (starts : Session.start config system workspace database = (.ok session, opened))
    (lines : List String) :
    ∃ (exchanges : List (Exchange FileSystem Response)) (final : FileSystem),
      exchanges.map Exchange.line = lines ∧
        Serves (session.Responds config) opened exchanges final ∧
        (∀ exchange ∈ exchanges, IsProper exchange ∧
          (IsIdle exchange → exchange.after = exchange.before)) ∧
        serve config system workspace database lines =
          (.ok (exchanges.filterMap Exchange.response?), final) ∧
        Text.split '\n'
            (Server.printed ((exchanges.filterMap Exchange.response?).map Response.text)).toList =
          (exchanges.filterMap Exchange.response?).map (fun response => response.text.toList) ++
            [[]] ∧
        ∀ kept, Exchange.Thinned IsIdle exchanges kept →
          serve config system workspace database (kept.map Exchange.line) =
            (.ok (kept.filterMap Exchange.response?), final) := by
  obtain ⟨exchanges, final, sameLines, serves⟩ :=
    Server.exists_serves (fun before line _ => session.exists_responds config before line)
      opened lines
  have serve_eq {others : List (Exchange FileSystem Response)}
      (serves : Serves (session.Responds config) opened others final) :
      serve config system workspace database (others.map Exchange.line) =
        (.ok (others.filterMap Exchange.response?), final) := by
    simp only [serve, starts, Session.respondToLines_eq serves]
  have proper := Session.isProper_of_serves serves
  have stays := Session.after_eq_of_serves serves
  exact ⟨exchanges, final, sameLines, serves,
    fun exchange member => ⟨proper exchange member, stays exchange member⟩,
    sameLines ▸ serve_eq serves, Server.split_printed Response.isSingleLine_text _,
    fun kept thinned => serve_eq (serves.thinned stays thinned)⟩

/-- A blank line, two that are no requests and two that ask for something. -/
def mixedLines : List String :=
  [" \t", "[", "\x7b\x7d", "\x7b\"id\": 1, \"method\": \"clear\"\x7d",
    "\x7b\"method\": \"stats\"\x7d"]

theorem serve_exchanges_mixed :
    ∃ session opened,
      Session.start default (.empty ⟨"/"⟩) ⟨"/"⟩ ⟨"/index.db"⟩ = (.ok session, opened) ∧
        ∃ (exchanges : List (Exchange FileSystem Response)) (final : FileSystem),
          exchanges.map Exchange.line = mixedLines ∧
            serve default (.empty ⟨"/"⟩) ⟨"/"⟩ ⟨"/index.db"⟩ mixedLines =
              (.ok (exchanges.filterMap Exchange.response?), final) := by
  obtain ⟨session, opened, starts, -⟩ := Session.exists_start_empty
  obtain ⟨exchanges, final, sameLines, -, -, serves, -⟩ := serve_exchanges starts mixedLines
  exact ⟨session, opened, starts, exchanges, final, sameLines, serves⟩

end LineServer

end CallTrace
