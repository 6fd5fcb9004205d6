import CallTrace.Proofs.CallChain
import CallTrace.Proofs.Levels
import CallTrace.Proofs.Reading
import CallTrace.Proofs.Settings

/-!
# How deep requests can go

The settings bound the depth of every trace that a request can ask for, whatever the variables say
and whatever the request asks for. The answer tells the bound, and tells what was asked for when that
is not kept.
-/

namespace CallTrace

/-! ## The depth that parameters ask for -/

namespace TraceParams

open Json

/-- The parameters, as an object or as a list, ask for a depth. -/
inductive AsksDepth : Json → Nat → Prop where
  /-- The depth is a field under one of its names. -/
  | named {fields : List (String × Json)} {name : String} {depth : Nat}
      (isName : name = "max_depth" ∨ name = "depth") (given : (name, .ofNat depth) ∈ fields) :
      AsksDepth (.object fields) depth
  /-- The depth stands behind the name and the direction. -/
  | placed {items : List Json} {depth : Nat} (given : items[2]? = some (.ofNat depth)) :
      AsksDepth (.array items) depth

/-- Reading the field leaves the depth of a draft as it is. -/
def KeepsDepth (field : RecordField Draft) : Prop :=
  ∀ value put draft, field.reader.ofJson value = .ok put →
    (put draft).maxDepth = draft.maxDepth

theorem keepsDepth_of_map {α : Type} {name : String} {aliases : List String} {omissible : Bool}
    {filled : Draft → Bool} {reader : Reader α} {place : α → Draft → Draft}
    (keeps : ∀ value draft, (place value draft).maxDepth = draft.maxDepth) :
    KeepsDepth ⟨name, aliases, omissible, filled, reader.map place⟩ := by
  intro value put draft reads
  obtain ⟨read, -, rfl⟩ := exists_of_map_eq_ok reads
  exact keeps read draft

/-- The field for the depth. -/
def depthField : RecordField Draft :=
  openField "max_depth" ["depth"] .count (·.maxDepth)
    fun value draft => { draft with maxDepth := some value }

theorem keepsDepth_of_mem {field : RecordField Draft} (isListed : field ∈ record.fields) :
    field = depthField ∨ KeepsDepth field ∧ field.name ≠ "max_depth" ∧ field.name ≠ "depth" ∧
      "max_depth" ∉ field.aliases ∧ "depth" ∉ field.aliases := by
  simp only [record, List.mem_cons, List.not_mem_nil, or_false] at isListed
  obtain rfl | rfl | rfl | rfl | rfl | rfl := isListed
  · exact .inr ⟨keepsDepth_of_map fun _ _ => rfl, by simp⟩
  · exact .inr ⟨keepsDepth_of_map fun _ _ => rfl, by simp [openField]⟩
  · exact .inl rfl
  · exact .inr ⟨keepsDepth_of_map fun _ _ => rfl, by simp [openField]⟩
  · exact .inr ⟨keepsDepth_of_map fun _ _ => rfl, by simp [openField]⟩
  · exact .inr ⟨keepsDepth_of_map fun _ _ => rfl, by simp [openField]⟩

/-- A number is read as a depth when it is the depth. -/
theorem optional_count_eq_some_iff {value : Json} {read : Option Nat}
    (reads : Reader.count.optional.ofJson value = .ok read) (depth : Nat) :
    read = some depth ↔ value = .ofNat depth := by
  cases value with
  | number written =>
      obtain ⟨count, counts, rfl⟩ := exists_of_map_eq_ok reads
      cases written with
      | real real => cases counts
      | integer whole =>
          have counted : Number.count (.integer whole) = .ok count := counts
          rw [Number.count] at counted
          split at counted
          · cases counted
            simp only [Option.some.injEq, ofNat, integer, Json.number.injEq,
              Number.integer.injEq]
            omega
          · cases counted
  | null =>
      cases reads
      simp [ofNat, integer]
  | boolean value => cases reads
  | text value => cases reads
  | array items => cases reads
  | object fields => cases reads

theorem maxDepth_of_depthField {value : Json} {put : Draft → Draft} (draft : Draft)
    (reads : depthField.reader.ofJson value = .ok put) (depth : Nat) :
    (put draft).maxDepth = some (some depth) ↔ value = .ofNat depth := by
  obtain ⟨read, counts, rfl⟩ := exists_of_map_eq_ok reads
  rw [← optional_count_eq_some_iff counts, Option.some.injEq]

/-! ### Objects -/

/-- A named value changes the depth of a draft when it goes by a name of the depth. -/
theorem maxDepth_draftField {draft after : Draft} {name : String} {value : Json}
    (reads : record.draftField draft name value = .ok after) (depth : Nat) :
    after.maxDepth = some (some depth) ↔ draft.maxDepth = some (some depth) ∨
      (name = "max_depth" ∨ name = "depth") ∧ value = .ofNat depth := by
  rw [Record.draftField] at reads
  split at reads
  · rename_i unknown
    cases reads
    have isOther : ¬(name = "max_depth" ∨ name = "depth") := by
      rintro (rfl | rfl) <;> cases unknown
    simp only [isOther, false_and, or_false]
  · rename_i field isNamed
    have isListed := List.mem_of_find?_eq_some isNamed
    have goesBy : field.name = name ∨ name ∈ field.aliases := by
      simpa using List.find?_some isNamed
    split at reads
    · cases reads
    · rename_i isOpen
      obtain ⟨put, given, placed⟩ := exists_of_bind_eq_ok reads
      cases placed
      obtain rfl | ⟨keeps, notFirst, notSecond, noFirst, noSecond⟩ := keepsDepth_of_mem isListed
      · have blank : draft.maxDepth = none := by simpa [depthField, openField] using isOpen
        have isName : name = "max_depth" ∨ name = "depth" :=
          goesBy.imp Eq.symm List.mem_singleton.mp
        rw [maxDepth_of_depthField draft given]
        simp only [blank, reduceCtorEq, isName, true_and, false_or]
      · have isNoName : ¬(name = "max_depth" ∨ name = "depth") := by
          rintro (rfl | rfl)
          · exact goesBy.elim notFirst noFirst
          · exact goesBy.elim notSecond noSecond
        rw [keeps value put draft given]
        simp only [isNoName, false_and, or_false]

theorem maxDepth_draftFields {draft after : Draft} {fields : List (String × Json)}
    (reads : record.draftFields draft fields = .ok after) (depth : Nat) :
    after.maxDepth = some (some depth) ↔ draft.maxDepth = some (some depth) ∨
      ∃ name, (name = "max_depth" ∨ name = "depth") ∧ (name, Json.ofNat depth) ∈ fields := by
  induction fields generalizing draft with
  | nil =>
      cases reads
      simp
  | cons field rest ih =>
      obtain ⟨name, value⟩ := field
      obtain ⟨between, first, later⟩ := exists_of_bind_eq_ok reads
      rw [ih later, maxDepth_draftField first, or_assoc]
      refine or_congr_right ⟨?_, ?_⟩
      · rintro (⟨isName, rfl⟩ | ⟨other, isName, isGiven⟩)
        · exact ⟨name, isName, List.mem_cons_self⟩
        · exact ⟨other, isName, List.mem_cons_of_mem _ isGiven⟩
      · rintro ⟨other, isName, isGiven⟩
        obtain same | isGiven := List.mem_cons.mp isGiven
        · cases same
          exact .inl ⟨isName, rfl⟩
        · exact .inr ⟨other, isName, isGiven⟩

/-! ### Lists -/

theorem exists_of_draftItems_cons {length index : Nat} {draft after : Draft}
    {field : RecordField Draft} {fields : List (RecordField Draft)} {items : List Json}
    (isNeeded : field.omissible = false)
    (reads : record.draftItems length index draft (field :: fields) items = .ok after) :
    ∃ item rest put, items = item :: rest ∧ field.reader.ofJson item = .ok put ∧
      record.draftItems length (index + 1) (put draft) fields rest = .ok after := by
  cases items with
  | nil =>
      rw [Record.draftItems, isNeeded] at reads
      cases reads
  | cons item rest =>
      obtain ⟨put, first, later⟩ := exists_of_bind_eq_ok reads
      exact ⟨item, rest, put, rfl, first, later⟩

theorem maxDepth_draftItems {fields : List (RecordField Draft)}
    (keep : ∀ field ∈ fields, KeepsDepth field ∧ field.omissible = false) {length index : Nat}
    {draft after : Draft} {items : List Json}
    (reads : record.draftItems length index draft fields items = .ok after) :
    after.maxDepth = draft.maxDepth := by
  induction fields generalizing index draft items with
  | nil =>
      cases items <;> cases reads
      rfl
  | cons field fields ih =>
      obtain ⟨⟨keeps, isNeeded⟩, others⟩ := List.forall_mem_cons.mp keep
      obtain ⟨item, rest, put, -, first, later⟩ := exists_of_draftItems_cons isNeeded reads
      rw [ih others later, keeps item put draft first]

theorem maxDepth_draftItems_record {length : Nat} {after : Draft} {items : List Json}
    (reads : record.draftItems length 0 record.blank record.fields items = .ok after)
    (depth : Nat) : after.maxDepth = some (some depth) ↔ items[2]? = some (.ofNat depth) := by
  obtain ⟨name, _, _, rfl, -, reads⟩ := exists_of_draftItems_cons rfl reads
  obtain ⟨direction, _, _, rfl, -, reads⟩ := exists_of_draftItems_cons rfl reads
  obtain ⟨third, rest, put, rfl, given, reads⟩ := exists_of_draftItems_cons rfl reads
  rw [maxDepth_draftItems ?keep reads, maxDepth_of_depthField _ given]
  case keep =>
    simp only [List.forall_mem_cons]
    exact ⟨⟨keepsDepth_of_map fun _ _ => rfl, rfl⟩, ⟨keepsDepth_of_map fun _ _ => rfl, rfl⟩,
      ⟨keepsDepth_of_map fun _ _ => rfl, rfl⟩, fun _ member => absurd member List.not_mem_nil⟩
  simp

/-- A request asks for the depth that its parameters ask for. -/
theorem maxDepth_eq_some_iff {given : Json} {request : TraceParams}
    (reads : record.reader.ofJson given = .ok request) (depth : Nat) :
    request.maxDepth = some depth ↔ AsksDepth given depth := by
  have drafted {draft : Draft} (finishes : record.finish draft = .ok request) :
      request.maxDepth = some depth ↔ draft.maxDepth = some (some depth) := by
    obtain ⟨name, -, finished⟩ := exists_of_bind_eq_ok finishes
    cases finished
    exact Option.join_eq_some_iff
  cases given with
  | object fields =>
      obtain ⟨draft, drafts, finishes⟩ := exists_of_bind_eq_ok reads
      rw [drafted finishes, maxDepth_draftFields drafts]
      refine ⟨?_, ?_⟩
      · rintro (isBlank | ⟨name, isName, isGiven⟩)
        · cases isBlank
        · exact .named isName isGiven
      · rintro ⟨isName, isGiven⟩
        exact .inr ⟨_, isName, isGiven⟩
  | array items =>
      obtain ⟨draft, drafts, finishes⟩ := exists_of_bind_eq_ok reads
      rw [drafted finishes, maxDepth_draftItems_record drafts]
      refine ⟨.placed, fun asks => ?_⟩
      cases asks with
      | placed isGiven => exact isGiven
  | null => cases reads
  | boolean value => cases reads
  | number value => cases reads
  | text value => cases reads

end TraceParams

/-! ## Answers that keep to the settings -/

open CallNode in
/-- An answer to a request for a trace that keeps to the settings, where the request asks for a depth
or leaves it open. -/
structure Config.Bounds (config : Config) (asked : Option Nat) (answer : Json) (depth : Nat) :
    Prop where
  /-- The depth is what was asked for, as far as the settings allow it, or what they give. -/
  isDepth : depth = asked.elim config.defaultMaxDepth (min · config.maxDepthLimit)
  /-- The answer tells the depth. -/
  maxDepth : answer.field? "max_depth" = some (.ofNat depth)
  /-- It tells what was asked for when that is more than the settings allow, and only then. -/
  requested : ∀ value, answer.field? "requested_max_depth" = some value ↔
    ∃ request, asked = some request ∧ config.maxDepthLimit < request ∧ value = .ofNat request
  /-- Callers stand at the levels at which they are nested, down to the depth at most. -/
  callers : ∀ value, answer.field? "callers" = some value → AreWrittenAt depth 0 value
  /-- Callees stand at the levels at which they are nested, down to the depth at most. -/
  callees : ∀ value, answer.field? "callees" = some value → AreWrittenAt depth 0 value
  /-- The summary tells of no call that is deeper. -/
  deepest : ∃ summary deepest, answer.field? "summary" = some summary ∧
    summary.field? "deepest" = some (.ofNat deepest) ∧ deepest ≤ depth

theorem Session.bounds_toJson {config : Config} (isSound : config.defaultMaxDepth ≤ config.maxDepthLimit)
    {session : Session} {system : FileSystem} {request : TraceParams}
    {direction : TraceDirection} {report : TraceReport}
    (reports : session.report system config request direction = .ok report)
    (format : TraceFormat) :
    config.Bounds request.maxDepth (report.toJson format) report.maxDepth := by
  obtain ⟨finding, finds, reported⟩ := exists_of_bind_eq_ok reports
  have ensure := CallPath.directionsEnsure_areLevelled (fun _ _ => True) request.name
    (((Session.requestedOptions config request).clamp config).clamp config)
  obtain ⟨-, levelled⟩ :=
    Session.of_inquire (TraceFinding.ensuresUnder_inquiry ensure direction) finds
  rw [TraceOptions.clamp_clamp] at levelled
  cases reported
  refine ⟨?_, TraceReport.field?_maxDepth _ _, fun value => ?_,
    fun value => TraceReport.areWrittenAt_of_field? levelled (.inl rfl),
    fun value => TraceReport.areWrittenAt_of_field? levelled (.inr rfl),
    ⟨_, _, TraceReport.field?_summary _ _, ?_, TraceFinding.deepest_summary_le levelled⟩⟩
  · cases asked : request.maxDepth with
    | none => simpa [requestedOptions, TraceOptions.clamp, asked] using isSound
    | some depth => simp [requestedOptions, TraceOptions.clamp, asked]
  · rw [TraceReport.field?_requestedDepth]
    cases asked : request.maxDepth with
    | none => simp [requestedOptions, TraceOptions.clamp, asked, isSound]
    | some depth => simp [requestedOptions, TraceOptions.clamp, asked, eq_comm]
  · simp [TraceSummary.toJson, Json.field?, Json.ofFields, Json.lookup_setField]

namespace Config

/-- Whatever the variables say, the depths of the settings are within bounds, and a variable that
writes no number of the right size might as well not be set. An answer to a request for a trace keeps
to the settings, whatever the database holds and whatever depth is asked for. -/
theorem ofVariables_bounds (lookup : String → Option String) :
    (ofVariables lookup).defaultMaxDepth ≤ (ofVariables lookup).maxDepthLimit ∧
      (ofVariables lookup).maxDepthLimit ≤ 256 ∧
      (∀ setting ∈ settings, ∀ text, lookup setting.variableName = some text →
        setting.IsMalformed text →
        ofVariables lookup = ofVariables (Function.update lookup setting.variableName none)) ∧
      ∀ (session : Session) (system reached : FileSystem) (name : String) (given answer : Json),
        Method.ofName? name = some .traceCallPath →
        session.request system (ofVariables lookup) name given = (.ok answer, reached) →
        ∃ asked depth, (∀ request, asked = some request ↔
            TraceParams.AsksDepth (Session.givenParams given) request) ∧
          (ofVariables lookup).Bounds asked answer depth := by
  refine ⟨defaultMaxDepth_ofVariables_le lookup, maxDepthLimit_ofVariables_le lookup,
    fun setting isListed text isSet => ofVariables_of_isMalformed isListed isSet,
    fun session system reached name given answer isTrace answers => ?_⟩
  have traces : session.trace system (ofVariables lookup) (Session.givenParams given) =
      .ok answer := by
    simp only [Session.request, isTrace, Session.perform, Prod.mk.injEq] at answers
    exact answers.1
  obtain ⟨request, reads, traces⟩ := exists_of_bind_eq_ok traces
  obtain ⟨direction, -, traces⟩ := exists_of_bind_eq_ok traces
  obtain ⟨format, -, traces⟩ := exists_of_bind_eq_ok traces
  obtain ⟨report, reports, written⟩ := exists_of_bind_eq_ok traces
  cases written
  exact ⟨request.maxDepth, report.maxDepth,
    TraceParams.maxDepth_eq_some_iff (eq_ok_of_mapError_eq_ok reads),
    Session.bounds_toJson (defaultMaxDepth_ofVariables_le lookup) reports format⟩

/-- Variables of which one writes no number, and one a number between blanks. -/
def someVariables (variableName : String) : Option String :=
  if variableName = "REFTRACE_DEFAULT_MAX_DEPTH" then
    some "1e9"
  else if variableName = "REFTRACE_MAX_DEPTH_LIMIT" then
    some " +4\t"
  else
    none

/-- A session on a database in memory. -/
def memorySession : Session where
  workspace := "/"
  root := ⟨"/"⟩
  databasePath := ⟨"file:m.db?mode=memory&cache=shared"⟩
  seat := .memory "unix:m.db"
  isReadOnly := false

/-- A file system under which a database with recursive functions is kept in memory. -/
def recursiveSystem : FileSystem :=
  (FileSystem.empty ⟨"/"⟩).keep "unix:m.db" (Database.fresh.writeDocument "/" CallPath.recursiveDocument)

/-- Parameters that ask for the greatest depth there is. -/
def deepestParams : Json :=
  .object [("direction", .text "up"), ("max_depth", .ofNat (2 ^ 64 - 1)), ("name", .text "step")]

theorem exists_answer_deepestParams (config : Config) :
    ∃ answer, memorySession.request recursiveSystem config "trace" deepestParams =
      (.ok answer, recursiveSystem) := by
  let database := Database.fresh.writeDocument "/" CallPath.recursiveDocument
  let options : TraceOptions := ⟨min (2 ^ 64 - 1) config.maxDepthLimit, false, false⟩
  have found : memorySession.database? recursiveSystem = some database :=
    Std.HashMap.getElem?_insert_self
  have answers : memorySession.answer recursiveSystem = Answers.store (database.answer "/") := by
    funext query
    rw [Session.answer, Session.read, found]
    rfl
  have traced : (CallPath.traceUpward config "step" options).outcome (ε := StoreFault)
      (Answers.store (database.answer "/")) =
        .ok (Answers.trees (database.answer "/") .upward "step" (options.clamp config)) :=
    CallPath.outcome_trace _ config .upward "step" options
  have finds :
      memorySession.inquire recursiveSystem (TraceFinding.inquiry "step" options .up config) =
        .ok (.callers
          (Answers.trees (database.answer "/") .upward "step" (options.clamp config))) := by
    rw [Session.inquire, answers, TraceFinding.inquiry, Inquiry.outcome_bind_of_ok traced]
    rfl
  have reads : Session.params TraceParams.record deepestParams =
      .ok ⟨"step", some "up", some (2 ^ 64 - 1), none, none, none⟩ := rfl
  have isUp : Session.direction (some "up") = .ok .up := by decide +kernel
  have traces : ∃ answer, memorySession.trace recursiveSystem config deepestParams =
      .ok answer := by
    have clamped : (Session.requestedOptions config
        ⟨"step", some "up", some (2 ^ 64 - 1), none, none, none⟩).clamp config = options := rfl
    simp only [Session.trace, reads, isUp, Session.format, Session.report, clamped, finds, bind,
      Except.bind]
    exact ⟨_, rfl⟩
  obtain ⟨answer, traces⟩ := traces
  exact ⟨answer, congrArg (·, recursiveSystem) traces⟩

theorem ofVariables_bounds_malformed :
    (ofVariables someVariables).maxDepthLimit = 4 ∧
      ofVariables someVariables =
        ofVariables (Function.update someVariables "REFTRACE_DEFAULT_MAX_DEPTH" none) ∧
      ∃ answer, memorySession.request recursiveSystem (ofVariables someVariables) "trace"
          deepestParams = (.ok answer, recursiveSystem) ∧
        (ofVariables someVariables).Bounds (some (2 ^ 64 - 1)) answer 4 := by
  obtain ⟨-, -, malformed, bounds⟩ := ofVariables_bounds someVariables
  obtain ⟨answer, answers⟩ := exists_answer_deepestParams (ofVariables someVariables)
  have isLimit : (ofVariables someVariables).maxDepthLimit = 4 := by decide +kernel
  have isMalformed :
      Setting.IsMalformed ⟨"REFTRACE_DEFAULT_MAX_DEPTH", Text.maxCount64⟩ "1e9" := by
    intro value fits writes
    have reads := Text.natural?_eq_some_iff.mpr ⟨writes, fits⟩
    have refused : Text.natural? Text.maxCount64 (Text.trim "1e9") = none := by decide +kernel
    rw [refused] at reads
    cases reads
  refine ⟨isLimit, malformed _ (by decide) _ rfl isMalformed, answer, answers, ?_⟩
  obtain ⟨asked, depth, asks, isBounded⟩ := bounds memorySession recursiveSystem recursiveSystem
    "trace" deepestParams answer (by decide) answers
  obtain rfl : asked = some (2 ^ 64 - 1) := (asks _).mpr (.named (.inl rfl) (by simp))
  obtain rfl : depth = 4 := by rw [isBounded.isDepth, Option.elim_some, isLimit]; decide
  exact isBounded

end Config

end CallTrace
