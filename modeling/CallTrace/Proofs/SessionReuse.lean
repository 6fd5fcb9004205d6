import CallTrace.Proofs.Framing
import CallTrace.Proofs.Growth

/-!
# Sessions that are used again

A tool server keeps a session for every workspace and database that has been named, and takes it
again when paths with the same components are named. Every session that it keeps is still open,
whatever messages came before. Where the workspace was a directory when its session was started, a
session that is started for the other spelling is like the one that is kept: both answer every
request alike. Where there is no directory the text of a workspace keeps what stands at both ends of
its path, so there the spellings must agree on that.
-/

namespace CallTrace

/-! ## Sessions that are alike -/

namespace Session

/-- The sessions are about the same rows of the same database, may do the same with them, and see
files from paths with the same components. -/
structure IsLike (left right : Session) : Prop where
  /-- The paths of the workspaces have the same components. -/
  root : left.root.same right.root = true
  /-- The workspaces are known by the same text. -/
  workspace : left.workspace = right.workspace
  /-- The database is found in the same place. -/
  seat : left.seat = right.seat
  /-- Both may change it, or neither. -/
  isReadOnly : left.isReadOnly = right.isReadOnly

/-- Both answers are failures or give the same result, and they leave the same file system. -/
def AnswersMatch (left right : Except Failure Json × FileSystem) : Prop :=
  left.1.toOption = right.1.toOption ∧ left.2 = right.2

/-- The path of the document that the parameters of an import name is not too long. -/
def CanFollow (session : Session) (given : Json) : Prop :=
  ∀ request, params ImportParams.record (givenParams given) = .ok request →
    (session.root.resolveFrom ⟨request.path⟩).IsShort

namespace IsLike

variable {left right : Session}

theorem document (alike : left.IsLike right) (system : FileSystem) {path : Path}
    (leftShort : (left.root.resolveFrom path).IsShort)
    (rightShort : (right.root.resolveFrom path).IsShort) :
    (left.document system path).toOption = (right.document system path).toOption := by
  have texts := FileSystem.readText_resolveFrom_of_same system alike.root leftShort rightShort
  rw [Session.document, Session.document]
  cases leftText : system.readText (left.root.resolveFrom path) with
  | error fault =>
      cases rightText : system.readText (right.root.resolveFrom path) with
      | error other => rfl
      | ok text => exact absurd ((texts text).mpr rightText) (by simp [leftText])
  | ok text =>
      rw [(texts text).mp leftText]
      simp only [Except.mapError, bind, Except.bind]
      cases IndexDocument.reader.readText text <;> rfl

theorem importDocument (alike : left.IsLike right) (system : FileSystem)
    (document : IndexDocument) (replace : Bool) :
    left.importDocument system document replace = right.importDocument system document replace := by
  simp only [Session.importDocument, database?, store, alike.workspace, alike.seat,
    alike.isReadOnly]

theorem importFile (alike : left.IsLike right) (system : FileSystem) {given : Json}
    (leftFollows : left.CanFollow given) (rightFollows : right.CanFollow given) :
    AnswersMatch (left.importFile system (givenParams given))
      (right.importFile system (givenParams given)) := by
  rw [Session.importFile, Session.importFile]
  cases asks : params ImportParams.record (givenParams given) with
  | error failure => exact ⟨rfl, rfl⟩
  | ok request =>
      have documents :=
        alike.document system (leftFollows request asks) (rightFollows request asks)
      simp only [bind, Except.bind]
      -- Either both documents are read, and are the same, or neither is.
      cases isLeft : left.document system ⟨request.path⟩ with
      | error failure =>
          cases isRight : right.document system ⟨request.path⟩ with
          | error other => exact ⟨rfl, rfl⟩
          | ok document =>
              rw [isLeft, isRight] at documents
              cases documents
      | ok document =>
          cases isRight : right.document system ⟨request.path⟩ with
          | error other =>
              rw [isLeft, isRight] at documents
              cases documents
          | ok other =>
              rw [isLeft, isRight] at documents
              cases documents
              simp only [pure, Except.pure, alike.importDocument]
              exact ⟨rfl, rfl⟩

/-- Sessions that are alike answer every request alike, except that each lists the workspaces under
the path by which it knows its database. -/
theorem request (alike : left.IsLike right) (config : Config) (system : FileSystem)
    (name : String) {given : Json} (leftFollows : left.CanFollow given)
    (rightFollows : right.CanFollow given)
    (lists : Method.ofName? name = some .listWorkspaces → left.databasePath = right.databasePath) :
    AnswersMatch (left.request system config name given)
      (right.request system config name given) := by
  have imports := alike.importFile system leftFollows rightFollows
  obtain ⟨-, workspace, seat, isReadOnly⟩ := alike
  have answers : left.answer system = right.answer system := by
    funext query
    simp only [answer, read, database?, workspace, seat]
  rw [Session.request, Session.request]
  cases isMethod : Method.ofName? name with
  | none => exact ⟨rfl, rfl⟩
  | some method =>
      cases method with
      | importDocument => exact imports
      | listWorkspaces =>
          simp only [perform, listWorkspaces, read, database?, seat, lists isMethod]
          exact ⟨rfl, rfl⟩
      | _ =>
          simp only [perform, stats, clear, getSymbol, findReferences, findReferencesOf, trace,
            report, inquire, answers, read, database?, store, workspace, seat, isReadOnly]
          exact ⟨rfl, rfl⟩

end IsLike

end Session

/-! ## Kept sessions -/

namespace ToolServer

variable {config : Config} {server : ToolServer}

/-- Every session that is kept was started for the paths under which it is kept, and it is open. -/
def KeepsOpen (config : Config) (server : ToolServer) : Prop :=
  ∀ entry ∈ server.sessions, entry.session.root = entry.workspace ∧
    entry.session.databasePath = entry.database ∧
      ∃ opened, entry.session.IsOpenSince config opened server.system

theorem answerCall_snd (call : ToolCall) :
    (server.answerCall config call).2 = (server.perform config call).2 := by
  rw [answerCall]
  split
  · rename_i succeeds
    rw [succeeds]
  · rename_i fails
    rw [fails]
    split <;> rfl

theorem respondToLines_singleton (line : String) :
    (server.respondToLines config [line]).2.2 = (server.respondToLine config line).2 := by
  rw [respondToLines]
  split
  · rename_i ends
    rw [ends]
  · rename_i goesOn
    rw [goesOn]
    rfl

namespace KeepsOpen

theorem mono {system : FileSystem} (keeps : server.KeepsOpen config)
    (grows : server.system.Grows system) :
    KeepsOpen config { server with system } := by
  intro entry member
  obtain ⟨isRoot, isPath, opened, isOpen⟩ := keeps entry member
  exact ⟨isRoot, isPath, opened, isOpen.mono grows⟩

/-- The session for a workspace and a database is open, and it was started for paths with the same
components. -/
theorem sessionFor (keeps : server.KeepsOpen config) (workspace database : Path) :
    (server.sessionFor config workspace database).2.KeepsOpen config ∧
      ∀ session, (server.sessionFor config workspace database).1 = .ok session →
        session.root.same workspace = true ∧ session.databasePath.same database = true ∧
          ∃ opened, session.IsOpenSince config opened
            (server.sessionFor config workspace database).2.system := by
  rw [ToolServer.sessionFor]
  split
  · rename_i entry known
    refine ⟨keeps, fun session isSession => ?_⟩
    cases isSession
    obtain ⟨isRoot, isPath, isOpen⟩ := keeps entry (List.mem_of_find?_eq_some known)
    have matched := List.find?_some known
    rw [Bool.and_eq_true] at matched
    exact ⟨isRoot ▸ matched.1, isPath ▸ matched.2, isOpen⟩
  · split
    · rename_i failed
      exact ⟨keeps.mono (Session.grows_of_start failed), fun session isSession => by
        cases isSession⟩
    · rename_i session reached starts
      obtain ⟨isRoot, isPath, -⟩ := Session.paths_of_start starts
      have isOpen := Session.IsOpenSince.of_start starts
      refine ⟨fun entry member => ?_, fun other isOther => ?_⟩
      · obtain rfl | member := List.mem_cons.mp member
        · exact ⟨isRoot, isPath, reached, isOpen⟩
        · exact keeps.mono (Session.grows_of_start starts) entry member
      · cases isOther
        rw [isRoot, isPath]
        exact ⟨beq_self_eq_true _, beq_self_eq_true _, reached, isOpen⟩

theorem perform (keeps : server.KeepsOpen config) (call : ToolCall) :
    (server.perform config call).2.KeepsOpen config := by
  simp only [ToolServer.perform]
  generalize server.target call.arguments = target
  obtain ⟨keepsOn, isOpen⟩ := keeps.sessionFor target.1 target.2
  split
  · rename_i failed
    rwa [failed] at keepsOn
  · rename_i session reached offers
    rw [offers] at keepsOn isOpen
    obtain ⟨-, -, opened, isOpen⟩ := isOpen session rfl
    exact keepsOn.mono (session.grows_request config isOpen.found call.method call.params)

theorem respond (keeps : server.KeepsOpen config) (message : Json) :
    (server.respond config message).2.KeepsOpen config := by
  have results : (server.result config message).2.KeepsOpen config := by
    rw [ToolServer.result]
    split
    · exact keeps
    · exact keeps
    · exact keeps
    · exact keeps
    · split
      · exact keeps
      · rw [answerCall_snd]
        exact keeps.perform _
    · exact keeps
  rw [ToolServer.respond]
  split
  · exact keeps
  · exact results

theorem respondToLine (keeps : server.KeepsOpen config) (line : String) :
    (server.respondToLine config line).2.KeepsOpen config := by
  rw [ToolServer.respondToLine]
  split
  · exact keeps.respond _
  · exact keeps

/-- Whatever lines are read, the sessions that are kept are open. -/
theorem respondToLines (keeps : server.KeepsOpen config) (lines : List String) :
    (server.respondToLines config lines).2.2.KeepsOpen config := by
  induction lines generalizing server with
  | nil => exact keeps
  | cons line rest ih =>
      have next := keeps.respondToLine line
      rw [ToolServer.respondToLines]
      split
      · rename_i ends
        rwa [ends] at next
      · rename_i goesOn
        rw [goesOn] at next
        exact ih next

end KeepsOpen

theorem keeps_statsLine {session : Session} {opened : FileSystem}
    (starts : Session.start default (.empty ⟨"/"⟩) ⟨"/"⟩ ⟨"/index.db"⟩ = (.ok session, opened)) :
    (respondToLines default ⟨⟨"/"⟩, ⟨"/index.db"⟩, [], .empty ⟨"/"⟩⟩ [statsLine]).2.2 =
      ⟨⟨"/"⟩, ⟨"/index.db"⟩, [⟨⟨"/"⟩, ⟨"/index.db"⟩, session⟩], opened⟩ := by
  let before : ToolServer := ⟨⟨"/"⟩, ⟨"/index.db"⟩, [], .empty ⟨"/"⟩⟩
  let kept : ToolServer :=
    ⟨⟨"/"⟩, ⟨"/index.db"⟩, [⟨⟨"/"⟩, ⟨"/index.db"⟩, session⟩], opened⟩
  have parses : Json.parse statsLine = .ok statsMessage := by decide +kernel
  have target : before.target statsArguments = (⟨"/"⟩, ⟨"/index.db"⟩) := rfl
  have performs : (before.perform default ⟨"stats", statsArguments⟩).2 = kept := by
    simp only [perform, target, sessionFor, before, List.find?_nil, starts]
    rfl
  have asks : (statsMessage.field? "method").bind Json.text? = some "tools/call" := rfl
  have calls : toolCall (statsMessage.field? "params") = .ok ⟨"stats", statsArguments⟩ := rfl
  have identified : statsMessage.field? "id" = some (Json.integer 1) := rfl
  have responds : (before.respondToLine default statsLine).2 = kept := by
    simp only [respondToLine, parses, respond, identified, result, asks, calls]
    rw [answerCall_snd, performs]
  rw [respondToLines_singleton, responds]

/-- Two spellings of a workspace agree: the workspace was a directory when the first file system was
left, or neither leads anywhere and they are the same at both ends. -/
def SpellingsAgree (opened reached : FileSystem) (kept named : Path) : Prop :=
  (∃ place, opened.LeadsToDirectory kept place) ∨
    reached.LeadsNowhere kept ∧ reached.LeadsNowhere named ∧ kept.SpelledAlike named

/-- A session is used again faithfully where the spellings of its workspace agree. Paths with the same
components are then known by the same text. Whatever lines a tool server has read, the session that
it takes for a workspace and a database was started for paths with the same components; and a session
that is started for the paths themselves is like it, so that from then on both answer every request
alike. -/
theorem reuse_isFaithful (config : Config) :
    (∀ (system : FileSystem) (left right : Path), left.same right = true →
        SpellingsAgree system system left right →
          system.workspaceKey left = system.workspaceKey right) ∧
      ∀ (system : FileSystem) (workspace database : Path) (lines : List String)
        (named file : Path) (session : Session) (after : ToolServer),
        sessionFor (respondToLines config ⟨workspace, database, [], system⟩ lines).2.2 config
            named file = (.ok session, after) →
          session.root.same named = true ∧ session.databasePath.same file = true ∧
            ∃ opened, session.IsOpenSince config opened after.system ∧
              ∀ fresh reached,
                Session.start config after.system named file = (.ok fresh, reached) →
                  file.NamesDatabaseOf session.databasePath →
                    SpellingsAgree opened reached session.root named →
                      session.IsLike fresh ∧
                        ∀ later name given, session.CanFollow given → fresh.CanFollow given →
                          (Method.ofName? name = some .listWorkspaces →
                            session.databasePath = fresh.databasePath) →
                            Session.AnswersMatch (session.request later config name given)
                              (fresh.request later config name given) := by
  refine ⟨fun system left right same agree => FileSystem.workspaceKey_eq_of_same same agree, ?_⟩
  intro system workspace database lines named file session after takes
  have keeps : KeepsOpen config ⟨workspace, database, [], system⟩ := by
    intro entry member
    cases member
  have taken := ((keeps.respondToLines lines).sessionFor named file).2 session
  rw [takes] at taken
  obtain ⟨sameRoot, sameFile, opened, isOpen⟩ := taken rfl
  refine ⟨sameRoot, sameFile, opened, isOpen, fun fresh reached starts names agree => ?_⟩
  obtain ⟨isRoot, -, known⟩ := Session.paths_of_start starts
  have openLater := isOpen.mono (Session.grows_of_start starts)
  have sameText : session.workspace = fresh.workspace := by
    rw [← known, ← isOpen.isSteady.workspace]
    obtain ⟨place, leads⟩ | ⟨keptNowhere, namedNowhere, alike⟩ := agree
    · obtain ⟨-, leadsLater⟩ := openLater.workspace_eq leads
      rw [leads.workspaceKey, (leadsLater.of_same sameRoot).workspaceKey]
    · rw [(keptNowhere.of_grows openLater.grows).2]
      exact FileSystem.workspaceKey_eq_of_same sameRoot (.inr ⟨keptNowhere, namedNowhere, alike⟩)
  obtain ⟨sameSeat, sameAccess⟩ := isOpen.start_again names starts
  have alike : session.IsLike fresh :=
    ⟨isRoot ▸ sameRoot, sameText, sameSeat.symm, sameAccess.symm⟩
  exact ⟨alike, fun later name given follows freshFollows lists =>
    alike.request config later name follows freshFollows lists⟩

theorem reuse_isFaithful_root :
    ∃ session after fresh reached,
      sessionFor (respondToLines default ⟨⟨"/"⟩, ⟨"/index.db"⟩, [], .empty ⟨"/"⟩⟩
          [statsLine]).2.2 default ⟨"//."⟩ ⟨"/index.db"⟩ = (.ok session, after) ∧
        session.root = ⟨"/"⟩ ∧
        Session.start default after.system ⟨"//."⟩ ⟨"/index.db"⟩ = (.ok fresh, reached) ∧
        session.workspace = fresh.workspace ∧
          ∀ later, Session.AnswersMatch (session.request later default "clear" .null)
            (fresh.request later default "clear" .null) := by
  obtain ⟨session, opened, starts, -⟩ := Session.exists_start_empty
  obtain ⟨isRoot, isPath, -⟩ := Session.paths_of_start starts
  let kept : ToolServer :=
    ⟨⟨"/"⟩, ⟨"/index.db"⟩, [⟨⟨"/"⟩, ⟨"/index.db"⟩, session⟩], opened⟩
  have takes : sessionFor (respondToLines default ⟨⟨"/"⟩, ⟨"/index.db"⟩, [], .empty ⟨"/"⟩⟩
      [statsLine]).2.2 default ⟨"//."⟩ ⟨"/index.db"⟩ = (.ok session, kept) := by
    have matched : (Path.same ⟨"/"⟩ ⟨"//."⟩ && Path.same ⟨"/index.db"⟩ ⟨"/index.db"⟩) = true := by
      decide
    rw [keeps_statsLine starts]
    simp only [sessionFor, kept, List.find?_cons, matched]
  obtain ⟨fresh, reached, startsFresh, -⟩ :=
    (Session.isSteady_of_start starts).exists_start_beside ⟨"//."⟩
  rw [isPath] at startsFresh
  obtain ⟨-, faithful⟩ := reuse_isFaithful default
  obtain ⟨-, -, left, -, faithful⟩ := faithful _ _ _ _ _ _ _ _ takes
  have agree : SpellingsAgree left reached session.root ⟨"//."⟩ :=
    .inl ⟨[], isRoot ▸ left.leadsToDirectory_root⟩
  obtain ⟨alike, answers⟩ := faithful fresh reached startsFresh (.inl isPath.symm) agree
  have follows (other : Session) : other.CanFollow .null := by
    intro request asks
    cases asks
  exact ⟨session, kept, fresh, reached, takes, isRoot, startsFresh, alike.workspace,
    fun later => answers later "clear" .null (follows session) (follows fresh) fun lists => by
      cases lists⟩

/-- A workspace that does not exist is known by two texts, one with a slash at the end and one
without it. -/
theorem workspaceKey_ghost :
    Path.same ⟨"ghost"⟩ ⟨"ghost/"⟩ = true ∧
      (FileSystem.empty ⟨"/"⟩).LeadsNowhere ⟨"ghost"⟩ ∧
      (FileSystem.empty ⟨"/"⟩).LeadsNowhere ⟨"ghost/"⟩ ∧
      (FileSystem.empty ⟨"/"⟩).workspaceKey ⟨"ghost"⟩ = "/ghost" ∧
      (FileSystem.empty ⟨"/"⟩).workspaceKey ⟨"ghost/"⟩ = "/ghost/" := by
  have vacant : (FileSystem.empty ⟨"/"⟩).get? ["ghost"] = none := by
    simp [FileSystem.get?, FileSystem.empty]
  have first : (FileSystem.empty ⟨"/"⟩).step [] "ghost" = .ok ["ghost"] := by decide
  have second : (FileSystem.empty ⟨"/"⟩).step ["ghost"] "" = .error .notFound := by
    rw [FileSystem.step, vacant]
  have bare : (FileSystem.empty ⟨"/"⟩).LeadsNowhere ⟨"ghost"⟩ := by
    intro location reaches
    have walks : (FileSystem.empty ⟨"/"⟩).walk ⟨"ghost"⟩ = .ok ["ghost"] := by decide
    obtain rfl := Except.ok.inj (walks.symm.trans reaches)
    exact vacant
  have slashed : (FileSystem.empty ⟨"/"⟩).LeadsNowhere ⟨"ghost/"⟩ := by
    intro location reaches
    obtain ⟨-, -, reaches⟩ := FileSystem.walk_eq_ok_iff.mp reaches
    have pieces : (⟨"ghost/"⟩ : Path).pieces = ["ghost", ""] := by decide
    have origin : (FileSystem.empty ⟨"/"⟩).origin ⟨"ghost/"⟩ = [] := by decide
    simp [pieces, origin, first, second, bind, Except.bind] at reaches
  refine ⟨by decide, bare, slashed, ?_, ?_⟩
  · rw [bare.workspaceKey]
    decide +kernel
  · rw [slashed.workspaceKey]
    decide +kernel

end ToolServer

end CallTrace
