import CallTrace.Proofs.DepthBounds
import CallTrace.Proofs.Representation

/-!
# The size of replies

The reply to a call of the tool carries the result twice, as a text and as structured data. A text
that is too large is replaced by a notice, which is short; the structured data is never replaced. So
the notice keeps the text small, but not the reply, which grows with the result without bound.
-/

namespace CallTrace

open Json

/-! ## Bytes -/

theorem Text.utf8ByteSize_ofList {characters : List Char}
    (oneByte : ∀ character ∈ characters, character.utf8Size = 1) :
    (String.ofList characters).utf8ByteSize = characters.length := by
  induction characters with
  | nil => rfl
  | cons first rest ih =>
      have width := oneByte first List.mem_cons_self
      have later := ih fun character isThere => oneByte character (List.mem_cons_of_mem _ isThere)
      rw [← List.singleton_append, String.ofList_append, String.utf8ByteSize_append, later,
        ← String.singleton_eq_ofList, String.utf8ByteSize_singleton, width, List.length_append,
        List.length_singleton]

theorem Text.utf8Size_of_isDigit {character : Char} (isDigit : character.isDigit = true) :
    character.utf8Size = 1 := by
  have upper : character.val ≤ 57 := by
    simp only [Char.isDigit, Bool.and_eq_true, decide_eq_true_eq] at isDigit
    exact isDigit.2
  rw [Char.utf8Size, if_pos (UInt32.le_trans upper (by decide))]

theorem Text.isDigit_of_mem_toString {value : Nat} {character : Char}
    (isThere : character ∈ (toString value).toList) : character.isDigit = true :=
  Nat.isDigit_of_mem_toDigits (by decide) (by decide)
    (Nat.toList_repr ▸ isThere : character ∈ Nat.toDigits 10 value)

theorem Text.utf8ByteSize_toString_le {value : Nat} (fits : value < UInt64.size) :
    (toString value).utf8ByteSize ≤ 20 := by
  have oneByte : ∀ character ∈ (toString value).toList, character.utf8Size = 1 :=
    fun _ isThere => utf8Size_of_isDigit (isDigit_of_mem_toString isThere)
  have digits := utf8ByteSize_ofList oneByte
  rw [String.ofList_toList] at digits
  rw [digits, Nat.toString_eq_repr, Nat.toList_repr,
    Nat.length_toDigits_le_iff (by decide) (by decide)]
  exact fits.trans (by decide)

namespace Json

/-- A character that is written as it is inside a text. -/
def IsPlain (character : Char) : Prop :=
  0x20 ≤ character.toNat ∧ character ≠ '"' ∧ character ≠ '\\'

instance : DecidablePred IsPlain := fun character =>
  inferInstanceAs (Decidable (0x20 ≤ character.toNat ∧ character ≠ '"' ∧ character ≠ '\\'))

theorem isPlain_of_isDigit {character : Char} (isDigit : character.isDigit = true) :
    IsPlain character := by
  have lower : 48 ≤ character.toNat := by
    simp only [Char.isDigit, Bool.and_eq_true, decide_eq_true_eq] at isDigit
    exact UInt32.le_iff_toNat_le.mp isDigit.1
  refine ⟨by omega, ?_, ?_⟩
  all_goals
    rintro rfl
    exact absurd isDigit (by decide)

theorem escapeCharacter_of_isPlain {character : Char} (plain : IsPlain character) :
    escapeCharacter character = String.singleton character := by
  obtain ⟨noControl, noQuote, noBackslash⟩ := plain
  have isOther {sign : Char} (different : character ≠ sign) : character.toNat ≠ sign.toNat :=
    fun same => different (Char.toNat_inj.mp same)
  unfold escapeCharacter
  split
  case h_6 isQuote => exact absurd isQuote (isOther noQuote)
  case h_7 isBackslash => exact absurd isBackslash (isOther noBackslash)
  case h_8 => rw [if_neg (by omega), if_neg (by omega)]
  all_goals omega

theorem writeText_of_isPlain {value : String}
    (plain : ∀ character ∈ value.toList, IsPlain character) :
    writeText value = "\"" ++ value ++ "\"" := by
  have written : String.join (value.toList.map escapeCharacter) = value := by
    rw [List.map_congr_left fun character isThere =>
      escapeCharacter_of_isPlain (plain character isThere), ← String.toList_inj,
      String.toList_join, List.flatMap_map]
    simp
  rw [writeText, written]

theorem utf8ByteSize_writeText_of_isPlain {value : String}
    (plain : ∀ character ∈ value.toList, IsPlain character) :
    (writeText value).utf8ByteSize = value.utf8ByteSize + 2 := by
  have quote : "\"".utf8ByteSize = 1 := by decide
  rw [writeText_of_isPlain plain, String.utf8ByteSize_append, String.utf8ByteSize_append, quote]
  omega

end Json

namespace ToolServer

/-! ## The parts of a reply -/

/-- How a notice begins, up to the number of bytes. -/
def noticeStart : String := "Response too large ("

/-- How a notice goes on after the number of bytes. -/
def noticeEnd : String := " bytes). Lower max_depth or limit, or use suppress_cycles."

/-- What stands in the place of a text of some bytes that is too large. -/
def notice (bytes : Nat) : String :=
  noticeStart ++ toString bytes ++ noticeEnd

/-- The number of bytes in the text form of a result. -/
def textBytes (result : Json) (compact : Bool) : Nat :=
  (resultText result compact).utf8ByteSize

/-- The reply to a call that succeeded. -/
def reply (id result : Json) (compact : Bool) : Json :=
  envelope id (.ok (toolResult result compact))

theorem utf8ByteSize_reply (id result : Json) (compact : Bool) :
    (reply id result compact).compact.utf8ByteSize =
      id.compact.utf8ByteSize + result.compact.utf8ByteSize +
        (writeText (boundText (resultText result compact))).utf8ByteSize + 107 := by
  have shape : reply id result compact = .object [
      ("id", id), ("jsonrpc", .text "2.0"),
      ("result", .object [
        ("content", .array [.object [
          ("text", .text (boundText (resultText result compact))), ("type", .text "text")]]),
        ("isError", .boolean false), ("structuredContent", result)])] := by
    simp only [reply, envelope, toolResult, textContent, ofFields, List.foldl_cons, List.foldl_nil,
      setField, String.reduceLT, String.reduceEq, if_true, if_false]
  rw [shape]
  -- Besides the three parts that vary there are signs and names only, none of them with escapes.
  simp only [Json.compact, compactFields, compactItems, String.intercalate_cons_cons,
    String.intercalate_singleton, String.utf8ByteSize_append]
  have signs : ["\x7b", "\x7d", "[", "]", ":", ",", "false"].map String.utf8ByteSize =
      [1, 1, 1, 1, 1, 1, 5] := by decide
  have names : ["id", "jsonrpc", "2.0", "result", "content", "text", "type", "isError",
      "structuredContent"].map (fun name => (writeText name).utf8ByteSize) =
      [4, 9, 5, 8, 9, 6, 6, 9, 19] := by decide
  simp only [List.map_cons, List.map_nil, List.cons.injEq] at signs names
  omega

theorem isPlain_of_mem_notice (bytes : Nat) :
    ∀ character ∈ (notice bytes).toList, IsPlain character := by
  have lead : noticeStart.toList.all (IsPlain ·) = true := by decide +kernel
  have trail : noticeEnd.toList.all (IsPlain ·) = true := by decide +kernel
  intro character isThere
  simp only [notice, String.toList_append, List.mem_append] at isThere
  rcases isThere with (isLead | isDigit) | isTrail
  · exact of_decide_eq_true (List.all_eq_true.mp lead character isLead)
  · exact isPlain_of_isDigit (Text.isDigit_of_mem_toString isDigit)
  · exact of_decide_eq_true (List.all_eq_true.mp trail character isTrail)

theorem utf8ByteSize_notice (bytes : Nat) :
    (notice bytes).utf8ByteSize = (toString bytes).utf8ByteSize + 78 := by
  have lead : noticeStart.utf8ByteSize = 20 := by decide +kernel
  have trail : noticeEnd.utf8ByteSize = 58 := by decide +kernel
  simp only [notice, String.utf8ByteSize_append, lead, trail]
  omega

/-! ## A large result -/

/-- A symbol with a name of some length. -/
def longSymbol (length : Nat) : Symbol :=
  ⟨1, String.ofList (List.replicate length 'a'), .function, "a.rs", 1, 9⟩

/-- A file system under which a database that holds the symbol is kept in memory. -/
def longSystem (length : Nat) : FileSystem :=
  (FileSystem.empty ⟨"/"⟩).keep "unix:m.db"
    (Database.fresh.writeDocument "/" ⟨[longSymbol length], []⟩)

/-- Parameters that ask for the symbol. -/
def firstSymbol : Json :=
  .object [("id", .ofNat 1)]

theorem request_longSymbol (config : Config) (length : Nat) :
    Config.memorySession.request (longSystem length) config "get_symbol" firstSymbol =
      (.ok (longSymbol length).toJson, longSystem length) := by
  let document : IndexDocument := ⟨[longSymbol length], []⟩
  let database := Database.fresh.writeDocument "/" document
  have content : Config.memorySession.database? (longSystem length) = some database :=
    Std.HashMap.getElem?_insert_self
  have named : document.HasNamedKinds :=
    ⟨List.forall_mem_singleton.mpr ⟨"function", rfl⟩, List.forall_mem_nil _⟩
  have distinct : document.HasDistinctIds := ⟨List.nodup_singleton _, List.nodup_nil⟩
  have holds : database.holding "/" = document :=
    Database.holding_writeDocument_clear named distinct .fresh "/"
  have found : database.symbol? "/" 1 = some (longSymbol length) := by
    rw [Database.symbol?_eq_find?, holds]
    rfl
  have reads : Session.params SymbolParams.record firstSymbol = .ok ⟨1⟩ := rfl
  have isMethod : Method.ofName? "get_symbol" = some .getSymbol := by decide
  have isGiven : Session.givenParams firstSymbol = firstSymbol := rfl
  have known : Config.memorySession.read (longSystem length) "symbols" (fun database =>
      database.symbol? Config.memorySession.workspace 1) = .ok (some (longSymbol length)) := by
    rw [Session.read, content]
    exact congrArg Except.ok found
  have gets : Config.memorySession.getSymbol (longSystem length) firstSymbol =
      .ok (longSymbol length).toJson := by
    simp only [Session.getSymbol, reads, bind, Except.bind, known]
    rfl
  simp only [Session.request, isMethod, isGiven, Session.perform, gets]

theorem utf8ByteSize_writeText_longSymbol (length : Nat) :
    (writeText (longSymbol length).name).utf8ByteSize = length + 2 := by
  have isLetter : ∀ character ∈ List.replicate length 'a', character = 'a' :=
    fun _ => List.eq_of_mem_replicate
  have size : (longSymbol length).name.utf8ByteSize = length := by
    rw [longSymbol, Text.utf8ByteSize_ofList fun character isThere => by
      rw [isLetter character isThere]
      rfl, List.length_replicate]
  have plain : ∀ character ∈ (longSymbol length).name.toList, IsPlain character := by
    rw [longSymbol, String.toList_ofList]
    intro character isThere
    rw [isLetter character isThere]
    decide
  rw [utf8ByteSize_writeText_of_isPlain plain, size]

theorem length_lt_compact_longSymbol (length : Nat) :
    length < (longSymbol length).toJson.compact.utf8ByteSize := by
  have written := utf8ByteSize_writeText_longSymbol length
  rw [Symbol.toJson_eq]
  simp only [Json.compact, compactFields, String.intercalate_cons_cons,
    String.intercalate_singleton, String.utf8ByteSize_append, written]
  omega

theorem textBytes_longSymbol (length : Nat) :
    textBytes (longSymbol length).toJson true =
      (longSymbol length).toJson.compact.utf8ByteSize := by
  have noText : (longSymbol length).toJson.field? "text" = none := by
    rw [Symbol.toJson_eq]
    rfl
  rw [textBytes, resultText, noText]
  rfl

/-- A server that has a session on the database open. -/
def longServer (length : Nat) : ToolServer where
  workspace := Config.memorySession.root
  database := Config.memorySession.databasePath
  sessions := [⟨Config.memorySession.root, Config.memorySession.databasePath, Config.memorySession⟩]
  system := longSystem length

/-- A message that asks for the symbol. -/
def symbolCall : Json :=
  .object [
    ("id", .ofNat 1), ("method", .text "tools/call"),
    ("params", .object [
      ("arguments", .object [
        ("compact", .boolean true), ("method", .text "get_symbol"), ("params", firstSymbol)]),
      ("name", .text toolName)])]

/-! ## Replies of all sizes -/

/-- What a reply holds, and how large it is. -/
structure IsSized (id result : Json) (compact : Bool) (reply : Json) : Prop where
  /-- It carries the whole result as structured data, however large that is. -/
  structured :
    (reply.field? "result").bind (·.field? "structuredContent") = some result
  /-- It carries the text form of the result, unless that is too large. -/
  fitting : textBytes result compact ≤ maxTextBytes →
    (reply.field? "result").bind (·.field? "content") =
      some (textContent (resultText result compact))
  /-- A notice stands in the place of a text form that is too large. -/
  replaced : maxTextBytes < textBytes result compact →
    (reply.field? "result").bind (·.field? "content") =
      some (textContent (notice (textBytes result compact)))
  /-- The notice is short. -/
  short : textBytes result compact < UInt64.size →
    (notice (textBytes result compact)).utf8ByteSize ≤ 98
  /-- With a notice the reply is as large as the identification, the result and the notice together,
  but for 109 bytes that are always the same. -/
  oversized : maxTextBytes < textBytes result compact →
    reply.compact.utf8ByteSize = id.compact.utf8ByteSize + result.compact.utf8ByteSize +
      (notice (textBytes result compact)).utf8ByteSize + 109

theorem field?_result_reply (id result : Json) (compact : Bool) :
    (reply id result compact).field? "result" = some (toolResult result compact) := by
  simp [reply, envelope, field?, ofFields, lookup_setField]

theorem content_toolResult (result : Json) (compact : Bool) :
    (toolResult result compact).field? "content" =
      some (textContent (boundText (resultText result compact))) := by
  simp [toolResult, field?, ofFields, lookup_setField]

theorem structuredContent_toolResult (result : Json) (compact : Bool) :
    (toolResult result compact).field? "structuredContent" = some result := by
  simp [toolResult, field?, ofFields, lookup_setField]

theorem boundText_of_large {result : Json} {compact : Bool}
    (isLarge : maxTextBytes < textBytes result compact) :
    boundText (resultText result compact) = notice (textBytes result compact) :=
  if_pos isLarge

theorem isSized_reply (id result : Json) (compact : Bool) :
    IsSized id result compact (reply id result compact) := by
  constructor
  case structured =>
    rw [field?_result_reply, Option.bind_some, structuredContent_toolResult]
  case fitting =>
    intro fits
    have isText : boundText (resultText result compact) = resultText result compact :=
      if_neg (Nat.not_lt.mpr fits)
    rw [field?_result_reply, Option.bind_some, content_toolResult, isText]
  case replaced =>
    intro isLarge
    rw [field?_result_reply, Option.bind_some, content_toolResult, boundText_of_large isLarge]
  case short =>
    intro fits
    have digits := Text.utf8ByteSize_toString_le fits
    rw [utf8ByteSize_notice]
    omega
  case oversized =>
    intro isLarge
    rw [utf8ByteSize_reply, boundText_of_large isLarge,
      utf8ByteSize_writeText_of_isPlain (isPlain_of_mem_notice _)]
    omega

variable {config : Config} {server reached : ToolServer} {message id result : Json}
  {call : ToolCall}

/-- Whenever a call of the tool succeeds, the reply holds the result as structured data, and as a
text unless that is too large. The notice in its place is short, so the size of such a reply is that
of the result and little more. -/
theorem respond_isSized (identified : message.field? "id" = some id)
    (calls : (message.field? "method").bind Json.text? = some "tools/call")
    (reads : toolCall (message.field? "params") = .ok call)
    (performs : server.perform config call = (.ok result, reached)) :
    server.respond config message = (.ok (some (reply id result call.compact)), reached) ∧
      IsSized id result call.compact (reply id result call.compact) := by
  refine ⟨?_, isSized_reply id result call.compact⟩
  simp only [respond, identified, ToolServer.result, calls, reads, answerCall, performs]
  rfl

theorem respond_isSized_long :
    let length := maxTextBytes
    let result := (longSymbol length).toJson
    ∃ call, symbolCall.field? "id" = some (.ofNat 1) ∧
      (symbolCall.field? "method").bind Json.text? = some "tools/call" ∧
      toolCall (symbolCall.field? "params") = .ok call ∧
      (longServer length).perform default call = (.ok result, longServer length) ∧
      maxTextBytes < textBytes result call.compact ∧
      (longServer length).respond default symbolCall =
        (.ok (some (reply (.ofNat 1) result call.compact)), longServer length) ∧
      IsSized (.ofNat 1) result call.compact (reply (.ofNat 1) result call.compact) := by
  intro length result
  let arguments : Json :=
    .object [("compact", .boolean true), ("method", .text "get_symbol"), ("params", firstSymbol)]
  let call : ToolCall := ⟨"get_symbol", arguments⟩
  have identified : symbolCall.field? "id" = some (.ofNat 1) := rfl
  have calls : (symbolCall.field? "method").bind Json.text? = some "tools/call" := rfl
  have reads : toolCall (symbolCall.field? "params") = .ok call := rfl
  have performs : (longServer length).perform default call = (.ok result, longServer length) := by
    have same (path : Path) : path.same path = true := beq_self_eq_true _
    have target : (longServer length).target call.arguments =
        ((longServer length).workspace, (longServer length).database) := rfl
    have known : (longServer length).sessionFor default (longServer length).workspace
        (longServer length).database = (.ok Config.memorySession, longServer length) := by
      simp [sessionFor, longServer, same]
    have answers : Config.memorySession.request (longServer length).system default call.method
        call.params = (.ok result, longSystem length) := request_longSymbol default length
    simp only [perform, target, known, answers]
    rfl
  refine ⟨call, identified, calls, reads, performs, ?_,
    respond_isSized identified calls reads performs⟩
  exact textBytes_longSymbol length ▸ length_lt_compact_longSymbol length

/-- The replies to results with a text form that is too large have no bound, not even one for every
identification. -/
theorem not_exists_replyBound :
    ¬∃ bound : Json → Nat, ∀ (session : Session) (system after : FileSystem) (config : Config)
      (method : String) (given id result : Json) (compact : Bool),
      session.request system config method given = (.ok result, after) →
      maxTextBytes < textBytes result compact →
      (reply id result compact).compact.utf8ByteSize ≤ bound id := by
  rintro ⟨bound, bounds⟩
  -- The name alone is longer than the text may be and the reply is said to be.
  let length := max maxTextBytes (bound .null)
  let symbol := (longSymbol length).toJson
  have isLong : length < symbol.compact.utf8ByteSize := length_lt_compact_longSymbol length
  have isLarge : maxTextBytes < textBytes symbol true :=
    textBytes_longSymbol length ▸ (Nat.le_max_left _ _).trans_lt isLong
  have isUnbounded : bound .null < symbol.compact.utf8ByteSize :=
    (Nat.le_max_right _ _).trans_lt isLong
  have isBounded := bounds _ _ _ default _ _ .null symbol true
    (request_longSymbol default length) isLarge
  have grows := utf8ByteSize_reply .null symbol true
  omega

end ToolServer

end CallTrace
