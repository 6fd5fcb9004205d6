import CallTrace.Proofs.Catalogue
import CallTrace.Proofs.Rereading
import CallTrace.Proofs.StoreAgreement

/-!
# Changes of form

An index document exists as symbols and identifiers, as structured data, and as the rows of a
database. Whatever has kinds that words name survives every change between these forms. A document
that is read from structured data has such kinds: they are settled when it is read for the first
time, and a word that names no known kind is kept as it is written.
-/

namespace CallTrace

open Json

/-! ## What records are read from -/

/-- A record, written as an object or as a list, gives a member for the field of a name and a
position. -/
inductive Json.Gives : Json → String → Nat → Json → Prop where
  /-- The object has the field. -/
  | named {fields : List (String × Json)} {name : String} {position : Nat} {member : Json}
      (isField : (name, member) ∈ fields) : Gives (.object fields) name position member
  /-- The item of the list stands at the position. -/
  | placed {items : List Json} {name : String} {position : Nat} {member : Json}
      (isItem : items[position]? = some member) : Gives (.array items) name position member

namespace Json.Record

variable {δ α : Type} {record : Record δ α} {invariant : δ → Prop}

/-- Whatever the field is read from, drafts with the invariant keep it. -/
def KeepsFrom (invariant : δ → Prop) (field : RecordField δ) (member : Json) : Prop :=
  ∀ put draft, field.reader.ofJson member = .ok put → invariant draft → invariant (put draft)

theorem keepsFrom_of_map {β : Type} {name : String} {aliases : List String} {omissible : Bool}
    {filled : δ → Bool} {reader : Reader β} {place : β → δ → δ} {member : Json}
    (keeps : ∀ read draft, reader.ofJson member = .ok read → invariant draft →
      invariant (place read draft)) :
    KeepsFrom invariant ⟨name, aliases, omissible, filled, reader.map place⟩ member := by
  intro put draft given holds
  obtain ⟨read, reads, rfl⟩ := exists_of_map_eq_ok given
  exact keeps read draft reads holds

theorem holds_draftFields {fields : List (String × Json)}
    (keep : ∀ name member field, (name, member) ∈ fields → record.fieldNamed? name = some field →
      KeepsFrom invariant field member)
    {draft after : δ} (holds : invariant draft)
    (reads : record.draftFields draft fields = .ok after) : invariant after := by
  induction fields generalizing draft with
  | nil =>
      cases reads
      exact holds
  | cons field rest ih =>
      obtain ⟨name, member⟩ := field
      obtain ⟨between, first, later⟩ := exists_of_bind_eq_ok reads
      refine ih (fun other value field isField => keep other value field (.tail _ isField)) ?_ later
      rw [draftField] at first
      split at first
      · cases first
        exact holds
      · rename_i field isNamed
        split at first
        · cases first
        · obtain ⟨put, given, placed⟩ := exists_of_bind_eq_ok first
          cases placed
          exact keep name member field List.mem_cons_self isNamed put draft given holds

theorem holds_draftItems {fields : List (RecordField δ)} {items : List Json}
    (keep : ∀ (position : Nat) field member, fields[position]? = some field →
      items[position]? = some member → KeepsFrom invariant field member)
    {length index : Nat} {draft after : δ} (holds : invariant draft)
    (reads : record.draftItems length index draft fields items = .ok after) : invariant after := by
  induction fields generalizing index draft items with
  | nil =>
      cases items <;> cases reads
      exact holds
  | cons field rest ih =>
      cases items with
      | nil =>
          rw [draftItems] at reads
          split at reads
          · exact ih (fun _ _ _ _ isItem => by cases isItem) holds reads
          · cases reads
      | cons item items =>
          obtain ⟨put, given, later⟩ := exists_of_bind_eq_ok reads
          exact ih (fun position => keep (position + 1))
            (keep 0 field item rfl rfl put draft given holds) later

/-- A record that is read comes from a draft with an invariant when reading its fields, each from
what the value gives for it, keeps the invariant. -/
theorem exists_draft_of_ofJson {value : Json} {result : α}
    (noAliases : ∀ field ∈ record.fields, field.aliases = []) (blank : invariant record.blank)
    (keep : ∀ (position : Nat) field member, record.fields[position]? = some field →
      value.Gives field.name position member → KeepsFrom invariant field member)
    (reads : record.reader.ofJson value = .ok result) :
    ∃ draft, invariant draft ∧ record.finish draft = .ok result := by
  cases value with
  | object fields =>
      obtain ⟨draft, drafts, finishes⟩ := exists_of_bind_eq_ok reads
      refine ⟨draft, holds_draftFields (fun name member field isField isNamed => ?_) blank drafts,
        finishes⟩
      obtain ⟨position, isThere⟩ := List.mem_iff_getElem?.mp (List.mem_of_find?_eq_some isNamed)
      have sameName : field.name = name := by
        simpa [noAliases field (List.mem_of_find?_eq_some isNamed)] using List.find?_some isNamed
      exact keep position field member isThere (.named (sameName ▸ isField))
  | array items =>
      obtain ⟨draft, drafts, finishes⟩ := exists_of_bind_eq_ok reads
      exact ⟨draft, holds_draftItems (fun position field member isThere isItem =>
        keep position field member isThere (.placed isItem)) blank drafts, finishes⟩
  | null => cases reads
  | boolean value => cases reads
  | number value => cases reads
  | text value => cases reads

end Json.Record

/-! ## Kinds -/

/-- A kind is the one that a word names: it is read back from its own word as it is, and when it is
only known by that, this is the word that was given. -/
structure NamesKind {κ : Type} (ofText : String → κ) (text : κ → String) (isOther : κ → Bool)
    (word : String) (kind : κ) : Prop where
  /-- The word names the kind. -/
  isNamed : kind = ofText word
  /-- The kind is settled. -/
  isSettled : ofText (text kind) = kind
  /-- An unknown word is kept. -/
  isKept : isOther kind = true → text kind = word

/-- A word names a kind of symbols. -/
abbrev SymbolKind.IsNamedBy (word : String) (kind : SymbolKind) : Prop :=
  NamesKind ofText text isOther word kind

/-- A word names a kind of identifiers. -/
abbrev IdentifierKind.IsNamedBy (word : String) (kind : IdentifierKind) : Prop :=
  NamesKind ofText text isOther word kind

theorem SymbolKind.isNamedBy_ofText (word : String) : IsNamedBy word (ofText word) where
  isNamed := rfl
  isSettled := ofText_text (isNamed_ofText word)
  isKept isUnknown := by
    rw [ofText] at isUnknown ⊢
    cases known : ofLowercase? (Text.lowercase word) with
    | none => rfl
    | some kind =>
        rw [known, Option.getD_some, isOther_of_ofLowercase? known] at isUnknown
        cases isUnknown

theorem IdentifierKind.isNamedBy_ofText (word : String) : IsNamedBy word (ofText word) where
  isNamed := rfl
  isSettled := ofText_text (isNamed_ofText word)
  isKept isUnknown := by
    rw [ofText] at isUnknown ⊢
    cases known : ofLowercase? (Text.lowercase word) with
    | none => rfl
    | some kind =>
        rw [known, Option.getD_some, isOther_of_ofLowercase? known] at isUnknown
        cases isUnknown

theorem Json.Reader.exists_items_of_ofJson {α : Type} {reader : Reader α} {member : Json}
    {values : List α} (reads : reader.list.ofJson member = .ok values) :
    ∃ items, member = .array items ∧
      List.Forall₂ (fun value item => reader.ofJson item = .ok value) values items := by
  cases member with
  | array items =>
      refine ⟨items, rfl, ?_⟩
      change items.mapM reader.ofJson = .ok values at reads
      induction items generalizing values with
      | nil =>
          cases reads
          exact .nil
      | cons item rest ih =>
          rw [List.mapM_cons] at reads
          obtain ⟨first, isFirst, reads⟩ := exists_of_bind_eq_ok reads
          obtain ⟨others, areOthers, reads⟩ := exists_of_bind_eq_ok reads
          cases reads
          exact .cons isFirst (ih areOthers)
  | null => cases reads
  | boolean value => cases reads
  | number value => cases reads
  | text value => cases reads
  | object fields => cases reads

theorem Json.Reader.eq_text_of_ofJson {member : Json} {word : String}
    (reads : text.ofJson member = .ok word) : member = .text word := by
  cases member <;> cases reads
  rfl

/-- A kind that is known is the one that a word names which a value gives for it. -/
def Json.GivesKind {κ : Type} (value : Json) (ofText : String → κ) (known : Option κ) : Prop :=
  ∀ kind, known = some kind → ∃ word, value.Gives "kind" 2 (.text word) ∧ kind = ofText word

theorem Json.Record.keepsFrom_kind {δ κ : Type} {ofText : String → κ} {kindOf : δ → Option κ}
    {value member : Json} {omissible : Bool} {filled : δ → Bool} {place : String → δ → δ}
    (gives : value.Gives "kind" 2 member)
    (places : ∀ word draft, kindOf (place word draft) = some (ofText word)) :
    KeepsFrom (fun draft => value.GivesKind ofText (kindOf draft))
      ⟨"kind", [], omissible, filled, Reader.text.map place⟩ member := by
  refine keepsFrom_of_map fun word draft isWord _ kind isKind => ?_
  cases Reader.eq_text_of_ofJson isWord
  rw [places, Option.some.injEq] at isKind
  exact ⟨word, gives, isKind.symm⟩

/-- The kind of the symbol is named by the word that a value gives for it. -/
def Symbol.TakesKind (symbol : Symbol) (value : Json) : Prop :=
  ∃ word, value.Gives "kind" 2 (.text word) ∧ SymbolKind.IsNamedBy word symbol.kind

/-- The kind of the identifier is named by the word that a value gives for it. -/
def Identifier.TakesKind (identifier : Identifier) (value : Json) : Prop :=
  ∃ word, value.Gives "kind" 2 (.text word) ∧ IdentifierKind.IsNamedBy word identifier.kind

theorem Symbol.takesKind_of_ofJson {value : Json} {symbol : Symbol}
    (reads : reader.ofJson value = .ok symbol) : symbol.TakesKind value := by
  let invariant (draft : Draft) : Prop := value.GivesKind SymbolKind.ofText draft.kind
  have keep (position : Nat) (field : RecordField Draft) (member : Json)
      (isThere : record.fields[position]? = some field)
      (gives : value.Gives field.name position member) :
      Record.KeepsFrom invariant field member := by
    rcases position with _ | _ | _ | _ | _ | _ | position
    case zero | succ.zero | succ.succ.succ.zero | succ.succ.succ.succ.zero |
        succ.succ.succ.succ.succ.zero =>
      obtain rfl := Option.some.inj isThere
      exact Record.keepsFrom_of_map fun _ _ _ holds => holds
    case succ.succ.zero =>
      obtain rfl := Option.some.inj isThere
      exact Record.keepsFrom_kind gives fun _ _ => rfl
    case succ.succ.succ.succ.succ.succ => cases isThere
  have blank : invariant record.blank := fun kind none => by cases none
  obtain ⟨draft, holds, finished⟩ :=
    Record.exists_draft_of_ofJson (by simp [record]) blank keep reads
  obtain ⟨id, -, finished⟩ := exists_of_bind_eq_ok finished
  obtain ⟨name, -, finished⟩ := exists_of_bind_eq_ok finished
  obtain ⟨kind, isKind, finished⟩ := exists_of_bind_eq_ok finished
  obtain ⟨filePath, -, finished⟩ := exists_of_bind_eq_ok finished
  obtain ⟨startLine, -, finished⟩ := exists_of_bind_eq_ok finished
  obtain ⟨endLine, -, finished⟩ := exists_of_bind_eq_ok finished
  cases finished
  obtain ⟨word, gives, rfl⟩ := holds kind (required_eq_ok isKind)
  exact ⟨word, gives, SymbolKind.isNamedBy_ofText word⟩

theorem Identifier.takesKind_of_ofJson {value : Json} {identifier : Identifier}
    (reads : reader.ofJson value = .ok identifier) : identifier.TakesKind value := by
  let invariant (draft : Draft) : Prop := value.GivesKind IdentifierKind.ofText draft.kind
  have keep (position : Nat) (field : RecordField Draft) (member : Json)
      (isThere : record.fields[position]? = some field)
      (gives : value.Gives field.name position member) :
      Record.KeepsFrom invariant field member := by
    rcases position with _ | _ | _ | _ | _ | _ | _ | position
    case zero | succ.zero | succ.succ.succ.zero | succ.succ.succ.succ.zero |
        succ.succ.succ.succ.succ.zero | succ.succ.succ.succ.succ.succ.zero =>
      obtain rfl := Option.some.inj isThere
      exact Record.keepsFrom_of_map fun _ _ _ holds => holds
    case succ.succ.zero =>
      obtain rfl := Option.some.inj isThere
      exact Record.keepsFrom_kind gives fun _ _ => rfl
    case succ.succ.succ.succ.succ.succ.succ => cases isThere
  have blank : invariant record.blank := fun kind none => by cases none
  obtain ⟨draft, holds, finished⟩ :=
    Record.exists_draft_of_ofJson (by simp [record]) blank keep reads
  obtain ⟨id, -, finished⟩ := exists_of_bind_eq_ok finished
  obtain ⟨name, -, finished⟩ := exists_of_bind_eq_ok finished
  obtain ⟨kind, isKind, finished⟩ := exists_of_bind_eq_ok finished
  obtain ⟨filePath, -, finished⟩ := exists_of_bind_eq_ok finished
  cases finished
  obtain ⟨word, gives, rfl⟩ := holds kind (required_eq_ok isKind)
  exact ⟨word, gives, IdentifierKind.isNamedBy_ofText word⟩

namespace IndexDocument

/-- What the document has of symbols and identifiers are those that a value lists, and their kinds
are named by the words that the value gives for them. -/
structure TakesKinds (document : IndexDocument) (value : Json) : Prop where
  /-- The symbols, if there are any. -/
  symbols : document.symbols = [] ∨ ∃ items, value.Gives "symbols" 0 (.array items) ∧
    List.Forall₂ Symbol.TakesKind document.symbols items
  /-- The identifiers, if there are any. -/
  identifiers : document.identifiers = [] ∨ ∃ items, value.Gives "identifiers" 1 (.array items) ∧
    List.Forall₂ Identifier.TakesKind document.identifiers items

theorem takesKinds_of_ofJson {value : Json} {document : IndexDocument}
    (reads : reader.ofJson value = .ok document) : document.TakesKinds value := by
  let invariant (draft : Draft) : Prop :=
    TakesKinds ⟨draft.symbols.getD [], draft.identifiers.getD []⟩ value
  have keep (position : Nat) (field : RecordField Draft) (member : Json)
      (isThere : record.fields[position]? = some field)
      (gives : value.Gives field.name position member) :
      Record.KeepsFrom invariant field member := by
    rcases position with _ | _ | position
    case zero =>
      obtain rfl := Option.some.inj isThere
      refine Record.keepsFrom_of_map fun symbols draft areListed holds =>
        ⟨.inr ?_, holds.identifiers⟩
      obtain ⟨items, rfl, read⟩ := Reader.exists_items_of_ofJson areListed
      exact ⟨items, gives, read.imp fun _ _ => Symbol.takesKind_of_ofJson⟩
    case succ.zero =>
      obtain rfl := Option.some.inj isThere
      refine Record.keepsFrom_of_map fun identifiers draft areListed holds =>
        ⟨holds.symbols, .inr ?_⟩
      obtain ⟨items, rfl, read⟩ := Reader.exists_items_of_ofJson areListed
      exact ⟨items, gives, read.imp fun _ _ => Identifier.takesKind_of_ofJson⟩
    case succ.succ => cases isThere
  have blank : invariant record.blank := ⟨.inl rfl, .inl rfl⟩
  obtain ⟨draft, holds, finished⟩ :=
    Record.exists_draft_of_ofJson (by simp [record]) blank keep reads
  cases finished
  exact holds

theorem TakesKinds.hasNamedKinds {document : IndexDocument} {value : Json}
    (takes : document.TakesKinds value) : document.HasNamedKinds where
  symbols := by
    rcases takes.symbols with isEmpty | ⟨items, -, taken⟩
    · rw [isEmpty]
      exact List.forall_mem_nil _
    · exact ((List.forall₂_and_left _ _).mp (taken.imp fun symbol item takesKind =>
        ⟨takesKind.imp fun _ named => named.2.isNamed, takesKind⟩)).1
  identifiers := by
    rcases takes.identifiers with isEmpty | ⟨items, -, taken⟩
    · rw [isEmpty]
      exact List.forall_mem_nil _
    · exact ((List.forall₂_and_left _ _).mp (taken.imp fun identifier item takesKind =>
        ⟨takesKind.imp fun _ named => named.2.isNamed, takesKind⟩)).1

end IndexDocument

/-! ## Rows -/

namespace Database

/-- What is read back from all rows of a workspace, in their order. -/
def readBack (database : Database) (workspace : String) : IndexDocument where
  symbols := (database.symbols.select workspace fun _ => true).map Symbol.ofRow
  identifiers := (database.identifiers.select workspace fun _ => true).map Identifier.ofRow

theorem readBack_eq_holding {database : Database} {workspace : String}
    (orderly : database.IsOrderly workspace) :
    database.readBack workspace = database.holding workspace := by
  have identifiers := map_ofRow_select_identifiers orderly.identifiers (fun _ => true)
    (fun _ => true) fun _ _ => rfl
  rw [List.filter_true] at identifiers
  rw [readBack, map_ofRow_select_symbols orderly.symbols, identifiers, holding]

/-- A workspace into which a document with distinct numbers is written after it has been cleared
holds the document, whatever the database was like before. -/
theorem holding_writeDocument_clear {document : IndexDocument} (named : document.HasNamedKinds)
    (distinct : document.HasDistinctIds) (database : Database) (workspace : String) :
    ((database.clear workspace).writeDocument workspace document).holding workspace = document := by
  rw [holding_writeDocument (database.isOrderly_clear workspace), holding_clear, if_pos rfl,
    if_pos rfl, IndexDocument.reread_eq named, IndexDocument.absorb_empty distinct]

end Database

/-! ## Documents in all their forms -/

namespace IndexDocument

/-- The rows of a workspace are read back as the document, all at once, query by query and symbol by
symbol. -/
structure IsReadFrom (document : IndexDocument) (database : Database) (workspace : String) :
    Prop where
  /-- All rows. -/
  all : database.readBack workspace = document
  /-- What queries select. -/
  selected : ∀ query, database.answer workspace query = document.answer query
  /-- Symbols by number. -/
  numbered : ∀ symbol ∈ document.symbols, database.symbol? workspace symbol.id = some symbol

/-- The document comes back from its other forms as it is. -/
structure ComesBack (document : IndexDocument) : Prop where
  /-- As structured data it is read as the same document. -/
  written : reader.ofJson document.toJson = .ok document
  /-- With distinct numbers, and if no symbol ends before it starts, it replaces whatever a database
  holds for a workspace, and is read back from there. -/
  stored : document.HasDistinctIds →
    (∀ symbol ∈ document.symbols, symbol.startLine ≤ symbol.endLine) →
      ∀ (database : Database) (workspace : String), ∃ imported,
        database.importDocument workspace document true = .ok imported ∧
          document.IsReadFrom imported workspace

theorem comesBack_of_hasNamedKinds {document : IndexDocument} (named : document.HasNamedKinds) :
    document.ComesBack where
  written := by rw [ofJson_toJson, reread_eq named]
  stored distinct upright database workspace := by
    have accepted : document.symbols.any Symbol.isInverted = false := by
      simpa [Symbol.isInverted] using upright
    refine ⟨_, Database.importDocument_of_upright accepted database workspace true, ?_⟩
    have held := Database.holding_writeDocument_clear named distinct database workspace
    have orderly := (database.isOrderly_clear workspace).writeDocument workspace document
    constructor
    case all => exact (Database.readBack_eq_holding orderly).trans held
    case selected =>
      exact fun query => Database.answer_writeDocument_clear named distinct database workspace query
    case numbered =>
      intro symbol isListed
      rw [Database.symbol?_eq_find?]
      simp only [if_true, held]
      exact (Snapshot.find?_id_eq_some_iff distinct.symbols).mpr ⟨isListed, rfl⟩

/-- Documents whose kinds are named by words survive every change of form, and so does whatever is
read from structured data or from a text, however it is written there: its kinds are those that the
words name which were given for them, they are settled at once, and unknown words are kept. -/
theorem comesBack :
    (∀ document : IndexDocument, document.HasNamedKinds → document.ComesBack) ∧
      (∀ (value : Json) (document : IndexDocument), reader.ofJson value = .ok document →
        document.ComesBack ∧ document.TakesKinds value) ∧
      ∀ (text : String) (document : IndexDocument), reader.readText text = .ok document →
        document.ComesBack := by
  refine ⟨fun document => comesBack_of_hasNamedKinds, fun value document reads => ?_,
    fun text document reads => comesBack_of_hasNamedKinds (hasNamedKinds_of_readText reads)⟩
  have takes := takesKinds_of_ofJson reads
  exact ⟨comesBack_of_hasNamedKinds takes.hasNamedKinds, takes⟩

/-- A document in a free form: a list stands for an object, fields are unknown, absent or left out,
and kinds are written in several ways. -/
def looseValue : Json :=
  .object [
    ("identifiers", .array [
      .object [("containing_symbol_id", .null), ("file_path", .text "a.cs"),
        ("id", ofInt64 Int64.minValue), ("kind", .text "MemberAccess"), ("name", .text "Ärger"),
        ("note", .array [.null])],
      .array [ofInt64 2, .text "run", .text "Import", .text "", .null, ofInt64 (-7)]]),
    ("symbols", .array [
      .array [ofInt64 Int64.maxValue, .text "run", .text "FN", .text "a.cs",
        ofInt64 Int64.minValue, ofInt64 Int64.maxValue],
      .object [("end_line", ofInt64 3), ("file_path", .text "b.cs"), ("id", ofInt64 0),
        ("kind", .text "Name Space"), ("name", .text ""), ("start_line", ofInt64 3)]]),
    ("version", .text "1")]

/-- The document that is read from it. -/
def looseDocument : IndexDocument where
  symbols := [
    ⟨Int64.maxValue, "run", .function, "a.cs", Int64.minValue, Int64.maxValue⟩,
    ⟨0, "", .other "Name Space", "b.cs", 3, 3⟩]
  identifiers := [
    ⟨Int64.minValue, "Ärger", .memberAccess, "a.cs", none, none, none⟩,
    ⟨2, "run", .other "Import", "", none, some (-7), none⟩]

/-- A document as a text, with a list in place of an object and a field that is unknown. -/
def looseText : String :=
  "[[[7, \"f\", \"Name Space\", \"\", 3, 4]], [\x7b\"kind\": \"Call\", \"id\": 2, " ++
    "\"name\": \"g\", \"note\": 1.5, \"file_path\": \"\"\x7d]]"

/-- The document that is read from the text. -/
def writtenDocument : IndexDocument where
  symbols := [⟨7, "f", .other "Name Space", "", 3, 4⟩]
  identifiers := [⟨2, "g", .call, "", none, none, none⟩]

/-- A document survives every change of form, also over rows of the same numbers. -/
theorem comesBack_loose :
    looseDocument.HasNamedKinds ∧ looseDocument.HasDistinctIds ∧
      (∀ symbol ∈ looseDocument.symbols, symbol.startLine ≤ symbol.endLine) ∧
      reader.ofJson looseDocument.toJson = .ok looseDocument ∧
      (∃ imported, (Database.fresh.writeDocument "/ws"
          ⟨looseDocument.symbols.reverse, looseDocument.identifiers⟩).importDocument "/ws"
            looseDocument true = .ok imported ∧ looseDocument.IsReadFrom imported "/ws") ∧
      (reader.ofJson looseValue = .ok looseDocument ∧ looseDocument.TakesKinds looseValue) ∧
      reader.readText looseText = .ok writtenDocument ∧ writtenDocument.ComesBack := by
  obtain ⟨ofKinds, ofValue, ofText⟩ := comesBack
  have named : looseDocument.HasNamedKinds := by
    refine ⟨List.forall_mem_cons.mpr ⟨⟨"fn", by decide⟩, List.forall_mem_singleton.mpr
      ⟨"Name Space", by decide⟩⟩, List.forall_mem_cons.mpr ⟨⟨"memberaccess", by decide⟩,
        List.forall_mem_singleton.mpr ⟨"Import", by decide⟩⟩⟩
  have distinct : looseDocument.HasDistinctIds := ⟨by decide, by decide⟩
  have upright : ∀ symbol ∈ looseDocument.symbols, symbol.startLine ≤ symbol.endLine := by decide
  have comes := ofKinds looseDocument named
  have isValue : reader.ofJson looseValue = .ok looseDocument := by decide +kernel
  have isText : reader.readText looseText = .ok writtenDocument := by decide +kernel
  exact ⟨named, distinct, upright, comes.written, comes.stored distinct upright _ "/ws",
    ⟨isValue, (ofValue looseValue looseDocument isValue).2⟩, isText,
    ofText looseText writtenDocument isText⟩

end IndexDocument

end CallTrace
