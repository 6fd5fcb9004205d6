import CallTrace.Proofs.Holding
import CallTrace.Proofs.Scanning

/-!
# Documents that are read

Whatever a scanner yields has a property when its parts see to it. An index document that is read
from a text has no kinds but those that words name.
-/

namespace CallTrace

/-! ## Outcomes in several steps -/

theorem exists_of_bind_eq_ok {ε α β : Type} {outcome : Except ε α} {next : α → Except ε β}
    {result : β} (comes : outcome >>= next = .ok result) :
    ∃ value, outcome = .ok value ∧ next value = .ok result := by
  cases outcome with
  | error fault => cases comes
  | ok value => exact ⟨value, rfl, comes⟩

theorem exists_of_map_eq_ok {ε α β : Type} {outcome : Except ε α} {convert : α → β} {result : β}
    (comes : convert <$> outcome = .ok result) :
    ∃ value, outcome = .ok value ∧ convert value = result := by
  cases outcome with
  | error fault => cases comes
  | ok value => exact ⟨value, rfl, Except.ok.inj comes⟩

theorem eq_ok_of_mapError_eq_ok {ε δ α : Type} {outcome : Except ε α} {wrap : ε → δ} {result : α}
    (comes : outcome.mapError wrap = .ok result) : outcome = .ok result := by
  cases outcome with
  | error fault => cases comes
  | ok value =>
      cases comes
      rfl

namespace Json

/-! ## What scanners yield -/

namespace Scan

variable {α β : Type} {condition : α → Prop} {result : β → Prop}

/-- Whatever the scanner yields is as said, wherever it begins. -/
def Yields (condition : α → Prop) (scan : Scan α) : Prop :=
  ∀ cursor value after, scan.run cursor = .ok (value, after) → condition value

theorem yields_of_stops {scan : Scan α} (stops : Stops scan) : Yields condition scan :=
  fun cursor value after yields => absurd yields (stops cursor value after)

theorem yields_pure {value : α} (holds : condition value) :
    Yields condition (pure value : Scan α) := by
  intro cursor other after yields
  cases yields
  exact holds

theorem yields_bind {scan : Scan α} {next : α → Scan β} (first : Yields condition scan)
    (second : ∀ value, condition value → Yields result (next value)) :
    Yields result (scan >>= next) := by
  intro cursor value after yields
  obtain ⟨seen, between, before, rest⟩ := run_bind_eq_ok yields
  exact second seen (first cursor seen between before) between value after rest

/-- What a scanner yields after another one may not depend on that at all. -/
theorem yields_after (scan : Scan α) {next : α → Scan β}
    (second : ∀ value, Yields result (next value)) : Yields result (scan >>= next) := by
  have anything : Yields (fun _ => True) scan := fun _ _ _ _ => trivial
  exact yields_bind anything fun value _ => second value

theorem yields_map {scan : Scan α} {convert : α → β} (first : Yields condition scan)
    (holds : ∀ value, condition value → result (convert value)) :
    Yields result (convert <$> scan) := by
  rw [map_eq_pure_bind]
  exact yields_bind first fun value isThere => yields_pure (holds value isThere)

theorem yields_enter (depth : Nat) {inside : Nat → Scan α}
    (yields : ∀ inner, Yields condition (inside inner)) :
    Yields condition (enter depth inside) := by
  rw [enter]
  split
  · exact yields_of_stops (stops_failNext _)
  · exact yields_after advance fun _ => yields (depth - 1)

theorem yields_close (closing : Cursor → Except Stop Unit × Cursor) {content : Except Fault α}
    (holds : ∀ value, content = .ok value → condition value) :
    Yields condition (close closing content) := by
  refine yields_after get fun seen => yields_after (set (closing seen).2) fun _ => ?_
  cases content with
  | error fault => exact yields_of_stops (stops_failHere fault)
  | ok value =>
      exact yields_after _ fun _ => yields_pure (holds value rfl)

theorem yields_items {item : Scan α} (each : Yields condition item) (first : Bool) (rounds : Nat) :
    Yields (fun values => ∀ value ∈ values, condition value) (items item first rounds) := by
  induction rounds generalizing first with
  | zero => exact yields_of_stops (stops_failHere _)
  | succ rounds ih =>
      refine yields_after (nextItem first) fun more => ?_
      split
      · exact yields_bind each fun value holds => yields_bind (ih false) fun values hold =>
          yields_pure (List.forall_mem_cons.mpr ⟨holds, hold⟩)
      · exact yields_pure fun _ member => absurd member List.not_mem_nil

end Scan

/-- Whatever the reader reads from a text is as said. -/
def Reader.Yields {α : Type} (condition : α → Prop) (reader : Reader α) : Prop :=
  ∀ depth, Scan.Yields condition (reader.scan depth)

namespace Reader

variable {α β : Type} {condition : α → Prop}

theorem yields_map {result : β → Prop} {reader : Reader α} {convert : α → β}
    (first : reader.Yields condition)
    (holds : ∀ value, condition value → result (convert value)) :
    (reader.map convert).Yields result :=
  fun depth => Scan.yields_map (first depth) holds

theorem yields_list {reader : Reader α} (each : reader.Yields condition) :
    reader.list.Yields fun values => ∀ value ∈ values, condition value := by
  intro depth
  refine Scan.yields_after Scan.peekSign fun sign => ?_
  split
  · exact Scan.yields_of_stops (Scan.stops_failHere _)
  · refine Scan.yields_enter depth fun inner => Scan.yields_after Scan.rounds fun rounds => ?_
    refine Scan.yields_bind (Scan.yields_items (each inner) true rounds) fun values hold => ?_
    exact Scan.yields_close _ fun value same => Except.ok.inj same ▸ hold
  · exact Scan.yields_of_stops (Scan.stops_refuse _)

theorem Yields.of_readText {reader : Reader α} (yields : reader.Yields condition) {text : String}
    {value : α} (reads : reader.readText text = .ok value) : condition value := by
  rw [readText] at reads
  split at reads
  · rename_i read after scanned
    cases reads
    obtain ⟨first, between, begins, ends⟩ := Scan.run_bind_eq_ok scanned
    obtain ⟨sign, beyond, -, closed⟩ := Scan.run_bind_eq_ok ends
    cases sign with
    | some sign => cases closed
    | none =>
        cases closed
        exact yields depthLimit _ _ _ begins
  · cases reads

end Reader

/-! ## What records are read as -/

namespace Record

variable {δ α : Type} {record : Record δ α} {invariant : δ → Prop}

/-- Whatever is read for the field, drafts with the invariant keep it. -/
def Keeps (invariant : δ → Prop) (field : RecordField δ) : Prop :=
  field.reader.Yields fun put => ∀ draft, invariant draft → invariant (put draft)

theorem yields_scanItems {fields : List (RecordField δ)}
    (keep : ∀ field ∈ fields, Keeps invariant field) (depth index : Nat) (first : Bool)
    {draft : δ} (holds : invariant draft) :
    Scan.Yields (fun content => ∀ draft, content = .ok draft → invariant draft)
      (record.scanItems depth index first draft fields) := by
  induction fields generalizing index first draft with
  | nil => exact Scan.yields_pure fun _ same => Except.ok.inj same ▸ holds
  | cons field rest ih =>
      obtain ⟨keeps, later⟩ := List.forall_mem_cons.mp keep
      refine Scan.yields_after (Scan.nextItem first) fun more => ?_
      split
      · exact Scan.yields_bind (keeps depth) fun put puts =>
          ih later (index + 1) false (puts draft holds)
      · split
        · exact ih later (index + 1) first holds
        · exact Scan.yields_pure fun _ same => by cases same

theorem yields_scanFields (keep : ∀ field ∈ record.fields, Keeps invariant field) (depth : Nat)
    (first : Bool) {draft : δ} (holds : invariant draft) (rounds : Nat) :
    Scan.Yields (fun content => ∀ draft, content = .ok draft → invariant draft)
      (record.scanFields depth first draft rounds) := by
  induction rounds generalizing first draft with
  | zero => exact Scan.yields_of_stops (Scan.stops_failHere _)
  | succ rounds ih =>
      refine Scan.yields_after (Scan.nextName first) fun name => ?_
      split
      · exact Scan.yields_pure fun _ same => Except.ok.inj same ▸ holds
      · split
        · exact Scan.yields_after _ fun _ => Scan.yields_after _ fun _ => ih false holds
        · rename_i field isNamed
          split
          · exact Scan.yields_pure fun _ same => by cases same
          · exact Scan.yields_after _ fun _ =>
              Scan.yields_bind (keep field (List.mem_of_find?_eq_some isNamed) depth)
                fun put puts => ih false (puts draft holds)

/-- A record is as said when its fields keep an invariant of drafts from which that follows. -/
theorem yields_reader {condition : α → Prop} (blank : invariant record.blank)
    (keep : ∀ field ∈ record.fields, Keeps invariant field)
    (finishes : ∀ draft value, invariant draft → record.finish draft = .ok value →
      condition value) : record.reader.Yields condition := by
  intro depth
  have closes (closing : Cursor → Except Stop Unit × Cursor) {content : Except Fault δ}
      (holds : ∀ draft, content = .ok draft → invariant draft) :
      Scan.Yields condition (Scan.close closing (content >>= record.finish)) := by
    refine Scan.yields_close closing fun value finished => ?_
    cases content with
    | error fault => cases finished
    | ok draft => exact finishes draft value (holds draft rfl) finished
  refine Scan.yields_after Scan.peekSign fun sign => ?_
  split
  · exact Scan.yields_of_stops (Scan.stops_failHere _)
  · refine Scan.yields_enter depth fun inner => ?_
    exact Scan.yields_bind (yields_scanItems keep inner 0 true blank) fun _ holds => closes _ holds
  · refine Scan.yields_enter depth fun inner => Scan.yields_after Scan.rounds fun rounds => ?_
    exact Scan.yields_bind (yields_scanFields keep inner true blank rounds) fun _ holds =>
      closes _ holds
  · exact Scan.yields_of_stops (Scan.stops_refuse _)

end Record

theorem required_eq_ok {α : Type} {name : String} {found : Option α} {value : α}
    (isThere : required name found = .ok value) : found = some value := by
  cases found with
  | none => cases isThere
  | some other => exact congrArg some (Except.ok.inj isThere)

end Json

/-! ## Kinds that are read -/

open Json

theorem Json.Record.keeps_of_map {δ α : Type} {invariant : δ → Prop} {name : String}
    {aliases : List String} {omissible : Bool} {filled : δ → Bool} {reader : Reader α}
    {place : α → δ → δ} (keeps : ∀ value draft, invariant draft → invariant (place value draft)) :
    Record.Keeps invariant ⟨name, aliases, omissible, filled, reader.map place⟩ := by
  have anything : reader.Yields fun _ => True := fun _ _ _ _ _ => trivial
  exact Reader.yields_map anything fun value _ => keeps value

namespace Symbol

/-- The kind of a draft, if read, is one that a word names. -/
def Draft.HasNamedKind (draft : Draft) : Prop :=
  ∀ kind, draft.kind = some kind → kind.IsNamed

theorem keeps_hasNamedKind : ∀ field ∈ record.fields, Record.Keeps Draft.HasNamedKind field := by
  simp only [record, List.forall_mem_cons]
  refine ⟨Record.keeps_of_map fun _ _ holds => holds, Record.keeps_of_map fun _ _ holds => holds,
    Record.keeps_of_map fun word draft _ kind isKind => ?kind,
    Record.keeps_of_map fun _ _ holds => holds, Record.keeps_of_map fun _ _ holds => holds,
    Record.keeps_of_map fun _ _ holds => holds, fun _ member => absurd member List.not_mem_nil⟩
  case kind =>
    cases isKind
    exact SymbolKind.isNamed_ofText word

theorem isNamed_of_reader : reader.Yields fun symbol => symbol.kind.IsNamed := by
  have blank : Draft.HasNamedKind record.blank := fun _ none => by cases none
  refine Record.yields_reader blank keeps_hasNamedKind fun draft symbol holds finished => ?_
  obtain ⟨id, -, finished⟩ := exists_of_bind_eq_ok finished
  obtain ⟨name, -, finished⟩ := exists_of_bind_eq_ok finished
  obtain ⟨kind, isKind, finished⟩ := exists_of_bind_eq_ok finished
  obtain ⟨filePath, -, finished⟩ := exists_of_bind_eq_ok finished
  obtain ⟨startLine, -, finished⟩ := exists_of_bind_eq_ok finished
  obtain ⟨endLine, -, finished⟩ := exists_of_bind_eq_ok finished
  cases finished
  exact holds kind (required_eq_ok isKind)

end Symbol

namespace Identifier

/-- The kind of a draft, if read, is one that a word names. -/
def Draft.HasNamedKind (draft : Draft) : Prop :=
  ∀ kind, draft.kind = some kind → kind.IsNamed

theorem keeps_hasNamedKind : ∀ field ∈ record.fields, Record.Keeps Draft.HasNamedKind field := by
  simp only [record, List.forall_mem_cons]
  refine ⟨Record.keeps_of_map fun _ _ holds => holds, Record.keeps_of_map fun _ _ holds => holds,
    Record.keeps_of_map fun word draft _ kind isKind => ?kind,
    Record.keeps_of_map fun _ _ holds => holds, Record.keeps_of_map fun _ _ holds => holds,
    Record.keeps_of_map fun _ _ holds => holds, Record.keeps_of_map fun _ _ holds => holds,
    fun _ member => absurd member List.not_mem_nil⟩
  case kind =>
    cases isKind
    exact IdentifierKind.isNamed_ofText word

theorem isNamed_of_reader : reader.Yields fun identifier => identifier.kind.IsNamed := by
  have blank : Draft.HasNamedKind record.blank := fun _ none => by cases none
  refine Record.yields_reader blank keeps_hasNamedKind fun draft identifier holds finished => ?_
  obtain ⟨id, -, finished⟩ := exists_of_bind_eq_ok finished
  obtain ⟨name, -, finished⟩ := exists_of_bind_eq_ok finished
  obtain ⟨kind, isKind, finished⟩ := exists_of_bind_eq_ok finished
  obtain ⟨filePath, -, finished⟩ := exists_of_bind_eq_ok finished
  cases finished
  exact holds kind (required_eq_ok isKind)

end Identifier

namespace IndexDocument

/-- All kinds of a draft are such that words name. -/
structure Draft.HasNamedKinds (draft : Draft) : Prop where
  /-- The kinds of the symbols, if read. -/
  symbols : ∀ symbols, draft.symbols = some symbols →
    ∀ symbol ∈ symbols, symbol.kind.IsNamed
  /-- The kinds of the identifiers, if read. -/
  identifiers : ∀ identifiers, draft.identifiers = some identifiers →
    ∀ identifier ∈ identifiers, identifier.kind.IsNamed

theorem keeps_hasNamedKinds :
    ∀ field ∈ record.fields, Record.Keeps Draft.HasNamedKinds field := by
  simp only [record, List.forall_mem_cons]
  refine ⟨?symbols, ?identifiers, fun _ member => absurd member List.not_mem_nil⟩
  case symbols =>
    refine Reader.yields_map (Reader.yields_list Symbol.isNamed_of_reader)
      fun symbols named draft holds => ⟨fun others same => ?_, holds.identifiers⟩
    cases same
    exact named
  case identifiers =>
    refine Reader.yields_map (Reader.yields_list Identifier.isNamed_of_reader)
      fun identifiers named draft holds => ⟨holds.symbols, fun others same => ?_⟩
    cases same
    exact named

/-- Every kind in a document that is read from a text is one that a word names. -/
theorem hasNamedKinds_of_readText {text : String} {document : IndexDocument}
    (reads : reader.readText text = .ok document) : document.HasNamedKinds := by
  have blank : Draft.HasNamedKinds record.blank :=
    ⟨fun _ none => (by cases none), fun _ none => (by cases none)⟩
  have yields : reader.Yields HasNamedKinds := by
    refine Record.yields_reader blank keeps_hasNamedKinds fun draft document holds finished => ?_
    cases finished
    refine ⟨fun symbol member => ?_, fun identifier member => ?_⟩
    · cases read : draft.symbols with
      | none => simp [read] at member
      | some symbols => exact holds.symbols symbols read symbol (by simpa [read] using member)
    · cases read : draft.identifiers with
      | none => simp [read] at member
      | some identifiers =>
          exact holds.identifiers identifiers read identifier (by simpa [read] using member)
  exact yields.of_readText reads

end IndexDocument

end CallTrace
