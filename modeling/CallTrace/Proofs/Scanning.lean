import CallTrace.Server.Request
import CallTrace.Text.Blank

/-!
# What lines are read as

A record is read from a line by way of a draft, which shows the fields that the line gives. A blank
line is read as nothing.
-/

namespace CallTrace

theorem Text.isBlank_of_isDigit {character : Char} (isDigit : character.isDigit = true) :
    isBlank character = false := by
  have bounds : 48 ≤ character.toNat ∧ character.toNat ≤ 57 := by
    simpa [Char.isDigit, Char.le_def, UInt32.le_iff_toNat_le] using isDigit
  simp [isBlank, covers, blankTable, CodeRun.contains]
  omega

namespace Json

/-! ## Scanners that yield nothing -/

namespace Scan

variable {α β δ : Type}

/-- The scanner stops, wherever it begins. -/
def Stops (scan : Scan α) : Prop :=
  ∀ cursor value after, scan.run cursor ≠ .ok (value, after)

theorem stops_failHere (fault : Fault) : Stops (failHere fault : Scan α) := by
  intro cursor value after yields
  cases yields

theorem stops_failNext (fault : Fault) : Stops (failNext fault : Scan α) := by
  intro cursor value after yields
  cases yields

/-- Two scanners one after another yield a value when the first yields one that the second goes on
from. -/
theorem run_bind_eq_ok {scan : Scan α} {next : α → Scan β} {cursor after : Cursor} {value : β}
    (yields : (scan >>= next).run cursor = .ok (value, after)) :
    ∃ first between, scan.run cursor = .ok (first, between) ∧
      (next first).run between = .ok (value, after) := by
  rw [StateT.run_bind] at yields
  cases first : scan.run cursor with
  | error stop =>
      rw [first] at yields
      cases yields
  | ok reached =>
      rw [first] at yields
      exact ⟨reached.1, reached.2, rfl, yields⟩

theorem run_bind_of_ok {scan : Scan α} {next : α → Scan β} {cursor between : Cursor} {first : α}
    (yields : scan.run cursor = .ok (first, between)) :
    (scan >>= next).run cursor = (next first).run between := by
  rw [StateT.run_bind, yields]
  rfl

theorem stops_bind (scan : Scan α) {next : α → Scan β} (stops : ∀ value, Stops (next value)) :
    Stops (scan >>= next) := by
  intro cursor value after yields
  obtain ⟨first, between, -, rest⟩ := run_bind_eq_ok yields
  exact stops first between value after rest

theorem stops_refuse (expected : String) : Stops (refuse expected : Scan α) := by
  refine stops_bind peek fun sign => ?_
  split
  · exact stops_bind _ fun _ => stops_bind _ fun _ => stops_failHere _
  · exact stops_bind _ fun _ => stops_bind _ fun _ => stops_failHere _
  · exact stops_bind _ fun _ => stops_bind _ fun _ => stops_failHere _
  · exact stops_bind _ fun _ => stops_bind _ fun _ => stops_failHere _
  · exact stops_bind _ fun _ => stops_bind _ fun _ => stops_failHere _
  · exact stops_failHere _
  · exact stops_failHere _
  · split
    · exact stops_bind _ fun _ => stops_failHere _
    · exact stops_failNext _
  · exact stops_failNext _

/-! ## Drafts -/

/-- Whenever the first scanner yields something, the second yields a draft of it at the same
place. -/
def Drafts (finish : δ → Except Fault α) (scan : Scan α) (outline : Scan δ) : Prop :=
  ∀ cursor value after, scan.run cursor = .ok (value, after) →
    ∃ draft, outline.run cursor = .ok (draft, after) ∧ finish draft = .ok value

variable {finish : δ → Except Fault α}

theorem drafts_of_stops {scan : Scan α} (outline : Scan δ) (stops : Stops scan) :
    Drafts finish scan outline :=
  fun cursor value after yields => absurd yields (stops cursor value after)

theorem drafts_bind (first : Scan β) {scan : β → Scan α} {outline : β → Scan δ}
    (drafts : ∀ value, Drafts finish (scan value) (outline value)) :
    Drafts finish (first >>= scan) (first >>= outline) := by
  intro cursor value after yields
  obtain ⟨seen, between, before, rest⟩ := run_bind_eq_ok yields
  rw [run_bind_of_ok before]
  exact drafts seen between value after rest

theorem drafts_enter (depth : Nat) {scan : Nat → Scan α} {outline : Nat → Scan δ}
    (drafts : ∀ inner, Drafts finish (scan inner) (outline inner)) :
    Drafts finish (enter depth scan) (enter depth outline) := by
  rw [enter, enter]
  split
  · exact drafts_of_stops _ (stops_failNext _)
  · exact drafts_bind advance fun _ => drafts (depth - 1)

theorem drafts_close (closing : Cursor → Except Stop Unit × Cursor) (content : Except Fault δ) :
    Drafts finish (close closing (content >>= finish)) (close closing content) := by
  refine drafts_bind get fun seen => drafts_bind (set (closing seen).2) fun _ => ?_
  cases content with
  | error fault => exact drafts_of_stops _ (stops_failHere fault)
  | ok draft =>
      intro cursor value after yields
      cases finished : finish draft with
      | error fault =>
          simp only [bind, Except.bind, finished] at yields
          cases yields
      | ok record =>
          simp only [bind, Except.bind, finished] at yields
          cases closed : (closing seen).1 with
          | error stop =>
              rw [closed] at yields
              cases yields
          | ok done =>
              rw [closed] at yields
              cases yields
              exact ⟨draft, rfl, finished⟩

end Scan

namespace Record

variable {δ α : Type} (record : Record δ α)

/-- The record that is left as a draft. -/
def outline : Record δ δ where
  name := record.name
  blank := record.blank
  fields := record.fields
  finish := .ok

theorem bind_finish_outline (content : Except Fault δ) :
    (content >>= record.outline.finish) = content := by
  cases content <;> rfl

theorem scanItems_outline (depth index : Nat) (first : Bool) (draft : δ)
    (fields : List (RecordField δ)) :
    record.outline.scanItems depth index first draft fields =
      record.scanItems depth index first draft fields := by
  induction fields generalizing index first draft with
  | nil => rfl
  | cons field rest ih =>
      simp only [scanItems, ih]
      rfl

theorem scanFields_outline (depth : Nat) (first : Bool) (draft : δ) (rounds : Nat) :
    record.outline.scanFields depth first draft rounds =
      record.scanFields depth first draft rounds := by
  induction rounds generalizing first draft with
  | zero => rfl
  | succ rounds ih =>
      simp only [scanFields, ih]
      rfl

theorem drafts_scan (depth : Nat) :
    Scan.Drafts record.finish (record.reader.scan depth) (record.outline.reader.scan depth) := by
  refine Scan.drafts_bind Scan.peekSign fun sign => ?_
  simp only [scanItems_outline, scanFields_outline]
  -- A record is given as a list or as an object, and both end with its content as a draft.
  split
  · exact Scan.drafts_of_stops _ (Scan.stops_failHere _)
  · refine Scan.drafts_enter depth fun inner => ?_
    refine Scan.drafts_bind _ fun content => ?_
    rw [bind_finish_outline]
    exact Scan.drafts_close _ content
  · refine Scan.drafts_enter depth fun inner => ?_
    refine Scan.drafts_bind _ fun rounds => Scan.drafts_bind _ fun content => ?_
    rw [bind_finish_outline]
    exact Scan.drafts_close _ content
  · exact Scan.drafts_of_stops _ (Scan.stops_refuse _)

/-- What is read from a text is read by way of a draft. -/
theorem exists_draft {text : String} {value : α}
    (reads : record.reader.readText text = .ok value) :
    ∃ draft, record.outline.reader.readText text = .ok draft ∧
      record.finish draft = .ok value := by
  rw [Reader.readText] at reads ⊢
  split at reads
  · rename_i read after yields
    cases reads
    obtain ⟨first, between, scanned, ends⟩ := Scan.run_bind_eq_ok yields
    obtain ⟨draft, drafted, finished⟩ := record.drafts_scan _ _ _ _ scanned
    obtain ⟨sign, beyond, peeked, closed⟩ := Scan.run_bind_eq_ok ends
    cases sign with
    | some sign => cases closed
    | none =>
        cases closed
        refine ⟨draft, ?_, finished⟩
        rw [Scan.run_bind_of_ok drafted, Scan.run_bind_of_ok peeked]
        rfl
  · cases reads

end Record

/-! ## Blank lines -/

namespace Scan

theorem run_peekSign (cursor : Cursor) :
    peekSign.run cursor = .ok (cursor.skipSpaces.rest.head?, cursor.skipSpaces) :=
  rfl

/-- On a blank line no character comes up that is not blank itself. -/
theorem isBlank_of_head? {line : String} (blank : Text.allBlank line = true) {sign : Char}
    (isNext : (Cursor.start line).skipSpaces.rest.head? = some sign) :
    Text.isBlank sign = true := by
  have member : sign ∈ line.toList := List.mem_of_mem_drop (List.mem_of_mem_head? isNext)
  exact List.all_eq_true.mp blank sign member

/-- A scanner that looks for a sign first yields nothing on a blank line if it stops at every blank
sign and at the end of the text. -/
theorem ne_ok_of_allBlank {α : Type} {line : String} (blank : Text.allBlank line = true)
    {next : Option Char → Scan α} (atEnd : Stops (next none))
    (atBlank : ∀ sign, Text.isBlank sign = true → Stops (next (some sign))) (value : α)
    (after : Cursor) : (peekSign >>= next).run (Cursor.start line) ≠ .ok (value, after) := by
  rw [run_bind_of_ok (run_peekSign _)]
  cases isNext : (Cursor.start line).skipSpaces.rest.head? with
  | none => exact atEnd _ _ _
  | some sign => exact atBlank sign (isBlank_of_head? blank isNext) _ _ _

end Scan

theorem Reader.readText_ne_ok {α : Type} (reader : Reader α) {line : String}
    (stops : ∀ value after,
      (reader.scan depthLimit).run (Cursor.start line) ≠ .ok (value, after)) (value : α) :
    reader.readText line ≠ .ok value := by
  intro reads
  rw [readText] at reads
  split at reads
  · rename_i yields
    obtain ⟨first, between, scanned, -⟩ := Scan.run_bind_eq_ok yields
    exact stops first between scanned
  · cases reads

theorem Record.allBlank_of_readText {δ α : Type} {record : Record δ α} {line : String} {value : α}
    (reads : record.reader.readText line = .ok value) : Text.allBlank line = false := by
  rw [Bool.eq_false_iff]
  intro blank
  refine record.reader.readText_ne_ok (Scan.ne_ok_of_allBlank blank ?_ ?_) value reads
  · exact Scan.stops_failHere _
  · intro sign isBlank
    split
    · rename_i isEnd
      cases isEnd
    · rename_i isList
      cases isList
      exact absurd isBlank (by decide)
    · rename_i isObject
      cases isObject
      exact absurd isBlank (by decide)
    · exact Scan.stops_refuse _

theorem allBlank_of_parse {line : String} {value : Json} (reads : parse line = .ok value) :
    Text.allBlank line = false := by
  rw [Bool.eq_false_iff]
  intro blank
  refine Reader.any.readText_ne_ok (Scan.ne_ok_of_allBlank blank ?_ ?_) value reads
  · exact Scan.stops_failHere _
  · intro sign isBlank
    have notDigit : sign.isDigit = false := by
      rw [Bool.eq_false_iff]
      intro isDigit
      rw [Text.isBlank_of_isDigit isDigit] at isBlank
      cases isBlank
    split
    · rename_i isEnd
      cases isEnd
    -- No value begins with a blank: neither a word, nor a text, a sign or a bracket.
    iterate 7
      · rename_i same
        cases same
        exact absurd isBlank (by decide)
    · rename_i same
      cases same
      rw [if_neg (by simp [notDigit])]
      exact Scan.stops_failNext _

end Json

end CallTrace
