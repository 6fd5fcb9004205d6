import CallTrace.Server.Request
import CallTrace.Text.Split

/-!
# Responses on a single line

The compact form of a value holds no line break, whatever texts stand in it, because a line break
inside a text is escaped and no number has one. So responses that are written on lines of their own
can be told apart again.
-/

namespace CallTrace

/-- The text has no line break. -/
def IsSingleLine (text : String) : Prop :=
  '\n' ∉ text.toList

instance : DecidablePred IsSingleLine := fun text =>
  inferInstanceAs (Decidable ('\n' ∉ text.toList))

namespace IsSingleLine

theorem append {left right : String} (first : IsSingleLine left) (second : IsSingleLine right) :
    IsSingleLine (left ++ right) := by
  simp only [IsSingleLine, String.toList_append, List.mem_append, not_or]
  exact ⟨first, second⟩

theorem ofList {characters : List Char} (clean : '\n' ∉ characters) :
    IsSingleLine (String.ofList characters) := by
  rwa [IsSingleLine, String.toList_ofList]

theorem join {parts : List String} (clean : ∀ part ∈ parts, IsSingleLine part) :
    IsSingleLine (String.join parts) := by
  simp only [IsSingleLine, String.toList_join, List.mem_flatMap, not_exists, not_and]
  exact clean

theorem intercalate {separator : String} {parts : List String}
    (between : IsSingleLine separator) (clean : ∀ part ∈ parts, IsSingleLine part) :
    IsSingleLine (String.intercalate separator parts) := by
  induction parts with
  | nil => simp [IsSingleLine]
  | cons first rest ih =>
      have later := ih fun part member => clean part (List.mem_cons_of_mem first member)
      have earlier := clean first List.mem_cons_self
      cases rest with
      | nil => simpa using earlier
      | cons second others =>
          rw [String.intercalate_cons_cons]
          exact (earlier.append between).append later

theorem ofNat (value : Nat) : IsSingleLine (toString value) := by
  intro member
  have isDigit := Nat.isDigit_of_mem_toDigits (by decide) (by decide)
    (Nat.toList_repr ▸ member : '\n' ∈ Nat.toDigits 10 value)
  exact absurd isDigit (by decide)

theorem ofInt (value : Int) : IsSingleLine (toString value) := by
  cases value with
  | ofNat count => exact ofNat count
  | negSucc count =>
      have sign : IsSingleLine "-" := by decide
      exact sign.append (ofNat (count + 1))

end IsSingleLine

/-! ## Numbers -/

namespace Binary64

theorem isSingleLine_zeros (count : Nat) : IsSingleLine (zeros count) :=
  .ofList fun member => absurd (List.eq_of_mem_replicate member) (by decide)

theorem isSingleLine_decimalText (count : Nat) (exponent : Int) :
    IsSingleLine (decimalText count exponent) := by
  have digits : IsSingleLine (toString count) := .ofNat count
  have front (length : Nat) : IsSingleLine (String.ofList ((toString count).toList.take length)) :=
    .ofList fun member => digits (List.mem_of_mem_take member)
  have back (length : Nat) : IsSingleLine (String.ofList ((toString count).toList.drop length)) :=
    .ofList fun member => digits (List.mem_of_mem_drop member)
  simp only [decimalText]
  split
  · exact (digits.append (isSingleLine_zeros _)).append (by decide)
  · split
    · exact ((front _).append (by decide)).append (back _)
    · split
      · exact (IsSingleLine.append (by decide) (isSingleLine_zeros _)).append digits
      · have fraction : IsSingleLine
            (if ((toString count).toList.drop 1).isEmpty then ""
              else "." ++ String.ofList ((toString count).toList.drop 1)) := by
          split
          · decide
          · exact .append (by decide) (back 1)
        have sign (power : Int) : IsSingleLine (if power < 0 then "-" else "+") := by
          split <;> decide
        exact ((((front 1).append fraction).append (by decide)).append (sign _)).append (.ofNat _)

theorem isSingleLine_toText (number : Binary64) : IsSingleLine number.toText := by
  obtain ⟨negative, magnitude⟩ := number
  have unsigned (decimal : Nat × Int) : IsSingleLine
      (if magnitude = 0 then "0.0"
        else decimalText (stripZeros decimal.1 decimal.2).1 (stripZeros decimal.1 decimal.2).2) := by
    split
    · decide
    · exact isSingleLine_decimalText _ _
  simp only [toText]
  generalize shortestDecimal magnitude = decimal
  split
  · exact .append (by decide) (unsigned decimal)
  · exact unsigned decimal

end Binary64

/-! ## Values -/

namespace Json

theorem isSingleLine_escapeCharacter (character : Char) :
    IsSingleLine (escapeCharacter character) := by
  have low : ∀ code < 0x20, IsSingleLine (Text.hexDigits code) := by decide
  rw [escapeCharacter]
  split
  iterate 7 decide
  rename_i notBreak _ _ _ _
  split
  · exact .append (by decide) (low _ (by omega))
  · split
    · exact .append (by decide) (low _ (by omega))
    · have different : character ≠ '\n' := by
        rintro rfl
        exact notBreak rfl
      simpa [IsSingleLine] using Ne.symm different

theorem isSingleLine_writeText (value : String) : IsSingleLine (writeText value) := by
  refine (IsSingleLine.append (by decide) (.join fun part member => ?_)).append (by decide)
  obtain ⟨character, -, rfl⟩ := List.mem_map.mp member
  exact isSingleLine_escapeCharacter character

theorem Number.isSingleLine_toText (number : Number) : IsSingleLine number.toText := by
  cases number with
  | integer value => exact .ofInt value
  | real value => exact value.isSingleLine_toText

mutual

theorem isSingleLine_compact (value : Json) : IsSingleLine value.compact := by
  cases value with
  | null => decide
  | boolean value => cases value <;> decide
  | number value => exact value.isSingleLine_toText
  | text value => exact isSingleLine_writeText value
  | array items =>
      exact (IsSingleLine.append (by decide)
        (.intercalate (by decide) (isSingleLine_compactItems items))).append (by decide)
  | object fields =>
      exact (IsSingleLine.append (by decide)
        (.intercalate (by decide) (isSingleLine_compactFields fields))).append (by decide)

theorem isSingleLine_compactItems (items : List Json) :
    ∀ part ∈ compactItems items, IsSingleLine part := by
  cases items with
  | nil => exact fun _ member => absurd member List.not_mem_nil
  | cons item rest =>
      intro part member
      rcases List.mem_cons.mp member with rfl | later
      · exact isSingleLine_compact item
      · exact isSingleLine_compactItems rest part later

theorem isSingleLine_compactFields (fields : List (String × Json)) :
    ∀ part ∈ compactFields fields, IsSingleLine part := by
  cases fields with
  | nil => exact fun _ member => absurd member List.not_mem_nil
  | cons field rest =>
      obtain ⟨name, value⟩ := field
      intro part member
      rcases List.mem_cons.mp member with rfl | later
      · exact ((isSingleLine_writeText name).append (by decide)).append
          (isSingleLine_compact value)
      · exact isSingleLine_compactFields rest part later

end

end Json

/-! ## Responses -/

/-- The response as named values: its identification, and either a result or a failure. -/
def Response.fields (response : Response) : List (String × Json) :=
  [("id", response.id),
    match response.outcome with
    | .ok result => ("result", result)
    | .error message => ("error", Json.ofFields [("message", .text message)])]

theorem Response.text_eq (response : Response) :
    response.text = (Json.object response.fields).compact := by
  obtain ⟨id, outcome⟩ := response
  have id_eq : Json.writeText "id" = "\"id\"" := by decide
  have result_eq : Json.writeText "result" = "\"result\"" := by decide
  have error_eq : Json.writeText "error" = "\"error\"" := by decide
  rw [← String.toList_inj]
  cases outcome with
  | ok result => simp [text, fields, Json.compact, Json.compactFields, id_eq, result_eq]
  | error message => simp [text, fields, Json.compact, Json.compactFields, id_eq, error_eq]

theorem Response.isSingleLine_text (response : Response) : IsSingleLine response.text := by
  rw [response.text_eq]
  exact Json.isSingleLine_compact _

/-- Lines that were written one after another are told apart at their line breaks. -/
theorem split_join_lines {lines : List String} (single : ∀ line ∈ lines, IsSingleLine line) :
    Text.split '\n' (String.join (lines.map fun line => line ++ "\n")).toList =
      lines.map String.toList ++ [[]] := by
  induction lines with
  | nil => rfl
  | cons line rest ih =>
      have clean := single line List.mem_cons_self
      have later := ih fun other member => single other (List.mem_cons_of_mem line member)
      have cut := Text.split_append_cons clean
        (String.join (rest.map fun other => other ++ "\n")).toList
      simp only [List.map_cons, String.join_cons, String.toList_append, List.append_assoc,
        List.cons_append, ← later]
      exact cut

end CallTrace
