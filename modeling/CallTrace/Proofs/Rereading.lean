import CallTrace.Proofs.Reading

/-!
# What is written and read back

The readers of numbers, texts, values that may be absent, lists and records undo what writes them as
structured data. A symbol, an identifier and a document that are written are read back as they were,
with every kind as its word names it.
-/

namespace CallTrace

open Json

/-! ## Values -/

namespace Json.Reader

variable {α β : Type} {reader : Reader α} {encode : α → Json}

theorem ofJson_int64 (value : Int64) : int64.ofJson (ofInt64 value) = .ok value := by
  have inBounds : Int64.minValue.toInt ≤ value.toInt ∧ value.toInt ≤ Int64.maxValue.toInt :=
    ⟨Int64.le_iff_toInt_le.mp (Int64.minValue_le value),
      Int64.le_iff_toInt_le.mp (Int64.le_maxValue value)⟩
  change Number.int64 (.integer value.toInt) = .ok value
  rw [Number.int64, if_pos inBounds, Int64.ofInt_toInt]

theorem ofJson_map {value : Json} {read : α} (reads : reader.ofJson value = .ok read)
    (convert : α → β) : (reader.map convert).ofJson value = .ok (convert read) := by
  simp only [map, reads]
  rfl

theorem ofJson_optional {given : Option α} (notNull : ∀ value, encode value ≠ .null)
    (reads : ∀ value, given = some value → reader.ofJson (encode value) = .ok value) :
    reader.optional.ofJson (ofOption encode given) = .ok given := by
  cases given with
  | none => rfl
  | some value =>
      change reader.optional.ofJson (encode value) = .ok (some value)
      simp only [optional]
      split
      · rename_i isNull
        exact absurd isNull (notNull value)
      · rw [reads value rfl]
        rfl

theorem ofJson_list {convert : α → α}
    (reads : ∀ value, reader.ofJson (encode value) = .ok (convert value)) (values : List α) :
    reader.list.ofJson (ofList encode values) = .ok (values.map convert) := by
  change (values.map encode).mapM reader.ofJson = .ok (values.map convert)
  induction values with
  | nil => rfl
  | cons value rest ih =>
      rw [List.map_cons, List.mapM_cons, reads, ih]
      rfl

end Json.Reader

/-! ## Records -/

theorem Json.Record.draftFields_cons {δ α : Type} {record : Record δ α} {draft : δ} {name : String}
    {value : Json} {field : RecordField δ} {put : δ → δ}
    (isNamed : record.fieldNamed? name = some field) (isOpen : field.filled draft = false)
    (reads : field.reader.ofJson value = .ok put) (rest : List (String × Json)) :
    record.draftFields draft ((name, value) :: rest) = record.draftFields (put draft) rest := by
  rw [draftFields, draftField, isNamed]
  simp only [isOpen, Bool.false_eq_true, if_false, reads]
  rfl

namespace Symbol

theorem toJson_eq (symbol : Symbol) : symbol.toJson = .object [
    ("end_line", ofInt64 symbol.endLine), ("file_path", .text symbol.filePath),
    ("id", ofInt64 symbol.id), ("kind", .text symbol.kind.text), ("name", .text symbol.name),
    ("start_line", ofInt64 symbol.startLine)] := by
  simp only [toJson, ofFields, List.foldl_cons, List.foldl_nil, setField, String.reduceLT,
    String.reduceEq, if_true, if_false]

open Reader Record in
theorem ofJson_toJson (symbol : Symbol) : reader.ofJson symbol.toJson = .ok symbol.reread := by
  rw [toJson_eq]
  change record.draftFields record.blank _ >>= record.finish = _
  rw [draftFields_cons rfl rfl (ofJson_map (ofJson_int64 _) _),
    draftFields_cons rfl rfl (ofJson_map rfl _),
    draftFields_cons rfl rfl (ofJson_map (ofJson_int64 _) _),
    draftFields_cons rfl rfl (ofJson_map rfl _),
    draftFields_cons rfl rfl (ofJson_map rfl _),
    draftFields_cons rfl rfl (ofJson_map (ofJson_int64 _) _)]
  rfl

end Symbol

namespace Identifier

theorem toJson_eq (identifier : Identifier) : identifier.toJson = .object (
    [("containing_symbol_id", ofOption ofInt64 identifier.containerId),
      ("file_path", .text identifier.filePath), ("id", ofInt64 identifier.id),
      ("kind", .text identifier.kind.text)] ++
    (identifier.line.toList.map fun line => ("line", ofInt64 line)) ++
    [("name", .text identifier.name),
      ("target_symbol_id", ofOption ofInt64 identifier.targetId)]) := by
  cases known : identifier.line <;>
    simp only [toJson, known, ofFields, List.foldl_cons, List.foldl_nil, setField, String.reduceLT,
      String.reduceEq, if_true, if_false, List.cons_append, List.nil_append, Option.toList,
      List.map_cons, List.map_nil]

open Reader Record in
theorem ofJson_toJson (identifier : Identifier) :
    reader.ofJson identifier.toJson = .ok identifier.reread := by
  have number (given : Option Int64) : int64.optional.ofJson (ofOption ofInt64 given) = .ok given :=
    ofJson_optional (fun _ isNull => by cases isNull) fun value _ => ofJson_int64 value
  rw [toJson_eq]
  change record.draftFields record.blank _ >>= record.finish = _
  obtain ⟨id, name, kind, filePath, line, containerId, targetId⟩ := identifier
  cases line with
  | none =>
      simp only [Option.toList_none, List.map_nil, List.append_nil, List.cons_append,
        List.nil_append]
      rw [draftFields_cons rfl rfl (ofJson_map (number _) _),
        draftFields_cons rfl rfl (ofJson_map rfl _),
        draftFields_cons rfl rfl (ofJson_map (ofJson_int64 _) _),
        draftFields_cons rfl rfl (ofJson_map rfl _),
        draftFields_cons rfl rfl (ofJson_map rfl _),
        draftFields_cons rfl rfl (ofJson_map (number _) _)]
      rfl
  | some line =>
      simp only [Option.toList_some, List.map_cons, List.map_nil, List.cons_append, List.nil_append]
      rw [draftFields_cons rfl rfl (ofJson_map (number _) _),
        draftFields_cons rfl rfl (ofJson_map rfl _),
        draftFields_cons rfl rfl (ofJson_map (ofJson_int64 _) _),
        draftFields_cons rfl rfl (ofJson_map rfl _),
        draftFields_cons rfl rfl (ofJson_map (number (some line)) _),
        draftFields_cons rfl rfl (ofJson_map rfl _),
        draftFields_cons rfl rfl (ofJson_map (number _) _)]
      rfl

end Identifier

namespace IndexDocument

theorem toJson_eq (document : IndexDocument) : document.toJson = .object [
    ("identifiers", ofList Identifier.toJson document.identifiers),
    ("symbols", ofList Symbol.toJson document.symbols)] := by
  simp only [toJson, ofFields, List.foldl_cons, List.foldl_nil, setField, String.reduceLT,
    String.reduceEq, if_true, if_false]

open Reader Record in
/-- A document that is written is read back, with every kind as its word names it. -/
theorem ofJson_toJson (document : IndexDocument) :
    reader.ofJson document.toJson = .ok document.reread := by
  rw [toJson_eq]
  change record.draftFields record.blank _ >>= record.finish = _
  rw [draftFields_cons rfl rfl (ofJson_map (ofJson_list Identifier.ofJson_toJson _) _),
    draftFields_cons rfl rfl (ofJson_map (ofJson_list Symbol.ofJson_toJson _) _)]
  rfl

end IndexDocument

end CallTrace
