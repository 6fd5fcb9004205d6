import CallTrace.Server.Request

/-!
# Equality of structured data

Whether two values are the same can be decided, so what a text is read as can be compared with a
value.
-/

namespace CallTrace

namespace Json

mutual

/-- Whether two values are the same. -/
def same : Json → Json → Bool
  | .null, .null => true
  | .boolean left, .boolean right => left == right
  | .number left, .number right => left == right
  | .text left, .text right => left == right
  | .array left, .array right => sameItems left right
  | .object left, .object right => sameFields left right
  | _, _ => false

/-- Whether two lists have the same items. -/
def sameItems : List Json → List Json → Bool
  | [], [] => true
  | left :: lefts, right :: rights => same left right && sameItems lefts rights
  | _, _ => false

/-- Whether two objects have the same fields. -/
def sameFields : List (String × Json) → List (String × Json) → Bool
  | [], [] => true
  | (name, left) :: lefts, (other, right) :: rights =>
      name == other && same left right && sameFields lefts rights
  | _, _ => false

end

mutual

theorem eq_of_same {left right : Json} (isSame : same left right = true) : left = right := by
  cases left <;> cases right <;> simp only [same, Bool.false_eq_true, beq_iff_eq] at isSame
  case null.null => rfl
  case array.array left right => rw [eq_of_sameItems isSame]
  case object.object left right => rw [eq_of_sameFields isSame]
  all_goals rw [isSame]

theorem eq_of_sameItems {left right : List Json} (isSame : sameItems left right = true) :
    left = right := by
  cases left <;> cases right <;>
    simp only [sameItems, Bool.false_eq_true, Bool.and_eq_true] at isSame
  case nil.nil => rfl
  case cons.cons left lefts right rights =>
      rw [eq_of_same isSame.1, eq_of_sameItems isSame.2]

theorem eq_of_sameFields {left right : List (String × Json)}
    (isSame : sameFields left right = true) : left = right := by
  cases left <;> cases right <;>
    simp only [sameFields, Bool.false_eq_true, Bool.and_eq_true, beq_iff_eq] at isSame
  case nil.nil => rfl
  case cons.cons left lefts right rights =>
      obtain ⟨⟨names, values⟩, rest⟩ := isSame
      rw [Prod.ext names (eq_of_same values), eq_of_sameFields rest]

end

mutual

theorem same_self (value : Json) : same value value = true := by
  cases value <;> simp only [same, beq_self_eq_true]
  case array items => exact sameItems_self items
  case object fields => exact sameFields_self fields

theorem sameItems_self (items : List Json) : sameItems items items = true := by
  cases items with
  | nil => rfl
  | cons item rest => simp only [sameItems, same_self item, sameItems_self rest, Bool.and_self]

theorem sameFields_self (fields : List (String × Json)) : sameFields fields fields = true := by
  cases fields with
  | nil => rfl
  | cons field rest =>
      simp only [sameFields, beq_self_eq_true, same_self field.2, sameFields_self rest,
        Bool.and_self]

end

instance : DecidableEq Json := fun left right =>
  decidable_of_iff (same left right = true) ⟨eq_of_same, fun equal => equal ▸ same_self left⟩

end Json

instance : DecidableEq Request := fun left right =>
  decidable_of_iff (left.id = right.id ∧ left.method = right.method ∧ left.params = right.params)
    ⟨fun ⟨id, method, params⟩ => by
      cases left
      cases right
      simp_all, fun equal => equal ▸ ⟨rfl, rfl, rfl⟩⟩

end CallTrace
