import CallTrace.Config
import Mathlib.Data.Nat.Digits.Defs
import Mathlib.Logic.Function.Basic

/-!
# What variables can set

A variable sets its setting to the number that it writes. One that writes no number, or a number
that is too large, might as well not be set. The depths that come out are within bounds, whatever
the variables say.
-/

namespace CallTrace

/-! ## Numbers as texts -/

namespace Text

/-- The characters are decimal digits, at least one of them, and have the value. -/
def AreDigits (digits : List Char) (value : Nat) : Prop :=
  digits ≠ [] ∧ (∀ digit ∈ digits, digit.isDigit = true) ∧
    Nat.ofDigits 10 (digits.reverse.map fun digit => digit.toNat - '0'.toNat) = value

/-- The text writes the number in decimal digits, perhaps after a plus sign. -/
def Writes (text : String) (value : Nat) : Prop :=
  ∃ sign digits, text.toList = sign ++ digits ∧ (sign = [] ∨ sign = ['+']) ∧
    AreDigits digits value

theorem digitsValue?_eq_some_iff {digits : List Char} {value : Nat} :
    digitsValue? digits = some value ↔ AreDigits digits value := by
  have sum : digits.foldl (fun value digit => value * 10 + (digit.toNat - '0'.toNat)) 0 =
      Nat.ofDigits 10 (digits.reverse.map fun digit => digit.toNat - '0'.toNat) := by
    rw [Nat.ofDigits_eq_foldr, List.foldr_map, List.foldl_eq_foldr_reverse]
    simp only [Nat.cast_id, Nat.mul_comm, Nat.add_comm]
  have refused : (digits.isEmpty || !digits.all Char.isDigit) = true ↔
      ¬(digits ≠ [] ∧ ∀ digit ∈ digits, digit.isDigit = true) := by
    rw [Bool.or_eq_true, not_and_or, not_not, List.isEmpty_iff, Bool.not_eq_true',
      ← Bool.not_eq_true, List.all_eq_true]
  rw [digitsValue?, sum, AreDigits, ← and_assoc]
  split
  · rename_i isRefused
    simp only [refused.mp isRefused, reduceCtorEq, false_and]
  · rename_i isRead
    rw [refused, not_not] at isRead
    rw [Option.some.injEq, and_iff_right isRead]

/-- A text is read as a number when it writes the number and the number is not too large. -/
theorem natural?_eq_some_iff {limit value : Nat} {text : String} :
    natural? limit text = some value ↔ Writes text value ∧ value ≤ limit := by
  rw [natural?, Option.filter_eq_some_iff, digitsValue?_eq_some_iff, decide_eq_true_eq]
  refine and_congr_left fun _ => ?_
  split
  · rename_i digits signed
    refine ⟨fun areDigits => ⟨['+'], digits, signed, .inr rfl, areDigits⟩, ?_⟩
    rintro ⟨sign, others, written, rfl | rfl, areDigits⟩
    · -- A plus sign is no digit.
      have isDigit := areDigits.2.1 '+' (by rw [← List.nil_append others, ← written, signed]; simp)
      exact absurd isDigit (by decide)
    · rw [signed] at written
      cases written
      exact areDigits
  · rename_i unsigned
    refine ⟨fun areDigits => ⟨[], text.toList, rfl, .inl rfl, areDigits⟩, ?_⟩
    rintro ⟨sign, digits, written, rfl | rfl, areDigits⟩
    · rwa [written]
    · exact absurd written (unsigned digits)

end Text

/-! ## Settings -/

namespace Config

/-- A variable that sets something. -/
structure Setting where
  /-- Name of the variable. -/
  variableName : String
  /-- The greatest number that it can write. -/
  greatest : Nat
deriving DecidableEq, Repr

/-- The variables that set something. -/
def settings : List Setting := [
  ⟨"REFTRACE_POOL_SIZE", Text.maxCount32⟩,
  ⟨"REFTRACE_POOL_MIN_IDLE", Text.maxCount32⟩,
  ⟨"REFTRACE_DEFAULT_MAX_DEPTH", Text.maxCount64⟩,
  ⟨"REFTRACE_MAX_NODES_WARN", Text.maxCount64⟩,
  ⟨"REFTRACE_MAX_DEPTH_LIMIT", Text.maxCount64⟩]

/-- A text that writes no number of the right size for the setting, not even without the blanks at
its ends. -/
def Setting.IsMalformed (setting : Setting) (text : String) : Prop :=
  ∀ value ≤ setting.greatest, ¬Text.Writes (Text.trim text) value

/-- The number that the variable of a setting gives. -/
def Setting.number? (setting : Setting) (lookup : String → Option String) : Option Nat :=
  (lookup setting.variableName).bind fun text =>
    Text.natural? setting.greatest (Text.trim text)

variable {lookup : String → Option String}

theorem Setting.number?_of_isMalformed {setting : Setting} {text : String}
    (isSet : lookup setting.variableName = some text) (malformed : setting.IsMalformed text) :
    setting.number? lookup = none := by
  rw [number?, isSet, Option.bind_some, Option.eq_none_iff_forall_ne_some]
  intro value reads
  obtain ⟨writes, fits⟩ := Text.natural?_eq_some_iff.mp reads
  exact malformed value fits writes

/-- Variables that give the same numbers give the same settings. -/
theorem ofVariables_congr {others : String → Option String}
    (same : ∀ setting ∈ settings, setting.number? lookup = setting.number? others) :
    ofVariables lookup = ofVariables others := by
  have overrides : ∀ setting ∈ settings, ∀ default,
      override setting.greatest (lookup setting.variableName) default =
        override setting.greatest (others setting.variableName) default :=
    fun setting isListed default => congrArg (·.getD default) (same setting isListed)
  simp only [settings, List.forall_mem_cons] at overrides
  obtain ⟨poolSize, poolMinIdle, defaultMaxDepth, maxNodesWarn, maxDepthLimit, -⟩ := overrides
  simp only [ofVariables, poolSize, poolMinIdle, defaultMaxDepth, maxNodesWarn, maxDepthLimit]

/-- A variable that writes no number of the right size might as well not be set. -/
theorem ofVariables_of_isMalformed {setting : Setting} (isListed : setting ∈ settings)
    {text : String} (isSet : lookup setting.variableName = some text)
    (malformed : setting.IsMalformed text) :
    ofVariables lookup = ofVariables (Function.update lookup setting.variableName none) := by
  have distinct : ∀ first ∈ settings, ∀ second ∈ settings,
      first.variableName = second.variableName → first = second := by decide
  refine ofVariables_congr fun other isOther => ?_
  by_cases same : other.variableName = setting.variableName
  · obtain rfl := distinct other isOther setting isListed same
    rw [Setting.number?_of_isMalformed isSet malformed, Setting.number?, Function.update_self]
    rfl
  · rw [Setting.number?, Setting.number?, Function.update_of_ne same]

theorem maxDepthLimit_ofVariables_le (lookup : String → Option String) :
    (ofVariables lookup).maxDepthLimit ≤ depthCeiling :=
  Nat.min_le_right _ _

theorem defaultMaxDepth_ofVariables_le (lookup : String → Option String) :
    (ofVariables lookup).defaultMaxDepth ≤ (ofVariables lookup).maxDepthLimit :=
  Nat.min_le_right _ _

end Config

end CallTrace
