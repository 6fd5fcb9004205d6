import CallTrace.Database.Basic
import Mathlib.Data.List.Sort
import Mathlib.Data.String.Basic

/-!
# Texts in the order of their bytes

Texts are in the same order by their characters as by the bytes of their characters. Placing texts
one by one brings them into this order, each of them once.
-/

namespace CallTrace

/-! ## Bytes -/

namespace Text

/-- The bytes of a text. -/
def bytes (text : String) : List UInt8 :=
  text.toUTF8.data.toList

theorem bytes_eq_flatMap (text : String) :
    bytes text = text.toList.flatMap String.utf8EncodeChar := by
  rw [bytes, String.toUTF8_eq_toByteArray, ← String.utf8Encode_toList, List.utf8Encode,
    List.data_toByteArray]

private theorem ofNat_lt_ofNat_iff (left right : Nat) :
    UInt8.ofNat left < UInt8.ofNat right ↔ left % 256 < right % 256 := by
  rw [UInt8.lt_iff_toNat_lt, UInt8.toNat_ofNat', UInt8.toNat_ofNat']

private theorem ofNat_eq_ofNat_iff (left right : Nat) :
    UInt8.ofNat left = UInt8.ofNat right ↔ left % 256 = right % 256 := by
  rw [← UInt8.toNat_inj, UInt8.toNat_ofNat', UInt8.toNat_ofNat']

/-- The bytes of a smaller character come before those of a greater one, whatever follows. -/
theorem utf8EncodeChar_append_lt {left right : Char} (isLess : left < right)
    (first second : List UInt8) :
    String.utf8EncodeChar left ++ first < String.utf8EncodeChar right ++ second := by
  have less : left.val.toNat < right.val.toNat := by
    simpa [Char.lt_def, UInt32.lt_iff_toNat_lt] using isLess
  have bound : right.val.toNat < 0x110000 := by
    have valid := right.valid
    simp only [UInt32.isValidChar, Nat.isValidChar] at valid
    omega
  simp only [String.utf8EncodeChar]
  generalize left.val.toNat = code at less
  generalize right.val.toNat = other at less bound
  split_ifs
  all_goals
    simp only [List.cons_append, List.nil_append, List.cons_lt_cons_iff, ofNat_lt_ofNat_iff,
      ofNat_eq_ofNat_iff]
  any_goals
    left
    omega
  -- As many bytes against as many: the first in which they differ decides.
  · omega
  · obtain high | high : code / 4096 < other / 4096 ∨ code / 4096 = other / 4096 := by omega
    · exact .inl (by omega)
    · refine .inr ⟨by omega, ?_⟩
      omega
  · obtain top | top : code / 262144 < other / 262144 ∨ code / 262144 = other / 262144 := by omega
    · exact .inl (by omega)
    · refine .inr ⟨by omega, ?_⟩
      obtain high | high : code / 4096 < other / 4096 ∨ code / 4096 = other / 4096 := by omega
      · exact .inl (by omega)
      · refine .inr ⟨by omega, ?_⟩
        omega

theorem bytes_lt_bytes {left right : String} (isLess : left < right) :
    bytes left < bytes right := by
  rw [String.lt_iff_toList_lt] at isLess
  rw [bytes_eq_flatMap, bytes_eq_flatMap]
  generalize left.toList = first at isLess
  generalize right.toList = second at isLess
  induction first generalizing second with
  | nil =>
      cases second with
      | nil => exact absurd isLess (List.not_lt_nil [])
      | cons character rest =>
          cases encoded : (character :: rest).flatMap String.utf8EncodeChar with
          | nil => simp at encoded
          | cons byte more => exact List.nil_lt_cons byte more
  | cons character rest ih =>
      cases second with
      | nil => exact absurd isLess (List.not_lt_nil _)
      | cons other more =>
          rw [List.flatMap_cons, List.flatMap_cons]
          obtain less | ⟨rfl, later⟩ := List.cons_lt_cons_iff.mp isLess
          · exact utf8EncodeChar_append_lt less _ _
          · exact List.append_left_lt (ih more later)

/-- Texts are in the order of their bytes. -/
theorem lt_iff_bytes_lt (left right : String) : left < right ↔ bytes left < bytes right := by
  refine ⟨bytes_lt_bytes, fun isLess => ?_⟩
  obtain less | rfl | greater := lt_trichotomy left right
  · exact less
  · exact absurd isLess (List.lt_irrefl _)
  · exact absurd isLess (List.lt_asymm (bytes_lt_bytes greater))

end Text

/-! ## Lists in order -/

/-- The texts are in the order of their bytes, and none is there twice. -/
def AscendByBytes (texts : List String) : Prop :=
  texts.Pairwise fun left right => Text.bytes left < Text.bytes right

theorem mem_placeText {text other : String} {texts : List String} :
    other ∈ placeText text texts ↔ other = text ∨ other ∈ texts := by
  induction texts with
  | nil => simp [placeText]
  | cons first rest ih =>
      rw [placeText]
      split
      · rw [List.mem_cons]
      · split
        · rename_i same
          rw [same, List.mem_cons, or_self_left]
        · rw [List.mem_cons, ih, List.mem_cons, or_left_comm]

theorem AscendByBytes.placeText {texts : List String} (ascend : AscendByBytes texts)
    (text : String) : AscendByBytes (placeText text texts) := by
  induction texts with
  | nil => exact List.pairwise_singleton _ text
  | cons first rest ih =>
      obtain ⟨least, ordered⟩ := List.pairwise_cons.mp ascend
      rw [CallTrace.placeText]
      split
      · rename_i isLess
        have before := (Text.lt_iff_bytes_lt text first).mp isLess
        refine List.pairwise_cons.mpr ⟨fun other member => ?_, ascend⟩
        obtain rfl | later := List.mem_cons.mp member
        · exact before
        · exact List.lt_trans before (least other later)
      · split
        · exact ascend
        · rename_i notLess different
          have before : first < text := lt_of_le_of_ne (not_lt.mp notLess) (Ne.symm different)
          refine List.pairwise_cons.mpr ⟨fun other member => ?_, ih ordered⟩
          obtain rfl | later := mem_placeText.mp member
          · exact (Text.lt_iff_bytes_lt first other).mp before
          · exact least other later

/-- Placing texts one by one puts all of them in order. -/
theorem foldl_placeText (texts : List String) {placed : List String}
    (ascend : AscendByBytes placed) :
    let all := texts.foldl (fun placed text => placeText text placed) placed
    AscendByBytes all ∧ ∀ text, text ∈ all ↔ text ∈ texts ∨ text ∈ placed := by
  induction texts generalizing placed with
  | nil => exact ⟨ascend, fun text => by simp⟩
  | cons first rest ih =>
      obtain ⟨ordered, members⟩ := ih (ascend.placeText first)
      refine ⟨ordered, fun text => ?_⟩
      rw [List.foldl_cons, members, mem_placeText, List.mem_cons, or_left_comm, or_assoc]

end CallTrace
