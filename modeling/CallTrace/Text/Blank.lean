import CallTrace.Text.CodeRun

/-!
# Blank characters

White space as the property `White_Space` has it, and texts without it at their two ends.
-/

namespace CallTrace.Text

/-- Characters with the property `White_Space`. -/
def blankTable : List CodeRun := [
  ⟨0x9, 0xD, 1⟩, ⟨0x20, 0x20, 1⟩, ⟨0x85, 0x85, 1⟩, ⟨0xA0, 0xA0, 1⟩, ⟨0x1680, 0x1680, 1⟩,
  ⟨0x2000, 0x200A, 1⟩, ⟨0x2028, 0x2029, 1⟩, ⟨0x202F, 0x202F, 1⟩, ⟨0x205F, 0x205F, 1⟩,
  ⟨0x3000, 0x3000, 1⟩]

/-- Whether the character is white space. -/
def isBlank (character : Char) : Bool :=
  covers blankTable character

/-- Whether the text has no character but white space. -/
def allBlank (text : String) : Bool :=
  text.toList.all isBlank

/-- The text without the white space at its two ends. -/
def trim (text : String) : String :=
  String.ofList ((text.toList.dropWhile isBlank).reverse.dropWhile isBlank).reverse

end CallTrace.Text
