import CallTrace.Text.CaseTable

/-!
# Lower case

The full lower-case mapping of a text: every capital letter becomes its small letter, one of them
becomes two characters, and a capital sigma takes its final form at the end of a word. Two names are
equal up to case when their lower cases are equal.
-/

namespace CallTrace.Text

/-- Whether the character is a capital letter. -/
def isUppercase (character : Char) : Bool :=
  covers uppercaseTable character

/-- The lower case of one character above the first 128, whatever stands around it. -/
def lowerCharacter (character : Char) : List Char :=
  if character.toNat = 0x130 then
    ['i', Char.ofNat 0x307]
  else
    match lowercaseTable.find? fun shift => shift.capitals.contains character.toNat with
    | some shift => [Char.ofNat (character.toNat + shift.distance).toNat]
    | none => [character]

/-- Whether the first character that is not skipped has case. -/
def startsCased (characters : List Char) : Bool :=
  match characters.dropWhile (covers caseIgnorableTable) with
  | [] => false
  | character :: _ => covers casedTable character

/-- The lower case of a capital sigma: final when a letter precedes it and none follows. The
characters before it are given nearest first. -/
def lowerSigma (before after : List Char) : Char :=
  if startsCased before && !startsCased after then 'ς' else 'σ'

/-- The lower case of the characters that follow `before`, which is given nearest first. -/
def lowerAfter (before : List Char) : List Char → List Char
  | [] => []
  | character :: rest =>
    let later := lowerAfter (character :: before) rest
    if character.toNat < 0x80 then
      character.toLower :: later
    else if character = 'Σ' then
      lowerSigma before rest :: later
    else
      lowerCharacter character ++ later

/-- The text in lower case. -/
def lowercase (text : String) : String :=
  String.ofList (lowerAfter [] text.toList)

/-- What names are compared by: the name itself, or its lower case. -/
def nameKey (caseSensitive : Bool) (name : String) : String :=
  if caseSensitive then name else lowercase name

/-- Whether two names are the same: exactly, or up to case. -/
def namesMatch (left right : String) (caseSensitive : Bool) : Bool :=
  nameKey caseSensitive left == nameKey caseSensitive right

end CallTrace.Text
