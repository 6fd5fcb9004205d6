import CallTrace.Text.Blank
import CallTrace.Text.Split

/-!
# Lines of input

Input is cut into lines at line feeds. A carriage return before a line feed belongs to the line end,
and what follows the last line feed is a line unless it is empty. Reading stops at the first line
that is not a text.
-/

namespace CallTrace.Server

/-- A line without the carriage return at its end. -/
def dropReturn (line : List UInt8) : List UInt8 :=
  if line.getLast? = some 13 then line.dropLast else line

/-- The lines of some bytes. -/
def byteLines (bytes : List UInt8) : List (List UInt8) :=
  let parts := Text.split 10 bytes
  let ended := parts.dropLast.map dropReturn
  match parts.getLast? with
  | some [] | none => ended
  | some unended => ended ++ [unended]

/-- The longest beginning of a list on which a partial function is defined, with its values. -/
def takeDefined {α β : Type} (f : α → Option β) : List α → List β
  | [] => []
  | item :: rest =>
    match f item with
    | some value => value :: takeDefined f rest
    | none => []

/-- The lines of some bytes up to the first that is not a text. -/
def textLines (bytes : List UInt8) : List String :=
  takeDefined (fun line => String.fromUTF8? ⟨line.toArray⟩) (byteLines bytes)

/-- The lines that ask for something: all that are not blank. -/
def requestLines (lines : List String) : List String :=
  lines.filter fun line => !Text.allBlank line

end CallTrace.Server
