import CallTrace.Inquiry.Basic
import CallTrace.Reference.Basic

/-!
# Finding references

All references to a name, or to the name of a symbol that is given by its number. References without
a known target are found too.
-/

namespace CallTrace.Reference

/-- The references to a name. -/
def findNamed (name : String) (caseSensitive : Bool) : Inquiry (List Reference) := do
  Inquiry.pause
  let identifiers ← Inquiry.query (.identifiersNamed name caseSensitive)
  if identifiers.isEmpty then
    return []
  else do
    let snapshot ← Inquiry.snapshot
    return identifiers.map snapshot.reference

/-- The references to the name of the symbol with a number, whatever their case. -/
def findOf (id : Int64) : Inquiry (List Reference) := do
  let snapshot ← Inquiry.snapshot
  match snapshot.get? id with
  | none => return []
  | some symbol => do
    Inquiry.pause
    let identifiers ← Inquiry.query (.identifiersNamed symbol.name false)
    return identifiers.map snapshot.reference

end CallTrace.Reference
