import CallTrace.Method.Params
import CallTrace.Reference.Basic

/-!
# Pages of references

A page lists the first of the references that were found, and counts all of them.
-/

namespace CallTrace

/-- The beginning of a list of references. -/
structure ReferencePage where
  /-- What was searched for. -/
  query : Json
  /-- Number of references that were found. -/
  total : Nat
  /-- Number of those with a known target. -/
  resolved : Nat
  /-- Whether some that should be listed are not. -/
  truncated : Bool
  /-- The references that are listed. -/
  references : List Reference
deriving Repr

namespace ReferencePage

/-- Greatest number of references on a page. -/
def capacity : Nat := 500

/-- The page of some references. -/
def ofReferences (query : Json) (found : List Reference) (params : PageParams) : ReferencePage :=
  let listed := if params.resolvedOnly.getD false then found.filter Reference.isResolved else found
  let limit := min (params.limit.getD capacity) capacity
  { query
    total := found.length
    resolved := found.countP Reference.isResolved
    truncated := limit < listed.length
    references := listed.take limit }

/-- The written form of a page. -/
def toJson (page : ReferencePage) : Json :=
  Json.ofFields [
    ("query", page.query),
    ("total", Json.ofNat page.total),
    ("resolved", Json.ofNat page.resolved),
    ("truncated", .boolean page.truncated),
    ("references", Json.ofList Reference.toJson page.references)]

end ReferencePage

end CallTrace
