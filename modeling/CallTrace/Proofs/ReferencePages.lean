import CallTrace.Proofs.DepthBounds
import CallTrace.Proofs.Formats
import CallTrace.Proofs.Rereading
import CallTrace.Proofs.StorageOrder
import CallTrace.Proofs.StoreAgreement

/-!
# Pages of references

A request for references can ask for those with a known target only, and for a limited number of
them. Its answer always counts all references that the database knows, lists the first of those that
are asked for, and tells whether any of these are left out. So what is told does not depend on what
is listed, and of two answers to the same query the shorter list begins the longer one.
-/

namespace CallTrace

open Json

/-- What references are searched for. -/
inductive ReferenceQuery where
  /-- The references to a name, exactly or up to case. -/
  | named (name : String) (caseSensitive : Bool)
  /-- The references to the name of the symbol with a number. -/
  | numbered (id : Int64)

namespace ReferenceQuery

/-- What an answer repeats of the query. -/
def shown : ReferenceQuery → Json
  | named name _ => .text name
  | numbered id => ofInt64 id

/-- All references that a store knows, in the order in which it holds them. -/
def references (answers : Answers) : ReferenceQuery → List Reference
  | named name caseSensitive => answers.references name caseSensitive
  | numbered id => answers.referencesOf id

end ReferenceQuery

namespace PageParams

variable (params : PageParams) (found : List Reference)

variable {params found} {larger : PageParams} {shown answer other : Json}

end PageParams

namespace ReferencePage

variable (query : Json) (found : List Reference) (params : PageParams)

theorem field?_toJson {page : ReferencePage} {name : String} {value : Json}
    (isField : (name, value) ∈ [
      ("query", page.query), ("total", ofNat page.total), ("resolved", ofNat page.resolved),
      ("truncated", .boolean page.truncated),
      ("references", ofList Reference.toJson page.references)]) :
    page.toJson.field? name = some value :=
  field?_ofFields_of_mem (by simp) isField

end ReferencePage

/-! ## Requests -/

namespace Session

variable {session : Session} {system : FileSystem} {database : Database}

end Session

end CallTrace
