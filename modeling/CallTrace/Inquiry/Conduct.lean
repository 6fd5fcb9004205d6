import CallTrace.Inquiry.Basic

/-!
# Carrying out inquiries

An inquiry is carried out over a store that answers queries, and whose queries may fail or may be
the moment at which the inquiry is cancelled. What a query does may depend on the queries before it.
No query is asked after a fault, and cancellation is noticed at the next checkpoint.
-/

namespace CallTrace

/-- Why an inquiry came to no value, over a store with faults of type `ε`. -/
inductive InquiryFault (ε : Type) where
  /-- There is no symbol of a name that has to exist. -/
  | symbolNotFound (name : String)
  /-- The inquiry was cancelled. -/
  | cancelled
  /-- The store failed. -/
  | store (fault : ε)
deriving DecidableEq, Repr

namespace InquiryFault

variable {ε : Type}

/-- The wording of a fault, given the wording of the store's faults. -/
def message (storeMessage : ε → String) : InquiryFault ε → String
  | symbolNotFound name => "symbol not found: " ++ name
  | cancelled => "operation cancelled"
  | store fault => storeMessage fault

/-- Whether the fault is that a symbol does not exist. -/
def isNotFound : InquiryFault ε → Bool
  | symbolNotFound _ => true
  | _ => false

end InquiryFault

/-- How a store behaves while an inquiry is carried out. The queries that were asked before are
given latest first. -/
structure Conditions (ε : Type) where
  /-- The answer to a query. -/
  answer : List Query → (query : Query) → Except ε query.Answer
  /-- Whether the inquiry is cancelled while a query is answered. -/
  cancels : List Query → Query → Bool

/-- A store that always gives the same answers and never cancels. -/
def Conditions.steady {ε : Type} (answer : (query : Query) → Except ε query.Answer) :
    Conditions ε where
  answer _ := answer
  cancels _ _ := false

/-- How far an inquiry has been carried out. -/
structure Progress where
  /-- The queries that were asked, latest first. -/
  asked : List Query
  /-- Whether the inquiry has been cancelled. -/
  cancelled : Bool
deriving DecidableEq, Repr

/-- No query has been asked. -/
def Progress.start (cancelled : Bool) : Progress :=
  ⟨[], cancelled⟩

namespace Inquiry

variable {ε α : Type}

/-- Carry out an inquiry, and say how far it went. -/
def conduct (conditions : Conditions ε) (progress : Progress) :
    Inquiry α → Except (InquiryFault ε) α × Progress
  | done value => (.ok value, progress)
  | notFound name => (.error (.symbolNotFound name), progress)
  | checkpoint next =>
    if progress.cancelled then
      (.error .cancelled, progress)
    else
      next.conduct conditions progress
  | ask query next =>
    let reached : Progress :=
      ⟨query :: progress.asked, progress.cancelled || conditions.cancels progress.asked query⟩
    match conditions.answer progress.asked query with
    | .error fault => (.error (.store fault), reached)
    | .ok answer => (next answer).conduct conditions reached

theorem conduct_bind {β : Type} (conditions : Conditions ε) (progress : Progress)
    (inquiry : Inquiry α) (continuation : α → Inquiry β) :
    (inquiry.bind continuation).conduct conditions progress =
      match inquiry.conduct conditions progress with
      | (.ok value, reached) => (continuation value).conduct conditions reached
      | (.error fault, reached) => (.error fault, reached) := by
  induction inquiry generalizing progress with
  | done value => rfl
  | notFound name => rfl
  | checkpoint next induction =>
    simp only [bind, conduct]
    split
    · rfl
    · exact induction progress
  | ask query next induction =>
    simp only [bind, conduct]
    split
    · rfl
    · exact induction _ _

/-- The outcome of an inquiry over a store that always gives the same answers. -/
def outcome (answer : (query : Query) → Except ε query.Answer) (inquiry : Inquiry α) :
    Except (InquiryFault ε) α :=
  (inquiry.conduct (.steady answer) (.start false)).1

section Outcome

variable (answer : (query : Query) → Except ε query.Answer)

/-- Over a store that always gives the same answers it does not matter what was asked before. -/
theorem conduct_steady (inquiry : Inquiry α) (asked : List Query) :
    (inquiry.conduct (.steady answer) ⟨asked, false⟩).1 = inquiry.outcome answer ∧
      (inquiry.conduct (.steady answer) ⟨asked, false⟩).2.cancelled = false := by
  induction inquiry generalizing asked with
  | done value => exact ⟨rfl, rfl⟩
  | notFound name => exact ⟨rfl, rfl⟩
  | checkpoint next induction => exact induction asked
  | ask query next induction =>
    simp only [outcome, conduct, Conditions.steady, Progress.start, Bool.or_self]
    cases answer query with
    | error fault => exact ⟨rfl, rfl⟩
    | ok found =>
      have first := induction found (query :: asked)
      have second := induction found [query]
      exact ⟨first.1.trans second.1.symm, first.2⟩

@[simp]
theorem outcome_pure (value : α) : (pure value : Inquiry α).outcome answer = .ok value :=
  rfl

@[simp]
theorem outcome_pause : pause.outcome answer = .ok () :=
  rfl

@[simp]
theorem outcome_query (asked : Query) :
    (query asked).outcome answer = (answer asked).mapError .store := by
  simp only [outcome, query, conduct, Conditions.steady]
  cases answer asked <;> rfl

@[simp]
theorem outcome_bind {β : Type} (inquiry : Inquiry α) (continuation : α → Inquiry β) :
    (inquiry >>= continuation).outcome answer =
      inquiry.outcome answer >>= fun value => (continuation value).outcome answer := by
  have asking := conduct_steady answer inquiry []
  change ((inquiry.bind continuation).conduct _ _).1 = _
  rw [conduct_bind]
  revert asking
  simp only [outcome, Progress.start]
  generalize inquiry.conduct (.steady answer) ⟨[], false⟩ = reached
  rcases reached with ⟨outcome, asked, cancelled⟩
  rintro ⟨_, rfl⟩
  cases outcome with
  | error fault => rfl
  | ok value => exact (conduct_steady answer (continuation value) asked).1

end Outcome

end Inquiry

end CallTrace
