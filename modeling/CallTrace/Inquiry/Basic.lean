import CallTrace.Index.Snapshot

/-!
# Inquiries

An inquiry asks a store of symbols and identifiers some queries, one after another, where every
query may depend on the answers so far. Between queries it may stop to see whether it has been
cancelled, and it may find that a symbol does not exist. An inquiry is a value, so the same one can
be carried out over any store, with or without faults.
-/

namespace CallTrace

/-- A question to the store about one workspace. -/
inductive Query where
  /-- All symbols. -/
  | allSymbols
  /-- The identifiers with a name, exactly or up to case. -/
  | identifiersNamed (name : String) (caseSensitive : Bool)
  /-- The identifiers inside the symbol with a number. -/
  | identifiersWithin (containerId : Int64)
deriving DecidableEq, Repr

/-- What a store answers. -/
abbrev Query.Answer : Query → Type
  | .allSymbols => List Symbol
  | .identifiersNamed _ _ => List Identifier
  | .identifiersWithin _ => List Identifier

/-- A sequence of queries that leads to a value. -/
inductive Inquiry (α : Type) where
  /-- The value is known. -/
  | done (value : α)
  /-- There is no symbol of a name that has to exist. -/
  | notFound (name : String)
  /-- Go on unless cancelled. -/
  | checkpoint (next : Inquiry α)
  /-- Ask the store and go on with its answer. -/
  | ask (query : Query) (next : query.Answer → Inquiry α)

namespace Inquiry

variable {α β : Type}

/-- Carry out one inquiry and then another that depends on its value. -/
def bind : Inquiry α → (α → Inquiry β) → Inquiry β
  | done value, continuation => continuation value
  | notFound name, _ => notFound name
  | checkpoint next, continuation => checkpoint (next.bind continuation)
  | ask query next, continuation => ask query fun answer => (next answer).bind continuation

instance : Monad Inquiry where
  pure := done
  bind := bind

theorem bind_pure (inquiry : Inquiry α) : inquiry.bind done = inquiry := by
  induction inquiry with
  | done value => rfl
  | notFound name => rfl
  | checkpoint next induction => simp only [bind, induction]
  | ask query next induction => simp only [bind, induction]

theorem bind_assoc {γ : Type} (inquiry : Inquiry α) (first : α → Inquiry β)
    (second : β → Inquiry γ) :
    (inquiry.bind first).bind second = inquiry.bind fun value => (first value).bind second := by
  induction inquiry with
  | done value => rfl
  | notFound name => rfl
  | checkpoint next induction => simp only [bind, induction]
  | ask query next induction => simp only [bind, induction]

instance : LawfulMonad Inquiry :=
  LawfulMonad.mk' Inquiry bind_pure (fun _ _ => rfl) bind_assoc

/-- Stop here if cancelled. -/
def pause : Inquiry Unit :=
  checkpoint (done ())

/-- Ask the store. -/
def query (query : Query) : Inquiry query.Answer :=
  ask query done

/-- Carry out an inquiry for every item of a list, in order. -/
def forEach (items : List α) (inquiry : α → Inquiry β) : Inquiry (List β) :=
  match items with
  | [] => done []
  | item :: rest => do
    let value ← inquiry item
    let values ← forEach rest inquiry
    return value :: values

/-- Take a snapshot of the symbols, unless cancelled. -/
def snapshot : Inquiry Snapshot := do
  pause
  return Snapshot.ofList (← query .allSymbols)

end Inquiry

end CallTrace
