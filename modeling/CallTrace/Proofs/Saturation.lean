import CallTrace.Proofs.Truncation
import Mathlib.Data.Finset.Card

/-!
# Suppressed traces without a limit

A trace that suppresses cycles puts another symbol on its branch with every step, and there are no
more numbers of symbols than those in the snapshot. So it would end without a limit to its depth,
and every limit that is not less than how many numbers there are leaves the trace as it is.
-/

namespace CallTrace

namespace Snapshot

variable (snapshot : Snapshot)

/-- The numbers of the symbols. -/
def ids : Finset Int64 :=
  (snapshot.symbols.toList.map Symbol.id).toFinset

/-- How many of the numbers are not on a branch. -/
def remaining (branch : List Int64) : Nat :=
  (snapshot.ids \ branch.toFinset).card

variable {snapshot}

theorem id_mem_ids {symbol : Symbol} (isListed : symbol ∈ snapshot.symbols.toList) :
    symbol.id ∈ snapshot.ids :=
  List.mem_toFinset.mpr (List.mem_map_of_mem isListed)

theorem remaining_cons_lt {id : Int64} {branch : List Int64} (isKnown : id ∈ snapshot.ids)
    (isNew : id ∉ branch) : snapshot.remaining (id :: branch) < snapshot.remaining branch := by
  rw [remaining, List.toFinset_cons, Finset.sdiff_insert]
  exact Finset.card_erase_lt_of_mem (by simp [isKnown, isNew])

theorem mem_of_getElem? {position : Nat} {symbol : Symbol}
    (isThere : snapshot.symbols[position]? = some symbol) :
    symbol ∈ snapshot.symbols.toList :=
  Array.mem_toList_iff.mpr (Array.mem_of_getElem? isThere)

theorem container_mem_ids {identifier : Identifier} {symbol : Symbol}
    (isWithin : snapshot.container identifier = some symbol) : symbol.id ∈ snapshot.ids := by
  obtain ⟨id, -, found⟩ := Option.bind_eq_some_iff.mp isWithin
  obtain ⟨position, -, isThere⟩ := Option.bind_eq_some_iff.mp found
  exact id_mem_ids (mem_of_getElem? isThere)

theorem bestImplementation_mem_ids {name : String} {caseSensitive : Bool} {symbol : Symbol}
    (isBest : Symbol.bestImplementation (snapshot.matching name caseSensitive) = some symbol) :
    symbol.id ∈ snapshot.ids := by
  have isCandidate := Symbol.mem_of_bestImplementation isBest
  have isNamed : symbol ∈ snapshot.named name := by
    rw [matching] at isCandidate
    split at isCandidate
    · exact List.mem_of_mem_filter isCandidate
    · exact isCandidate
  obtain ⟨position, -, isThere⟩ := List.mem_filterMap.mp isNamed
  exact id_mem_ids (mem_of_getElem? isThere)

/-- The calls of a name and what leads to them, however far that goes. Symbols on the branch are
passed over. -/
def allCallers (snapshot : Snapshot) (caseSensitive : Bool) (name : String) (depth : Nat)
    (branch : List Int64) : Inquiry (List CallNode) := do
  Inquiry.pause
  let found ← Inquiry.query (.identifiersNamed name caseSensitive)
  Inquiry.forEach (found.filter Identifier.isCall) fun identifier => do
    let target := snapshot.target identifier
    let children ←
      match isWithin : snapshot.container identifier with
      | none => pure []
      | some caller =>
        if isPassed : caller.id ∈ branch then
          pure []
        else
          allCallers snapshot caseSensitive caller.name (depth + 1) (caller.id :: branch)
    return {
      identifier, container := snapshot.container identifier, target, depth, direction := .upward,
      children }
-- Every step puts the number of a symbol of the snapshot on the branch that was not there before.
termination_by snapshot.remaining branch
decreasing_by exact remaining_cons_lt (container_mem_ids isWithin) isPassed

/-- The calls inside the best implementation of a name and what they lead to, however far that
goes. Symbols on the branch are passed over. -/
def allCallees (snapshot : Snapshot) (caseSensitive : Bool) (name : String) (depth : Nat)
    (branch : List Int64) : Inquiry (List CallNode) :=
  match _ : Symbol.bestImplementation (snapshot.matching name caseSensitive) with
  | none => return []
  | some root =>
    if _ : root.id ∈ branch then
      return []
    else do
      Inquiry.pause
      let found ← Inquiry.query (.identifiersWithin root.id)
      Inquiry.forEach (found.filter Identifier.isCall) fun identifier => do
        let target := snapshot.target identifier
        let children ←
          match target with
          | none => pure []
          | some callee =>
            allCallees snapshot caseSensitive callee.name (depth + 1) (root.id :: branch)
        return {
          identifier, container := some root, target, depth, direction := .downward, children }
termination_by snapshot.remaining branch
decreasing_by exact remaining_cons_lt (bestImplementation_mem_ids ‹_›) ‹_›

/-! What the two traces come to, without the facts that show that they end. -/

variable (snapshot : Snapshot) (caseSensitive : Bool) (name : String) (depth : Nat)
  (branch : List Int64)

theorem allCallers_eq :
    snapshot.allCallers caseSensitive name depth branch = (do
      Inquiry.pause
      let found ← Inquiry.query (.identifiersNamed name caseSensitive)
      Inquiry.forEach (found.filter Identifier.isCall) fun identifier => do
        let children ←
          match snapshot.container identifier with
          | none => pure []
          | some caller =>
            if caller.id ∈ branch then
              pure []
            else
              snapshot.allCallers caseSensitive caller.name (depth + 1) (caller.id :: branch)
        return {
          identifier, container := snapshot.container identifier,
          target := snapshot.target identifier, depth, direction := .upward, children }) := by
  rw [allCallers]
  refine bind_congr fun _ => bind_congr fun found => congrArg _ (funext fun identifier => ?_)
  simp only [dite_eq_ite]
  split
  next isOutside => simp only [isOutside]
  next caller isWithin => simp only [isWithin]

theorem allCallees_eq :
    snapshot.allCallees caseSensitive name depth branch =
      (match Symbol.bestImplementation (snapshot.matching name caseSensitive) with
      | none => return []
      | some root =>
        if root.id ∈ branch then
          return []
        else do
          Inquiry.pause
          let found ← Inquiry.query (.identifiersWithin root.id)
          Inquiry.forEach (found.filter Identifier.isCall) fun identifier => do
            let children ←
              match snapshot.target identifier with
              | none => pure []
              | some callee =>
                snapshot.allCallees caseSensitive callee.name (depth + 1) (root.id :: branch)
            return {
              identifier, container := some root,
              target := snapshot.target identifier, depth, direction := .downward, children }) := by
  rw [allCallees]
  simp only [dite_eq_ite]
  split
  next isUnknown => simp only [isUnknown]
  next root isBest => simp only [isBest]

end Snapshot

namespace Tracer

variable {tracer : Tracer}

/-- A trace of callers with enough levels is the trace without a limit: each level takes one number
from those that remain. -/
theorem callers_eq_allCallers (suppresses : tracer.options.suppressCycles = true) {name : String}
    {depth : Nat} {branch : List Int64} {levels : Nat}
    (isEnough : tracer.snapshot.remaining branch < levels) :
    tracer.callers name depth branch levels =
      tracer.snapshot.allCallers tracer.options.caseSensitive name depth branch := by
  induction levels generalizing name depth branch with
  | zero => cases isEnough
  | succ levels ih =>
      rw [callers, Snapshot.allCallers_eq]
      refine bind_congr fun _ => bind_congr fun found => congrArg _ (funext fun identifier => ?_)
      simp only [suppresses_of_suppressCycles suppresses, List.contains_iff_mem]
      cases isWithin : tracer.snapshot.container identifier with
      | none => rfl
      | some caller =>
          simp only
          split
          next isPassed => rfl
          next isNew =>
            have isFewer := Snapshot.remaining_cons_lt (Snapshot.container_mem_ids isWithin) isNew
            rw [ih (Nat.lt_of_lt_of_le isFewer (Nat.le_of_lt_succ isEnough))]

/-- A trace of callees needs one level less, since its first call lies inside a symbol already. -/
theorem callees_eq_allCallees (suppresses : tracer.options.suppressCycles = true) {name : String}
    {depth : Nat} {branch : List Int64} {levels : Nat}
    (isEnough : tracer.snapshot.remaining branch ≤ levels) :
    tracer.callees name depth branch levels =
      tracer.snapshot.allCallees tracer.options.caseSensitive name depth branch := by
  induction levels generalizing name depth branch with
  | zero =>
      -- Without a level left every number is on the branch, so the implementation is passed over.
      rw [callees, Snapshot.allCallees_eq]
      cases isBest : Symbol.bestImplementation
          (tracer.snapshot.matching name tracer.options.caseSensitive) with
      | none => rfl
      | some root =>
          have isPassed : root.id ∈ branch := by
            by_contra isNew
            have isFewer :=
              Snapshot.remaining_cons_lt (Snapshot.bestImplementation_mem_ids isBest) isNew
            omega
          exact (if_pos isPassed).symm
  | succ levels ih =>
      rw [callees, Snapshot.allCallees_eq, implementation]
      simp only [suppresses_of_suppressCycles suppresses, List.contains_iff_mem]
      cases isBest : Symbol.bestImplementation
          (tracer.snapshot.matching name tracer.options.caseSensitive) with
      | none => rfl
      | some root =>
          simp only
          split
          next isPassed => rfl
          next isNew =>
            have isFewer :=
              Snapshot.remaining_cons_lt (Snapshot.bestImplementation_mem_ids isBest) isNew
            have isEnoughBelow : tracer.snapshot.remaining (root.id :: branch) ≤ levels := by omega
            refine bind_congr fun _ => bind_congr fun found =>
              congrArg _ (funext fun identifier => ?_)
            cases tracer.snapshot.target identifier with
            | none => rfl
            | some callee =>
                simp only
                rw [ih isEnoughBelow]

variable (tracer)

/-- Enough levels for all numbers that are not on the branch are as good as any more. -/
theorem trees_upwardRoute_saturated (suppresses : tracer.options.suppressCycles = true)
    (answers : Answers) (place : Place) (depth levels others : Nat)
    (isEnough : tracer.snapshot.remaining place.branch < levels)
    (areEnough : tracer.snapshot.remaining place.branch < others) :
    (tracer.upwardRoute answers).trees place depth levels =
      (tracer.upwardRoute answers).trees place depth others := by
  -- Both trees are what the trace without a limit comes to over the same store.
  have first := tracer.outcome_callers (ε := Empty) answers place depth levels
  have second := tracer.outcome_callers (ε := Empty) answers place depth others
  rw [callers_eq_allCallers suppresses isEnough] at first
  rw [callers_eq_allCallers suppresses areEnough] at second
  exact Except.ok.inj (first.symm.trans second)

theorem trees_downwardRoute_saturated (suppresses : tracer.options.suppressCycles = true)
    (answers : Answers) (place : Place) (depth levels others : Nat)
    (isEnough : tracer.snapshot.remaining place.branch ≤ levels)
    (areEnough : tracer.snapshot.remaining place.branch ≤ others) :
    (tracer.downwardRoute answers).trees place depth levels =
      (tracer.downwardRoute answers).trees place depth others := by
  have first := tracer.outcome_callees (ε := Empty) answers place depth levels
  have second := tracer.outcome_callees (ε := Empty) answers place depth others
  rw [callees_eq_allCallees suppresses isEnough] at first
  rw [callees_eq_allCallees suppresses areEnough] at second
  exact Except.ok.inj (first.symm.trans second)

end Tracer

namespace Answers

variable (answers : Answers) {name : String} {options : TraceOptions}

/-- How many different numbers the symbols of a store have. -/
def idCount : Nat :=
  ((answers .allSymbols).map Symbol.id).toFinset.card

theorem remaining_tracer : (answers.tracer options).snapshot.remaining [] = answers.idCount := by
  rw [Snapshot.remaining, List.toFinset_nil, Finset.sdiff_empty]
  rfl

theorem trees_upward_saturated (suppresses : options.suppressCycles = true)
    (isEnough : answers.idCount ≤ options.maxDepth) :
    answers.trees .upward name options =
      ((answers.tracer options).upwardRoute answers).trees ⟨name, []⟩ 0 (answers.idCount + 1) :=
  (answers.tracer options).trees_upwardRoute_saturated suppresses answers ⟨name, []⟩ 0 _ _
    (by rw [remaining_tracer]; omega) (by rw [remaining_tracer]; omega)

theorem trees_downward_saturated (suppresses : options.suppressCycles = true)
    (isEnough : answers.idCount ≤ options.maxDepth + 1) :
    answers.trees .downward name options =
      ((answers.tracer options).downwardRoute answers).trees ⟨name, []⟩ 0 answers.idCount :=
  (answers.tracer options).trees_downwardRoute_saturated suppresses answers ⟨name, []⟩ 0 _ _
    (by rw [remaining_tracer]; exact isEnough) (by rw [remaining_tracer])

variable {answers} {path : List CallNode} {node : CallNode}

/-- A branch goes up through every number at most once. -/
theorem depth_le_of_upward (suppresses : options.suppressCycles = true)
    (branch : CallNode.Branch (answers.trees .upward name options) path) (member : node ∈ path) :
    node.depth ≤ answers.idCount := by
  -- A small limit bounds the depth by itself; a greater one is as good as the count of numbers.
  rcases Nat.lt_or_ge options.maxDepth answers.idCount with isLess | isEnough
  · have isAbove := Route.depth_lt_of_branch _ branch member
    omega
  · rw [answers.trees_upward_saturated suppresses isEnough] at branch
    have isAbove := Route.depth_lt_of_branch _ branch member
    omega

/-- A branch goes down through every number at most once, and its first call lies inside one. -/
theorem depth_lt_of_downward (suppresses : options.suppressCycles = true)
    (branch : CallNode.Branch (answers.trees .downward name options) path) (member : node ∈ path) :
    node.depth < answers.idCount := by
  rcases Nat.lt_or_ge (options.maxDepth + 1) answers.idCount with isLess | isEnough
  · have isAbove := Route.depth_lt_of_branch _ branch member
    omega
  · rw [answers.trees_downward_saturated suppresses isEnough] at branch
    have isAbove := Route.depth_lt_of_branch _ branch member
    omega

end Answers

namespace CallPath

/-- Trace the callers or the callees of a name however far they go, passing over the symbols on the
branch. -/
def traceWithoutLimit (direction : CallDirection) (name : String) (caseSensitive : Bool) :
    Inquiry (List CallNode) := do
  let snapshot ← Inquiry.snapshot
  match direction with
  | .upward => snapshot.allCallers caseSensitive name 0 []
  | .downward => snapshot.allCallees caseSensitive name 0 []

variable {ε : Type} (answers : Answers)

theorem outcome_trace_eq_withoutLimit (direction : CallDirection) (name : String)
    {options : TraceOptions} (suppresses : options.suppressCycles = true)
    (isEnough : answers.idCount ≤ options.maxDepth) :
    (Tracer.trace direction name options).outcome (ε := ε) answers.store =
      (traceWithoutLimit direction name options.caseSensitive).outcome answers.store := by
  have isEnoughUp :
      (answers.tracer options).snapshot.remaining [] < options.maxDepth + 1 := by
    rw [answers.remaining_tracer]
    omega
  rw [traceWithoutLimit, Inquiry.outcome_bind_of_ok (Inquiry.outcome_snapshot answers),
    Tracer.trace, Inquiry.outcome_bind_of_ok (Inquiry.outcome_snapshot answers)]
  cases direction with
  | upward => exact congrArg _ (Tracer.callers_eq_allCallers suppresses isEnoughUp)
  | downward => exact congrArg _ (Tracer.callees_eq_allCallees suppresses isEnoughUp.le)

/-- Over every store that never fails, no call of a trace that suppresses cycles is deeper than how
many numbers its symbols have, and a call of callees is less deep. Every limit that is not less than
that leads to the same trees, which are those of a trace without a limit. -/
theorem suppressed_saturates (direction : CallDirection) (name : String) (caseSensitive : Bool) :
    let count := answers.idCount
    let run (maxDepth : Nat) :=
      (Tracer.trace direction name ⟨maxDepth, caseSensitive, true⟩).outcome (ε := ε)
        answers.store
    (∀ maxDepth, ∃ trees, run maxDepth = .ok trees ∧
        ∀ path, CallNode.Branch trees path → ∀ node ∈ path,
          (direction = .upward → node.depth ≤ count) ∧
            (direction = .downward → node.depth < count)) ∧
      (∀ maxDepth other, count ≤ maxDepth → count ≤ other → run maxDepth = run other) ∧
        ∀ maxDepth, count ≤ maxDepth →
          run maxDepth =
            (traceWithoutLimit direction name caseSensitive).outcome answers.store := by
  intro count run
  have unlimited : ∀ maxDepth, count ≤ maxDepth →
      run maxDepth = (traceWithoutLimit direction name caseSensitive).outcome answers.store :=
    fun maxDepth isEnough => outcome_trace_eq_withoutLimit answers direction name rfl isEnough
  refine ⟨fun maxDepth => ?_, fun maxDepth other isEnough areEnough => ?_, unlimited⟩
  · refine ⟨_, Tracer.outcome_trace answers direction name _,
      fun path branch node member => ⟨?_, ?_⟩⟩
    · rintro rfl
      exact Answers.depth_le_of_upward rfl branch member
    · rintro rfl
      exact Answers.depth_lt_of_downward rfl branch member
  · rw [unlimited maxDepth isEnough, unlimited other areEnough]

end CallPath

end CallTrace
