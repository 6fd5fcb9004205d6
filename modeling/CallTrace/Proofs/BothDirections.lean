import CallTrace.Proofs.CallChain
import CallTrace.Proofs.Interleaving

/-!
# Traces in both directions

A trace in both directions takes one snapshot and follows its two directions side by side over it.
Callers ask for identifiers by name and callees for identifiers inside symbols, so the directions do
not meet: over a store whose queries fail by number, every interleaving of the two comes to the same
result, and the fault of the callers goes before that of the callees. A path to which one of them
comes is right even if the trace was cancelled on the way.
-/

namespace CallTrace

namespace CallPath

variable {ε : Type}

/-- The two directions of a trace, the callers on the left and the callees on the right. -/
def directions (tracer : Tracer) (name : String) (progress : Progress) :
    Threads ε (List CallNode) (List CallNode) where
  left := .running (tracer.upward name)
  right := .running (tracer.downward name)
  progress := progress

/-- What the two directions come to together. The fault of the callers goes first. -/
def join (target : Symbol) (callers callees : Except (InquiryFault ε) (List CallNode)) :
    Except (InquiryFault ε) CallPath := do
  let callers ← callers
  let callees ← callees
  return { target, callers, callees }

/-- What a trace in both directions can come to when they are followed side by side, and how far it
goes. -/
inductive SideBySide (conditions : Conditions ε) (config : Config) (name : String)
    (options : TraceOptions) (cancelledBefore : Bool) : Except (InquiryFault ε) CallPath → Progress → Prop
  /-- No snapshot can be taken. -/
  | unloaded {fault : InquiryFault ε} {progress : Progress}
      (fails : Inquiry.snapshot.conduct conditions (.start cancelledBefore) =
        (.error fault, progress)) :
      SideBySide conditions config name options cancelledBefore (.error fault) progress
  /-- The snapshot has no symbol of the name. -/
  | unknown {snapshot : Snapshot} {progress : Progress}
      (loads : Inquiry.snapshot.conduct conditions (.start cancelledBefore) =
        (.ok snapshot, progress))
      (isUnknown : Tracer.implementation { snapshot, options := options.clamp config } name = none) :
      SideBySide conditions config name options cancelledBefore (.error (.symbolNotFound name)) progress
  /-- Both directions are followed to their ends. -/
  | traced {snapshot : Snapshot} {progress : Progress} {target : Symbol}
      {last : Threads ε (List CallNode) (List CallNode)}
      {callers callees : Except (InquiryFault ε) (List CallNode)}
      (loads : Inquiry.snapshot.conduct conditions (.start cancelledBefore) =
        (.ok snapshot, progress))
      (isBest : Tracer.implementation { snapshot, options := options.clamp config } name = some target)
      (interleaving :
        (directions { snapshot, options := options.clamp config } name progress).Interleaving conditions last)
      (come : last.ComeTo callers callees) :
      SideBySide conditions config name options cancelledBefore (join target callers callees)
        last.progress

/-- One direction after the other comes to what they come to together. -/
theorem conduct_directions (conditions : Conditions ε) (tracer : Tracer) (name : String)
    (target : Symbol) (progress : Progress) :
    let callers := (tracer.upward name).conduct conditions progress
    let callees := (tracer.downward name).conduct conditions callers.2
    ((do
        let callers ← tracer.upward name
        let callees ← tracer.downward name
        return { target, callers, callees } : Inquiry CallPath).conduct conditions progress).1 =
      join target callers.1 callees.1 := by
  intro callers callees
  rcases hasCallers : callers with ⟨fault | nodes, reached⟩
  · rw [Inquiry.conduct_bind_of_error hasCallers]
    rfl
  · rw [Inquiry.conduct_bind_of_ok hasCallers]
    rcases hasCallees : callees with ⟨fault | others, last⟩
    · simp only [callees, hasCallers] at hasCallees
      rw [Inquiry.conduct_bind_of_error hasCallees]
      rfl
    · simp only [callees, hasCallers] at hasCallees
      rw [Inquiry.conduct_bind_of_ok hasCallees]
      rfl

section Numbered

variable (fails : Query.Kind → Nat → Option ε) (answers : Answers) (config : Config)
  (name : String) (options : TraceOptions)

/-- Following one direction after the other is a way of following them side by side. -/
theorem exists_sideBySide (cancelledBefore : Bool) :
    ∃ progress,
      SideBySide (.numbered fails answers) config name options cancelledBefore
          ((traceBoth config name options).conduct (.numbered fails answers) (.start cancelledBefore)).1
          progress ∧
        progress.cancelled = cancelledBefore := by
  let conditions := Conditions.numbered fails answers
  have loading := Inquiry.cancelled_conduct fails answers Inquiry.snapshot (.start cancelledBefore)
  rcases loads : Inquiry.snapshot.conduct conditions (.start cancelledBefore) with
    ⟨fault | snapshot, progress⟩
  · rw [traceBoth, Inquiry.conduct_bind_of_error loads]
    rw [loads] at loading
    exact ⟨progress, .unloaded loads, loading⟩
  · rw [traceBoth, Inquiry.conduct_bind_of_ok loads]
    rw [loads] at loading
    cases isBest : Tracer.implementation { snapshot, options := options.clamp config } name with
    | none =>
        simp only [isBest]
        exact ⟨progress, .unknown loads isBest, loading⟩
    | some target =>
        simp only [isBest]
        rw [conduct_directions]
        obtain ⟨left, leftRun, leftComes⟩ := Threads.exists_left_run conditions
          (Tracer.upward { snapshot, options := options.clamp config } name)
          (.running (Tracer.downward { snapshot, options := options.clamp config } name)) progress
        obtain ⟨right, rightRun, rightComes⟩ := Threads.exists_right_run conditions left
          (Tracer.downward { snapshot, options := options.clamp config } name)
          ((Tracer.upward { snapshot, options := options.clamp config } name).conduct conditions progress).2
        refine ⟨_, .traced loads isBest (leftRun.trans rightRun) ⟨leftComes, rightComes⟩, ?_⟩
        simp only [conditions, Inquiry.cancelled_conduct]
        exact loading

variable {fails}

theorem conduct_snapshot_of_failed {fault : ε} (failing : fails .allSymbols 0 = some fault) :
    Inquiry.snapshot.conduct (.numbered fails answers) (.start false) =
      (.error (.store fault), ⟨[.allSymbols], false⟩) := by
  have isFirst : (Disturbance.numbered fails).fails [] .allSymbols = some fault := failing
  exact Disturbance.conduct_ask_of_failed _ isFirst

theorem conduct_snapshot_of_answered (failing : fails .allSymbols 0 = none) :
    Inquiry.snapshot.conduct (.numbered fails answers) (.start false) =
      (.ok (.ofList (answers .allSymbols)), ⟨[.allSymbols], false⟩) := by
  have isFirst : (Disturbance.numbered fails).fails [] .allSymbols = none := failing
  exact Disturbance.conduct_ask_of_answered _ isFirst

variable {answers}

/-- A snapshot that is taken is that of all symbols, and nothing else has been asked. -/
theorem eq_of_loads {cancelledBefore : Bool} {snapshot : Snapshot} {progress : Progress}
    (loads : Inquiry.snapshot.conduct (.numbered fails answers) (.start cancelledBefore) =
      (.ok snapshot, progress)) :
    fails .allSymbols 0 = none ∧ snapshot = .ofList (answers .allSymbols) ∧
      progress = ⟨[.allSymbols], false⟩ := by
  cases cancelledBefore with
  | true => cases loads
  | false =>
      cases failing : fails .allSymbols 0 with
      | some fault =>
          rw [conduct_snapshot_of_failed answers failing] at loads
          cases loads
      | none =>
          rw [conduct_snapshot_of_answered answers failing] at loads
          cases loads
          exact ⟨rfl, rfl, rfl⟩

theorem exists_of_unloaded {fault : InquiryFault ε} {progress : Progress}
    (unloaded : Inquiry.snapshot.conduct (.numbered fails answers) (.start false) =
      (.error fault, progress)) :
    ∃ stored, fails .allSymbols 0 = some stored ∧ fault = .store stored := by
  cases failing : fails .allSymbols 0 with
  | some stored =>
      rw [conduct_snapshot_of_failed answers failing] at unloaded
      cases unloaded
      exact ⟨stored, rfl, rfl⟩
  | none =>
      rw [conduct_snapshot_of_answered answers failing] at unloaded
      cases unloaded

variable (fails answers)

/-- What a trace of one direction comes to alone. -/
def alone (direction : CallDirection) : Except (InquiryFault ε) (List CallNode) :=
  ((trace config direction name options).conduct (.numbered fails answers) (.start false)).1

variable {fails answers config name options}

/-- Once there is a snapshot, each direction will come to what it comes to alone. -/
theorem directions_willComeTo (loads : fails .allSymbols 0 = none) :
    (directions (answers.tracer (options.clamp config)) name ⟨[.allSymbols], false⟩).WillComeTo fails answers
      .identifiersNamed .identifiersWithin (alone fails answers config name options .upward)
      (alone fails answers config name options .downward) := by
  have loaded := conduct_snapshot_of_answered answers loads
  constructor
  case left_asksOnly => exact (Tracer.isGuarded_callers _ _ _ _ _).asksOnly
  case right_asksOnly => exact (Tracer.isGuarded_callees _ _ _ _ _).asksOnly
  case left_conduct =>
    intro _
    rw [alone, trace, Tracer.trace, Inquiry.conduct_bind_of_ok loaded]
    rfl
  case right_conduct =>
    intro _
    rw [alone, trace, Tracer.trace, Inquiry.conduct_bind_of_ok loaded]
    rfl

/-- The directions come to the undisturbed trees or to none. -/
theorem directions_areHeadedFor (progress : Progress) :
    (directions (ε := ε) (answers.tracer (options.clamp config)) name progress).AreHeadedFor answers
      (answers.trees .upward name (options.clamp config)) (answers.trees .downward name (options.clamp config)) :=
  ⟨(answers.tracer (options.clamp config)).outcome_follow answers .upward name,
    (answers.tracer (options.clamp config)).outcome_follow answers .downward name⟩

variable (fails answers config name options) in
/-- What a trace in both directions comes to over a store whose queries fail by number. -/
def joint : Except (InquiryFault ε) CallPath :=
  match fails .allSymbols 0, (answers.tracer (options.clamp config)).implementation name with
  | some fault, _ => .error (.store fault)
  | none, none => .error (.symbolNotFound name)
  | none, some target =>
    join target (alone fails answers config name options .upward)
      (alone fails answers config name options .downward)

/-- The order in which the steps of both directions are taken makes no difference. -/
theorem SideBySide.eq_joint {result : Except (InquiryFault ε) CallPath} {progress : Progress}
    (sideBySide : SideBySide (.numbered fails answers) config name options false result progress)
    (uncancelled : progress.cancelled = false) : result = joint fails answers config name options := by
  cases sideBySide with
  | unloaded isUnloaded =>
      obtain ⟨stored, failing, rfl⟩ := exists_of_unloaded isUnloaded
      rw [joint, failing]
  | unknown loads isUnknown =>
      obtain ⟨succeeds, rfl, -⟩ := eq_of_loads loads
      have isMissing : (answers.tracer (options.clamp config)).implementation name = none := isUnknown
      rw [joint, succeeds, isMissing]
  | @traced _ _ target _ callers callees loads isBest interleaving come =>
      obtain ⟨succeeds, rfl, rfl⟩ := eq_of_loads loads
      have isTarget : (answers.tracer (options.clamp config)).implementation name = some target := isBest
      have differ : Query.Kind.identifiersNamed ≠ .identifiersWithin := by decide
      have will := (directions_willComeTo succeeds).interleaving differ interleaving
      obtain ⟨rfl, rfl⟩ := will.eq_of_comeTo uncancelled come
      rw [joint, succeeds, isTarget]

/-- A path that has the callers and the callees that are found over a store that never fails, and
whose target is the best implementation of the name, which is around every root of the callees. -/
structure IsExact (answers : Answers) (config : Config) (name : String) (options : TraceOptions)
    (path : CallPath) : Prop where
  /-- The callers are those of an undisturbed trace. -/
  callers : (traceUpward config name options).outcome (ε := Empty) answers.store = .ok path.callers
  /-- The callees are those of an undisturbed trace. -/
  callees : (traceDownward config name options).outcome (ε := Empty) answers.store = .ok path.callees
  /-- The target is the best implementation of the name. -/
  target : Symbol.bestImplementation
    ((Snapshot.ofList (answers .allSymbols)).matching name options.caseSensitive) =
      some path.target
  /-- The callees of depth zero are the roots, and they are inside the target. -/
  container : ∀ nodes, CallNode.Branch path.callees nodes → ∀ node ∈ nodes,
    node.depth = 0 ↔ node ∈ path.callees ∧ node.container = some path.target

theorem isExact_trees {target : Symbol}
    (isTarget : (answers.tracer (options.clamp config)).implementation name = some target) :
    IsExact answers config name options
      { target, callers := answers.trees .upward name (options.clamp config),
        callees := answers.trees .downward name (options.clamp config) } := by
  constructor
  case callers => exact outcome_trace answers config .upward name options
  case callees => exact outcome_trace answers config .downward name options
  case target => exact isTarget
  case container =>
    intro nodes branch node member
    let route := (answers.tracer (options.clamp config)).downwardRoute answers
    have isRoot_iff := route.depth_eq_iff_of_branch branch member
    refine ⟨fun isLeast => ⟨isRoot_iff.mp isLeast, ?_⟩, fun isRoot => isRoot_iff.mpr isRoot.1⟩
    obtain ⟨call, -, rfl⟩ := List.mem_map.mp (isRoot_iff.mp isLeast)
    exact isTarget

theorem join_eq_ok_iff {target : Symbol} {callers callees : Except (InquiryFault ε) (List CallNode)}
    {path : CallPath} :
    join target callers callees = .ok path ↔
      path.target = target ∧ callers = .ok path.callers ∧ callees = .ok path.callees := by
  obtain ⟨found, foundCallers, foundCallees⟩ := path
  cases callers with
  | error fault => exact ⟨nofun, nofun⟩
  | ok nodes =>
      cases callees with
      | error fault => exact ⟨nofun, nofun⟩
      | ok others =>
          constructor
          · rintro ⟨⟩
            exact ⟨rfl, rfl, rfl⟩
          · rintro ⟨rfl, ⟨⟩, ⟨⟩⟩
            rfl

theorem fault_of_join {target : Symbol}
    {callers callees : Except (InquiryFault ε) (List CallNode)} {fault : InquiryFault ε}
    (fails : join target callers callees = .error fault) :
    callers = .error fault ∨ callees = .error fault := by
  cases callers with
  | error first =>
      cases fails
      exact .inl rfl
  | ok nodes =>
      cases callees with
      | error second =>
          cases fails
          exact .inr rfl
      | ok others => cases fails

/-- Whatever happens while the directions are followed side by side, they come to the undisturbed
path or to none. -/
theorem SideBySide.isExact {cancelledBefore : Bool} {path : CallPath} {progress : Progress}
    (sideBySide : SideBySide (.numbered fails answers) config name options cancelledBefore
      (.ok path) progress) : IsExact answers config name options path := by
  -- The result is an index of the relation, and `join` is no constructor.
  generalize isPath : (Except.ok path : Except (InquiryFault ε) CallPath) = result at sideBySide
  cases sideBySide with
  | unloaded => cases isPath
  | unknown => cases isPath
  | @traced _ _ target _ callers callees loads isBest interleaving come =>
      obtain ⟨-, rfl, rfl⟩ := eq_of_loads loads
      obtain ⟨rfl, rfl, rfl⟩ := join_eq_ok_iff.mp isPath.symm
      have areHeaded := (directions_areHeadedFor _).interleaving interleaving
      obtain ⟨sameCallers, sameCallees⟩ := areHeaded.eq_of_comeTo come
      have exact := isExact_trees isBest
      rw [← sameCallers, ← sameCallees] at exact
      exact exact

/-! ## The result -/

/-- Some symbol has a name, exactly or up to case. -/
def HasSymbol (answers : Answers) (name : String) (caseSensitive : Bool) : Prop :=
  ∃ symbol ∈ answers .allSymbols, Text.namesMatch symbol.name name caseSensitive = true

theorem implementation_eq_none_iff :
    (answers.tracer (options.clamp config)).implementation name = none ↔
      ¬HasSymbol answers name options.caseSensitive := by
  let candidates :=
    (Snapshot.ofList (answers .allSymbols)).matching name options.caseSensitive
  change Symbol.bestImplementation candidates = none ↔ _
  constructor
  · rintro isMissing ⟨symbol, isListed, isNamed⟩
    have isCandidate : symbol ∈ candidates := Snapshot.mem_matching_ofList.mpr ⟨isListed, isNamed⟩
    obtain ⟨best, isBest⟩ := Symbol.exists_bestImplementation (List.ne_nil_of_mem isCandidate)
    cases isMissing.symm.trans isBest
  · intro isUnknown
    refine Option.eq_none_iff_forall_not_mem.mpr fun symbol isBest => isUnknown ⟨symbol, ?_⟩
    exact Snapshot.mem_matching_ofList.mp (Symbol.mem_of_bestImplementation isBest)

theorem exists_implementation (isKnown : HasSymbol answers name options.caseSensitive) :
    ∃ target, (answers.tracer (options.clamp config)).implementation name = some target :=
  Option.ne_none_iff_exists'.mp fun isMissing => implementation_eq_none_iff.mp isMissing isKnown

theorem isGuarded_trace (config : Config) (direction : CallDirection) (name : String)
    (options : TraceOptions) : (trace config direction name options).IsGuarded fun _ => True := by
  cases direction with
  | upward => exact (Search.callers name options).isGuarded_inquiry config
  | downward => exact (Search.callees name options).isGuarded_inquiry config

theorem alone_ne_symbolNotFound (direction : CallDirection) (missing : String) :
    alone fails answers config name options direction ≠ .error (.symbolNotFound missing) := by
  have reaches : (Disturbance.numbered fails).Reaches false (.start false) := .start
  have ending := (Disturbance.numbered fails).ending_of_isGuarded
    (isGuarded_trace config direction name options)
    (outcome_trace answers config direction name options) reaches
  exact ending.ne_symbolNotFound missing

theorem joint_of_unloaded {fault : ε} (failing : fails .allSymbols 0 = some fault) :
    joint fails answers config name options = .error (.store fault) := by
  rw [joint, failing]

theorem joint_of_unknown (loads : fails .allSymbols 0 = none)
    (isUnknown : ¬HasSymbol answers name options.caseSensitive) :
    joint fails answers config name options = .error (.symbolNotFound name) := by
  rw [joint, loads, implementation_eq_none_iff.mpr isUnknown]

theorem joint_of_known {target : Symbol} (loads : fails .allSymbols 0 = none)
    (isTarget : (answers.tracer (options.clamp config)).implementation name = some target) :
    joint fails answers config name options =
      join target (alone fails answers config name options .upward)
        (alone fails answers config name options .downward) := by
  rw [joint, loads, isTarget]

/-- The only symbol that can be missing is one of the traced name. -/
theorem joint_eq_symbolNotFound_iff {missing : String} (loads : fails .allSymbols 0 = none) :
    joint fails answers config name options = .error (.symbolNotFound missing) ↔
      missing = name ∧ ¬HasSymbol answers name options.caseSensitive := by
  constructor
  · intro isMissing
    by_cases isKnown : HasSymbol answers name options.caseSensitive
    · obtain ⟨target, isTarget⟩ := exists_implementation isKnown
      rw [joint_of_known loads isTarget] at isMissing
      rcases fault_of_join isMissing with fault | fault
      · exact absurd fault (alone_ne_symbolNotFound .upward missing)
      · exact absurd fault (alone_ne_symbolNotFound .downward missing)
    · rw [joint_of_unknown loads isKnown] at isMissing
      cases isMissing
      exact ⟨rfl, isKnown⟩
  · rintro ⟨rfl, isUnknown⟩
    exact joint_of_unknown loads isUnknown

theorem alone_of_unloaded {fault : ε} (failing : fails .allSymbols 0 = some fault)
    (direction : CallDirection) :
    alone fails answers config name options direction = .error (.store fault) := by
  have unloaded := conduct_snapshot_of_failed answers failing
  cases direction with
  | upward => rw [alone, trace, Tracer.trace, Inquiry.conduct_bind_of_error unloaded]
  | downward => rw [alone, trace, Tracer.trace, Inquiry.conduct_bind_of_error unloaded]

theorem loads_of_alone {direction : CallDirection} {trees : List CallNode}
    (comes : alone fails answers config name options direction = .ok trees) :
    fails .allSymbols 0 = none := by
  cases failing : fails .allSymbols 0 with
  | some fault => cases (alone_of_unloaded failing direction).symm.trans comes
  | none => rfl

/-- Nothing but the symbols has been asked for when one is missing. -/
theorem SideBySide.asked_of_symbolNotFound {result : Except (InquiryFault ε) CallPath}
    {progress : Progress}
    (sideBySide : SideBySide (.numbered fails answers) config name options false result progress)
    (uncancelled : progress.cancelled = false) {missing : String}
    (isMissing : result = .error (.symbolNotFound missing)) : progress.asked = [.allSymbols] := by
  have isJoint := (sideBySide.eq_joint uncancelled).symm.trans isMissing
  cases sideBySide with
  | unloaded isUnloaded =>
      obtain ⟨stored, -, rfl⟩ := exists_of_unloaded isUnloaded
      cases isMissing
  | unknown loads isUnknown =>
      obtain ⟨-, -, rfl⟩ := eq_of_loads loads
      rfl
  | @traced _ _ target _ _ _ loads isBest interleaving come =>
      obtain ⟨succeeds, rfl, -⟩ := eq_of_loads loads
      have isUnknown := ((joint_eq_symbolNotFound_iff succeeds).mp isJoint).2
      cases (implementation_eq_none_iff.mpr isUnknown).symm.trans isBest

/-- What a trace in both directions comes to over a store whose queries fail by number, and what it
asks. -/
structure IsJoint (fails : Query.Kind → Nat → Option ε) (answers : Answers) (config : Config)
    (name : String) (options : TraceOptions) (result : Except (InquiryFault ε) CallPath) (asked : List Query) :
    Prop where
  /-- It comes to the same as one direction after the other. -/
  eq_traceBoth : result =
    ((traceBoth config name options).conduct (.numbered fails answers) (.start false)).1
  /-- When the symbols cannot be listed, it says so. -/
  of_allSymbols : ∀ fault, fails .allSymbols 0 = some fault → result = .error (.store fault)
  /-- When they can, a symbol is missing just if none has the name. -/
  symbolNotFound_iff : fails .allSymbols 0 = none →
    ((∃ missing, result = .error (.symbolNotFound missing)) ↔
      ¬HasSymbol answers name options.caseSensitive)
  /-- The missing symbol is that of the name, and no identifiers have been asked for. -/
  of_symbolNotFound : ∀ missing, result = .error (.symbolNotFound missing) →
    missing = name ∧ asked = [.allSymbols]
  /-- The fault of the callers comes first. -/
  of_callers : HasSymbol answers name options.caseSensitive →
    ∀ fault, alone fails answers config name options .upward = .error fault → result = .error fault
  /-- The fault of the callees comes second. -/
  of_callees : HasSymbol answers name options.caseSensitive →
    ∀ callers fault, alone fails answers config name options .upward = .ok callers →
      alone fails answers config name options .downward = .error fault → result = .error fault
  /-- Without a fault there is a path. -/
  of_ok : HasSymbol answers name options.caseSensitive →
    ∀ callers callees, alone fails answers config name options .upward = .ok callers →
      alone fails answers config name options .downward = .ok callees →
        ∃ target, result = .ok { target, callers, callees } ∧
          IsExact answers config name options { target, callers, callees }

/-- Every interleaving comes to the joint result. -/
theorem SideBySide.isJoint {result : Except (InquiryFault ε) CallPath} {progress : Progress}
    (sideBySide : SideBySide (.numbered fails answers) config name options false result progress)
    (uncancelled : progress.cancelled = false) :
    IsJoint fails answers config name options result progress.asked := by
  obtain rfl := sideBySide.eq_joint uncancelled
  constructor
  case eq_traceBoth =>
    obtain ⟨last, inOrder, stays⟩ := exists_sideBySide fails answers config name options false
    exact (inOrder.eq_joint stays).symm
  case of_allSymbols => exact fun fault => joint_of_unloaded
  case symbolNotFound_iff =>
    intro loads
    constructor
    · rintro ⟨missing, isMissing⟩
      exact ((joint_eq_symbolNotFound_iff loads).mp isMissing).2
    · exact fun isUnknown => ⟨name, joint_of_unknown loads isUnknown⟩
  case of_symbolNotFound =>
    intro missing isMissing
    refine ⟨?_, sideBySide.asked_of_symbolNotFound uncancelled isMissing⟩
    cases loads : fails .allSymbols 0 with
    | some fault => cases (joint_of_unloaded loads).symm.trans isMissing
    | none => exact ((joint_eq_symbolNotFound_iff loads).mp isMissing).1
  case of_callers =>
    intro isKnown fault callersFail
    cases loads : fails .allSymbols 0 with
    | some unloaded =>
        cases (alone_of_unloaded loads .upward).symm.trans callersFail
        exact joint_of_unloaded loads
    | none =>
        obtain ⟨target, isTarget⟩ := exists_implementation isKnown
        rw [joint_of_known loads isTarget, callersFail]
        rfl
  case of_callees =>
    intro isKnown callers fault hasCallers calleesFail
    have loads := loads_of_alone hasCallers
    obtain ⟨target, isTarget⟩ := exists_implementation isKnown
    rw [joint_of_known loads isTarget, hasCallers, calleesFail]
    rfl
  case of_ok =>
    intro isKnown callers callees hasCallers hasCallees
    have loads := loads_of_alone hasCallers
    obtain ⟨target, isTarget⟩ := exists_implementation isKnown
    have isPath : joint fails answers config name options = .ok { target, callers, callees } := by
      rw [joint_of_known loads isTarget, hasCallers, hasCallees]
      rfl
    rw [isPath] at sideBySide
    exact ⟨target, isPath, sideBySide.isExact⟩

end Numbered

/-- A trace in both directions over a store whose queries fail by number comes to one and the same
result in every interleaving of its directions, and a path to which it comes is exact even if it is
cancelled on the way. No interleaving goes on for ever, and none is stuck before both directions
have come to a result. -/
theorem sideBySide_isJoint (fails : Query.Kind → Nat → Option ε) (answers : Answers)
    (config : Config) (name : String) (options : TraceOptions) :
    let conditions := Conditions.numbered fails answers
    (∀ result progress, SideBySide conditions config name options false result progress →
        progress.cancelled = false → IsJoint fails answers config name options result progress.asked) ∧
      (∀ cancelledBefore path progress,
        SideBySide conditions config name options cancelledBefore (.ok path) progress →
          IsExact answers config name options path) ∧
      ∀ progress,
        let threads := directions (answers.tracer (options.clamp config)) name progress
        (∃ bound, ∀ later, List.IsChain (Threads.Step conditions) (threads :: later) →
            later.length ≤ bound) ∧
          ∀ last, threads.Interleaving conditions last →
            (∃ next, Threads.Step conditions last next) ∨
              ∃ callers callees, last.ComeTo callers callees := by
  intro conditions
  refine ⟨fun result progress sideBySide => sideBySide.isJoint,
    fun cancelledBefore path progress sideBySide => sideBySide.isExact, fun progress => ⟨?_, ?_⟩⟩
  · exact ⟨_, fun later => Threads.length_le_remaining⟩
  · exact fun last _ => last.exists_step_or_comeTo conditions

/-- Over a store of recursive code the trace comes to an exact path without faults, and to the fault
of the callers when their first query fails. -/
theorem sideBySide_isJoint_recursive :
    let options : TraceOptions := ⟨40, true, false⟩
    let sound : Query.Kind → Nat → Option String := fun _ _ => none
    let locked : Query.Kind → Nat → Option String := fun kind number =>
      if kind = .identifiersNamed ∧ number = 0 then some "locked" else none
    (∃ path progress,
        SideBySide (.numbered sound recursiveDocument.answer) default "run" options false (.ok path)
            progress ∧
          progress.cancelled = false ∧ IsExact recursiveDocument.answer default "run" options path) ∧
      ∃ progress,
        SideBySide (.numbered locked recursiveDocument.answer) default "run" options false
            (.error (.store "locked")) progress ∧
          progress.cancelled = false := by
  intro options sound locked
  have isKnown : HasSymbol recursiveDocument.answer "run" true :=
    ⟨⟨1, "run", .ofText "method", "src/Runner.cs", 3, 12⟩, .tail _ (.head _), by decide⟩
  constructor
  · obtain ⟨joint, exact, -⟩ :=
      sideBySide_isJoint sound recursiveDocument.answer default "run" options
    obtain ⟨progress, sideBySide, uncancelled⟩ :=
      exists_sideBySide sound recursiveDocument.answer default "run" options false
    have callers : alone sound recursiveDocument.answer default "run" options .upward = .ok _ :=
      outcome_trace recursiveDocument.answer default .upward "run" options
    have callees : alone sound recursiveDocument.answer default "run" options .downward = .ok _ :=
      outcome_trace recursiveDocument.answer default .downward "run" options
    obtain ⟨target, isPath, -⟩ :=
      (joint _ progress sideBySide uncancelled).of_ok isKnown _ _ callers callees
    rw [isPath] at sideBySide
    exact ⟨_, progress, sideBySide, uncancelled, exact false _ progress sideBySide⟩
  · obtain ⟨joint, -⟩ :=
      sideBySide_isJoint locked recursiveDocument.answer default "run" options
    obtain ⟨progress, sideBySide, uncancelled⟩ :=
      exists_sideBySide locked recursiveDocument.answer default "run" options false
    have callers : alone locked recursiveDocument.answer default "run" options .upward =
        .error (.store "locked") := rfl
    rw [(joint _ progress sideBySide uncancelled).of_callers isKnown _ callers] at sideBySide
    exact ⟨progress, sideBySide, uncancelled⟩

end CallPath

end CallTrace
