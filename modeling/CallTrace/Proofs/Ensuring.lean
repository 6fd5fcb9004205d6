import CallTrace.Proofs.Guarded
import CallTrace.Proofs.Snapshot
import CallTrace.Session.Request

/-!
# What inquiries ensure

An inquiry ensures a condition of the values to which it can come, as long as the store gives answers
of the sort that the condition needs. A tracer ensures a condition of its trees if each node that it
makes satisfies it whenever those under the node do. What the two directions of a trace ensure of
their trees, every trace and every finding ensures, whichever directions it takes.
-/

namespace CallTrace

namespace Inquiry

variable {ε α β : Type} {admits : (query : Query) → query.Answer → Prop}

/-- Every value that the inquiry can come to is as said, as long as the store gives certain
answers. -/
def EnsuresUnder (admits : (query : Query) → query.Answer → Prop) (condition : α → Prop) :
    Inquiry α → Prop
  | done value => condition value
  | notFound _ => True
  | checkpoint next => next.EnsuresUnder admits condition
  | ask query next => ∀ answer, admits query answer → (next answer).EnsuresUnder admits condition

namespace EnsuresUnder

variable {condition : α → Prop}

theorem mono {others : α → Prop} (implies : ∀ value, condition value → others value)
    {inquiry : Inquiry α} (ensures : inquiry.EnsuresUnder admits condition) :
    inquiry.EnsuresUnder admits others := by
  induction inquiry with
  | done value => exact implies value ensures
  | notFound name => trivial
  | checkpoint next ih => exact ih ensures
  | ask query next ih => exact fun answer admitted => ih answer (ensures answer admitted)

theorem bind {result : β → Prop} {inquiry : Inquiry α} {continuation : α → Inquiry β}
    (first : inquiry.EnsuresUnder admits condition)
    (second : ∀ value, condition value → (continuation value).EnsuresUnder admits result) :
    (inquiry >>= continuation).EnsuresUnder admits result := by
  induction inquiry with
  | done value => exact second value first
  | notFound name => trivial
  | checkpoint next ih => exact ih first
  | ask query next ih => exact fun answer admitted => ih answer (first answer admitted)

theorem forEach {items : List β} {inquiry : β → Inquiry α}
    (each : ∀ item ∈ items, (inquiry item).EnsuresUnder admits condition) :
    (Inquiry.forEach items inquiry).EnsuresUnder admits fun values =>
      ∀ value ∈ values, condition value := by
  induction items with
  | nil => exact fun _ member => absurd member List.not_mem_nil
  | cons item rest ih =>
      obtain ⟨first, others⟩ := List.forall_mem_cons.mp each
      exact first.bind fun value holds =>
        (ih others).bind fun values hold => List.forall_mem_cons.mpr ⟨holds, hold⟩

theorem and {others : α → Prop} {inquiry : Inquiry α}
    (first : inquiry.EnsuresUnder admits condition) (second : inquiry.EnsuresUnder admits others) :
    inquiry.EnsuresUnder admits fun value => condition value ∧ others value := by
  induction inquiry with
  | done value => exact ⟨first, second⟩
  | notFound name => trivial
  | checkpoint next ih => exact ih first second
  | ask query next ih =>
      exact fun answer admitted => ih answer (first answer admitted) (second answer admitted)

theorem of_conduct {inquiry : Inquiry α} (ensures : inquiry.EnsuresUnder admits condition)
    {conditions : Conditions ε}
    (admitted : ∀ asked query answer,
      conditions.answer asked query = .ok answer → admits query answer)
    {progress reached : Progress} {value : α}
    (comes : inquiry.conduct conditions progress = (.ok value, reached)) : condition value := by
  induction inquiry generalizing progress with
  | done known =>
      cases comes
      exact ensures
  | notFound name => cases comes
  | checkpoint next ih =>
      rw [conduct] at comes
      split at comes
      · cases comes
      · exact ih ensures comes
  | ask query next ih =>
      rw [conduct] at comes
      split at comes
      · cases comes
      · rename_i answer answers
        exact ih answer (ensures answer (admitted _ _ _ answers)) comes

end EnsuresUnder

theorem ensuresUnder_snapshot :
    Inquiry.snapshot.EnsuresUnder admits fun snapshot =>
      ∃ symbols, admits .allSymbols symbols ∧ snapshot = .ofList symbols :=
  fun symbols admitted => ⟨symbols, admitted, rfl⟩

end Inquiry

/-- What an inquiry ensures whatever the store answers holds of a value that a session reads. -/
theorem Session.of_inquire {session : Session} {system : FileSystem} {α : Type}
    {inquiry : Inquiry α} {condition : α → Prop} {value : α}
    (ensures : inquiry.EnsuresUnder (fun _ _ => True) condition)
    (comes : session.inquire system inquiry = .ok value) : condition value := by
  rw [inquire] at comes
  cases outcome : inquiry.outcome (session.answer system) with
  | error fault =>
      rw [outcome] at comes
      cases comes
  | ok found =>
      rw [outcome] at comes
      cases comes
      exact ensures.of_conduct (fun _ _ _ _ => trivial) (Prod.ext outcome rfl)

/-! ## What a tracer makes -/

namespace Tracer

variable {admits : (query : Query) → query.Answer → Prop} (tracer : Tracer)
  (condition : Nat → CallNode → Prop) {maxDepth : Nat}

/-- Callers are as said at their depth, if a node is whenever those under it are as said one level
below. -/
theorem ensuresUnder_callers
    (made : ∀ name found depth,
      admits (.identifiersNamed name tracer.options.caseSensitive) found → depth ≤ maxDepth →
        ∀ call ∈ found, ∀ children, (∀ child ∈ children, condition (depth + 1) child) →
          condition depth ⟨call, tracer.snapshot.container call, tracer.snapshot.target call, depth,
            .upward, children⟩)
    (name : String) {depth levels : Nat} (branch : List Int64)
    (isShallow : depth + levels ≤ maxDepth + 1) :
    (tracer.callers name depth branch levels).EnsuresUnder admits fun nodes =>
      ∀ node ∈ nodes, condition depth node := by
  induction levels generalizing name depth branch with
  | zero => exact List.forall_mem_nil _
  | succ levels ih =>
      rw [callers_succ]
      refine fun found admitted => .forEach fun call isCall => .bind (?children :
        (tracer.callersAround depth branch levels call).EnsuresUnder admits fun nodes =>
          ∀ node ∈ nodes, condition (depth + 1) node) fun nodes below => ?node
      case node =>
        have isFound := List.mem_of_mem_filter isCall
        exact made name found depth admitted (by omega) call isFound nodes below
      case children =>
        unfold callersAround
        split
        · exact List.forall_mem_nil _
        · split
          · exact List.forall_mem_nil _
          · exact ih _ _ (by omega)

/-- So are callees. Nothing is under a node without a target. -/
theorem ensuresUnder_callees
    (made : ∀ name root found depth, tracer.implementation name = some root →
      admits (.identifiersWithin root.id) found → depth ≤ maxDepth →
        ∀ call ∈ found, ∀ children, (tracer.snapshot.target call = none → children = []) →
          (∀ child ∈ children, condition (depth + 1) child) →
            condition depth ⟨call, some root, tracer.snapshot.target call, depth, .downward,
              children⟩)
    (name : String) {depth levels : Nat} (branch : List Int64)
    (isShallow : depth + levels ≤ maxDepth + 1) :
    (tracer.callees name depth branch levels).EnsuresUnder admits fun nodes =>
      ∀ node ∈ nodes, condition depth node := by
  induction levels generalizing name depth branch with
  | zero => exact List.forall_mem_nil _
  | succ levels ih =>
      rw [callees_succ]
      split
      · exact List.forall_mem_nil _
      · rename_i root isBest
        split
        · exact List.forall_mem_nil _
        · refine fun found admitted => .forEach fun call isCall => .bind (?children :
            (tracer.calleesBehind root depth branch levels call).EnsuresUnder admits fun nodes =>
              (tracer.snapshot.target call = none → nodes = []) ∧
                ∀ node ∈ nodes, condition (depth + 1) node) fun nodes below => ?node
          case node =>
            have isFound := List.mem_of_mem_filter isCall
            exact made name root found depth isBest admitted (by omega) call isFound nodes below.1
              below.2
          case children =>
            unfold calleesBehind
            split
            · exact ⟨fun _ => rfl, List.forall_mem_nil _⟩
            · rename_i refers
              refine (ih _ _ (by omega)).mono fun nodes below => ⟨fun isUnknown => ?_, below⟩
              exact absurd (refers.symm.trans isUnknown) (Option.some_ne_none _)

end Tracer

/-! ## The directions of a trace -/

namespace CallPath

/-- What both directions of a trace ensure of their trees under certain answers. -/
structure DirectionsEnsure (admits : (query : Query) → query.Answer → Prop) (name : String)
    (options : TraceOptions) (condition : List CallNode → Prop) : Prop where
  /-- The trees are as said, whichever way the calls are followed. -/
  follow : ∀ symbols, admits .allSymbols symbols → ∀ direction,
    (Tracer.follow ⟨.ofList symbols, options⟩ direction name).EnsuresUnder admits condition

/-- A path around a listed symbol, the trees of which are as said. -/
structure IsMadeOf (admits : (query : Query) → query.Answer → Prop)
    (condition : List CallNode → Prop) (path : CallPath) : Prop where
  /-- The symbol in the middle is listed. -/
  target : ∃ symbols, admits .allSymbols symbols ∧ path.target ∈ symbols
  /-- The callers are as said. -/
  callers : condition path.callers
  /-- The callees are as said. -/
  callees : condition path.callees

theorem mem_of_implementation {symbols : List Symbol} {options : TraceOptions} {name : String}
    {target : Symbol}
    (isBest : Tracer.implementation ⟨.ofList symbols, options⟩ name = some target) :
    target ∈ symbols :=
  (Snapshot.mem_matching_ofList.mp (Symbol.mem_of_bestImplementation isBest)).1

namespace DirectionsEnsure

variable {admits : (query : Query) → query.Answer → Prop} {name : String} {options : TraceOptions}
  {condition : List CallNode → Prop}

theorem and {others : List CallNode → Prop}
    (first : DirectionsEnsure admits name options condition)
    (second : DirectionsEnsure admits name options others) :
    DirectionsEnsure admits name options fun nodes => condition nodes ∧ others nodes where
  follow symbols admitted direction :=
    (first.follow symbols admitted direction).and (second.follow symbols admitted direction)

variable {config : Config}
  (ensure : DirectionsEnsure admits name (options.clamp config) condition)
include ensure

theorem trace (direction : CallDirection) :
    (CallPath.trace config direction name options).EnsuresUnder admits condition := by
  refine Inquiry.ensuresUnder_snapshot.bind ?_
  rintro _ ⟨symbols, admitted, rfl⟩
  exact ensure.follow symbols admitted direction

theorem traceBoth : (CallPath.traceBoth config name options).EnsuresUnder admits
    (IsMadeOf admits condition) := by
  refine Inquiry.ensuresUnder_snapshot.bind ?_
  rintro _ ⟨symbols, admitted, rfl⟩
  simp only
  split
  · trivial
  · rename_i target isBest
    exact (ensure.follow symbols admitted .upward).bind fun callers above =>
      (ensure.follow symbols admitted .downward).bind fun callees below =>
        ⟨⟨symbols, admitted, mem_of_implementation isBest⟩, above, below⟩

end DirectionsEnsure

end CallPath

namespace TraceFinding

/-- The direction in which it was found. -/
def direction : TraceFinding → TraceDirection
  | callers _ => .up
  | callees _ => .down
  | both _ => .both

/-- The trees in each direction of the finding are as said. -/
def IsMadeOf (condition : List CallNode → Prop) : TraceFinding → Prop
  | callers nodes => condition nodes
  | callees nodes => condition nodes
  | both path => condition path.callers ∧ condition path.callees

/-- What both directions ensure holds of what is found in either of them or in both. -/
theorem ensuresUnder_inquiry {admits : (query : Query) → query.Answer → Prop} {name : String}
    {options : TraceOptions} {config : Config} {condition : List CallNode → Prop}
    (ensure : CallPath.DirectionsEnsure admits name (options.clamp config) condition)
    (direction : TraceDirection) :
    (inquiry name options direction config).EnsuresUnder admits fun finding =>
      finding.direction = direction ∧ finding.IsMadeOf condition := by
  cases direction with
  | up => exact (ensure.trace .upward).bind fun _ made => ⟨rfl, made⟩
  | down => exact (ensure.trace .downward).bind fun _ made => ⟨rfl, made⟩
  | both => exact ensure.traceBoth.bind fun _ made => ⟨rfl, made.callers, made.callees⟩

end TraceFinding

end CallTrace
