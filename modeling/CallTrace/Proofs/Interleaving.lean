import CallTrace.Proofs.Thread
import Mathlib.Logic.Relation

/-!
# Two inquiries side by side

Two threads carry out one inquiry each over the same store, in any order of their steps, and may be
cancelled between any two steps. If queries fail by number and the threads ask queries of different
kinds, then no order of the steps makes a difference: each thread comes to what it would come to
alone. A thread that comes to a value comes to the undisturbed one even when both have been
cancelled on the way.
-/

namespace CallTrace

variable {ε α β : Type}

/-- Two threads over one store. -/
structure Threads (ε α β : Type) where
  /-- One of them. -/
  left : Thread ε α
  /-- The other one. -/
  right : Thread ε β
  /-- What both together have asked, and whether they have been cancelled. -/
  progress : Progress

namespace Threads

/-- What can happen next to two threads. -/
inductive Step (conditions : Conditions ε) : Threads ε α β → Threads ε α β → Prop
  /-- The left thread takes a step. -/
  | left {left later : Thread ε α} {right : Thread ε β} {progress reached : Progress}
      (step : left.Step conditions progress later reached) :
      Step conditions ⟨left, right, progress⟩ ⟨later, right, reached⟩
  /-- The right thread takes a step. -/
  | right {left : Thread ε α} {right later : Thread ε β} {progress reached : Progress}
      (step : right.Step conditions progress later reached) :
      Step conditions ⟨left, right, progress⟩ ⟨left, later, reached⟩
  /-- Both are cancelled. -/
  | cancel {left : Thread ε α} {right : Thread ε β} {asked : List Query} :
      Step conditions ⟨left, right, ⟨asked, false⟩⟩ ⟨left, right, ⟨asked, true⟩⟩

/-- Any number of steps of two threads, in any order. -/
abbrev Interleaving (conditions : Conditions ε) : Threads ε α β → Threads ε α β → Prop :=
  Relation.ReflTransGen (Step conditions)

/-- Two threads have come to results. -/
structure ComeTo (threads : Threads ε α β) (left : Except (InquiryFault ε) α)
    (right : Except (InquiryFault ε) β) : Prop where
  /-- What the left thread has come to. -/
  left_result : threads.left.result? = some left
  /-- What the right thread has come to. -/
  right_result : threads.right.result? = some right

/-- Threads are not stuck before both have come to a result. -/
theorem exists_step_or_comeTo (conditions : Conditions ε) (threads : Threads ε α β) :
    (∃ next, Step conditions threads next) ∨ ∃ left right, threads.ComeTo left right := by
  cases leftResult : threads.left.result? with
  | none =>
      obtain ⟨later, reached, step⟩ :=
        Thread.exists_step conditions threads.progress leftResult
      exact .inl ⟨_, .left step⟩
  | some left =>
      cases rightResult : threads.right.result? with
      | none =>
          obtain ⟨later, reached, step⟩ :=
            Thread.exists_step conditions threads.progress rightResult
          exact .inl ⟨_, .right step⟩
      | some right => exact .inr ⟨left, right, leftResult, rightResult⟩

section Bound

variable {fails : Query.Kind → Nat → Option ε} {answers : Answers}

/-- How many steps two threads have before them at most, cancellation being one. -/
def remaining (answers : Answers) (threads : Threads ε α β) : Nat :=
  threads.left.steps answers + threads.right.steps answers +
    if threads.progress.cancelled then 0 else 1

theorem Step.remaining_lt {threads next : Threads ε α β}
    (step : Step (.numbered fails answers) threads next) :
    next.remaining answers < threads.remaining answers := by
  cases step with
  | left step =>
      have fewer := step.steps_lt
      simp only [remaining, step.cancelled_eq]
      omega
  | right step =>
      have fewer := step.steps_lt
      simp only [remaining, step.cancelled_eq]
      omega
  | cancel => exact Nat.lt_succ_self _

/-- No interleaving goes on for longer than there are steps. -/
theorem length_le_remaining {threads : Threads ε α β} {later : List (Threads ε α β)}
    (chain : List.IsChain (Step (.numbered fails answers)) (threads :: later)) :
    later.length ≤ threads.remaining answers := by
  induction later generalizing threads with
  | nil => exact Nat.zero_le _
  | cons next rest ih =>
      obtain ⟨step, chainLater⟩ := List.isChain_cons_cons.mp chain
      have fewer := step.remaining_lt
      have fits := ih chainLater
      rw [List.length_cons]
      omega

end Bound

/-! ## One thread after the other -/

/-- The left thread can take all of its steps first. -/
theorem exists_left_run (conditions : Conditions ε) (inquiry : Inquiry α) (right : Thread ε β)
    (progress : Progress) :
    ∃ last : Thread ε α,
      Interleaving conditions ⟨.running inquiry, right, progress⟩
          ⟨last, right, (inquiry.conduct conditions progress).2⟩ ∧
        last.result? = some (inquiry.conduct conditions progress).1 := by
  induction inquiry generalizing progress with
  | done value => exact ⟨_, .refl, rfl⟩
  | notFound name => exact ⟨_, .refl, rfl⟩
  | checkpoint next ih =>
      rw [Inquiry.conduct]
      split
      case isTrue isCancelled => exact ⟨_, .single (.left (.stop isCancelled)), rfl⟩
      case isFalse goesOn =>
        obtain ⟨last, run, comes⟩ := ih progress
        exact ⟨last, .head (.left (.goOn (Bool.eq_false_of_not_eq_true goesOn))) run, comes⟩
  | ask query next ih =>
      cases answers : conditions.answer progress.asked query with
      | error fault =>
          rw [Inquiry.conduct, answers]
          exact ⟨_, .single (.left (.failed answers)), rfl⟩
      | ok answer =>
          rw [Inquiry.conduct, answers]
          obtain ⟨last, run, comes⟩ := ih answer (progress.after conditions query)
          exact ⟨last, .head (.left (.answered answers)) run, comes⟩

/-- The same two threads, the other way round. -/
def swap (threads : Threads ε α β) : Threads ε β α :=
  ⟨threads.right, threads.left, threads.progress⟩

theorem Step.swap {conditions : Conditions ε} {threads next : Threads ε α β}
    (step : Step conditions threads next) : Step conditions threads.swap next.swap := by
  cases step with
  | left step => exact .right step
  | right step => exact .left step
  | cancel => exact .cancel

theorem exists_right_run (conditions : Conditions ε) (left : Thread ε α) (inquiry : Inquiry β)
    (progress : Progress) :
    ∃ last : Thread ε β,
      Interleaving conditions ⟨left, .running inquiry, progress⟩
          ⟨left, last, (inquiry.conduct conditions progress).2⟩ ∧
        last.result? = some (inquiry.conduct conditions progress).1 := by
  obtain ⟨last, run, comes⟩ := exists_left_run conditions inquiry left progress
  exact ⟨last, run.lift swap fun _ _ => Step.swap, comes⟩

/-! ## Results -/

section Results

variable {fails : Query.Kind → Nat → Option ε} {answers : Answers} {leftKind rightKind : Query.Kind}
  {left : Except (InquiryFault ε) α} {right : Except (InquiryFault ε) β}

/-- Two threads that ask queries of different kinds and that will come to certain results unless
they are cancelled. -/
structure WillComeTo (fails : Query.Kind → Nat → Option ε) (answers : Answers)
    (leftKind rightKind : Query.Kind) (left : Except (InquiryFault ε) α)
    (right : Except (InquiryFault ε) β) (threads : Threads ε α β) : Prop where
  /-- The queries of the left thread are of one kind. -/
  left_asksOnly : threads.left.AsksOnly fun query => query.kind = leftKind
  /-- The queries of the right thread are of one kind. -/
  right_asksOnly : threads.right.AsksOnly fun query => query.kind = rightKind
  /-- What is left of the left thread leads to its result. -/
  left_conduct : threads.progress.cancelled = false →
    (threads.left.conduct (.numbered fails answers) threads.progress).1 = left
  /-- What is left of the right thread leads to its result. -/
  right_conduct : threads.progress.cancelled = false →
    (threads.right.conduct (.numbered fails answers) threads.progress).1 = right

theorem WillComeTo.swap {threads : Threads ε α β}
    (will : threads.WillComeTo fails answers leftKind rightKind left right) :
    threads.swap.WillComeTo fails answers rightKind leftKind right left :=
  ⟨will.right_asksOnly, will.left_asksOnly, will.right_conduct, will.left_conduct⟩

theorem WillComeTo.left_step {thread later : Thread ε α} {other : Thread ε β}
    {progress reached : Progress} (differ : leftKind ≠ rightKind)
    (will : WillComeTo fails answers leftKind rightKind left right ⟨thread, other, progress⟩)
    (step : thread.Step (.numbered fails answers) progress later reached) :
    WillComeTo fails answers leftKind rightKind left right ⟨later, other, reached⟩ := by
  constructor
  case left_asksOnly => exact step.asksOnly will.left_asksOnly
  case right_asksOnly => exact will.right_asksOnly
  case left_conduct =>
    intro uncancelled
    have uncancelledBefore := step.cancelled_eq.symm.trans uncancelled
    exact (congrArg Prod.fst step.conduct_eq).trans (will.left_conduct uncancelledBefore)
  case right_conduct =>
    intro uncancelled
    have uncancelledBefore := step.cancelled_eq.symm.trans uncancelled
    have unchanged :=
      step.conduct_other will.left_asksOnly differ will.right_asksOnly uncancelled
    exact unchanged.trans (will.right_conduct uncancelledBefore)

theorem WillComeTo.step {threads next : Threads ε α β} (differ : leftKind ≠ rightKind)
    (will : threads.WillComeTo fails answers leftKind rightKind left right)
    (step : Step (.numbered fails answers) threads next) :
    next.WillComeTo fails answers leftKind rightKind left right := by
  cases step with
  | left step => exact will.left_step differ step
  | right step => exact (will.swap.left_step differ.symm step).swap
  -- Nothing is promised to threads that have been cancelled.
  | cancel => exact ⟨will.left_asksOnly, will.right_asksOnly, nofun, nofun⟩

/-- No order of steps changes what two threads will come to. -/
theorem WillComeTo.interleaving {threads last : Threads ε α β} (differ : leftKind ≠ rightKind)
    (will : threads.WillComeTo fails answers leftKind rightKind left right)
    (interleaving : Interleaving (.numbered fails answers) threads last) :
    last.WillComeTo fails answers leftKind rightKind left right := by
  induction interleaving with
  | refl => exact will
  | tail _ step ih => exact ih.step differ step

theorem WillComeTo.eq_of_comeTo {threads : Threads ε α β}
    {foundLeft : Except (InquiryFault ε) α} {foundRight : Except (InquiryFault ε) β}
    (will : threads.WillComeTo fails answers leftKind rightKind left right)
    (uncancelled : threads.progress.cancelled = false)
    (come : threads.ComeTo foundLeft foundRight) : foundLeft = left ∧ foundRight = right := by
  have leftSame := will.left_conduct uncancelled
  have rightSame := will.right_conduct uncancelled
  rw [Thread.conduct_of_result come.left_result] at leftSame
  rw [Thread.conduct_of_result come.right_result] at rightSame
  exact ⟨leftSame, rightSame⟩

/-- Two threads that can come to no values but certain ones. -/
structure AreHeadedFor (answers : Answers) (left : α) (right : β) (threads : Threads ε α β) :
    Prop where
  /-- The value of the left thread. -/
  left_isHeadedFor : threads.left.IsHeadedFor answers left
  /-- The value of the right thread. -/
  right_isHeadedFor : threads.right.IsHeadedFor answers right

theorem AreHeadedFor.step {disturbance : Disturbance ε} {leftValue : α} {rightValue : β}
    {threads next : Threads ε α β} (areHeaded : threads.AreHeadedFor answers leftValue rightValue)
    (step : Step (disturbance.conditions answers) threads next) :
    next.AreHeadedFor answers leftValue rightValue := by
  cases step with
  | left step => exact ⟨step.isHeadedFor areHeaded.1, areHeaded.2⟩
  | right step => exact ⟨areHeaded.1, step.isHeadedFor areHeaded.2⟩
  | cancel => exact ⟨areHeaded.1, areHeaded.2⟩

/-- Whatever happens to two threads, they come to their undisturbed values or to none. -/
theorem AreHeadedFor.interleaving {disturbance : Disturbance ε} {leftValue : α} {rightValue : β}
    {threads last : Threads ε α β} (areHeaded : threads.AreHeadedFor answers leftValue rightValue)
    (interleaving : Interleaving (disturbance.conditions answers) threads last) :
    last.AreHeadedFor answers leftValue rightValue := by
  induction interleaving with
  | refl => exact areHeaded
  | tail _ step ih => exact ih.step step

/-- Threads that come to values come to the undisturbed ones. -/
theorem AreHeadedFor.eq_of_comeTo {leftValue foundLeft : α} {rightValue foundRight : β}
    {threads : Threads ε α β} (areHeaded : threads.AreHeadedFor answers leftValue rightValue)
    (come : threads.ComeTo (.ok foundLeft) (.ok foundRight)) :
    foundLeft = leftValue ∧ foundRight = rightValue :=
  ⟨areHeaded.left_isHeadedFor.eq_of_result come.left_result,
    areHeaded.right_isHeadedFor.eq_of_result come.right_result⟩

end Results

end Threads

end CallTrace
