import CallTrace.Proofs.Disturbance

/-!
# Inquiries step by step

A thread carries out an inquiry in steps, so that something else may happen between any two of them.
Its steps together are the inquiry. Queries may fail by their kind and by how many queries of that
kind were asked before; then queries of other kinds make no difference to what a thread comes to.
-/

namespace CallTrace

variable {ε α β : Type}

namespace Inquiry

/-- Every query that an inquiry may ask is allowed. -/
def AsksOnly (allowed : Query → Prop) : Inquiry α → Prop
  | done _ => True
  | notFound _ => True
  | checkpoint next => next.AsksOnly allowed
  | ask query next => allowed query ∧ ∀ answer, (next answer).AsksOnly allowed

theorem IsGuarded.asksOnly {allowed : Query → Prop} {inquiry : Inquiry α}
    (guarded : inquiry.IsGuarded allowed) : inquiry.AsksOnly allowed := by
  induction guarded with
  | done value => trivial
  | ask isAllowed _ ih => exact ⟨isAllowed, ih⟩

/-- How many checkpoints and queries an inquiry goes through over a store that never fails. -/
def steps (answers : Answers) : Inquiry α → Nat
  | done _ => 0
  | notFound _ => 0
  | checkpoint next => next.steps answers + 1
  | ask query next => (next (answers query)).steps answers + 1

theorem conduct_bind_of_ok {conditions : Conditions ε} {progress reached : Progress}
    {inquiry : Inquiry α} {value : α}
    (first : inquiry.conduct conditions progress = (.ok value, reached))
    (continuation : α → Inquiry β) :
    (inquiry >>= continuation).conduct conditions progress =
      (continuation value).conduct conditions reached := by
  change (inquiry.bind continuation).conduct conditions progress = _
  rw [conduct_bind, first]

theorem conduct_bind_of_error {conditions : Conditions ε} {progress reached : Progress}
    {inquiry : Inquiry α} {fault : InquiryFault ε}
    (first : inquiry.conduct conditions progress = (.error fault, reached))
    (continuation : α → Inquiry β) :
    (inquiry >>= continuation).conduct conditions progress = (.error fault, reached) := by
  change (inquiry.bind continuation).conduct conditions progress = _
  rw [conduct_bind, first]

end Inquiry

/-! ## Faults by number -/

namespace Query.Kind

/-- How many of some queries are of a kind. -/
def number (kind : Kind) (asked : List Query) : Nat :=
  asked.countP fun query => query.kind = kind

theorem number_cons_of_ne {kind : Kind} {query : Query} (differs : query.kind ≠ kind)
    (asked : List Query) : kind.number (query :: asked) = kind.number asked :=
  List.countP_cons_of_neg (by simpa using differs)

theorem number_cons_congr {kind : Kind} {asked others : List Query}
    (same : kind.number asked = kind.number others) (query : Query) :
    kind.number (query :: asked) = kind.number (query :: others) := by
  rw [number, number, List.countP_cons, List.countP_cons]
  exact congrArg (· + _) same

end Query.Kind

/-- Queries fail by their kind and by their number within it, and do not cancel anything. -/
def Disturbance.numbered (fails : Query.Kind → Nat → Option ε) : Disturbance ε where
  fails asked query := fails query.kind (query.kind.number asked)
  cancels _ _ := false

/-- How a store behaves that gives certain answers and whose queries fail by number. -/
abbrev Conditions.numbered (fails : Query.Kind → Nat → Option ε) (answers : Answers) :
    Conditions ε :=
  (Disturbance.numbered fails).conditions answers

namespace Inquiry

variable {fails : Query.Kind → Nat → Option ε} {answers : Answers} {kind : Query.Kind}

theorem cancelled_conduct (fails : Query.Kind → Nat → Option ε) (answers : Answers)
    (inquiry : Inquiry α) (progress : Progress) :
    (inquiry.conduct (.numbered fails answers) progress).2.cancelled =
      progress.cancelled := by
  induction inquiry generalizing progress with
  | done value => rfl
  | notFound name => rfl
  | checkpoint next ih =>
      rw [conduct]
      split
      · rfl
      · exact ih progress
  | ask query next ih =>
      cases failing : (Disturbance.numbered fails).fails progress.asked query with
      | some fault =>
          rw [Disturbance.conduct_ask_of_failed next failing]
          exact Bool.or_false _
      | none =>
          rw [Disturbance.conduct_ask_of_answered next failing, ih]
          exact Bool.or_false _

theorem conduct_congr {inquiry : Inquiry α}
    (asks : inquiry.AsksOnly fun query => query.kind = kind) {asked others : List Query}
    (same : kind.number asked = kind.number others) :
    (inquiry.conduct (.numbered fails answers) ⟨asked, false⟩).1 =
      (inquiry.conduct (.numbered fails answers) ⟨others, false⟩).1 := by
  induction inquiry generalizing asked others with
  | done value => rfl
  | notFound name => rfl
  | checkpoint next ih => exact ih asks same
  | ask query next ih =>
      obtain ⟨rfl, asksLater⟩ := asks
      have sameFault : (Disturbance.numbered fails).fails asked query =
          (Disturbance.numbered fails).fails others query := congrArg (fails query.kind) same
      cases failing : (Disturbance.numbered fails).fails others query with
      | some fault =>
          rw [Disturbance.conduct_ask_of_failed next failing,
            Disturbance.conduct_ask_of_failed next (sameFault.trans failing)]
      | none =>
          rw [Disturbance.conduct_ask_of_answered next failing,
            Disturbance.conduct_ask_of_answered next (sameFault.trans failing)]
          exact ih (answers query) (asksLater _) (Query.Kind.number_cons_congr same query)

end Inquiry

/-! ## One thread -/

/-- What has been asked after one more query, and whether it has cancelled the inquiry. -/
def Progress.after (progress : Progress) (conditions : Conditions ε) (query : Query) : Progress :=
  ⟨query :: progress.asked, progress.cancelled || conditions.cancels progress.asked query⟩

/-- An inquiry that is carried out step by step. -/
inductive Thread (ε α : Type) where
  /-- It goes on with the rest of the inquiry. -/
  | running (rest : Inquiry α)
  /-- It has come to no value. -/
  | stopped (fault : InquiryFault ε)

namespace Thread

/-- What a thread has come to, unless there is more to do. -/
def result? : Thread ε α → Option (Except (InquiryFault ε) α)
  | running (.done value) => some (.ok value)
  | running (.notFound name) => some (.error (.symbolNotFound name))
  | running (.checkpoint _) => none
  | running (.ask _ _) => none
  | stopped fault => some (.error fault)

/-- Carry out what is left of a thread. -/
def conduct (conditions : Conditions ε) (progress : Progress) :
    Thread ε α → Except (InquiryFault ε) α × Progress
  | running rest => rest.conduct conditions progress
  | stopped fault => (.error fault, progress)

theorem conduct_of_result {conditions : Conditions ε} {progress : Progress} {thread : Thread ε α}
    {result : Except (InquiryFault ε) α} (comes : thread.result? = some result) :
    thread.conduct conditions progress = (result, progress) := by
  cases thread with
  | running rest => cases rest <;> cases comes <;> rfl
  | stopped fault =>
      cases comes
      rfl

/-- What one step makes of a thread and of the progress that it shares with others. -/
inductive Step (conditions : Conditions ε) (progress : Progress) :
    Thread ε α → Thread ε α → Progress → Prop
  /-- It goes on at a checkpoint. -/
  | goOn {next : Inquiry α} (goesOn : progress.cancelled = false) :
      Step conditions progress (running (.checkpoint next)) (running next) progress
  /-- It stops at a checkpoint because it has been cancelled. -/
  | stop {next : Inquiry α} (isCancelled : progress.cancelled = true) :
      Step conditions progress (running (.checkpoint next)) (stopped .cancelled) progress
  /-- A query is answered. -/
  | answered {query : Query} {next : query.Answer → Inquiry α} {answer : query.Answer}
      (answers : conditions.answer progress.asked query = .ok answer) :
      Step conditions progress (running (.ask query next)) (running (next answer))
        (progress.after conditions query)
  /-- A query fails. -/
  | failed {query : Query} {next : query.Answer → Inquiry α} {fault : ε}
      (fails : conditions.answer progress.asked query = .error fault) :
      Step conditions progress (running (.ask query next)) (stopped (.store fault))
        (progress.after conditions query)

section Step

variable {conditions : Conditions ε} {progress reached : Progress} {thread later : Thread ε α}

/-- A step is the first part of what is left. -/
theorem Step.conduct_eq (step : Step conditions progress thread later reached) :
    later.conduct conditions reached = thread.conduct conditions progress := by
  cases step with
  | goOn goesOn => rw [conduct, conduct, Inquiry.conduct, if_neg (by simp [goesOn])]
  | stop isCancelled => rw [conduct, conduct, Inquiry.conduct, if_pos isCancelled]
  | answered answers =>
      rw [conduct, conduct, Inquiry.conduct, answers]
      rfl
  | failed fails =>
      rw [conduct, conduct, Inquiry.conduct, fails]
      rfl

theorem exists_step (conditions : Conditions ε) (progress : Progress)
    (isOpen : thread.result? = none) :
    ∃ later reached, Step conditions progress thread later reached := by
  cases thread with
  | stopped fault => cases isOpen
  | running rest =>
      cases rest with
      | done value => cases isOpen
      | notFound name => cases isOpen
      | checkpoint next =>
          cases cancelled : progress.cancelled with
          | true => exact ⟨_, _, .stop cancelled⟩
          | false => exact ⟨_, _, .goOn cancelled⟩
      | ask query next =>
          cases answers : conditions.answer progress.asked query with
          | error fault => exact ⟨_, _, .failed answers⟩
          | ok answer => exact ⟨_, _, .answered answers⟩

end Step

/-- Every query that a thread may still ask is allowed. -/
def AsksOnly (allowed : Query → Prop) : Thread ε α → Prop
  | running rest => rest.AsksOnly allowed
  | stopped _ => True

theorem Step.asksOnly {conditions : Conditions ε} {progress reached : Progress}
    {thread later : Thread ε α} (step : Step conditions progress thread later reached)
    {allowed : Query → Prop} (asks : thread.AsksOnly allowed) : later.AsksOnly allowed := by
  cases step with
  | goOn => exact asks
  | stop => trivial
  | answered => exact asks.2 _
  | failed => trivial

/-- How many steps a thread has before it over a store that never fails. -/
def steps (answers : Answers) : Thread ε α → Nat
  | running rest => rest.steps answers
  | stopped _ => 0

/-- A thread that can come to no value but one. -/
def IsHeadedFor (answers : Answers) (value : α) : Thread ε α → Prop
  | running rest => rest.outcome (ε := ε) answers.store = .ok value
  | stopped _ => True

theorem IsHeadedFor.eq_of_result {answers : Answers} {value found : α} {thread : Thread ε α}
    (isHeaded : thread.IsHeadedFor answers value) (comes : thread.result? = some (.ok found)) :
    found = value := by
  cases thread with
  | stopped fault => cases comes
  | running rest =>
      cases rest <;> cases comes
      exact Except.ok.inj isHeaded

section Disturbed

variable {disturbance : Disturbance ε} {answers : Answers} {progress reached : Progress}
  {thread later : Thread ε α}

/-- A query that is answered over a disturbed store is answered as without the disturbance. -/
theorem answer_of_conditions {asked : List Query} {query : Query} {answer : query.Answer}
    (isAnswered : (disturbance.conditions answers).answer asked query = .ok answer) :
    answer = answers query := by
  rw [Disturbance.conditions] at isAnswered
  simp only at isAnswered
  split at isAnswered
  · cases isAnswered
  · exact (Except.ok.inj isAnswered).symm

theorem Step.steps_lt (step : Step (disturbance.conditions answers) progress thread later reached) :
    later.steps answers < thread.steps answers := by
  cases step with
  | goOn => exact Nat.lt_succ_self _
  | stop => exact Nat.succ_pos _
  | answered isAnswered =>
      rw [answer_of_conditions isAnswered]
      exact Nat.lt_succ_self _
  | failed => exact Nat.succ_pos _

theorem Step.isHeadedFor
    (step : Step (disturbance.conditions answers) progress thread later reached) {value : α}
    (isHeaded : thread.IsHeadedFor answers value) : later.IsHeadedFor answers value := by
  cases step with
  | goOn => exact isHeaded
  | stop => trivial
  | @answered query next answer isAnswered =>
      rw [answer_of_conditions isAnswered]
      exact (Inquiry.outcome_ask query next).symm.trans isHeaded
  | failed => trivial

end Disturbed

section Numbered

variable {fails : Query.Kind → Nat → Option ε} {answers : Answers} {kind otherKind : Query.Kind}
  {progress reached : Progress} {thread later : Thread ε α}

theorem Step.cancelled_eq
    (step : Step (.numbered fails answers) progress thread later reached) :
    reached.cancelled = progress.cancelled := by
  cases step with
  | goOn => rfl
  | stop => rfl
  | answered => exact Bool.or_false _
  | failed => exact Bool.or_false _

theorem Step.number_eq
    (step : Step (.numbered fails answers) progress thread later reached)
    (asks : thread.AsksOnly fun query => query.kind = kind) (differ : kind ≠ otherKind) :
    otherKind.number reached.asked = otherKind.number progress.asked := by
  cases step with
  | goOn => rfl
  | stop => rfl
  | answered =>
      obtain ⟨rfl, -⟩ := asks
      exact Query.Kind.number_cons_of_ne differ progress.asked
  | failed =>
      obtain ⟨rfl, -⟩ := asks
      exact Query.Kind.number_cons_of_ne differ progress.asked

/-- A step makes no difference to what a thread comes to that asks queries of another kind. -/
theorem Step.conduct_other
    (step : Step (.numbered fails answers) progress thread later reached)
    (asks : thread.AsksOnly fun query => query.kind = kind) (differ : kind ≠ otherKind)
    {other : Thread ε β} (otherAsks : other.AsksOnly fun query => query.kind = otherKind)
    (uncancelled : reached.cancelled = false) :
    (other.conduct (.numbered fails answers) reached).1 =
      (other.conduct (.numbered fails answers) progress).1 := by
  have uncancelledBefore := step.cancelled_eq.symm.trans uncancelled
  have same := step.number_eq asks differ
  obtain ⟨asked, _⟩ := progress
  obtain ⟨askedLater, _⟩ := reached
  subst uncancelled uncancelledBefore
  cases other with
  | running rest => exact Inquiry.conduct_congr otherAsks same
  | stopped fault => rfl

end Numbered

end Thread

end CallTrace
