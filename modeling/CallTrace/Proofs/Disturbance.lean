import CallTrace.Proofs.Guarded

/-!
# Failures and cancellation

Every query to a store may fail, and an inquiry may be cancelled before it begins or while any of
its queries is answered. A guarded inquiry goes the way that it would go without any of this until
one of the two happens for the first time, and then it asks no more. So a trace or a search for
references comes to the undisturbed value or to none, and when it comes to none it says why.
-/

namespace CallTrace

/-- What happens to queries other than that they are answered. It may depend on the queries before,
which are given latest first. -/
structure Disturbance (ε : Type) where
  /-- The fault with which a query fails, if it fails. -/
  fails : List Query → Query → Option ε
  /-- Whether the inquiry is cancelled while a query is answered or fails. -/
  cancels : List Query → Query → Bool

namespace Disturbance

variable {ε α : Type} (disturbance : Disturbance ε)

/-- A store that gives certain answers unless it is disturbed. -/
def conditions (answers : Answers) : Conditions ε where
  answer asked query :=
    match disturbance.fails asked query with
    | some fault => .error fault
    | none => .ok (answers query)
  cancels := disturbance.cancels

/-- How far an inquiry can come without a fault: no query has failed, and none was asked after the
inquiry had been cancelled. -/
inductive Reaches (cancelledBefore : Bool) : Progress → Prop
  /-- No query has been asked. -/
  | start : Reaches cancelledBefore (.start cancelledBefore)
  /-- One more query has been answered. -/
  | ask {earlier : List Query} {query : Query}
      (reaches : Reaches cancelledBefore ⟨earlier, false⟩)
      (succeeds : disturbance.fails earlier query = none) :
      Reaches cancelledBefore ⟨query :: earlier, disturbance.cancels earlier query⟩

/-- How an inquiry can end that would come to a value by asking certain queries, latest first. -/
inductive Ending (cancelledBefore : Bool) (value : α) (all : List Query) :
    Except (InquiryFault ε) α × Progress → Prop
  /-- With its value, after all of the queries. -/
  | completed {cancelled : Bool} (reaches : disturbance.Reaches cancelledBefore ⟨all, cancelled⟩) :
      Ending cancelledBefore value all (.ok value, ⟨all, cancelled⟩)
  /-- With a query that fails. -/
  | failed {earlier : List Query} {query : Query} {fault : ε}
      (reaches : disturbance.Reaches cancelledBefore ⟨earlier, false⟩)
      (fails : disturbance.fails earlier query = some fault) (isPart : query :: earlier <:+ all) :
      Ending cancelledBefore value all
        (.error (.store fault), ⟨query :: earlier, disturbance.cancels earlier query⟩)
  /-- Before a query that it would have asked had it not been cancelled. -/
  | cancelled {asked : List Query} (reaches : disturbance.Reaches cancelledBefore ⟨asked, true⟩)
      (isPart : asked <:+ all) (isLess : asked ≠ all) :
      Ending cancelledBefore value all (.error .cancelled, ⟨asked, true⟩)

namespace Reaches

variable {disturbance} {cancelledBefore : Bool} {progress : Progress}

theorem eq_start (reaches : disturbance.Reaches true progress) : progress = ⟨[], true⟩ := by
  induction reaches with
  | start => rfl
  | ask _ _ ih => cases ih

/-- No query has failed, and none but the last one has cancelled the inquiry. -/
theorem of_suffix (reaches : disturbance.Reaches cancelledBefore progress) {query : Query}
    {earlier : List Query} (isAsked : query :: earlier <:+ progress.asked) :
    disturbance.fails earlier query = none ∧
      (disturbance.cancels earlier query = true → progress = ⟨query :: earlier, true⟩) := by
  induction reaches with
  | start => cases List.suffix_nil.mp isAsked
  | ask _ succeeds ih =>
      rcases List.suffix_cons_iff.mp isAsked with same | isEarlier
      · obtain ⟨rfl, rfl⟩ := List.cons.inj same
        exact ⟨succeeds, fun cancels => by rw [cancels]⟩
      · obtain ⟨succeeded, cancelled⟩ := ih isEarlier
        exact ⟨succeeded, fun cancels => nomatch cancelled cancels⟩

theorem of_cancelled {asked : List Query}
    (reaches : disturbance.Reaches cancelledBefore ⟨asked, true⟩) :
    cancelledBefore = true ∨
      ∃ query earlier, asked = query :: earlier ∧ disturbance.cancels earlier query = true := by
  generalize isReached : (⟨asked, true⟩ : Progress) = progress at reaches
  cases reaches with
  | start => exact .inl (congrArg Progress.cancelled isReached).symm
  | @ask earlier query _ _ =>
      exact .inr ⟨query, earlier, congrArg Progress.asked isReached,
        (congrArg Progress.cancelled isReached).symm⟩

end Reaches

section Conduct

variable {disturbance} {answers : Answers} {asked : List Query} {cancelled : Bool} {query : Query}
  (next : query.Answer → Inquiry α)

theorem conduct_ask_of_failed {fault : ε} (fails : disturbance.fails asked query = some fault) :
    (Inquiry.ask query next).conduct (disturbance.conditions answers) ⟨asked, cancelled⟩ =
      (.error (.store fault), ⟨query :: asked, cancelled || disturbance.cancels asked query⟩) := by
  simp [Inquiry.conduct, conditions, fails]

theorem conduct_ask_of_answered (succeeds : disturbance.fails asked query = none) :
    (Inquiry.ask query next).conduct (disturbance.conditions answers) ⟨asked, cancelled⟩ =
      (next (answers query)).conduct (disturbance.conditions answers)
        ⟨query :: asked, cancelled || disturbance.cancels asked query⟩ := by
  simp [Inquiry.conduct, conditions, succeeds]

end Conduct

/-- A guarded inquiry goes its undisturbed way until a query fails or it has been cancelled. -/
theorem ending_of_isGuarded {allowed : Query → Prop} {inquiry : Inquiry α}
    (guarded : inquiry.IsGuarded allowed) {answers : Answers} {value : α}
    (comes : inquiry.outcome (ε := ε) answers.store = .ok value) {cancelledBefore : Bool}
    {progress : Progress} (reaches : disturbance.Reaches cancelledBefore progress) :
    disturbance.Ending cancelledBefore value ((inquiry.queries answers).reverse ++ progress.asked)
      (inquiry.conduct (disturbance.conditions answers) progress) := by
  induction guarded generalizing progress with
  | done known =>
      cases comes
      exact .completed reaches
  | @ask query next _ _ ih =>
      obtain ⟨asked, cancelled⟩ := progress
      have isAll : (query :: (next (answers query)).queries answers).reverse ++ asked =
          ((next (answers query)).queries answers).reverse ++ query :: asked := by
        rw [List.reverse_cons, List.append_assoc, List.singleton_append]
      rw [Inquiry.queries, Inquiry.queries, isAll]
      cases cancelled with
      | true =>
          have isPart : asked <:+
              ((next (answers query)).queries answers).reverse ++ query :: asked :=
            (List.suffix_cons query asked).trans (List.suffix_append _ _)
          refine .cancelled reaches isPart fun same => ?_
          have lengths := congrArg List.length same
          rw [List.length_append, List.length_cons] at lengths
          omega
      | false =>
          rw [Inquiry.conduct, if_neg Bool.false_ne_true]
          cases failing : disturbance.fails asked query with
          | some fault =>
              rw [conduct_ask_of_failed next failing]
              exact .failed reaches failing (List.suffix_append _ _)
          | none =>
              rw [conduct_ask_of_answered next failing]
              have comesLater := (Inquiry.outcome_ask query next).symm.trans comes
              exact ih (answers query) comesLater (.ask reaches failing)

/-- An inquiry that would come to a value by asking certain queries, latest first, comes to that
value or to none, asks no query after one that fails or cancels it, and tells which of the two
happened. -/
structure AllOrNothing (cancelledBefore : Bool) (value : α) (all : List Query)
    (result : Except (InquiryFault ε) α) (asked : List Query) : Prop where
  /-- What is asked is the beginning of what would be asked. -/
  asked_suffix : asked <:+ all
  /-- A value is the one of the undisturbed inquiry, which has asked everything. -/
  eq_of_ok : ∀ found, result = .ok found → found = value ∧ asked = all
  /-- A query that fails is the last one, and its fault is what the inquiry comes to. -/
  of_fails : ∀ query earlier fault, query :: earlier <:+ asked →
    disturbance.fails earlier query = some fault →
      asked = query :: earlier ∧ result = .error (.store fault)
  /-- An inquiry that has been cancelled before it begins asks nothing and says so. -/
  of_cancelledBefore : cancelledBefore = true → asked = [] ∧ result = .error .cancelled
  /-- A query that cancels the inquiry is the last one. If it does not fail and more would have to
  be asked, the inquiry says that it has been cancelled. -/
  of_cancels : ∀ query earlier, query :: earlier <:+ asked →
    disturbance.cancels earlier query = true →
      asked = query :: earlier ∧
        (disturbance.fails earlier query = none → asked ≠ all → result = .error .cancelled)
  /-- The fault of a store is that of the last query. -/
  fails_of_store : ∀ fault, result = .error (.store fault) →
    ∃ query earlier, asked = query :: earlier ∧ disturbance.fails earlier query = some fault
  /-- An inquiry that says that it has been cancelled has been, and had more to ask. -/
  cancels_of_cancelled : result = .error .cancelled →
    asked ≠ all ∧
      (cancelledBefore = true ∨
        ∃ query earlier, asked = query :: earlier ∧ disturbance.cancels earlier query = true)
  /-- No symbol is found missing. -/
  ne_symbolNotFound : ∀ name, result ≠ .error (.symbolNotFound name)

theorem Ending.allOrNothing {disturbance : Disturbance ε} {cancelledBefore : Bool} {value : α}
    {all : List Query} {reached : Except (InquiryFault ε) α × Progress}
    (ending : disturbance.Ending cancelledBefore value all reached) (asks : all ≠ []) :
    disturbance.AllOrNothing cancelledBefore value all reached.1 reached.2.asked := by
  cases ending with
  | completed reaches =>
      constructor
      case asked_suffix => exact List.suffix_refl all
      case eq_of_ok =>
        rintro found ⟨⟩
        exact ⟨rfl, rfl⟩
      case of_fails =>
        intro query earlier fault isAsked fails
        rw [(reaches.of_suffix isAsked).1] at fails
        cases fails
      case of_cancelledBefore =>
        rintro rfl
        exact absurd (congrArg Progress.asked reaches.eq_start) asks
      case of_cancels =>
        intro query earlier isAsked cancels
        have isLast := (reaches.of_suffix isAsked).2 cancels
        exact ⟨congrArg Progress.asked isLast, fun _ isLess => absurd rfl isLess⟩
      all_goals exact nofun
  | @failed earlier query fault reaches fails isPart =>
      constructor
      case asked_suffix => exact isPart
      case of_fails =>
        intro other before otherFault isAsked otherFails
        rcases List.suffix_cons_iff.mp isAsked with same | isEarlier
        · obtain ⟨rfl, rfl⟩ := List.cons.inj same
          rw [fails] at otherFails
          exact ⟨rfl, by rw [Option.some.inj otherFails]⟩
        · rw [(reaches.of_suffix isEarlier).1] at otherFails
          cases otherFails
      case of_cancelledBefore =>
        rintro rfl
        cases reaches.eq_start
      case of_cancels =>
        intro other before isAsked cancels
        rcases List.suffix_cons_iff.mp isAsked with same | isEarlier
        · obtain ⟨rfl, rfl⟩ := List.cons.inj same
          exact ⟨rfl, fun succeeds => nomatch fails.symm.trans succeeds⟩
        · cases (reaches.of_suffix isEarlier).2 cancels
      case fails_of_store =>
        rintro other ⟨⟩
        exact ⟨query, earlier, rfl, fails⟩
      all_goals exact nofun
  | cancelled reaches isPart isLess =>
      constructor
      case asked_suffix => exact isPart
      case of_fails =>
        intro query earlier fault isAsked fails
        rw [(reaches.of_suffix isAsked).1] at fails
        cases fails
      case of_cancelledBefore =>
        rintro rfl
        exact ⟨congrArg Progress.asked reaches.eq_start, rfl⟩
      case of_cancels =>
        intro query earlier isAsked cancels
        have isLast := (reaches.of_suffix isAsked).2 cancels
        exact ⟨congrArg Progress.asked isLast, fun _ _ => rfl⟩
      case cancels_of_cancelled => exact fun _ => ⟨isLess, reaches.of_cancelled⟩
      all_goals exact nofun

theorem Ending.ne_symbolNotFound {disturbance : Disturbance ε} {cancelledBefore : Bool} {value : α}
    {all : List Query} {reached : Except (InquiryFault ε) α × Progress}
    (ending : disturbance.Ending cancelledBefore value all reached) (name : String) :
    reached.1 ≠ .error (.symbolNotFound name) := by
  cases ending <;> exact nofun

end Disturbance

/-- A trace of one direction or a search for references. -/
inductive Search : Type → Type
  /-- The callers of a name. -/
  | callers (name : String) (options : TraceOptions) : Search (List CallNode)
  /-- The callees of a name. -/
  | callees (name : String) (options : TraceOptions) : Search (List CallNode)
  /-- The references to a name. -/
  | references (name : String) (caseSensitive : Bool) : Search (List Reference)
  /-- The references to the name of the symbol with a number. -/
  | referencesTo (id : Int64) : Search (List Reference)

namespace Search

variable {α : Type}

/-- How a search is made. -/
def inquiry (config : Config) : {α : Type} → Search α → Inquiry α
  | _, callers name options => CallPath.traceUpward config name options
  | _, callees name options => CallPath.traceDownward config name options
  | _, references name caseSensitive => Reference.findNamed name caseSensitive
  | _, referencesTo id => Reference.findOf id

theorem isGuarded_inquiry (search : Search α) (config : Config) :
    (search.inquiry config).IsGuarded fun _ => True := by
  cases search with
  | callers name options =>
      exact (Inquiry.isGuarded_snapshot trivial).bind fun snapshot =>
        (Tracer.isGuarded_callers _ _ _ _ _).mono fun _ _ => trivial
  | callees name options =>
      exact (Inquiry.isGuarded_snapshot trivial).bind fun snapshot =>
        (Tracer.isGuarded_callees _ _ _ _ _).mono fun _ _ => trivial
  | references name caseSensitive =>
      refine .pause_query trivial fun identifiers => ?_
      split
      · exact .done []
      · exact (Inquiry.isGuarded_snapshot trivial).bind fun _ => .done _
  | referencesTo id =>
      refine (Inquiry.isGuarded_snapshot trivial).bind fun snapshot => ?_
      split
      · exact .done []
      · exact .pause_query trivial fun _ => .done _

theorem queries_ne_nil (search : Search α) (config : Config) (answers : Answers) :
    (search.inquiry config).queries answers ≠ [] := by
  cases search <;> exact List.cons_ne_nil _ _

/-- A trace of one direction or a search for references over any data comes to a value when nothing
disturbs it, and to the same value or to none whatever disturbs it. -/
theorem conduct_allOrNothing {ε : Type} (search : Search α) (config : Config) (answers : Answers)
    (disturbance : Disturbance ε) (cancelledBefore : Bool) :
    ∃ value all,
      (search.inquiry config).conduct (ε := ε) (.steady answers.store) (.start false) =
          (.ok value, ⟨all, false⟩) ∧
        let reached :=
          (search.inquiry config).conduct (disturbance.conditions answers) (.start cancelledBefore)
        disturbance.AllOrNothing cancelledBefore value all reached.1 reached.2.asked := by
  have isGuarded := search.isGuarded_inquiry config
  obtain ⟨value, comes⟩ := isGuarded.exists_outcome (ε := ε) answers
  refine ⟨value, ((search.inquiry config).queries answers).reverse ++ [], ?_, ?_⟩
  · exact comes ▸ (search.inquiry config).conduct_store []
  · have reaches : disturbance.Reaches cancelledBefore (.start cancelledBefore) := .start
    have ending := disturbance.ending_of_isGuarded isGuarded comes reaches
    refine ending.allOrNothing ?_
    rw [Progress.start, List.append_nil, Ne, List.reverse_eq_nil_iff]
    exact search.queries_ne_nil config answers

end Search

end CallTrace
