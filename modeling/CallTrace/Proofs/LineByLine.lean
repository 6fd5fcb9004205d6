import CallTrace.Proofs.SingleLine
import CallTrace.Server.Lines

/-!
# Serving line by line

A server keeps a state, passes over blank lines and responds to all others, one after another.
Whatever it does with each line, lines that leave its state as it was can be deleted from the input
without a change to the responses to the others.
-/

namespace CallTrace.Server

/-- A line of input with the response to it, if it gets one, and the state of the server before and
after it. -/
structure Exchange (σ ρ : Type) where
  /-- The line. -/
  line : String
  /-- The state before the line. -/
  before : σ
  /-- The response. -/
  response? : Option ρ
  /-- The state after the line. -/
  after : σ

/-- Some lines with which something is idle have been deleted from the input. -/
inductive Exchange.Thinned {σ ρ : Type} (idle : Exchange σ ρ → Prop) :
    List (Exchange σ ρ) → List (Exchange σ ρ) → Prop where
  /-- There is no line. -/
  | nil : Thinned idle [] []
  /-- A line is kept. -/
  | keep {exchanges kept : List (Exchange σ ρ)} (exchange : Exchange σ ρ)
      (rest : Thinned idle exchanges kept) :
      Thinned idle (exchange :: exchanges) (exchange :: kept)
  /-- An idle line is deleted. -/
  | drop {exchanges kept : List (Exchange σ ρ)} {exchange : Exchange σ ρ} (isIdle : idle exchange)
      (rest : Thinned idle exchanges kept) : Thinned idle (exchange :: exchanges) kept

/-- The server goes through some lines one after another, doing with each line that is not blank
what it does with a line. -/
inductive Serves {σ ρ : Type} (responds : σ → String → Option ρ → σ → Prop) :
    σ → List (Exchange σ ρ) → σ → Prop where
  /-- The input has ended. -/
  | done (state : σ) : Serves responds state [] state
  /-- A blank line is passed over. -/
  | skip {state final : σ} {line : String} {rest : List (Exchange σ ρ)}
      (blank : Text.allBlank line = true) (serves : Serves responds state rest final) :
      Serves responds state (⟨line, state, none, state⟩ :: rest) final
  /-- Any other line is responded to. -/
  | respond {state after final : σ} {line : String} {response? : Option ρ}
      {rest : List (Exchange σ ρ)} (asks : Text.allBlank line = false)
      (response : responds state line response? after)
      (serves : Serves responds after rest final) :
      Serves responds state (⟨line, state, response?, after⟩ :: rest) final

variable {σ ρ : Type} {responds : σ → String → Option ρ → σ → Prop}

/-- A server that responds to every line that is not blank goes through all lines. -/
theorem exists_serves
    (total : ∀ state line, Text.allBlank line = false →
      ∃ response? after, responds state line response? after) (state : σ) (lines : List String) :
    ∃ exchanges final, exchanges.map Exchange.line = lines ∧
      Serves responds state exchanges final := by
  induction lines generalizing state with
  | nil => exact ⟨[], state, rfl, .done state⟩
  | cons line rest ih =>
      cases blank : Text.allBlank line with
      | true =>
          obtain ⟨exchanges, final, sameLines, serves⟩ := ih state
          exact ⟨⟨line, state, none, state⟩ :: exchanges, final,
            congrArg (line :: ·) sameLines, .skip blank serves⟩
      | false =>
          obtain ⟨response?, after, response⟩ := total state line blank
          obtain ⟨exchanges, final, sameLines, serves⟩ := ih after
          exact ⟨⟨line, state, response?, after⟩ :: exchanges, final,
            congrArg (line :: ·) sameLines, .respond blank response serves⟩

namespace Serves

variable {state final : σ} {exchanges kept : List (Exchange σ ρ)}

/-- What holds of a blank line and of every response holds of all lines. -/
theorem forall_exchanges (serves : Serves responds state exchanges final)
    {holds : Exchange σ ρ → Prop}
    (blank : ∀ line state, Text.allBlank line = true → holds ⟨line, state, none, state⟩)
    (answered : ∀ line state response? after, Text.allBlank line = false →
      responds state line response? after → holds ⟨line, state, response?, after⟩) :
    ∀ exchange ∈ exchanges, holds exchange := by
  induction serves with
  | done state => exact fun _ member => absurd member List.not_mem_nil
  | skip isBlank _ ih => exact List.forall_mem_cons.mpr ⟨blank _ _ isBlank, ih⟩
  | respond asks response _ ih =>
      exact List.forall_mem_cons.mpr ⟨answered _ _ _ _ asks response, ih⟩

/-- Without some lines that leave the state as it was, the others get the same responses, and the
same is left behind. -/
theorem thinned {idle : Exchange σ ρ → Prop} (serves : Serves responds state exchanges final)
    (stays : ∀ exchange ∈ exchanges, idle exchange → exchange.after = exchange.before)
    (thinned : Exchange.Thinned idle exchanges kept) : Serves responds state kept final := by
  induction serves generalizing kept with
  | done state =>
      cases thinned
      exact .done state
  | skip blank _ ih =>
      obtain ⟨-, later⟩ := List.forall_mem_cons.mp stays
      cases thinned with
      | keep exchange rest => exact .skip blank (ih later rest)
      | drop isIdle rest => exact ih later rest
  | @respond state after final line response? rest asks response _ ih =>
      obtain ⟨first, later⟩ := List.forall_mem_cons.mp stays
      cases thinned with
      | keep exchange rest => exact .respond asks response (ih later rest)
      | drop isIdle rest =>
          have same : after = state := first isIdle
          exact same ▸ ih later rest

/-- A function that collects the responses one after another collects those that the lines have
got. -/
theorem collected {δ : Type} {collect : σ → List String → δ} (result : List ρ → σ → δ)
    (nil : ∀ state, collect state [] = result [] state)
    (cons : ∀ {state line response? after rest responses final},
      responds state line response? after → collect after rest = result responses final →
        collect state (line :: rest) = result (response?.toList ++ responses) final)
    (serves : Serves responds state exchanges final) :
    collect state (requestLines (exchanges.map Exchange.line)) =
      result (exchanges.filterMap Exchange.response?) final := by
  induction serves with
  | done state => exact nil state
  | skip blank _ ih => simpa [requestLines, blank] using ih
  | @respond state after final line response? rest asks response _ ih =>
      simp only [requestLines] at ih
      simp only [requestLines, List.map_cons, List.filter_cons, asks, Bool.not_false, if_true,
        List.filterMap_cons]
      rw [cons response ih]
      cases response? <;> rfl

end Serves

/-- What is printed: each text on a line of its own. -/
def printed (texts : List String) : String :=
  String.join (texts.map fun text => text ++ "\n")

theorem split_printed {α : Type} {text : α → String} (single : ∀ item, IsSingleLine (text item))
    (items : List α) :
    Text.split '\n' (printed (items.map text)).toList =
      items.map (fun item => (text item).toList) ++ [[]] := by
  have areSingle : ∀ line ∈ items.map text, IsSingleLine line :=
    List.forall_mem_map.mpr fun item _ => single item
  rw [printed, split_join_lines areSingle, List.map_map]
  rfl

end CallTrace.Server
