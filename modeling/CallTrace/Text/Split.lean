/-!
# Splitting at a separator

A list is cut at every separator, so there is always one part more than there are separators, and no
part holds one.
-/

namespace CallTrace.Text

variable {α : Type} [DecidableEq α]

/-- The parts of a list between separators. -/
def split (separator : α) : List α → List (List α)
  | [] => [[]]
  | item :: rest =>
    if item = separator then
      [] :: split separator rest
    else
      match split separator rest with
      | [] => [[item]]
      | first :: others => (item :: first) :: others

theorem not_mem_of_mem_split {separator : α} {items part : List α}
    (isPart : part ∈ split separator items) : separator ∉ part := by
  induction items generalizing part with
  | nil => simp_all [split]
  | cons item rest hypothesis =>
    grind [split]

theorem split_of_not_mem {separator : α} {part : List α} (clean : separator ∉ part) :
    split separator part = [part] := by
  induction part with
  | nil => rfl
  | cons item later ih =>
    rw [List.mem_cons, not_or] at clean
    rw [split, if_neg (Ne.symm clean.1), ih clean.2]

theorem split_ne_nil (separator : α) (items : List α) : split separator items ≠ [] := by
  cases items with
  | nil => simp [split]
  | cons item rest =>
    rw [split]
    split
    · simp
    · split <;> simp

theorem split_append {separator : α} (first second : List α) :
    split separator (first ++ separator :: second) =
      split separator first ++ split separator second := by
  induction first with
  | nil => simp [split]
  | cons item later ih =>
    rw [List.cons_append, split, split, ih]
    split
    · rfl
    · cases parts : split separator later with
      | nil => exact absurd parts (split_ne_nil separator later)
      | cons part others => rfl

theorem split_append_cons {separator : α} {part : List α} (clean : separator ∉ part)
    (rest : List α) : split separator (part ++ separator :: rest) = part :: split separator rest := by
  rw [split_append, split_of_not_mem clean, List.singleton_append]

/-- Everything but separators is found in some part. -/
theorem exists_mem_split {separator item : α} (apart : item ≠ separator) {items : List α} :
    (∃ part ∈ split separator items, item ∈ part) ↔ item ∈ items := by
  induction items with
  | nil => simp [split]
  | cons first rest ih =>
    rw [List.mem_cons, ← ih, split]
    split
    · rename_i isSeparator
      simp [isSeparator, apart]
    · split
      · rename_i isEmpty
        simp [isEmpty]
      · rename_i part others isCons
        simp [isCons, or_assoc]

end CallTrace.Text
