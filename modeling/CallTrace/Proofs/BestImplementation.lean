import CallTrace.Proofs.Snapshot
import Mathlib.Algebra.Ring.Int.Defs
import Mathlib.Data.List.TakeWhile

/-!
# The best of several implementations

Of the candidates outside interface files the earliest of the longest is taken, when one of these
candidates is more than a signature, and otherwise the earliest of the longest of all. This holds
for any number of candidates, also for a single one, and for any lines, also when a candidate ends
before it starts. A span that is out of the bounds of 64 bits counts as the nearest one within.
-/

namespace CallTrace

/-! ## Interface files -/

/-- Slashes and backslashes separate the names in a path. -/
def IsPathSeparator (character : Char) : Prop :=
  character = '/' ∨ character = '\\'

/-- The part of the path after the last separator, or all of it, begins with a capital `I` and
another capital letter. -/
def NamesInterface (path : String) : Prop :=
  ∃ (folder : List Char) (second : Char) (rest : List Char),
    path.toList = folder ++ 'I' :: second :: rest ∧
      (∀ last, folder.getLast? = some last → IsPathSeparator last) ∧
      (∀ character ∈ second :: rest, ¬IsPathSeparator character) ∧
      Text.isUppercase second = true

private theorem inFileName_eq_true_iff (character : Char) :
    (character != '/' && character != '\\') = true ↔ ¬IsPathSeparator character := by
  simp [IsPathSeparator]

/-- A path ends with the name of its file, which holds no separator and follows one, unless it is
the whole path. -/
theorem exists_folder (path : String) :
    ∃ folder, path.toList = folder ++ fileName path ∧
      (∀ last, folder.getLast? = some last → IsPathSeparator last) ∧
      ∀ character ∈ fileName path, ¬IsPathSeparator character := by
  let isInName (character : Char) : Bool := character != '/' && character != '\\'
  refine ⟨(path.toList.reverse.dropWhile isInName).reverse, ?_, fun last isLast => ?_,
    fun character isThere => ?_⟩
  · rw [fileName, ← List.reverse_append, List.takeWhile_append_dropWhile, List.reverse_reverse]
  · rw [List.getLast?_reverse] at isLast
    have ends := List.head?_dropWhile_not isInName path.toList.reverse
    rw [isLast] at ends
    by_contra isNone
    exact absurd ((inFileName_eq_true_iff last).mpr isNone) (by simpa [isInName] using ends)
  · rw [fileName, List.mem_reverse] at isThere
    exact (inFileName_eq_true_iff character).mp (List.mem_takeWhile_imp (p := isInName) isThere)

theorem fileName_eq {path : String} {folder name : List Char}
    (isPath : path.toList = folder ++ name)
    (ends : ∀ last, folder.getLast? = some last → IsPathSeparator last)
    (clean : ∀ character ∈ name, ¬IsPathSeparator character) : fileName path = name := by
  have inName : ∀ character ∈ name.reverse, (character != '/' && character != '\\') = true :=
    fun character isThere =>
      (inFileName_eq_true_iff character).mpr (clean character (List.mem_reverse.mp isThere))
  rw [fileName, isPath, List.reverse_append, List.takeWhile_append_of_pos inName]
  have stops : folder.reverse.takeWhile (fun character => character != '/' && character != '\\') =
      [] := by
    cases reversed : folder.reverse with
    | nil => rfl
    | cons last before =>
        have isLast : folder.getLast? = some last := by
          rw [← List.head?_reverse, reversed, List.head?_cons]
        have isSeparator := ends last isLast
        rw [List.takeWhile_cons, if_neg]
        exact fun inName => (inFileName_eq_true_iff last).mp inName isSeparator
  rw [stops, List.append_nil, List.reverse_reverse]

theorem isInterfaceFile_eq_true_iff (path : String) :
    isInterfaceFile path = true ↔ NamesInterface path := by
  constructor
  · intro isInterface
    obtain ⟨folder, isPath, ends, clean⟩ := exists_folder path
    rw [isInterfaceFile] at isInterface
    split at isInterface
    · rename_i second rest isName
      rw [isName] at isPath clean
      exact ⟨folder, second, rest, isPath, ends, (List.forall_mem_cons.mp clean).2, isInterface⟩
    · cases isInterface
  · rintro ⟨folder, second, rest, isPath, ends, clean, isUpper⟩
    have cleanName : ∀ character ∈ 'I' :: second :: rest, ¬IsPathSeparator character :=
      List.forall_mem_cons.mpr ⟨by simp [IsPathSeparator], clean⟩
    rw [isInterfaceFile, fileName_eq isPath ends cleanName]
    exact isUpper

instance : DecidablePred NamesInterface := fun path =>
  decidable_of_iff (isInterfaceFile path = true) (isInterfaceFile_eq_true_iff path)

/-! ## Spans -/

theorem toInt_saturate (value : Int) :
    (saturate value).toInt = max (-2 ^ 63) (min (2 ^ 63 - 1) value) := by
  have least : Int64.minValue.toInt = -2 ^ 63 := by decide
  have greatest : Int64.maxValue.toInt = 2 ^ 63 - 1 := by decide
  rw [saturate]
  split
  · omega
  · split
    · omega
    · rw [Int64.toInt_ofInt_of_le (by omega) (by omega)]
      omega

namespace Symbol

/-! ## The earliest of the longest -/

/-- The symbol is the earliest of the longest ones in a list. -/
def IsEarliestLongest (candidates : List Symbol) (best : Symbol) : Prop :=
  ∃ before after, candidates = before ++ best :: after ∧
    (∀ symbol ∈ before, symbol.lineSpan < best.lineSpan) ∧
    ∀ symbol ∈ after, symbol.lineSpan ≤ best.lineSpan

namespace IsEarliestLongest

variable {candidates : List Symbol} {best other first second : Symbol}

theorem mem (isBest : IsEarliestLongest candidates best) : best ∈ candidates := by
  obtain ⟨before, after, rfl, -, -⟩ := isBest
  exact List.mem_append_cons_self

theorem le (isBest : IsEarliestLongest candidates best) (isListed : other ∈ candidates) :
    other.lineSpan ≤ best.lineSpan := by
  obtain ⟨before, after, rfl, shorter, notLonger⟩ := isBest
  rcases List.mem_append.mp isListed with isBefore | isFromBest
  · exact Int64.le_of_lt (shorter other isBefore)
  · rcases List.mem_cons.mp isFromBest with rfl | isAfter
    · exact Int64.le_refl _
    · exact notLonger other isAfter

theorem cons (isBest : IsEarliestLongest candidates best)
    (isShorter : first.lineSpan < best.lineSpan) :
    IsEarliestLongest (first :: candidates) best := by
  obtain ⟨before, after, rfl, shorter, notLonger⟩ := isBest
  exact ⟨first :: before, after, rfl, List.forall_mem_cons.mpr ⟨isShorter, shorter⟩, notLonger⟩

theorem insert (isBest : IsEarliestLongest (first :: candidates) best)
    (notLonger : second.lineSpan ≤ first.lineSpan) :
    IsEarliestLongest (first :: second :: candidates) best := by
  obtain ⟨before, after, listed, shorter, notLongerAfter⟩ := isBest
  cases before with
  | nil =>
      obtain ⟨rfl, rfl⟩ := List.cons.inj listed
      exact ⟨[], second :: candidates, rfl, shorter,
        List.forall_mem_cons.mpr ⟨notLonger, notLongerAfter⟩⟩
  | cons head before =>
      obtain ⟨rfl, rfl⟩ := List.cons.inj listed
      obtain ⟨firstShorter, shorter⟩ := List.forall_mem_cons.mp shorter
      refine ⟨first :: second :: before, after, rfl, ?_, notLongerAfter⟩
      exact List.forall_mem_cons.mpr ⟨firstShorter, List.forall_mem_cons.mpr
        ⟨Int64.lt_of_le_of_lt notLonger firstShorter, shorter⟩⟩

/-- It is the first that is not shorter than itself. -/
theorem find?_eq (isBest : IsEarliestLongest candidates best) :
    candidates.find? (fun symbol => best.lineSpan ≤ symbol.lineSpan) = some best := by
  obtain ⟨before, after, rfl, shorter, -⟩ := isBest
  rw [List.find?_eq_some_iff_append]
  refine ⟨by simp, before, after, rfl, fun symbol isBefore => ?_⟩
  simpa [Int64.not_le] using shorter symbol isBefore

theorem unique (isBest : IsEarliestLongest candidates best)
    (isOther : IsEarliestLongest candidates other) : best = other := by
  have sameSpan : best.lineSpan = other.lineSpan :=
    Int64.le_antisymm (isOther.le isBest.mem) (isBest.le isOther.mem)
  have found := isBest.find?_eq
  rw [sameSpan, isOther.find?_eq] at found
  exact (Option.some.inj found).symm

end IsEarliestLongest

theorem isEarliestLongest_foldl (rest : List Symbol) (first : Symbol) :
    IsEarliestLongest (first :: rest) (rest.foldl longer first) := by
  induction rest generalizing first with
  | nil => exact ⟨[], [], rfl, by simp, by simp⟩
  | cons second rest ih =>
      rw [List.foldl_cons, longer]
      split
      · rename_i notLonger
        exact (ih first).insert notLonger
      · rename_i isLonger
        have best := ih second
        exact best.cons (Int64.lt_of_lt_of_le (Int64.not_le.mp isLonger)
          (best.le List.mem_cons_self))

theorem isEarliestLongest_of_longest {candidates : List Symbol} {best : Symbol}
    (isLongest : longest candidates = some best) : IsEarliestLongest candidates best := by
  cases candidates with
  | nil => cases isLongest
  | cons first rest =>
      cases isLongest
      exact isEarliestLongest_foldl rest first

theorem longest_eq_none_iff {candidates : List Symbol} :
    longest candidates = none ↔ candidates = [] := by
  cases candidates <;> simp [longest]

/-! ## The choice -/

/-- The symbol is more than a signature, and it does not lie in an interface file. -/
def HasBody (symbol : Symbol) : Prop :=
  ¬NamesInterface symbol.filePath ∧ 3 ≤ symbol.lineSpan

/-- What is chosen among candidates. -/
inductive IsBestOf (candidates : List Symbol) : Option Symbol → Prop where
  /-- Nothing, when there are none. -/
  | nothing (isEmpty : candidates = []) : IsBestOf candidates none
  /-- The earliest of the longest outside interface files, when one of these is more than a
  signature. -/
  | body {best : Symbol} (hasBody : ∃ symbol ∈ candidates, symbol.HasBody)
      (isLongest : IsEarliestLongest
        (candidates.filter fun symbol => ¬NamesInterface symbol.filePath) best) :
      IsBestOf candidates (some best)
  /-- Otherwise the earliest of the longest of all. -/
  | signature {best : Symbol} (noBody : ∀ symbol ∈ candidates, ¬symbol.HasBody)
      (isLongest : IsEarliestLongest candidates best) : IsBestOf candidates (some best)

theorem IsBestOf.unique {candidates : List Symbol} {first second : Option Symbol}
    (left : IsBestOf candidates first) (right : IsBestOf candidates second) : first = second := by
  have notBoth (hasBody : ∃ symbol ∈ candidates, symbol.HasBody)
      (noBody : ∀ symbol ∈ candidates, ¬symbol.HasBody) : False := by
    obtain ⟨symbol, isListed, body⟩ := hasBody
    exact noBody symbol isListed body
  cases left with
  | nothing isEmpty =>
      subst isEmpty
      cases right with
      | nothing => rfl
      | body _ isLongest => cases isLongest.mem
      | signature _ isLongest => cases isLongest.mem
  | body hasBody isLongest =>
      cases right with
      | nothing isEmpty => subst isEmpty; cases isLongest.mem
      | body _ isLongestToo => exact congrArg some (isLongest.unique isLongestToo)
      | signature noBody _ => exact (notBoth hasBody noBody).elim
  | signature noBody isLongest =>
      cases right with
      | nothing isEmpty => subst isEmpty; cases isLongest.mem
      | body hasBody _ => exact (notBoth hasBody noBody).elim
      | signature _ isLongestToo => exact congrArg some (isLongest.unique isLongestToo)

theorem filter_outside_eq (candidates : List Symbol) :
    (candidates.filter fun symbol => !isInterfaceFile symbol.filePath) =
      candidates.filter fun symbol => ¬NamesInterface symbol.filePath := by
  refine List.filter_congr fun symbol _ => ?_
  rw [Bool.eq_iff_iff, decide_eq_true_iff, ← isInterfaceFile_eq_true_iff]
  simp

theorem isBestOf_longest {candidates : List Symbol}
    (noBody : ∀ symbol ∈ candidates, ¬symbol.HasBody) :
    IsBestOf candidates (longest candidates) := by
  cases isLongest : longest candidates with
  | none => exact .nothing (longest_eq_none_iff.mp isLongest)
  | some best => exact .signature noBody (isEarliestLongest_of_longest isLongest)

theorem isBestOf_singleton (only : Symbol) : IsBestOf [only] (some only) := by
  have alone : IsEarliestLongest [only] only := isEarliestLongest_foldl [] only
  by_cases hasBody : only.HasBody
  · refine .body ⟨only, List.mem_singleton_self only, hasBody⟩ ?_
    rwa [List.filter_singleton, decide_eq_true hasBody.1]
  · exact .signature (List.forall_mem_singleton.mpr hasBody) alone

theorem bestImplementation_isBestOf (candidates : List Symbol) :
    IsBestOf candidates (bestImplementation candidates) := by
  unfold bestImplementation
  split
  · exact isBestOf_singleton _
  · rw [filter_outside_eq]
    split
    · rename_i best isLongest
      have isBest := isEarliestLongest_of_longest isLongest
      obtain ⟨isListed, isOutside⟩ := List.mem_filter.mp isBest.mem
      split
      · rename_i isLong
        exact .body ⟨best, isListed, of_decide_eq_true isOutside, isLong⟩ isBest
      · rename_i isShort
        refine isBestOf_longest fun symbol isListed hasBody => isShort ?_
        exact Int64.le_trans hasBody.2
          (isBest.le (List.mem_filter.mpr ⟨isListed, decide_eq_true hasBody.1⟩))
    · rename_i isNone
      have noneOutside := List.filter_eq_nil_iff.mp (longest_eq_none_iff.mp isNone)
      exact isBestOf_longest fun symbol isListed hasBody =>
        noneOutside symbol isListed (decide_eq_true hasBody.1)

/-- The best implementation of any candidates is what `IsBestOf` describes, so it exists unless
there are none, and a single candidate is no exception. The span of a symbol is the difference of
its lines, brought within the bounds of 64 bits. -/
theorem bestImplementation_eq_iff :
    (∀ (candidates : List Symbol) (found : Option Symbol),
      bestImplementation candidates = found ↔ IsBestOf candidates found) ∧
    ∀ symbol : Symbol, symbol.lineSpan.toInt =
      max (-2 ^ 63) (min (2 ^ 63 - 1) (symbol.endLine.toInt - symbol.startLine.toInt)) := by
  refine ⟨fun candidates found => ⟨?_, ?_⟩, fun symbol => toInt_saturate _⟩
  · rintro rfl
    exact bestImplementation_isBestOf candidates
  · exact (bestImplementation_isBestOf candidates).unique

end Symbol

end CallTrace
