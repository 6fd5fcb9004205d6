import CallTrace.Proofs.Directories

/-!
# How paths are spelled

A path can be spelled in many ways with the same components: slashes may be doubled, single dots may
stand between them, and a slash may stand at the end. Where one of these spellings leads to a
directory all of them do, the same files are seen from them, and the directory gives the text by
which the workspace is known. The text of a location gives the location back. Backslashes do not
stay apart from slashes in that text.
-/

namespace CallTrace

/-! ## Texts of locations -/

namespace Text

/-- Parts that are joined by a separator are found again by splitting. -/
theorem split_intercalate {α : Type} [DecidableEq α] {separator : α} {parts : List (List α)}
    (clean : ∀ part ∈ parts, separator ∉ part) (nonempty : parts ≠ []) :
    split separator ([separator].intercalate parts) = parts := by
  induction parts with
  | nil => exact absurd rfl nonempty
  | cons first rest ih =>
      obtain ⟨firstClean, restClean⟩ := List.forall_mem_cons.mp clean
      cases rest with
      | nil => simpa using split_of_not_mem firstClean
      | cons second others =>
          rw [List.intercalate_cons_cons, List.append_assoc, List.singleton_append,
            split_append_cons firstClean, ih restClean (by simp)]

end Text

namespace Location

theorem toList_toText (location : Location) :
    location.toText.toList = '/' :: ['/'].intercalate (location.map String.toList) := by
  rw [toText, String.toList_append, String.toList_intercalate]
  rfl

theorem filter_split_toText {location : Location} (names : ∀ name ∈ location, Path.isName name) :
    ((Text.split '/' location.toText.toList).filter fun part => !part.isEmpty) =
      location.map String.toList := by
  have clean : ∀ part ∈ location.map String.toList, '/' ∉ part := by
    intro part member
    obtain ⟨name, isName, rfl⟩ := List.mem_map.mp member
    have named := names name isName
    simp_all [Path.isName]
  have nonempty : ∀ part ∈ location.map String.toList, (!part.isEmpty) = true := by
    intro part member
    obtain ⟨name, isName, rfl⟩ := List.mem_map.mp member
    have named := names name isName
    simp_all [Path.isName, Path.isIdle]
  rw [toList_toText, Text.split, if_pos rfl, List.filter_cons_of_neg (by simp)]
  by_cases isRoot : location = []
  · subst isRoot
    rfl
  · rw [Text.split_intercalate clean (by simpa using isRoot)]
    exact List.filter_eq_self.mpr nonempty

theorem toText_injective {left right : Location} (leftNames : ∀ name ∈ left, Path.isName name)
    (rightNames : ∀ name ∈ right, Path.isName name) (same : left.toText = right.toText) :
    left = right := by
  have parts := filter_split_toText leftNames
  rw [same, filter_split_toText rightNames] at parts
  exact ((List.map_inj_right fun _ _ same => String.toList_injective same).mp parts).symm

/-- No name on the way to the location holds a backslash. -/
def IsPlain (location : Location) : Prop :=
  ∀ name ∈ location, '\\' ∉ name.toList

end Location

/-! ## Paths with the same components -/

namespace Path

/-- The pieces that count wherever they stand. -/
def significant (path : Path) : List String :=
  path.pieces.filter fun piece => !isIdle piece

/-- The component of a piece that counts. -/
def component (piece : String) : Component :=
  if piece = ".." then .up else .name piece

theorem component_injective {left right : String} (same : component left = component right) :
    left = right := by
  unfold component at same
  split at same <;> split at same <;> simp_all

/-- The component with which a path begins, if that is a slash or a dot. -/
def anchor? (path : Path) : Option Component :=
  if path.isAbsolute then some .root
  else if path.pieces.head? = some "." then some .here
  else none

theorem filterMap_innerComponent? (pieces : List String) :
    pieces.filterMap innerComponent? =
      (pieces.filter fun piece => !isIdle piece).map component := by
  induction pieces with
  | nil => rfl
  | cons piece rest ih =>
      by_cases idle : isIdle piece
      · rw [List.filterMap_cons_none (by rw [innerComponent?, if_pos idle]), ih,
          List.filter_cons_of_neg (by simp [idle])]
      · have counts : innerComponent? piece = some (component piece) := by
          rw [innerComponent?, if_neg idle, component]
          split <;> rfl
        rw [List.filterMap_cons_some counts, ih, List.filter_cons_of_pos (by simp [idle]),
          List.map_cons]

/-- The first piece is empty just when the path is absolute or empty itself. -/
theorem exists_pieces (path : Path) :
    ∃ first rest, path.pieces = first :: rest ∧
      (first = "" ↔ path.isAbsolute = true ∨ path.text.isEmpty = true) := by
  rw [pieces, isAbsolute, String.isEmpty_iff, ← String.toList_eq_nil_iff]
  cases path.text.toList with
  | nil => exact ⟨"", [], rfl, by simp⟩
  | cons character rest =>
      rw [Text.split]
      by_cases isSlash : character = '/'
      · rw [if_pos isSlash]
        exact ⟨"", _, rfl, by simp [isSlash]⟩
      · rw [if_neg isSlash]
        cases Text.split '/' rest with
        | nil => exact ⟨_, [], rfl, by simp [isSlash]⟩
        | cons part others => exact ⟨_, _, rfl, by simp [isSlash]⟩

theorem components_eq (path : Path) :
    path.components = path.anchor?.toList ++ path.significant.map component := by
  obtain ⟨first, rest, pieces, isEmpty⟩ := path.exists_pieces
  rw [components, anchor?, significant, pieces]
  by_cases absolute : path.isAbsolute = true
  · have idle : isIdle first = true := by simp [isEmpty.mpr (.inl absolute), isIdle]
    simp [absolute, filterMap_innerComponent?, idle]
  · by_cases isHere : first = "."
    · simp [absolute, filterMap_innerComponent?, isHere, isIdle]
    · simp [absolute, filterMap_innerComponent?, isHere]

/-- Paths with the same components begin alike and have the same pieces that count. -/
theorem same_iff {left right : Path} :
    left.same right = true ↔
      left.anchor? = right.anchor? ∧ left.significant = right.significant := by
  have pieces {first second : List String} (equal : first.map component = second.map component) :
      first = second :=
    (List.map_inj_right fun _ _ => component_injective).mp equal
  -- No piece of its own has the component with which a path may begin.
  have anchored {path : Path} {anchor : Component} (isAnchor : path.anchor? = some anchor)
      (first : List String) (rest : List Component) : first.map component ≠ anchor :: rest := by
    intro equal
    obtain ⟨piece, others, -, isComponent, -⟩ := List.map_eq_cons_iff.mp equal
    rw [anchor?] at isAnchor
    rw [component] at isComponent
    grind
  rw [same, beq_iff_eq, components_eq, components_eq]
  refine ⟨fun equal => ?_, fun ⟨anchors, pieces⟩ => by rw [anchors, pieces]⟩
  cases leftAnchor : left.anchor? with
  | none =>
      cases rightAnchor : right.anchor? with
      | none =>
          rw [leftAnchor, rightAnchor] at equal
          exact ⟨rfl, pieces equal⟩
      | some anchor =>
          rw [leftAnchor, rightAnchor] at equal
          exact absurd equal (anchored rightAnchor _ _)
  | some anchor =>
      cases rightAnchor : right.anchor? with
      | none =>
          rw [leftAnchor, rightAnchor] at equal
          exact absurd equal.symm (anchored leftAnchor _ _)
      | some other =>
          rw [leftAnchor, rightAnchor] at equal
          obtain ⟨anchors, rest⟩ := List.cons.inj equal
          exact ⟨congrArg some anchors, pieces rest⟩

section Same

variable {left right : Path}

theorem same_comm : left.same right = right.same left :=
  BEq.comm

theorem isAbsolute_iff (path : Path) : path.isAbsolute = true ↔ path.anchor? = some .root := by
  unfold anchor?
  split
  · simp_all
  · split <;> simp_all

theorem isAbsolute_eq_of_same (same : left.same right = true) :
    left.isAbsolute = right.isAbsolute := by
  rw [Bool.eq_iff_iff, isAbsolute_iff, isAbsolute_iff, (same_iff.mp same).1]

theorem isEmpty_iff (path : Path) :
    path.text.isEmpty = true ↔ path.anchor? = none ∧ path.significant = [] := by
  constructor
  · intro isEmpty
    obtain rfl : path = ⟨""⟩ := congrArg Path.mk (String.isEmpty_iff.mp isEmpty)
    exact ⟨by decide, by decide⟩
  · rintro ⟨unanchored, nothing⟩
    obtain ⟨first, rest, pieces, isEmpty⟩ := path.exists_pieces
    have relative : path.isAbsolute ≠ true := fun absolute => by
      rw [(isAbsolute_iff path).mp absolute] at unanchored
      cases unanchored
    have idle : isIdle first = true := by
      rw [significant, pieces] at nothing
      simpa using List.filter_eq_nil_iff.mp nothing first List.mem_cons_self
    have notHere : first ≠ "." := by
      rintro rfl
      simp [anchor?, relative, pieces] at unanchored
    refine (isEmpty.mp ?_).resolve_left relative
    simpa [isIdle, notHere] using idle

theorem isEmpty_eq_of_same (same : left.same right = true) :
    left.text.isEmpty = right.text.isEmpty := by
  obtain ⟨anchors, pieces⟩ := same_iff.mp same
  rw [Bool.eq_iff_iff, isEmpty_iff, isEmpty_iff, anchors, pieces]

theorem holdsZero_iff (path : Path) :
    path.holdsZero = true ↔ ∃ piece ∈ path.significant, '\x00' ∈ piece.toList := by
  rw [holdsZero, List.contains_iff_mem, ← Text.exists_mem_split (by decide : '\x00' ≠ '/')]
  simp only [significant, pieces, List.mem_filter, List.mem_map]
  constructor
  · rintro ⟨part, isPart, member⟩
    refine ⟨String.ofList part, ⟨⟨part, isPart, rfl⟩, ?_⟩, by rwa [String.toList_ofList]⟩
    -- Neither nothing nor a dot holds the character.
    rw [isIdle, Bool.not_eq_true', Bool.or_eq_false_iff, beq_eq_false_iff_ne, beq_eq_false_iff_ne]
    refine ⟨fun isEmpty => ?_, fun isDot => ?_⟩
    · rw [← String.toList_ofList (l := part), isEmpty] at member
      simp at member
    · rw [← String.toList_ofList (l := part), isDot] at member
      exact absurd member (by decide)
  · rintro ⟨piece, ⟨⟨part, isPart, rfl⟩, -⟩, member⟩
    exact ⟨part, isPart, by rwa [String.toList_ofList] at member⟩

theorem holdsZero_eq_of_same (same : left.same right = true) :
    left.holdsZero = right.holdsZero := by
  rw [Bool.eq_iff_iff, holdsZero_iff, holdsZero_iff, (same_iff.mp same).2]

end Same

/-- The text of a path that is joined to another one, cut at the slash between them. -/
theorem exists_toList_join {base path : Path} (relative : path.isAbsolute = false)
    (written : base.text.isEmpty = false) :
    ∃ front, (base.join path).text.toList = front ++ '/' :: path.text.toList ∧
      (base.text.toList = front ∨ base.text.toList = front ++ ['/']) := by
  rw [join, if_neg (by simp [relative]), written, Bool.false_or]
  split
  · rename_i ends
    rw [endsWithSlash, beq_iff_eq] at ends
    obtain ⟨front, isBase⟩ := List.getLast?_eq_some_iff.mp ends
    exact ⟨front, by simp [isBase], .inr isBase⟩
  · exact ⟨base.text.toList, by simp, .inl rfl⟩

/-- The path is not too long to be followed. -/
def IsShort (path : Path) : Prop :=
  path.text.utf8ByteSize ≤ maxPathBytes

end Path

/-! ## Where paths lead -/

namespace FileSystem

variable {system : FileSystem} {path left right : Path} {location : Location}

/-- The path leads to a directory. -/
structure LeadsToDirectory (system : FileSystem) (path : Path) (location : Location) : Prop where
  /-- The path leads to the location. -/
  reaches : system.walk path = .ok location
  /-- A directory lies there. -/
  isThere : system.get? location = some .directory

/-- The path leads to no location at which something lies. -/
def LeadsNowhere (system : FileSystem) (path : Path) : Prop :=
  ∀ location, system.walk path = .ok location → system.get? location = none

theorem walk_eq_ok_iff :
    system.walk path = .ok location ↔ path.holdsZero = false ∧ path.text.isEmpty = false ∧
      path.pieces.foldlM system.step (system.origin path) = .ok location := by
  rw [walk]
  split
  · simp_all
  · split <;> simp_all

theorem isDirectory_of_step {start next : Location} {piece : String}
    (leads : system.step start piece = .ok next) : system.get? start = some .directory := by
  rw [step] at leads
  split at leads
  · cases leads
  · assumption
  · cases leads

theorem isDirectory_of_foldlM_pieces {start : Location}
    (reaches : path.pieces.foldlM system.step start = .ok location) :
    system.get? start = some .directory := by
  obtain ⟨first, rest, pieces, -⟩ := path.exists_pieces
  rw [pieces, List.foldlM_cons] at reaches
  cases leads : system.step start first with
  | error fault =>
      rw [leads] at reaches
      cases reaches
  | ok next => exact isDirectory_of_step leads

theorem isDirectory_of_foldlM_step {start reached : Location} {pieces : List String}
    (reaches : pieces.foldlM system.step start = .ok reached)
    (isThere : system.get? reached = some .directory) :
    system.get? start = some .directory := by
  cases pieces with
  | nil =>
      cases reaches
      exact isThere
  | cons piece rest =>
      rw [List.foldlM_cons] at reaches
      cases leads : system.step start piece with
      | error fault =>
          rw [leads] at reaches
          cases reaches
      | ok next => exact isDirectory_of_step leads

/-- Pieces that do not count are idle on the way to a directory. -/
theorem foldlM_step_filter {start reached : Location} (pieces : List String)
    (isThere : system.get? reached = some .directory) :
    pieces.foldlM system.step start = .ok reached ↔
      (pieces.filter fun piece => !Path.isIdle piece).foldlM system.step start = .ok reached := by
  induction pieces generalizing start with
  | nil => exact Iff.rfl
  | cons piece rest ih =>
      by_cases idle : Path.isIdle piece
      · rw [List.filter_cons_of_neg (by simp [idle]), List.foldlM_cons]
        constructor
        · intro reaches
          cases stays : system.step start piece with
          | error fault =>
              rw [stays] at reaches
              cases reaches
          | ok next =>
              rw [stays] at reaches
              have same : next = start := by
                rw [step] at stays
                split at stays
                · cases stays
                · rw [if_pos idle] at stays
                  exact (Except.ok.inj stays).symm
                · cases stays
              exact ih.mp (same ▸ reaches)
        · intro reaches
          have found := isDirectory_of_foldlM_step reaches isThere
          have stays : system.step start piece = .ok start := by
            rw [step, found]
            exact if_pos idle
          rw [stays]
          exact ih.mpr reaches
      · rw [List.filter_cons_of_pos (by simp [idle]), List.foldlM_cons, List.foldlM_cons]
        cases system.step start piece with
        | error fault => exact Iff.rfl
        | ok next => exact ih

theorem leadsToDirectory_iff :
    system.LeadsToDirectory path location ↔ path.holdsZero = false ∧ path.text.isEmpty = false ∧
      path.significant.foldlM system.step (system.origin path) = .ok location ∧
        system.get? location = some .directory := by
  constructor
  · rintro ⟨reaches, isThere⟩
    rw [walk_eq_ok_iff, foldlM_step_filter _ isThere] at reaches
    obtain ⟨clean, written, reaches⟩ := reaches
    exact ⟨clean, written, reaches, isThere⟩
  · rintro ⟨clean, written, reaches, isThere⟩
    refine ⟨?_, isThere⟩
    rw [walk_eq_ok_iff, foldlM_step_filter _ isThere]
    exact ⟨clean, written, reaches⟩

theorem leadsToDirectory_root (system : FileSystem) : system.LeadsToDirectory ⟨"/"⟩ [] :=
  leadsToDirectory_iff.mpr ⟨by decide, by decide, rfl, rfl⟩

theorem LeadsToDirectory.of_same (leads : system.LeadsToDirectory left location)
    (same : left.same right = true) : system.LeadsToDirectory right location := by
  rw [leadsToDirectory_iff] at leads ⊢
  rwa [← Path.holdsZero_eq_of_same same, ← Path.isEmpty_eq_of_same same,
    ← (Path.same_iff.mp same).2, origin, ← Path.isAbsolute_eq_of_same same, ← origin]

theorem leadsToDirectory_iff_of_same (same : left.same right = true) :
    system.LeadsToDirectory left location ↔ system.LeadsToDirectory right location :=
  ⟨fun leads => leads.of_same same, fun leads => leads.of_same (Path.same_comm.trans same)⟩

theorem LeadsToDirectory.mono {before after : FileSystem}
    (leads : before.LeadsToDirectory path location) (keeps : KeepsDirectories before after) :
    after.LeadsToDirectory path location :=
  ⟨keeps.walk leads.reaches, keeps.directory location leads.isThere⟩

theorem LeadsToDirectory.isName (leads : system.LeadsToDirectory path location) :
    ∀ name ∈ location, Path.isName name :=
  system.isName_of_mem_walk leads.reaches

/-! ## Locations by their text -/

theorem textualLocation_eq (system : FileSystem) (path : Path) :
    system.textualLocation path = path.significant.foldl textualStep (system.origin path) := by
  have ends (start : Location) (pieces : List String) :
      (textualWalk start pieces).getLast?.getD start = pieces.foldl textualStep start := by
    induction pieces generalizing start with
    | nil => rfl
    | cons piece rest ih =>
        rw [textualWalk, List.getLast?_cons, Option.getD_some, ih, List.foldl_cons]
  have idle (start : Location) (pieces : List String) : pieces.foldl textualStep start =
      (pieces.filter fun piece => !Path.isIdle piece).foldl textualStep start := by
    induction pieces generalizing start with
    | nil => rfl
    | cons piece rest ih =>
        by_cases isIdle : Path.isIdle piece
        · rw [List.filter_cons_of_neg (by simp [isIdle]), List.foldl_cons, textualStep,
            if_pos isIdle, ih]
        · rw [List.filter_cons_of_pos (by simp [isIdle]), List.foldl_cons, List.foldl_cons, ih]
  rw [textualLocation, textualTrail, ends, idle, Path.significant]

theorem textualLocation_eq_of_same (system : FileSystem) (same : left.same right = true) :
    system.textualLocation left = system.textualLocation right := by
  rw [textualLocation_eq, textualLocation_eq, (Path.same_iff.mp same).2, origin, origin,
    Path.isAbsolute_eq_of_same same]

theorem databaseLocation?_eq_some {file : Path}
    (found : system.databaseLocation? file = some location) :
    location = system.textualLocation file := by
  rw [databaseLocation?] at found
  split at found
  · exact (Option.some.inj found).symm
  · cases found

/-! ## Paths seen from others -/

/-- A path that is joined to another one leads somewhere just when the other one leads to a
directory, and its own pieces lead on from there. -/
theorem walk_join_eq_ok_iff {base path : Path} (relative : path.isAbsolute = false)
    (written : base.text.isEmpty = false) :
    system.walk (base.join path) = .ok location ↔
      ∃ place, system.LeadsToDirectory base place ∧ path.holdsZero = false ∧
        path.pieces.foldlM system.step place = .ok location := by
  obtain ⟨front, joined, isBase⟩ := Path.exists_toList_join relative written
  have holdsZero : (base.join path).holdsZero = (base.holdsZero || path.holdsZero) := by
    rw [Path.holdsZero, Path.holdsZero, Path.holdsZero, joined]
    obtain isBase | isBase := isBase <;> simp [isBase]
  have isAbsolute : (base.join path).isAbsolute = base.isAbsolute := by
    rw [Path.isAbsolute, Path.isAbsolute, joined]
    obtain isBase | isBase := isBase
    · rw [isBase]
      cases front with
      | nil => simp [String.toList_eq_nil_iff.mp isBase] at written
      | cons character rest => rfl
    · rw [isBase]
      cases front <;> rfl
  have joinedWritten : (base.join path).text.isEmpty = false := by
    rw [Bool.eq_false_iff, ne_eq, String.isEmpty_iff, ← String.toList_eq_nil_iff, joined]
    simp
  let before := (Text.split '/' front).map String.ofList
  have pieces : (base.join path).pieces = before ++ path.pieces := by
    rw [Path.pieces, joined, Text.split_append, List.map_append, Path.pieces]
  have significant : base.significant = before.filter fun piece => !Path.isIdle piece := by
    rw [Path.significant, Path.pieces]
    obtain isBase | isBase := isBase
    · rw [isBase]
    · rw [isBase, Text.split_append]
      simp [before, Text.split, Path.isIdle]
  rw [walk_eq_ok_iff, holdsZero, joinedWritten, origin, isAbsolute, ← origin, pieces,
    List.foldlM_append, Bool.or_eq_false_iff]
  constructor
  · rintro ⟨⟨baseClean, clean⟩, -, reaches⟩
    cases toPlace : before.foldlM system.step (system.origin base) with
    | error fault =>
        rw [toPlace] at reaches
        cases reaches
    | ok place =>
        rw [toPlace] at reaches
        have isThere := isDirectory_of_foldlM_pieces reaches
        refine ⟨place, leadsToDirectory_iff.mpr ⟨baseClean, written, ?_, isThere⟩, clean, reaches⟩
        rw [significant]
        exact (foldlM_step_filter before isThere).mp toPlace
  · rintro ⟨place, leads, clean, reaches⟩
    obtain ⟨baseClean, -, toPlace, isThere⟩ := leadsToDirectory_iff.mp leads
    rw [significant, ← foldlM_step_filter before isThere] at toPlace
    exact ⟨⟨baseClean, clean⟩, rfl, by rw [toPlace]; exact reaches⟩

theorem readText_eq_ok_iff {text : String} (short : path.IsShort) :
    system.readText path = .ok text ↔ ∃ location content, system.walk path = .ok location ∧
      system.get? location = some (.file content) ∧ String.fromUTF8? content = some text := by
  have located : system.locate path = system.walk path := by
    rw [locate, if_neg (by simp [Nat.not_lt.mpr short])]
  rw [readText, find, located]
  cases system.walk path with
  | error fault => simp [bind, Except.bind]
  | ok location =>
      simp only [bind, Except.bind, Except.ok.injEq, exists_and_left, exists_eq_left']
      cases system.get? location with
      | none => simp
      | some entry =>
          cases entry with
          | directory => simp
          | database content => simp
          | file content => cases decoded : String.fromUTF8? content <;> simp [decoded]

/-- A file that is seen from some path is seen from all paths with the same components, unless one of
the joined paths is too long. -/
theorem readText_resolveFrom_of_same (system : FileSystem) (same : left.same right = true)
    (leftShort : (left.resolveFrom path).IsShort) (rightShort : (right.resolveFrom path).IsShort)
    (text : String) :
    system.readText (left.resolveFrom path) = .ok text ↔
      system.readText (right.resolveFrom path) = .ok text := by
  rw [readText_eq_ok_iff leftShort, readText_eq_ok_iff rightShort, Path.resolveFrom,
    Path.resolveFrom]
  cases absolute : path.isAbsolute with
  | true => rfl
  | false =>
      have isEmpty := Path.isEmpty_eq_of_same same
      simp only [Bool.false_eq_true, if_false]
      cases written : left.text.isEmpty with
      | true =>
          rw [written] at isEmpty
          have equal : left.text = right.text :=
            (String.isEmpty_iff.mp written).trans (String.isEmpty_iff.mp isEmpty.symm).symm
          rw [Path.join, Path.join, Path.endsWithSlash, Path.endsWithSlash, equal]
      | false =>
          rw [written] at isEmpty
          simp only [walk_join_eq_ok_iff absolute written, walk_join_eq_ok_iff absolute isEmpty.symm,
            leadsToDirectory_iff_of_same same]

/-! ## Texts of workspaces -/

theorem keyText_of_plain {place : String} (plain : '\\' ∉ place.toList)
    (single : ∀ rest, place.toList ≠ '/' :: '/' :: rest) : keyText place = place := by
  have kept : ∀ c ∈ place.toList, (if c = '\\' then '/' else c) = c := fun c member =>
    if_neg fun (same : c = '\\') => plain (same ▸ member)
  have unchanged : (place.toList.map fun c => if c = '\\' then '/' else c) = place.toList :=
    (List.map_congr_left kept).trans (List.map_id' place.toList)
  rw [keyText, unchanged, String.ofList_toList]
  split
  · rename_i rest begins
    exact absurd begins (single _)
  · rfl

theorem keyText_toText {location : Location} (names : ∀ name ∈ location, Path.isName name)
    (plain : location.IsPlain) : keyText location.toText = location.toText := by
  refine keyText_of_plain (fun member => ?_) fun rest begins => ?_
  · obtain ⟨part, isPart, inPart⟩ := (Text.exists_mem_split (by decide : '\\' ≠ '/')).mpr member
    have isName : part ∈ location.map String.toList := by
      rw [← Location.filter_split_toText names, List.mem_filter]
      exact ⟨isPart, by cases part <;> simp_all⟩
    obtain ⟨name, isThere, rfl⟩ := List.mem_map.mp isName
    exact plain name isThere inPart
  · rw [Location.toList_toText] at begins
    cases location with
    | nil => simp at begins
    | cons first others =>
        have named := names first List.mem_cons_self
        -- The first name begins with something other than a slash.
        cases isFirst : first.toList with
        | nil =>
            rw [String.toList_eq_nil_iff] at isFirst
            simp [Path.isName, Path.isIdle, isFirst] at named
        | cons character later =>
            cases others with
            | nil => simp_all [Path.isName]
            | cons second more => simp_all [Path.isName, List.intercalate_cons_cons]

theorem LeadsToDirectory.workspaceKey (leads : system.LeadsToDirectory path location) :
    system.workspaceKey path = keyText location.toText := by
  have place : system.workspacePlace path = location.toText := by
    rw [workspacePlace, leads.reaches]
    exact if_pos (by rw [leads.isThere, Option.isSome_some])
  rw [FileSystem.workspaceKey, place]

/-- Directories that are reached without backslashes are known by the same text only if they are the
same. -/
theorem LeadsToDirectory.workspaceKey_eq_iff {leftPlace rightPlace : Location}
    (leftLeads : system.LeadsToDirectory left leftPlace)
    (rightLeads : system.LeadsToDirectory right rightPlace) (leftPlain : leftPlace.IsPlain)
    (rightPlain : rightPlace.IsPlain) :
    system.workspaceKey left = system.workspaceKey right ↔ leftPlace = rightPlace := by
  rw [leftLeads.workspaceKey, rightLeads.workspaceKey,
    keyText_toText leftLeads.isName leftPlain, keyText_toText rightLeads.isName rightPlain]
  exact ⟨Location.toText_injective leftLeads.isName rightLeads.isName, congrArg Location.toText⟩

theorem LeadsNowhere.workspaceKey (nowhere : system.LeadsNowhere path) :
    system.workspaceKey path =
      keyText (if path.text.isEmpty then "" else (system.absolute path).text) := by
  rw [FileSystem.workspaceKey, workspacePlace]
  split
  · rename_i location reaches
    obtain ⟨-, written, -⟩ := walk_eq_ok_iff.mp reaches
    rw [if_neg (by simp [nowhere location reaches]), if_neg (by simp [written])]
  · rfl

end FileSystem

/-- The paths have the same components, a slash at the end of both or of neither, and just two
slashes at the beginning of both or of neither. -/
structure Path.SpelledAlike (left right : Path) : Prop where
  /-- The components are the same. -/
  same : left.same right = true
  /-- A slash stands at the end. -/
  ends : left.endsWithSlash = right.endsWithSlash
  /-- Just two slashes stand at the beginning. -/
  begins : (left.text.startsWith "//" && !left.text.startsWith "///") =
    (right.text.startsWith "//" && !right.text.startsWith "///")

namespace FileSystem

variable {system : FileSystem} {left right : Path}

theorem absolute_eq_of_spelledAlike (alike : left.SpelledAlike right) :
    system.absolute left = system.absolute right := by
  have pieces := (Path.same_iff.mp alike.same).2
  rw [Path.significant, Path.significant] at pieces
  rw [absolute, absolute, pieces, Path.isAbsolute_eq_of_same alike.same, alike.begins, alike.ends]

/-- Workspaces with the same components are known by the same text when one of the paths leads to a
directory, and when both lead nowhere and are spelled alike. -/
theorem workspaceKey_eq_of_same (same : left.same right = true)
    (known : (∃ location, system.LeadsToDirectory left location) ∨
      (system.LeadsNowhere left ∧ system.LeadsNowhere right ∧ left.SpelledAlike right)) :
    system.workspaceKey left = system.workspaceKey right := by
  obtain ⟨location, leads⟩ | ⟨leftNowhere, rightNowhere, alike⟩ := known
  · rw [leads.workspaceKey, (leads.of_same same).workspaceKey]
  · rw [leftNowhere.workspaceKey, rightNowhere.workspaceKey, Path.isEmpty_eq_of_same same,
      absolute_eq_of_spelledAlike alike]

end FileSystem

end CallTrace
