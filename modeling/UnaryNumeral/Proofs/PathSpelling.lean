import UnaryNumeral.Settings
import UnaryNumeral.Symbol.Table

namespace UnaryNumeral

namespace Path

/-- A text that may stand between two dots. -/
structure Segment (segment : String) : Prop where
  nonempty : segment ≠ ""
  dotless : '.' ∉ segment.toList
  trimmedFront : ∀ c ∈ segment.toList.head?, Text.isBlank c = false
  trimmedBack : ∀ c ∈ segment.toList.getLast?, Text.isBlank c = false

theorem isSegment_iff (segment : String) : isSegment segment = true ↔ Segment segment := by
  simp only [isSegment, Text.isTrimmed, Bool.and_eq_true, ne_eq, Option.all_eq_true,
    Bool.not_eq_eq_eq_not, Bool.not_true, List.contains_eq_mem, decide_eq_false_iff_not,
    decide_eq_true_eq]
  constructor
  · intro accepted
    obtain ⟨⟨nonempty, front, back⟩, dotless⟩ := accepted
    exact ⟨nonempty, dotless, front, back⟩
  · intro segment
    exact ⟨⟨segment.nonempty, segment.trimmedFront, segment.trimmedBack⟩, segment.dotless⟩

theorem pieces_dotted {path : Path} (some : path ≠ [])
    (clean : ∀ segment ∈ path, '.' ∉ segment.toList) :
    pieces path.dotted.toList = path.map String.toList := by
  rw [dotted, String.toList_ofList]
  apply pieces_intercalate
  · simpa using some
  · intro text member
    obtain ⟨segment, listed, rfl⟩ := List.mem_map.mp member
    exact clean segment listed

theorem dotted_pieces (text : String) :
    dotted ((pieces text.toList).map String.ofList) = text := by
  have same : ((pieces text.toList).map String.ofList).map String.toList = pieces text.toList := by
    simp [Function.comp_def]
  rw [dotted, same, intercalate_pieces, String.ofList_toList]

theorem qualified_pieces (text : String) :
    let split := (pieces text.toList).map String.ofList
    Path.qualified split.dropLast (split.getLastD "") = text := by
  intro split
  have some : split ≠ [] := by simpa [split] using pieces_ne_nil text.toList
  have whole := List.dropLast_concat_getLast some
  rw [qualified, List.getLastD_eq_getLast?, List.getLast?_eq_some_getLast some, Option.getD_some,
    whole, dotted_pieces]

theorem toPath_spelled_eq_ok_iff (path found : Path) :
    path.spelled.toPath = .ok found ↔
      found = path ∧ ∀ segment ∈ path, isSegment segment = true := by
  rw [PathSpelling.toPath_eq_ok_iff]
  have values : path.spelled.values = found.map Value.text ↔ found = path := by
    rw [eq_comm]
    exact List.map_inj_right fun _ _ same => Value.text.inj same
  rw [values]
  apply and_congr_right
  rintro rfl
  rfl

/-- The dotted spelling of a path determines it. The empty path has the empty spelling to itself,
since a segment is not empty. -/
theorem toPath_dotted {path : Path} (valid : ∀ segment ∈ path, isSegment segment = true) :
    (PathSpelling.dotted path.dotted).toPath = .ok path := by
  refine (PathSpelling.toPath_eq_ok_iff _ _).mpr ⟨?_, valid⟩
  cases path with
  | nil => rfl
  | cons first others =>
    have clean : ∀ segment ∈ first :: others, '.' ∉ segment.toList := by
      intro segment member
      exact ((isSegment_iff segment).mp (valid segment member)).dotless
    have split := pieces_dotted (List.cons_ne_nil first others) clean
    have written : dotted (first :: others) ≠ "" := by
      intro empty
      rw [empty] at split
      have blank := congrArg List.head? split
      have nonempty := ((isSegment_iff first).mp (valid first (List.mem_cons_self ..))).nonempty
      simp [pieces] at blank
      exact nonempty blank
    simp [PathSpelling.values, written, split, Function.comp_def]

end Path

/-- A text that may stand behind the last dot. -/
structure ShortName (name : String) : Prop where
  nonempty : name ≠ ""
  dotless : '.' ∉ name.toList
  solid : ∀ c ∈ name.toList, Text.isBlank c = false

theorem isShortName_iff (name : String) : isShortName name = true ↔ ShortName name := by
  simp only [isShortName, Bool.and_eq_true, ne_eq, Bool.not_eq_eq_eq_not,
    Bool.not_true, List.contains_eq_mem, decide_eq_false_iff_not, decide_eq_true_eq,
    List.any_eq_false]
  constructor
  · intro accepted
    obtain ⟨⟨nonempty, dotless⟩, solid⟩ := accepted
    exact ⟨nonempty, dotless, fun c member => by simpa using solid c member⟩
  · intro short
    exact ⟨⟨short.nonempty, short.dotless⟩, fun c member => by simp [short.solid c member]⟩

theorem checkName_eq_ok_iff (value : Value) (name : String) :
    checkName value = .ok name ↔ value = .text name ∧ ShortName name := by
  rw [← isShortName_iff]
  cases value with
  | text given =>
    by_cases accepted : isShortName given = true
    · simp only [checkName, accepted, ↓reduceIte, Except.ok.injEq, Value.text.injEq]
      exact ⟨fun same => ⟨same, same ▸ accepted⟩, fun found => found.1⟩
    · simp only [checkName, accepted, Bool.false_eq_true, ↓reduceIte, reduceCtorEq,
        Value.text.injEq, false_iff, not_and]
      rintro rfl
      exact accepted
  | _ => simp [checkName]

/-- A dotted name falls apart into the path and the name that it was made of. -/
theorem Path.pieces_qualified {path : Path} {name : String}
    (segments : ∀ segment ∈ path, Segment segment) (short : ShortName name) :
    (pieces (path.qualified name).toList).map String.ofList = path ++ [name] := by
  have clean : ∀ segment ∈ path ++ [name], '.' ∉ segment.toList := by
    intro segment member
    rcases List.mem_append.mp member with inside | last
    · exact (segments segment inside).dotless
    · rw [List.mem_singleton.mp last]
      exact short.dotless
  rw [qualified, pieces_dotted (by simp) clean, List.map_map]
  simp [Function.comp_def]

theorem developmentPath_valid : ∀ segment ∈ developmentPath, Path.isSegment segment = true := by
  decide +kernel

theorem libraryPath_valid : ∀ segment ∈ libraryPath, Path.isSegment segment = true := by
  decide +kernel

theorem Settings.resolutionPath_valid {settings : Settings} {spelling : Option PathSpelling}
    {path : Path} (resolved : settings.resolutionPath spelling = .ok path) :
    ∀ segment ∈ path, Path.isSegment segment = true := by
  have spelled {spelling : PathSpelling} (accepted : spelling.toPath = .ok path) :
      ∀ segment ∈ path, Path.isSegment segment = true :=
    ((PathSpelling.toPath_eq_ok_iff ..).mp accepted).2
  unfold resolutionPath at resolved
  split at resolved
  · exact spelled resolved
  · split at resolved
    · exact spelled resolved
    · split at resolved
      · cases resolved
        exact developmentPath_valid
      · cases resolved
        exact libraryPath_valid

end UnaryNumeral
