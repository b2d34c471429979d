import UnaryNumeral.Proofs.PathSpelling

namespace UnaryNumeral

namespace PathSpelling

theorem toPath_segments_eq_ok_iff (values : List Value) (path : Path) :
    (segments values).toPath = .ok path ↔
      values = path.map .text ∧ ∀ segment ∈ path, Path.Segment segment := by
  simp only [← Path.isSegment_iff]
  exact toPath_eq_ok_iff (segments values) path

/-- With dots, a path is spelled by the text to which its segments are joined and by no other. -/
theorem toPath_dotted_eq_ok_iff (text : String) (path : Path) :
    (dotted text).toPath = .ok path ↔
      path.dotted = text ∧ ∀ segment ∈ path, Path.Segment segment := by
  simp only [← Path.isSegment_iff]
  constructor
  · intro spelled
    obtain ⟨cut, valid⟩ := (toPath_eq_ok_iff ..).mp spelled
    refine ⟨?_, valid⟩
    by_cases empty : text = ""
    · rw [values, if_pos empty, eq_comm, List.map_eq_nil_iff] at cut
      rw [cut, empty]
      rfl
    · rw [values, if_neg empty, ← Function.comp_def Value.text, ← List.map_map] at cut
      have pieces := (List.map_inj_right fun _ _ same => Value.text.inj same).mp cut
      rw [← pieces, Path.dotted_pieces]
  · rintro ⟨rfl, valid⟩
    exact Path.toPath_dotted valid

/-- A text spells a path just when it is empty or each piece between its dots is a segment. -/
theorem exists_toPath_dotted_iff (text : String) :
    (∃ path, (dotted text).toPath = .ok path) ↔
      text = "" ∨ ∀ piece ∈ text.toList.splitOn '.', Path.Segment (String.ofList piece) := by
  rw [← Path.pieces_eq_splitOn]
  constructor
  · rintro ⟨path, spelled⟩
    obtain ⟨rfl, valid⟩ := (toPath_dotted_eq_ok_iff ..).mp spelled
    cases path with
    | nil => exact .inl rfl
    | cons first others =>
      refine .inr fun piece member => ?_
      rw [Path.pieces_dotted (List.cons_ne_nil first others) fun segment listed =>
        (valid segment listed).dotless] at member
      obtain ⟨segment, listed, rfl⟩ := List.mem_map.mp member
      rw [String.ofList_toList]
      exact valid segment listed
  · rintro (rfl | valid)
    · exact ⟨[], rfl⟩
    · refine ⟨(Path.pieces text.toList).map String.ofList, ?_⟩
      refine (toPath_dotted_eq_ok_iff ..).mpr ⟨Path.dotted_pieces text, ?_⟩
      exact List.forall_mem_map.mpr valid

theorem exists_toPath_segments_iff (values : List Value) :
    (∃ path, (segments values).toPath = .ok path) ↔
      ∀ value ∈ values, ∃ segment, value = .text segment ∧ Path.Segment segment := by
  simp only [toPath_segments_eq_ok_iff]
  constructor
  · rintro ⟨path, rfl, valid⟩
    exact List.forall_mem_map.mpr fun segment member => ⟨segment, rfl, valid segment member⟩
  · intro valid
    induction values with
    | nil => exact ⟨[], rfl, nofun⟩
    | cons value rest ih =>
      obtain ⟨⟨segment, rfl, fine⟩, later⟩ := List.forall_mem_cons.mp valid
      obtain ⟨path, rfl, others⟩ := ih later
      exact ⟨segment :: path, rfl, List.forall_mem_cons.mpr ⟨fine, others⟩⟩

theorem toPath_again {spelling : PathSpelling} {path : Path}
    (spelled : spelling.toPath = .ok path) :
    path.spelled.toPath = .ok path ∧ (dotted path.dotted).toPath = .ok path := by
  have valid := ((toPath_eq_ok_iff ..).mp spelled).2
  exact ⟨toPath_spelled path valid, Path.toPath_dotted valid⟩

/-- Spellings of a path are interchangeable. A list spells a path just when its members are
segments, and then that path is the list; a text does just when it is empty or segments joined by
dots, and then that path joined by dots is the text. An accepted path is spelled again by its
segments and by the dotted text, and no two lists and no two texts spell the same path. -/
theorem interchangeable :
    (∀ values : List Value,
      ((∃ path, (segments values).toPath = .ok path) ↔
        ∀ value ∈ values, ∃ segment, value = .text segment ∧ Path.Segment segment) ∧
      ∀ path, (segments values).toPath = .ok path → values = path.map .text) ∧
    (∀ text : String,
      ((∃ path, (dotted text).toPath = .ok path) ↔
        text = "" ∨ ∀ piece ∈ text.toList.splitOn '.', Path.Segment (String.ofList piece)) ∧
      ∀ path, (dotted text).toPath = .ok path → path.dotted = text) ∧
    (∀ (spelling : PathSpelling) (path : Path), spelling.toPath = .ok path →
      path.spelled.toPath = .ok path ∧ (dotted path.dotted).toPath = .ok path) ∧
    (∀ values others path, (segments values).toPath = .ok path →
      (segments others).toPath = .ok path → values = others) ∧
    ∀ text other path, (dotted text).toPath = .ok path → (dotted other).toPath = .ok path →
      text = other := by
  have list {values : List Value} {path : Path} (spelled : (segments values).toPath = .ok path) :
      values = path.map .text := ((toPath_segments_eq_ok_iff ..).mp spelled).1
  have joined {text : String} {path : Path} (spelled : (dotted text).toPath = .ok path) :
      path.dotted = text := ((toPath_dotted_eq_ok_iff ..).mp spelled).1
  refine ⟨fun values => ⟨exists_toPath_segments_iff values, fun path => list⟩,
    fun text => ⟨exists_toPath_dotted_iff text, fun path => joined⟩,
    fun spelling path => toPath_again, ?_, ?_⟩
  · intro values others path first second
    rw [list first, list second]
  · intro text other path first second
    rw [← joined first, joined second]

end PathSpelling

end UnaryNumeral
