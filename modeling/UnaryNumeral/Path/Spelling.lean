import UnaryNumeral.Error
import UnaryNumeral.Text.Blank

namespace UnaryNumeral

namespace Path

/-- A segment is not empty, holds no dot, and has no blank at either end. -/
def isSegment (segment : String) : Bool :=
  segment ≠ "" && Text.isTrimmed segment.toList && !segment.toList.contains '.'

def checkSegment : Value → Except Error String
  | .text segment =>
    if isSegment segment then .ok segment else .error (.invalidSegment segment)
  | value => .error (.segmentNotText value.typeName)

theorem checkSegment_eq_ok_iff (value : Value) (segment : String) :
    checkSegment value = .ok segment ↔ value = .text segment ∧ isSegment segment = true := by
  cases value with
  | text given =>
    by_cases accepted : isSegment given = true
    · simp only [checkSegment, accepted, ↓reduceIte, Except.ok.injEq, Value.text.injEq]
      exact ⟨fun same => ⟨same, same ▸ accepted⟩, fun found => found.1⟩
    · simp only [checkSegment, accepted, Bool.false_eq_true, ↓reduceIte, Value.text.injEq,
        reduceCtorEq, false_iff, not_and]
      rintro rfl
      exact accepted
  | _ => simp [checkSegment]

end Path

/-- A path as a caller spells it. -/
inductive PathSpelling where
  | dotted (text : String)
  | segments (values : List Value)

namespace PathSpelling

/-- The values that have to be segments. The empty text spells the empty path. -/
def values : PathSpelling → List Value
  | dotted text =>
    if text = "" then [] else (Path.pieces text.toList).map fun piece => .text (String.ofList piece)
  | segments values => values

/-- A spelling as a mere sequence: the characters of a text, dots included, or the values. -/
def members : PathSpelling → List Value
  | dotted text => text.toList.map fun c => .text (String.singleton c)
  | segments values => values

/-- The path that is spelled; the first value that is no segment is refused. -/
def toPath (spelling : PathSpelling) : Except Error Path :=
  spelling.values.mapM Path.checkSegment

end PathSpelling

/-- A path spelled segment by segment. -/
def Path.spelled (path : Path) : PathSpelling := .segments (path.map .text)

namespace PathSpelling

private theorem checkSegments_eq_ok_iff (values : List Value) (path : Path) :
    values.mapM Path.checkSegment = .ok path ↔
      values = path.map .text ∧ ∀ segment ∈ path, Path.isSegment segment = true := by
  induction values generalizing path with
  | nil => cases path <;> simp [pure, Except.pure]
  | cons value rest ih =>
    simp only [List.mapM_cons, bind_eq_ok_iff, pure_eq_ok_iff, Path.checkSegment_eq_ok_iff, ih]
    constructor
    · intro checked
      obtain ⟨first, ⟨same, fine⟩, others, ⟨later, accepted⟩, whole⟩ := checked
      subst whole
      exact ⟨by rw [List.map_cons, same, later], List.forall_mem_cons.mpr ⟨fine, accepted⟩⟩
    · intro checked
      obtain ⟨same, accepted⟩ := checked
      cases path with
      | nil => cases same
      | cons segment others =>
        obtain ⟨first, later⟩ := List.cons.inj same
        obtain ⟨fine, rest⟩ := List.forall_mem_cons.mp accepted
        exact ⟨segment, ⟨first, fine⟩, others, ⟨later, rest⟩, rfl⟩

theorem toPath_eq_ok_iff (spelling : PathSpelling) (path : Path) :
    spelling.toPath = .ok path ↔
      spelling.values = path.map .text ∧ ∀ segment ∈ path, Path.isSegment segment = true :=
  checkSegments_eq_ok_iff spelling.values path

theorem toPath_spelled (path : Path) (valid : ∀ segment ∈ path, Path.isSegment segment = true) :
    path.spelled.toPath = .ok path := (toPath_eq_ok_iff _ _).mpr ⟨rfl, valid⟩

end PathSpelling

end UnaryNumeral
