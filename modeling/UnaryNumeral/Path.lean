namespace UnaryNumeral

/-- The segments of a logical path. The empty path is the root. -/
abbrev Path := List String

namespace Path

/-- The pieces of a text between its dots. There is always at least one. -/
def pieces : List Char → List (List Char)
  | [] => [[]]
  | c :: rest => if c = '.' then [] :: pieces rest else (pieces rest).modifyHead (c :: ·)

/-- The pieces are those of the library's cut at the dots. -/
theorem pieces_eq_splitOn (text : List Char) : pieces text = text.splitOn '.' := by
  induction text with
  | nil => rw [pieces, List.splitOn_nil]
  | cons c rest ih => simp only [pieces, List.splitOn_cons_eq_if_modifyHead, beq_iff_eq, ih]

theorem pieces_ne_nil (text : List Char) : pieces text ≠ [] := by
  rw [pieces_eq_splitOn]
  exact List.splitOn_ne_nil '.' text

theorem intercalate_pieces (text : List Char) :
    List.intercalate ['.'] (pieces text) = text := by
  rw [pieces_eq_splitOn, List.intercalate_splitOn]

theorem pieces_intercalate (texts : List (List Char)) (some : texts ≠ [])
    (clean : ∀ text ∈ texts, '.' ∉ text) :
    pieces (List.intercalate ['.'] texts) = texts := by
  rw [pieces_eq_splitOn, List.splitOn_intercalate '.' clean some]

/-- The segments joined by dots. -/
def dotted (path : Path) : String :=
  String.ofList (List.intercalate ['.'] (path.map String.toList))

/-- The dotted spelling of a name under a path. -/
def qualified (path : Path) (name : String) : String := dotted (path ++ [name])

end Path

end UnaryNumeral
