import UnaryNumeral.Proofs.LeadingLexeme
import UnaryNumeral.Proofs.PathSpelling
import UnaryNumeral.Proofs.Tiling

namespace UnaryNumeral

namespace Text

theorem not_isBlank_of_isNamePart {c : Char} (part : isNamePart c = true) : isBlank c = false := by
  simp only [isNamePart, Bool.or_eq_true, beq_iff_eq] at part
  rcases part with key | rfl
  · exact not_isBlank_of_isKeyPart key
  · decide

theorem isNamePart_of_isNameStart {c : Char} (start : isNameStart c = true) :
    isNamePart c = true := by
  simp [isNamePart, isKeyPart_of_isNameStart start]

theorem shortName_of_isName {name : List Char} (named : isName name = true) :
    ShortName (String.ofList name) where
  nonempty := by
    intro empty
    have none : name = [] := by simpa using congrArg String.toList empty
    rw [none] at named
    cases named
  dotless := by
    rw [String.toList_ofList]
    exact dot_notMem_of_isName named
  solid := by
    intro c member
    rw [String.toList_ofList] at member
    cases name with
    | nil => cases member
    | cons first rest =>
      simp only [isName, Bool.and_eq_true, List.all_eq_true] at named
      rcases List.mem_cons.mp member with rfl | later
      · exact not_isBlank_of_isNamePart (isNamePart_of_isNameStart named.1)
      · exact not_isBlank_of_isNamePart (named.2 c later)

end Text

theorem ShortName.segment {name : String} (short : ShortName name) : Path.Segment name where
  nonempty := short.nonempty
  dotless := short.dotless
  trimmedFront := fun c first => short.solid c (List.mem_of_mem_head? first)
  trimmedBack := fun c last => short.solid c (List.mem_of_mem_getLast? last)

namespace Lexeme

/-- Where a name goes on to the end, the first piece goes on with name characters, and every further
piece is a name. -/
theorem pieces_of_nameLength {text : List Char} (whole : nameLength text = text.length) :
    ∃ first others, Path.pieces text = first :: others ∧ first.all Text.isNamePart = true ∧
      ∀ piece ∈ others, Text.isName piece = true := by
  fun_induction nameLength text with
  | case1 => exact ⟨[], [], rfl, rfl, by simp⟩
  | case2 c rest part ih =>
    rw [List.length_cons] at whole
    obtain ⟨first, others, split, parts, names⟩ := ih (by omega)
    have undotted : c ≠ '.' := by
      rintro rfl
      exact absurd part (by decide)
    exact ⟨c :: first, others, by simp [Path.pieces, undotted, split], by simp [part, parts], names⟩
  | case3 c part => cases whole
  | case4 c part d rest dotted ih =>
    rw [List.length_cons, List.length_cons] at whole
    obtain ⟨first, others, split, parts, names⟩ := ih (by omega)
    simp only [Bool.and_eq_true, beq_iff_eq] at dotted
    obtain ⟨rfl, start⟩ := dotted
    have undotted : d ≠ '.' := by
      rintro rfl
      exact absurd start (by decide)
    have named : Text.isName (d :: first) = true := by simp [Text.isName, start, parts]
    exact ⟨[], (d :: first) :: others, by simp [Path.pieces, undotted, split], rfl,
      List.forall_mem_cons.mpr ⟨named, names⟩⟩
  | case5 c part d rest dotted => simp at whole

/-- What stands between the dots of a name token is a name. -/
theorem isName_of_mem_pieces {text : List Char} (leads : Leads text .name text.length)
    {piece : List Char} (member : piece ∈ Path.pieces text) : Text.isName piece = true := by
  generalize counted : text.length = count at leads
  cases leads with
  | @name c rest start =>
    rw [List.length_cons] at counted
    have whole : nameLength rest = rest.length := by omega
    obtain ⟨first, others, split, parts, names⟩ := pieces_of_nameLength whole
    have undotted : c ≠ '.' := by
      rintro rfl
      exact absurd start (by decide)
    have pieces : Path.pieces (c :: rest) = (c :: first) :: others := by
      simp [Path.pieces, undotted, split]
    rw [pieces] at member
    rcases List.mem_cons.mp member with rfl | later
    · simp [Text.isName, start, parts]
    · exact names piece later

end Lexeme

namespace Token

/-- The text of a token is a lexeme of its class, from the first to the last character. -/
def Exact (token : Token) : Prop :=
  token.lexeme ≠ .blank ∧ Lexeme.Leads token.text.toList token.lexeme token.text.toList.length

theorem Tiles.exact {source : Option String} {position : Nat} {text : List Char}
    {tokens : List Token} (tiles : Tiles source position text tokens) :
    ∀ token ∈ tokens, token.Exact := by
  induction tiles with
  | done => simp
  | blank leads later ih => exact ih
  | @token position length text lexeme tokens leads solid later ih =>
    refine List.forall_mem_cons.mpr ⟨⟨solid, ?_⟩, ih⟩
    have count : (text.take length).length = length := List.length_take_of_le leads.length_le
    rw [String.toList_ofList, count]
    exact leads.take (Nat.le_refl length)

theorem Exact.isName_of_mem_pieces {token : Token} (exact : token.Exact)
    (lexeme : token.lexeme = .name) {piece : List Char}
    (member : piece ∈ Path.pieces token.text.toList) : Text.isName piece = true := by
  have leads := exact.2
  rw [lexeme] at leads
  exact Lexeme.isName_of_mem_pieces leads member

theorem Exact.isName {token : Token} (exact : token.Exact) (lexeme : token.lexeme = .name)
    (undotted : '.' ∉ token.text.toList) : Text.isName token.text.toList = true := by
  apply exact.isName_of_mem_pieces lexeme
  have alone := Path.pieces_intercalate [token.text.toList] (by simp) (by simpa using undotted)
  have joined : List.intercalate ['.'] [token.text.toList] = token.text.toList := by
    simp [List.intercalate]
  rw [joined] at alone
  rw [alone]
  exact List.mem_singleton_self _

end Token

end UnaryNumeral
