import UnaryNumeral.Proofs.LiteralGrammar
import UnaryNumeral.Proofs.ReaderSteps
import UnaryNumeral.Proofs.StandardTables

/-! Reading a text that is one numeral lexeme comes to elaborating it as a literal. Since the class
of numerals takes in more than the literals, a misspelt literal stays whole and is refused as a
whole. -/

namespace UnaryNumeral

theorem Token.ofText_of_mem_language {text : String} {lexeme : Lexeme} (solid : lexeme ≠ .blank)
    (belongs : text.toList ∈ lexeme.language) (source : Option String) :
    ofText text source = .ok [⟨lexeme, text, ⟨0, text.length, source⟩⟩] := by
  have leads := (Lexeme.mem_language_iff ..).mp belongs
  rw [String.length_toList] at leads
  exact ofText_of_first? solid ((Lexeme.first?_eq_some_iff ..).mpr leads) source

namespace Reader

theorem read_of_ofText {reader : Reader} {text : String} {tokens : List Token}
    (cut : Token.ofText text reader.source = .ok tokens) :
    reader.read text = tokens.foldlM (reader.step text) {} >>= reader.finish text := by
  rw [read, cut]
  rfl

/-- A numeral token that is alone in its text is read as the literal that it is. -/
theorem read_of_single_numeral {reader : Reader} {text : String} {token : Token}
    (cut : Token.ofText text reader.source = .ok [token]) (lexeme : token.lexeme = .numeral) :
    reader.read text =
      reader.notations.elaborate token.text (some token.span) reader.defaultScope := by
  rw [read_of_ofText cut, List.foldlM_cons]
  cases elaborated : reader.notations.elaborate token.text (some token.span)
      reader.defaultScope with
  | error error =>
    have failed : reader.step text {} token = .error error := by
      simp only [step, lexeme, elaborated]
      rfl
    rw [failed]
    rfl
  | ok term =>
    have moves : reader.Moves {} token _ := .leaf (.numeral lexeme elaborated)
    rw [(reader.step_eq_ok_iff text _ _ _).mpr moves]
    rfl

/-- The reader and the elaboration of literals agree on numerals. A text that consists of a sign or
none, a digit, and letters, digits, underscores, dots and percent signs is a single token, and
reading it has the outcome of elaborating it, the same term or the same error; so what is no literal
is refused and not read in pieces. Every literal is such a text, and whatever is elaborated is read
as the same term. -/
theorem read_numeral (reader : Reader) (text : String) :
    let place : Span := ⟨0, text.length, reader.source⟩
    let outcome := reader.notations.elaborate text (some place) reader.defaultScope
    (text.toList ∈ Lexeme.language .numeral →
        Token.ofText text reader.source = .ok [⟨.numeral, text, place⟩] ∧
          reader.read text = outcome ∧
          (text.toList ∉ Literal.language →
            reader.read text = .error (.malformed text place .notDecimal))) ∧
      (text.toList ∈ Literal.language → text.toList ∈ Lexeme.language .numeral) ∧
      ∀ term, outcome = .ok term → reader.read text = .ok term := by
  intro place outcome
  have single (belongs : text.toList ∈ Lexeme.language .numeral) :
      Token.ofText text reader.source = .ok [⟨.numeral, text, place⟩] :=
    Token.ofText_of_mem_language (by decide) belongs reader.source
  have same (belongs : text.toList ∈ Lexeme.language .numeral) : reader.read text = outcome :=
    read_of_single_numeral (single belongs) rfl
  refine ⟨fun belongs => ⟨single belongs, same belongs, ?_⟩, Literal.mem_numeral_of_mem_language, ?_⟩
  · intro other
    rw [same belongs]
    simp only [outcome, NotationTable.elaborate, (Literal.ofText?_eq_none_iff _).mpr other,
      Option.getD_some]
  · intro term elaborated
    obtain ⟨literal, -, -, spelt, -⟩ := (NotationTable.elaborate_eq_ok_iff ..).mp elaborated
    have belongs := (Literal.mem_language_iff _).mpr
      ⟨literal, (Literal.ofText?_eq_some_iff ..).mp spelt⟩
    rw [same (Literal.mem_numeral_of_mem_language belongs), elaborated]

/-- A literal with a key is read as its numeral. A number with a fraction is one token as well, and
no literal. -/
theorem read_numeral_standard :
    "2%nat".toList ∈ Literal.language ∧
      Reader.standard.read "2%nat" = .ok (Codec.standard.numeral ⟨0, 5, none⟩ 2) ∧
      "-1.5%nat".toList ∈ Lexeme.language .numeral ∧ "-1.5%nat".toList ∉ Literal.language ∧
      Reader.standard.read "-1.5%nat" =
        .error (.malformed "-1.5%nat" ⟨0, 8, none⟩ .notDecimal) := by
  have spelt : Literal.ofText? "2%nat".toList = some ⟨false, ['2'], some "nat"⟩ := by
    decide +kernel
  have literal : "2%nat".toList ∈ Literal.language :=
    (Literal.mem_language_iff _).mpr ⟨_, (Literal.ofText?_eq_some_iff ..).mp spelt⟩
  have elaborated : Reader.standard.notations.elaborate "2%nat" (some ⟨0, 5, none⟩)
      Reader.standard.defaultScope = .ok (Codec.standard.numeral ⟨0, 5, none⟩ 2) := by rfl
  have belongs : "-1.5%nat".toList ∈ Lexeme.language .numeral :=
    (Lexeme.mem_language_iff ..).mpr ((Lexeme.first?_eq_some_iff ..).mp (by decide +kernel))
  have other : "-1.5%nat".toList ∉ Literal.language :=
    (Literal.ofText?_eq_none_iff _).mp (by decide +kernel)
  exact ⟨literal, (read_numeral Reader.standard "2%nat").2.2 _ elaborated, belongs, other,
    ((read_numeral Reader.standard "-1.5%nat").1 belongs).2.2 other⟩

end Reader

end UnaryNumeral
