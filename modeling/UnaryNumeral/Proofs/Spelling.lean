import UnaryNumeral.Proofs.Lexing
import UnaryNumeral.Proofs.ReaderSteps
import UnaryNumeral.Proofs.TermEquality

namespace UnaryNumeral

namespace Reader

/-- Wherever the text stands in front of a delimiter, its tokens derive the terms side by side. -/
def SpellsAtoms (reader : Reader) (chars : List Char) (terms : List Term) : Prop :=
  ∀ position behind tokens, Delimits behind →
    ∃ parts found, reader.DerivesAtoms parts found ∧
      found.map Term.bare = terms.map Term.bare ∧
      Token.scan reader.source position (chars ++ behind) tokens =
        Token.scan reader.source (position + chars.length) behind
          ((Phrase.tokensAll parts).reverse ++ tokens)

/-- Wherever the text stands in front of a delimiter, its tokens derive the term. -/
def SpellsTerm (reader : Reader) (chars : List Char) (term : Term) : Prop :=
  ∀ position behind tokens, Delimits behind →
    ∃ parts found, reader.DerivesTerm parts found ∧ found.bare = term.bare ∧
      Token.scan reader.source position (chars ++ behind) tokens =
        Token.scan reader.source (position + chars.length) behind
          ((Phrase.tokensAll parts).reverse ++ tokens)

variable {reader : Reader} {chars more : List Char}

theorem spellsAtoms_of_token {lexeme : Lexeme} {term : Term} (spells : lexeme.Spells chars)
    (solid : lexeme ≠ .blank)
    (means : ∀ span, ∃ found, reader.Means ⟨lexeme, String.ofList chars, span⟩ found ∧
      found.bare = term.bare) : reader.SpellsAtoms chars [term] := by
  intro position behind tokens delimits
  obtain ⟨found, meaning, same⟩ := means ⟨position, position + chars.length, reader.source⟩
  exact ⟨[.leaf _], [found], .cons (.token meaning) .nil, by simp [same],
    Token.scan_append _ _ _ (spells behind delimits) solid⟩

theorem spellsAtoms_ref {handle : Handle} (named : Text.isName handle.name.toList = true)
    (opens : reader.Opens handle.name handle) (span : Span) :
    reader.SpellsAtoms handle.name.toList [.ref handle span] := by
  apply spellsAtoms_of_token (Lexeme.spells_name named) (by decide)
  intro place
  have undotted := Text.dot_notMem_of_isName named
  rw [String.ofList_toList]
  exact ⟨.ref handle place, .name rfl (.opened undotted opens), rfl⟩

theorem spellsAtoms_var {name : String} (named : Text.isName name.toList = true)
    (lower : isVariableName name = true) (unknown : reader.Unopened name) (span : Span) :
    reader.SpellsAtoms name.toList [.var name span] := by
  apply spellsAtoms_of_token (Lexeme.spells_name named) (by decide)
  intro place
  have undotted := Text.dot_notMem_of_isName named
  rw [String.ofList_toList]
  exact ⟨.var name place, .name rfl (.free undotted unknown lower), rfl⟩

theorem spellsAtoms_numeral {text : String} {literal : Literal} {term : Term}
    (spelt : Literal.ofText? text.toList = some literal)
    (elaborated : ∀ span, ∃ found,
      reader.notations.elaborate text (some span) reader.defaultScope = .ok found ∧
        found.bare = term.bare) : reader.SpellsAtoms text.toList [term] := by
  apply spellsAtoms_of_token (Literal.spells_of_ofText? spelt) (by decide)
  intro place
  rw [String.ofList_toList]
  obtain ⟨found, meaning, same⟩ := elaborated place
  exact ⟨found, .numeral rfl meaning, same⟩

theorem SpellsAtoms.space {terms others : List Term} (first : reader.SpellsAtoms chars terms)
    (later : reader.SpellsAtoms more others) :
    reader.SpellsAtoms (chars ++ ' ' :: more) (terms ++ others) := by
  intro position behind tokens delimits
  obtain ⟨parts, found, derivation, same, scanned⟩ :=
    first position (' ' :: (more ++ behind)) tokens (delimits_space _)
  obtain ⟨otherParts, otherFound, otherDerivation, otherSame, otherScanned⟩ :=
    later (position + chars.length + 1) behind ((Phrase.tokensAll parts).reverse ++ tokens) delimits
  refine ⟨parts ++ otherParts, found ++ otherFound, derivation.append otherDerivation, ?_, ?_⟩
  · rw [List.map_append, List.map_append, same, otherSame]
  · rw [List.append_assoc, List.cons_append, scanned, Token.scan_space, otherScanned,
      Phrase.tokensAll_append, List.reverse_append, List.append_assoc, List.length_append,
      List.length_cons]
    congr 1
    omega

theorem SpellsAtoms.spellsTerm {head : Term} {args : List Term}
    (atoms : reader.SpellsAtoms chars (head :: args)) (span : Span) :
    reader.SpellsTerm chars (if args.isEmpty then head else .app head args span) := by
  intro position behind tokens delimits
  obtain ⟨parts, found, derivation, same, scanned⟩ := atoms position behind tokens delimits
  cases found with
  | nil => cases same
  | cons first others =>
    obtain ⟨sameHead, sameArgs⟩ := List.cons.inj same
    have lengths : others.isEmpty = args.isEmpty := by
      have counted := congrArg List.length sameArgs
      simp only [List.length_map] at counted
      cases others <;> cases args <;> simp_all
    refine ⟨parts, _, derivesTerm_iff.mpr ⟨first, others, derivation, rfl⟩, ?_, scanned⟩
    rw [lengths]
    split
    · exact sameHead
    · simp [sameHead, sameArgs]

theorem SpellsTerm.enclose {term : Term} (spells : reader.SpellsTerm chars term) :
    reader.SpellsAtoms ('(' :: (chars ++ [')'])) [term] := by
  intro position behind tokens delimits
  let opening : Token := ⟨.opening, "(", ⟨position, (position + 1 : Nat), reader.source⟩⟩
  obtain ⟨parts, found, derivation, same, scanned⟩ :=
    spells (position + 1) (')' :: behind) (opening :: tokens) (delimits_closing _)
  let stop := position + 1 + chars.length
  let closing : Token := ⟨.closing, ")", ⟨stop, (stop + 1 : Nat), reader.source⟩⟩
  have atom : reader.DerivesAtom (.group opening parts closing) found :=
    .group rfl rfl derivation
  refine ⟨[.group opening parts closing], [found], .cons atom .nil, by simp [same], ?_⟩
  rw [List.cons_append, List.append_assoc, List.singleton_append, Token.scan_opening, scanned,
    Token.scan_closing]
  congr 1
  · simp only [List.length_cons, List.length_append, List.length_nil]
    omega
  · simp [Phrase.tokensAll, Phrase.tokens, opening, closing, stop]

/-- A whole text that spells a term is read as that term. -/
theorem SpellsTerm.read {text : String} {term : Term} (spells : reader.SpellsTerm text.toList term) :
    ∃ found, reader.read text = .ok found ∧ found.same term = true := by
  obtain ⟨parts, found, derivation, same, scanned⟩ := spells 0 [] [] delimits_nil
  have cut : Token.ofText text reader.source = .ok (Phrase.tokensAll parts) := by
    rw [List.append_nil, List.append_nil, Token.scan_nil, List.reverse_reverse] at scanned
    rw [Token.ofText, scanned]
  exact ⟨found, derivation.read text cut, (Term.same_eq_true_iff ..).mpr same⟩

end Reader

end UnaryNumeral
