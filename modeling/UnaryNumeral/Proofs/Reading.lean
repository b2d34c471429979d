import UnaryNumeral.Proofs.LiteralElaboration
import UnaryNumeral.Proofs.ReaderInvariant
import UnaryNumeral.Proofs.StandardTables
import UnaryNumeral.Proofs.Subterm

namespace UnaryNumeral

namespace Reader

variable {reader : Reader}

/-- The same tokens derive one term only, and in one way. -/
theorem DerivesTerm.unique {parts others : List Phrase} {term other : Term}
    (first : reader.DerivesTerm parts term) (second : reader.DerivesTerm others other)
    (same : Phrase.tokensAll parts = Phrase.tokensAll others) : parts = others ∧ term = other := by
  obtain rfl := Phrase.tokensAll_injective first.allWellFormed second.allWellFormed same
  obtain ⟨inner, filled, -, -, closed⟩ := first.foldlM_eq "" {} rfl
  obtain ⟨again, refilled, -, -, reclosed⟩ := second.foldlM_eq "" {} rfl
  cases Except.ok.inj (filled.symm.trans refilled)
  exact ⟨rfl, Option.some.inj (closed.symm.trans reclosed)⟩

/-- A term occurs in what one of the numeral tokens was elaborated to. -/
def InLiteral (reader : Reader) (tokens : List Token) (sub : Term) : Prop :=
  ∃ token ∈ tokens, ∃ literal, token.lexeme = .numeral ∧
    reader.notations.elaborate token.text (some token.span) reader.defaultScope = .ok literal ∧
    sub.Within literal

theorem InLiteral.mono {tokens more : List Token} {sub : Term}
    (inside : reader.InLiteral tokens sub) (kept : tokens ⊆ more) : reader.InLiteral more sub := by
  obtain ⟨token, member, found⟩ := inside
  exact ⟨token, kept member, found⟩

section

variable {function : Term} {span : Span}

mutual

/-- The reader makes no application to nothing: one that is there came with a numeral. -/
theorem DerivesAtom.inLiteral {part : Phrase} {term : Term}
    (derivation : DerivesAtom reader part term)
    (inside : (Term.app function [] span).Within term) :
    reader.InLiteral part.tokens (.app function [] span) := by
  match derivation with
  | .token (.numeral lexeme elaborated) =>
    exact ⟨_, List.mem_singleton_self _, _, lexeme, elaborated, inside⟩
  | .token (.name _ (.qualified _ _)) => cases Term.within_ref_iff.mp inside
  | .token (.name _ (.opened _ _)) => cases Term.within_ref_iff.mp inside
  | .token (.name _ (.free _ _ _)) => cases Term.within_var_iff.mp inside
  | .group _ _ enclosed =>
    exact (enclosed.inLiteral inside).mono fun token member => by simp [Phrase.tokens, member]

theorem DerivesTerm.inLiteral {parts : List Phrase} {term : Term}
    (derivation : DerivesTerm reader parts term)
    (inside : (Term.app function [] span).Within term) :
    reader.InLiteral (Phrase.tokensAll parts) (.app function [] span) := by
  match derivation with
  | .single atom =>
    exact (atom.inLiteral inside).mono fun token member => by simp [Phrase.tokensAll, member]
  | .application first others =>
    rcases Term.within_app_iff.mp inside with whole | head | ⟨arg, member, below⟩
    · cases whole
      cases others
    · exact (first.inLiteral head).mono fun token member => by simp [Phrase.tokensAll, member]
    · exact (others.inLiteral member below).mono fun token member =>
        List.mem_append_right _ member

theorem DerivesAtoms.inLiteral {parts : List Phrase} {terms : List Term} {term : Term}
    (derivation : DerivesAtoms reader parts terms) (member : term ∈ terms)
    (inside : (Term.app function [] span).Within term) :
    reader.InLiteral (Phrase.tokensAll parts) (.app function [] span) := by
  match derivation with
  | .nil => cases member
  | .cons first others =>
    rcases List.mem_cons.mp member with rfl | later
    · exact (first.inLiteral inside).mono fun token member => by simp [Phrase.tokensAll, member]
    · exact (others.inLiteral later inside).mono fun token member =>
        List.mem_append_right _ member

end

end

end Reader

/-- No encoder of the table makes an application to nothing. -/
def NotationTable.EncodesSaturated (table : NotationTable) : Prop :=
  ∀ scope interpreter, table.interpreters.find? scope = some interpreter →
    ∀ span n term, interpreter.encode span (.int n) = .ok term → term.Saturated

theorem NotationTable.encodesSaturated_under {path : Path} : (under path).EncodesSaturated := by
  intro scope interpreter found span n term encoded
  rw [(find?_under found).2] at encoded
  exact Codec.encode_saturated encoded

namespace Reader

theorem DerivesTerm.saturated {reader : Reader} {parts : List Phrase} {term : Term}
    (derivation : reader.DerivesTerm parts term)
    (encodes : reader.notations.EncodesSaturated) : term.Saturated := by
  intro function span inside
  obtain ⟨token, -, literal, -, elaborated, below⟩ := derivation.inLiteral inside
  obtain ⟨_, scope, interpreter, -, -, -, found, encoded⟩ :=
    (NotationTable.elaborate_eq_ok_iff ..).mp elaborated
  exact encodes scope interpreter found _ _ _ encoded function span below

/-- The reader accepts exactly its grammar. A text is read as a term if and only if its tokens,
at least one, derive the term; the tokens have one derivation at most; and the term has no
application to nothing, other than inside what an encoder made of a numeral. -/
theorem read_eq_ok_iff_derivesTerm (reader : Reader) (text : String) :
    (∀ term, reader.read text = .ok term ↔
      ∃ tokens parts, Token.ofText text reader.source = .ok tokens ∧ tokens ≠ [] ∧
        Phrase.tokensAll parts = tokens ∧ reader.DerivesTerm parts term) ∧
    (∀ parts others term other, reader.DerivesTerm parts term → reader.DerivesTerm others other →
      Phrase.tokensAll parts = Phrase.tokensAll others → parts = others ∧ term = other) ∧
    (∀ tokens term function span, Token.ofText text reader.source = .ok tokens →
      reader.read text = .ok term → (Term.app function [] span).Within term →
      reader.InLiteral tokens (.app function [] span)) ∧
    (reader.notations.EncodesSaturated → ∀ term, reader.read text = .ok term →
      term.Saturated) := by
  refine ⟨?_, ?_, ?_, ?_⟩
  · intro term
    constructor
    · intro read
      obtain ⟨parts, cut, derivation⟩ := derivesTerm_of_read read
      exact ⟨_, parts, cut, derivation.tokens_ne_nil, rfl, derivation⟩
    · intro derived
      obtain ⟨_, parts, cut, -, rfl, derivation⟩ := derived
      exact derivation.read text cut
  · intro parts others term other first second same
    exact first.unique second same
  · intro tokens term function span cut read inside
    obtain ⟨parts, recut, derivation⟩ := derivesTerm_of_read read
    cases Except.ok.inj (cut.symm.trans recut)
    exact derivation.inLiteral inside
  · intro encodes term read
    obtain ⟨parts, -, derivation⟩ := derivesTerm_of_read read
    exact derivation.saturated encodes

/-- With the standard tables, redundant parentheses and a numeral in a head. -/
theorem read_eq_ok_iff_derivesTerm_standard :
    standard.notations.EncodesSaturated ∧
      ∃ tokens parts term, standard.read "((f)) (1%nat (S x))" = .ok term ∧
        Token.ofText "((f)) (1%nat (S x))" = .ok tokens ∧ Phrase.tokensAll parts = tokens ∧
        standard.DerivesTerm parts term ∧ term.Saturated := by
  have encodes : standard.notations.EncodesSaturated := NotationTable.encodesSaturated_under
  have accepted : (standard.read "((f)) (1%nat (S x))").toOption.isSome = true := by
    decide +kernel
  obtain ⟨term, read⟩ := exists_ok_of_isSome accepted
  obtain ⟨exact, -, -, saturated⟩ := read_eq_ok_iff_derivesTerm standard "((f)) (1%nat (S x))"
  obtain ⟨tokens, parts, cut, -, same, derivation⟩ := (exact term).mp read
  exact ⟨encodes, tokens, parts, term, read, cut, same, derivation, saturated encodes term read⟩

/-- What the reader cannot promise by itself. An encoder may answer with an application to nothing,
which is taken as it is. And the open paths are tried in their order: one that is no path is
refused, although `O` is declared under the next. -/
theorem read_unsaturated_and_misspelled :
    let applied := Term.app (.var "f" .nowhere) [] .nowhere
    let misspelled : Reader := { standard with openPaths := [.text "A."] :: standard.openPaths }
    (encodedBy fun _ _ => .ok applied).read "3" = .ok applied ∧ ¬ applied.Saturated ∧
      standard.read "O" = .ok (.ref Codec.standard.zero ⟨0, 1, none⟩) ∧
      misspelled.read "O" = .error (.invalidSegment "A.") := by
  intro applied misspelled
  have numeral : Token.ofText "3" none = .ok [⟨.numeral, "3", ⟨0, 1, none⟩⟩] :=
    Token.ofText_of_first? (by decide) (by rfl) none
  have name : Token.ofText "O" none = .ok [⟨.name, "O", ⟨0, 1, none⟩⟩] :=
    Token.ofText_of_first? (by decide) (by rfl) none
  refine ⟨?_, ?_, ?_, ?_⟩
  · rw [read, show (encodedBy _).source = none from rfl, numeral]
    rfl
  · intro saturated
    exact saturated (.var "f" .nowhere) .nowhere .self
  · rw [read, show standard.source = none from rfl, name]
    rfl
  · rw [read, show misspelled.source = none from rfl, name]
    rfl

end Reader

end UnaryNumeral
