import UnaryNumeral.Proofs.LiteralElaboration
import UnaryNumeral.Proofs.NumeralRecognition
import UnaryNumeral.Proofs.StandardTables
import UnaryNumeral.Proofs.Tiling

/-! What tokens stand for does not depend on where they stand: moved elsewhere, they derive the same
term up to spans, provided that numerals are encoded as codecs encode them. -/

namespace UnaryNumeral

namespace Phrase

mutual

def map (f : Token → Token) : Phrase → Phrase
  | leaf token => leaf (f token)
  | group opening parts closing => group (f opening) (mapAll f parts) (f closing)

def mapAll (f : Token → Token) : List Phrase → List Phrase
  | [] => []
  | part :: rest => part.map f :: mapAll f rest

end

mutual

theorem tokens_map (f : Token → Token) (part : Phrase) :
    (part.map f).tokens = part.tokens.map f := by
  match part with
  | leaf token => rfl
  | group opening parts closing => simp [map, tokens, tokensAll_mapAll f parts]

theorem tokensAll_mapAll (f : Token → Token) (parts : List Phrase) :
    tokensAll (mapAll f parts) = (tokensAll parts).map f := by
  match parts with
  | [] => rfl
  | part :: rest => simp [mapAll, tokensAll, tokens_map f part, tokensAll_mapAll f rest]

end

end Phrase

namespace NotationTable

/-- Every scope encodes its numerals as some codec does. -/
def EncodesNumerals (table : NotationTable) : Prop :=
  ∀ scope interpreter, table.interpreters.find? scope = some interpreter →
    ∃ codec : Codec, interpreter.encode = codec.encoder

/-- The scope of a literal: the one that its key selects, or without a key the default one. -/
def Selects (table : NotationTable) (literal : Literal) (defaultScope : Option String)
    (scope : String) : Prop :=
  (∃ key, literal.key = some key ∧ table.delimiters.find? key = some scope) ∨
    literal.key = none ∧ defaultScope = some scope

theorem scopeOfLiteral_eq_ok_iff (table : NotationTable) (text : String) (span : Span)
    (literal : Literal) (defaultScope : Option String) (scope : String) :
    table.scopeOfLiteral text span literal defaultScope = .ok scope ↔
      (∃ key, literal.key = some key ∧ table.delimiters.find? key = some scope) ∨
        literal.key = none ∧ defaultScope = some scope := by
  unfold scopeOfLiteral scopeOfDelimiter
  cases keyed : literal.key with
  | some key => cases selected : table.delimiters.find? key <;> simp [selected]
  | none => cases defaultScope <;> simp

theorem encodesNumerals_under {path : Path} : (under path).EncodesNumerals := by
  intro scope interpreter found
  rw [(find?_under found).2]
  exact ⟨.under path, rfl⟩

/-- Where a numeral can be elaborated, it can be elaborated at any span, to the numeral of the same
number. -/
theorem EncodesNumerals.elaborate {table : NotationTable} (numerals : table.EncodesNumerals)
    {text : String} {span : Span} {defaultScope : Option String} {term : Term}
    (elaborated : table.elaborate text (some span) defaultScope = .ok term) :
    ∃ (codec : Codec) (n : Nat), term = codec.numeral span n ∧
      ∀ place, table.elaborate text (some place) defaultScope =
        .ok (codec.numeral place n) := by
  obtain ⟨literal, scope, interpreter, spelt, selected, few, found, encoded⟩ :=
    (elaborate_eq_ok_iff ..).mp elaborated
  obtain ⟨codec, encodes⟩ := numerals scope interpreter found
  rw [encodes] at encoded
  obtain ⟨positive, rfl⟩ := (codec.encode_eq_ok_iff ..).mp encoded
  refine ⟨codec, literal.value.toNat, rfl, fun place => ?_⟩
  have again : interpreter.encode (some place) (.int literal.value) =
      .ok (codec.numeral place literal.value.toNat) := by
    rw [encodes]
    exact (codec.encode_eq_ok_iff ..).mpr ⟨positive, rfl⟩
  have reselected : table.scopeOfLiteral text place literal defaultScope = .ok scope := by
    rw [scopeOfLiteral_eq_ok_iff] at selected ⊢
    exact selected
  exact (elaborate_eq_ok_iff ..).mpr
    ⟨literal, scope, interpreter, spelt, reselected, few, found, again⟩

end NotationTable

/-- What is changed about tokens leaves their class and their text. -/
def Token.Relocates (f : Token → Token) : Prop :=
  ∀ token, (f token).lexeme = token.lexeme ∧ (f token).text = token.text

theorem Token.relocates_moved (distance : Int) (source : Option String) :
    Relocates (moved distance source) := fun _ => ⟨rfl, rfl⟩

namespace Reader

/-- The same reader of texts by another name. -/
def inSource (reader : Reader) (source : Option String) : Reader := { reader with source }

variable {reader : Reader}

theorem Names.relocate {name : String} {span : Span} {term : Term}
    (named : reader.Names name span term) (place : Span) (source : Option String) :
    ∃ found, (reader.inSource source).Names name place found ∧ found.bare = term.bare := by
  cases named with
  | qualified dotted found => exact ⟨_, .qualified dotted found, rfl⟩
  | opened undotted found => exact ⟨_, .opened undotted found, rfl⟩
  | free undotted unknown lower => exact ⟨_, .free undotted unknown lower, rfl⟩

theorem Means.relocate {token : Token} {term : Term} (meaning : reader.Means token term)
    (numerals : reader.notations.EncodesNumerals) {f : Token → Token}
    (relocates : Token.Relocates f) (source : Option String) :
    ∃ found, (reader.inSource source).Means (f token) found ∧ found.bare = term.bare := by
  obtain ⟨sameLexeme, sameText⟩ := relocates token
  cases meaning with
  | numeral lexeme elaborated =>
    obtain ⟨codec, n, rfl, anywhere⟩ := numerals.elaborate elaborated
    refine ⟨codec.numeral (f token).span n, .numeral (sameLexeme.trans lexeme) ?_, ?_⟩
    · rw [sameText]
      exact anywhere (f token).span
    · rw [codec.bare_numeral, codec.bare_numeral]
  | name lexeme named =>
    obtain ⟨found, renamed, same⟩ := named.relocate (f token).span source
    exact ⟨found, .name (sameLexeme.trans lexeme) (sameText ▸ renamed), same⟩

mutual

theorem DerivesAtom.relocate {part : Phrase} {term : Term}
    (derivation : DerivesAtom reader part term) (numerals : reader.notations.EncodesNumerals)
    {f : Token → Token} (relocates : Token.Relocates f) (source : Option String) :
    ∃ found, (reader.inSource source).DerivesAtom (part.map f) found ∧ found.bare = term.bare := by
  match derivation with
  | .token meaning =>
    obtain ⟨found, again, same⟩ := meaning.relocate numerals relocates source
    exact ⟨found, .token again, same⟩
  | .group opens closes inside =>
    obtain ⟨found, again, same⟩ := inside.relocate numerals relocates source
    exact ⟨found, .group ((relocates _).1.trans opens) ((relocates _).1.trans closes) again, same⟩

theorem DerivesTerm.relocate {parts : List Phrase} {term : Term}
    (derivation : DerivesTerm reader parts term) (numerals : reader.notations.EncodesNumerals)
    {f : Token → Token} (relocates : Token.Relocates f) (source : Option String) :
    ∃ found, (reader.inSource source).DerivesTerm (Phrase.mapAll f parts) found ∧
      found.bare = term.bare := by
  match derivation with
  | .single atom =>
    obtain ⟨found, again, same⟩ := atom.relocate numerals relocates source
    exact ⟨found, .single again, same⟩
  | .application first others =>
    obtain ⟨head, firstAgain, sameHead⟩ := first.relocate numerals relocates source
    obtain ⟨args, othersAgain, sameArgs⟩ := others.relocate numerals relocates source
    exact ⟨_, .application firstAgain othersAgain, by simp [sameHead, sameArgs]⟩

theorem DerivesAtoms.relocate {parts : List Phrase} {terms : List Term}
    (derivation : DerivesAtoms reader parts terms) (numerals : reader.notations.EncodesNumerals)
    {f : Token → Token} (relocates : Token.Relocates f) (source : Option String) :
    ∃ found, (reader.inSource source).DerivesAtoms (Phrase.mapAll f parts) found ∧
      found.map Term.bare = terms.map Term.bare := by
  match derivation with
  | .nil => exact ⟨[], .nil, rfl⟩
  | .cons first others =>
    obtain ⟨term, firstAgain, sameFirst⟩ := first.relocate numerals relocates source
    obtain ⟨terms, othersAgain, sameOthers⟩ := others.relocate numerals relocates source
    exact ⟨term :: terms, .cons firstAgain othersAgain, by simp [sameFirst, sameOthers]⟩

end

theorem standard_encodesNumerals : standard.notations.EncodesNumerals :=
  NotationTable.encodesNumerals_under

end Reader

end UnaryNumeral
