import UnaryNumeral.Proofs.LiteralGrammar
import UnaryNumeral.Proofs.Relocation
import UnaryNumeral.Proofs.Subterm

/-! What becomes of a text that is taken for a literal. Every way in which it can be refused, and the
term that it stands for otherwise, each under the condition that nothing that comes before it
applies. -/

namespace UnaryNumeral

namespace Literal

theorem value_eq (literal : Literal) :
    literal.value =
      if literal.negative then -(Text.placeValue literal.digits : Int)
      else Text.placeValue literal.digits := by
  rw [value, Text.digitsValue_eq_placeValue]

end Literal

/-- A sign in front of a number that is not zero is refused; in front of zero it does not count. -/
theorem Codec.encode_value (codec : Codec) (span : Option Span) (literal : Literal) :
    codec.encode span literal.value =
      if literal.negative = true ∧ Text.placeValue literal.digits ≠ 0 then
        .error (.negativeNumeral span)
      else .ok (codec.numeral (span.getD .nowhere) (Text.placeValue literal.digits)) := by
  rw [encode, Literal.value_eq]
  cases literal.negative with
  | false => simp
  | true =>
    by_cases zero : Text.placeValue literal.digits = 0
    · simp [zero]
    · simp [zero]

namespace NotationTable

/-- The text is that of a literal, and this is the scope of the literal. -/
structure Scoped (table : NotationTable) (text : String) (defaultScope : Option String)
    (literal : Literal) (scope : String) : Prop where
  spells : literal.Spells text.toList
  selects : table.Selects literal defaultScope scope

/-- What a text comes to as a literal at a place. The first thing that is wrong with it is decisive:
it is no literal or has no scope, its key is not declared, it has too many digits, its scope has no
interpreter, or it is negative. -/
inductive Elaborates (table : NotationTable) (text : String) (place : Span)
    (defaultScope : Option String) : Except Error Term → Prop where
  | notDecimal (other : text.toList ∉ Literal.language) :
      Elaborates table text place defaultScope (.error (.malformed text place .notDecimal))
  | noScope {literal : Literal} (spells : literal.Spells text.toList) (keyless : literal.key = none)
      (unscoped : defaultScope = none) :
      Elaborates table text place defaultScope (.error (.malformed text place .noScope))
  | unknownKey {literal : Literal} {key : String} (spells : literal.Spells text.toList)
      (keyed : literal.key = some key) (undeclared : table.delimiters.find? key = none) :
      Elaborates table text place defaultScope (.error (.unknownScope key))
  | tooManyDigits {literal : Literal} {scope : String}
      (inScope : table.Scoped text defaultScope literal scope)
      (many : Literal.digitLimit < literal.digits.length) :
      Elaborates table text place defaultScope (.error (.tooManyDigits literal.digits.length))
  | unknownScope {literal : Literal} {scope : String}
      (inScope : table.Scoped text defaultScope literal scope)
      (few : literal.digits.length ≤ Literal.digitLimit)
      (unregistered : table.interpreters.find? scope = none) :
      Elaborates table text place defaultScope (.error (.unknownScope scope))
  | negative {literal : Literal} {scope : String} {interpreter : Interpreter} {codec : Codec}
      (inScope : table.Scoped text defaultScope literal scope)
      (few : literal.digits.length ≤ Literal.digitLimit)
      (found : table.interpreters.find? scope = some interpreter)
      (encodes : interpreter.encode = codec.encoder)
      (below : literal.negative = true ∧ Text.placeValue literal.digits ≠ 0) :
      Elaborates table text place defaultScope (.error (.negativeNumeral (some place)))
  | numeral {literal : Literal} {scope : String} {interpreter : Interpreter} {codec : Codec}
      (inScope : table.Scoped text defaultScope literal scope)
      (few : literal.digits.length ≤ Literal.digitLimit)
      (found : table.interpreters.find? scope = some interpreter)
      (encodes : interpreter.encode = codec.encoder)
      (natural : ¬(literal.negative = true ∧ Text.placeValue literal.digits ≠ 0)) :
      Elaborates table text place defaultScope
        (.ok (codec.numeral place (Text.placeValue literal.digits)))

variable {table : NotationTable} {text : String} {place : Span} {defaultScope : Option String}

theorem Scoped.elaborate {literal : Literal} {scope : String}
    (inScope : table.Scoped text defaultScope literal scope) (place : Span) :
    table.elaborate text (some place) defaultScope =
      if Literal.digitLimit < literal.digits.length then
        .error (.tooManyDigits literal.digits.length)
      else table.interpret scope (some place) literal.value :=
  elaborate_of_scopeOfLiteral ((Literal.ofText?_eq_some_iff ..).mpr inScope.spells)
    ((table.scopeOfLiteral_eq_ok_iff ..).mpr inScope.selects)

theorem Scoped.elaborate_of_few {literal : Literal} {scope : String}
    (inScope : table.Scoped text defaultScope literal scope)
    (few : literal.digits.length ≤ Literal.digitLimit) (place : Span) :
    table.elaborate text (some place) defaultScope =
      table.interpret scope (some place) literal.value := by
  rw [inScope.elaborate, if_neg (Nat.not_lt.mpr few)]

theorem interpret_eq {scope : String} {interpreter : Interpreter} {codec : Codec}
    (found : table.interpreters.find? scope = some interpreter)
    (encodes : interpreter.encode = codec.encoder) (span : Option Span) (n : Int) :
    table.interpret scope span n = codec.encode span n := by
  have known : table.interpreter scope = .ok interpreter := (interpreter_eq_ok_iff ..).mpr found
  rw [interpret, interpretValue, known]
  change interpreter.encode span (.int n) = _
  rw [encodes]
  rfl

/-- What a text comes to by the rules is what is made of it. -/
theorem Elaborates.eq {result : Except Error Term}
    (outcome : table.Elaborates text place defaultScope result) :
    table.elaborate text (some place) defaultScope = result := by
  cases outcome with
  | notDecimal other =>
    simp only [elaborate, (Literal.ofText?_eq_none_iff _).mpr other, Option.getD_some]
  | noScope spells keyless unscoped =>
    have spelt := (Literal.ofText?_eq_some_iff ..).mpr spells
    simp only [elaborate, spelt, Option.getD_some, scopeOfLiteral, keyless, unscoped]
    rfl
  | unknownKey spells keyed undeclared =>
    have spelt := (Literal.ofText?_eq_some_iff ..).mpr spells
    simp only [elaborate, spelt, Option.getD_some, scopeOfLiteral, keyed, scopeOfDelimiter,
      undeclared]
    rfl
  | tooManyDigits inScope many => rw [inScope.elaborate, if_pos many]
  | unknownScope inScope few unregistered =>
    rw [inScope.elaborate_of_few few, interpret, interpretValue, interpreter, unregistered]
    rfl
  | negative inScope few found encodes below =>
    rw [inScope.elaborate_of_few few, interpret_eq found encodes, Codec.encode_value, if_pos below]
  | numeral inScope few found encodes natural =>
    rw [inScope.elaborate_of_few few, interpret_eq found encodes, Codec.encode_value,
      if_neg natural]
    rfl

/-- Some rule applies to every text, provided that the interpreters are those of codecs. -/
theorem exists_elaborates (numerals : table.EncodesNumerals) (text : String) (place : Span)
    (defaultScope : Option String) :
    ∃ result, table.Elaborates text place defaultScope result := by
  by_cases belongs : text.toList ∈ Literal.language
  · obtain ⟨literal, spells⟩ := (Literal.mem_language_iff _).mp belongs
    -- from here on it does not matter whether the key or the default selected the scope
    have settle {scope : String} (selects : table.Selects literal defaultScope scope) :
        ∃ result, table.Elaborates text place defaultScope result := by
      have inScope : table.Scoped text defaultScope literal scope := ⟨spells, selects⟩
      by_cases few : literal.digits.length ≤ Literal.digitLimit
      · cases found : table.interpreters.find? scope with
        | none => exact ⟨_, .unknownScope inScope few found⟩
        | some interpreter =>
          obtain ⟨codec, encodes⟩ := numerals scope interpreter found
          by_cases below : literal.negative = true ∧ Text.placeValue literal.digits ≠ 0
          · exact ⟨_, .negative inScope few found encodes below⟩
          · exact ⟨_, .numeral inScope few found encodes below⟩
      · exact ⟨_, .tooManyDigits inScope (Nat.not_le.mp few)⟩
    cases keyed : literal.key with
    | some key =>
      cases selected : table.delimiters.find? key with
      | none => exact ⟨_, .unknownKey spells keyed selected⟩
      | some scope => exact settle (.inl ⟨key, keyed, selected⟩)
    | none =>
      cases given : defaultScope with
      | none => exact ⟨_, .noScope spells keyed rfl⟩
      | some scope =>
        subst given
        exact settle (.inr ⟨keyed, rfl⟩)
  · exact ⟨_, .notDecimal belongs⟩

theorem elaborate_eq_iff (numerals : table.EncodesNumerals) (text : String) (place : Span)
    (defaultScope : Option String) (result : Except Error Term) :
    table.elaborate text (some place) defaultScope = result ↔
      table.Elaborates text place defaultScope result := by
  constructor
  · intro elaborated
    obtain ⟨other, outcome⟩ := exists_elaborates numerals text place defaultScope
    rw [← elaborated, outcome.eq]
    exact outcome
  · exact Elaborates.eq

theorem Elaborates.unique {result other : Except Error Term}
    (outcome : table.Elaborates text place defaultScope result)
    (again : table.Elaborates text place defaultScope other) : other = result :=
  again.eq.symm.trans outcome.eq

/-- The error says that the text is malformed just where the text is no literal, or has no key and
there is no default scope. -/
theorem Elaborates.isMalformed_iff {result : Except Error Term}
    (outcome : table.Elaborates text place defaultScope result) :
    (∃ error, result = .error error ∧ error.title? = some "NumeralSyntaxError") ↔
      text.toList ∉ Literal.language ∨
        defaultScope = none ∧
          ∃ literal : Literal, literal.Spells text.toList ∧ literal.key = none := by
  constructor
  · intro malformed
    obtain ⟨error, rfl, titled⟩ := malformed
    cases outcome with
    | notDecimal other => exact .inl other
    | noScope spells keyless unscoped => exact .inr ⟨unscoped, _, spells, keyless⟩
    | _ => simp [Error.title?] at titled
  · intro given
    rcases given with other | ⟨unscoped, literal, spells, keyless⟩
    · exact ⟨_, (Elaborates.notDecimal other).unique outcome, rfl⟩
    · exact ⟨_, (Elaborates.noScope spells keyless unscoped).unique outcome, rfl⟩

/-- The complete outcome of a text that is taken for a literal, the interpreters of the table being
those of codecs. The rules of `Elaborates` say for every text what is made of it; the text is called
malformed just where it is not in the language of literals or has neither key nor default scope;
zeros in front of the digits do not count; and a term that results stands at the place of the literal
with each of its nodes. -/
theorem elaborate_outcome (numerals : table.EncodesNumerals) (text : String) (span : Option Span)
    (defaultScope : Option String) :
    let place := span.getD ⟨0, text.length, none⟩
    (∀ result, table.elaborate text span defaultScope = result ↔
        table.Elaborates text place defaultScope result) ∧
      ((∃ error, table.elaborate text span defaultScope = .error error ∧
          error.title? = some "NumeralSyntaxError") ↔
        text.toList ∉ Literal.language ∨
          defaultScope = none ∧
            ∃ literal : Literal, literal.Spells text.toList ∧ literal.key = none) ∧
      (∀ zeros digits, Text.placeValue (List.replicate zeros '0' ++ digits) =
        Text.placeValue digits) ∧
      ∀ term node : Term, table.elaborate text span defaultScope = .ok term →
        node.Within term → node.span = place := by
  intro place
  have outcome := elaborate_eq_iff numerals text place defaultScope
  rw [elaborate_getD] at outcome
  refine ⟨outcome, ((outcome _).mp rfl).isMalformed_iff, Text.placeValue_zeros, ?_⟩
  intro term node elaborated inside
  cases (outcome _).mp elaborated with
  | numeral => exact Codec.span_of_within_numeral inside

/-- A sign in front of zeros does not count, a sign in front of another number does, and a key that
is not declared is not made up for by a default scope. -/
theorem elaborate_outcome_standard :
    Tables.standard.notations.EncodesNumerals ∧
      Tables.standard.notations.Elaborates "-00%nat" ⟨3, 10, none⟩ none
        (.ok (Codec.standard.numeral ⟨3, 10, none⟩ 0)) ∧
      Tables.standard.notations.Elaborates "-07%nat" ⟨0, 7, none⟩ none
        (.error (.negativeNumeral (some ⟨0, 7, none⟩))) ∧
      Tables.standard.notations.Elaborates "1%zz" ⟨0, 4, none⟩ (some standardScope)
        (.error (.unknownScope "zz")) := by
  have numerals := Reader.standard_encodesNumerals
  refine ⟨numerals, ?_, ?_, ?_⟩
  · exact ((elaborate_outcome numerals "-00%nat" (some ⟨3, 10, none⟩) none).1 _).mp rfl
  · exact ((elaborate_outcome numerals "-07%nat" none none).1 _).mp rfl
  · exact ((elaborate_outcome numerals "1%zz" none (some standardScope)).1 _).mp rfl

end NotationTable

end UnaryNumeral
