import UnaryNumeral.Proofs.LexemeLanguage
import UnaryNumeral.Proofs.LiteralElaboration

/-! The grammar of literals: a sign or none, decimal digits, and a key behind a percent sign or
none. A literal can be taken apart in one way only, its digits stand for the number that their places
give, and as a whole it is a single numeral lexeme. -/

namespace UnaryNumeral

open scoped Computability

namespace Text

/-- The number of decimal digits by their places, the last one counting once. -/
def placeValue : List Char → Nat
  | [] => 0
  | c :: rest => (c.toNat - '0'.toNat) * Nat.pow 10 rest.length + placeValue rest

theorem digitsValue_eq_placeValue (digits : List Char) : digitsValue digits = placeValue digits := by
  induction digits with
  | nil => rfl
  | cons c rest ih =>
    rw [digitsValue, Nat.ofDigitChars_cons, Nat.ofDigitChars_eq_ofDigitChars_zero]
    change _ + digitsValue rest = _
    rw [ih, placeValue, Nat.mul_zero, Nat.zero_add, Nat.mul_comm]
    rfl

theorem placeValue_zeros (count : Nat) (digits : List Char) :
    placeValue (List.replicate count '0' ++ digits) = placeValue digits := by
  induction count with
  | zero => rfl
  | succ count ih =>
    rw [List.replicate_succ, List.cons_append, placeValue, ih, Nat.sub_self, Nat.zero_mul,
      Nat.zero_add]

end Text

namespace Literal

open Lexeme (single mem_single_mul_iff mem_single_kstar_iff mem_character_mul_iff)

/-- The key of a literal with its percent sign. -/
def keySpelling : Option String → List Char
  | none => []
  | some key => '%' :: key.toList

/-- The text of a literal: the sign, the digits and the key. -/
def spelling (literal : Literal) : List Char :=
  (if literal.negative then ['-'] else []) ++ (literal.digits ++ keySpelling literal.key)

/-- The text is that of the literal, which has digits, decimal ones, and whose key is an ASCII
identifier. -/
structure Spells (literal : Literal) (text : List Char) : Prop where
  nonempty : literal.digits ≠ []
  decimal : ∀ c ∈ literal.digits, c.isDigit = true
  keyed : ∀ key ∈ literal.key, Text.isKey key.toList = true
  written : text = literal.spelling

theorem keyOf?_eq_some_iff (behind : List Char) (key : Option String) :
    keyOf? behind = some key ↔
      (∀ name ∈ key, Text.isKey name.toList = true) ∧ behind = keySpelling key := by
  constructor
  · intro found
    cases behind with
    | nil =>
      cases found
      exact ⟨by simp, rfl⟩
    | cons c rest =>
      simp only [keyOf?, Option.ite_none_right_eq_some] at found
      obtain ⟨⟨rfl, spelt⟩, same⟩ := found
      cases same
      refine ⟨?_, ?_⟩
      · intro name same
        cases same
        rwa [String.toList_ofList]
      · rw [keySpelling, String.toList_ofList]
  · intro given
    obtain ⟨keyed, rfl⟩ := given
    cases key with
    | none => rfl
    | some name => exact keyOf?_percent (keyed name rfl)

/-- No key starts with a digit, so that the digits end where the key begins. -/
theorem not_isDigit_of_mem_head?_keySpelling {key : Option String} :
    ∀ c ∈ (keySpelling key).head?, c.isDigit = false := by
  intro c first
  cases key with
  | none => cases first
  | some name =>
    cases first
    rfl

theorem unsigned?_eq_some_iff (negative : Bool) (text : List Char) (literal : Literal) :
    unsigned? negative text = some literal ↔
      literal.negative = negative ∧ literal.Spells (literal.spelling) ∧
        text = literal.digits ++ keySpelling literal.key := by
  constructor
  · intro found
    have digits := unsigned?_digits found
    simp only [unsigned?] at found
    split at found
    · cases found
    · obtain ⟨key, keyOf, rfl⟩ := Option.map_eq_some_iff.mp found
      obtain ⟨keyed, behind⟩ := (keyOf?_eq_some_iff ..).mp keyOf
      refine ⟨rfl, ⟨digits.1, digits.2, keyed, rfl⟩, ?_⟩
      rw [← behind, List.takeWhile_append_dropWhile]
  · intro given
    obtain ⟨rfl, spells, rfl⟩ := given
    rw [unsigned?_append _ spells.nonempty spells.decimal not_isDigit_of_mem_head?_keySpelling,
      (keyOf?_eq_some_iff ..).mpr ⟨spells.keyed, rfl⟩]
    rfl

theorem ofText?_eq_some_iff (text : List Char) (literal : Literal) :
    ofText? text = some literal ↔ literal.Spells text := by
  constructor
  · intro found
    unfold ofText? at found
    split at found
    · obtain ⟨negative, spells, rfl⟩ := (unsigned?_eq_some_iff ..).mp found
      exact { spells with written := by simp [spelling, negative] }
    · obtain ⟨positive, spells, rfl⟩ := (unsigned?_eq_some_iff ..).mp found
      exact { spells with written := by simp [spelling, positive] }
  · intro spells
    have bare : unsigned? literal.negative (literal.digits ++ keySpelling literal.key) =
        some literal := (unsigned?_eq_some_iff ..).mpr ⟨rfl, { spells with written := rfl }, rfl⟩
    rw [spells.written, spelling]
    cases sign : literal.negative with
    | true =>
      rw [sign] at bare
      exact bare
    | false =>
      rw [sign] at bare
      exact (ofText?_digits spells.nonempty spells.decimal _).trans bare

/-- The texts that are literals: `-?[0-9]+(%[A-Za-z_][A-Za-z0-9_]*)?`. -/
def language : Language Char :=
  (1 + {['-']}) * ((single Char.isDigit * (single Char.isDigit)∗) *
    (1 + {['%']} * (single Text.isNameStart * (single Text.isKeyPart)∗)))

theorem mem_sign_iff (text : List Char) :
    text ∈ (1 + {['-']} : Language Char) ↔
      ∃ negative : Bool, text = if negative then ['-'] else [] := by
  rw [Language.mem_add, Language.mem_one]
  constructor
  · intro sign
    rcases sign with none | minus
    · exact ⟨false, none⟩
    · exact ⟨true, minus⟩
  · intro sign
    obtain ⟨negative, rfl⟩ := sign
    cases negative with
    | false => exact .inl rfl
    | true => exact .inr rfl

theorem mem_digits_iff (text : List Char) :
    text ∈ single Char.isDigit * (single Char.isDigit)∗ ↔
      text ≠ [] ∧ ∀ c ∈ text, c.isDigit = true := by
  rw [mem_single_mul_iff]
  simp only [mem_single_kstar_iff]
  constructor
  · intro spelt
    obtain ⟨c, rest, rfl, digit, digits⟩ := spelt
    exact ⟨List.cons_ne_nil c rest, List.forall_mem_cons.mpr ⟨digit, digits⟩⟩
  · intro spelt
    obtain ⟨c, rest, rfl⟩ := List.exists_cons_of_ne_nil spelt.1
    obtain ⟨digit, digits⟩ := List.forall_mem_cons.mp spelt.2
    exact ⟨c, rest, rfl, digit, digits⟩

theorem mem_keyName_iff (text : List Char) :
    text ∈ single Text.isNameStart * (single Text.isKeyPart)∗ ↔ Text.isKey text = true := by
  rw [mem_single_mul_iff]
  simp only [mem_single_kstar_iff]
  cases text with
  | nil => simp [Text.isKey]
  | cons c rest => simp [Text.isKey]

theorem mem_key_iff (text : List Char) :
    text ∈ 1 + {['%']} * (single Text.isNameStart * (single Text.isKeyPart)∗) ↔
      ∃ key : Option String, (∀ name ∈ key, Text.isKey name.toList = true) ∧
        text = keySpelling key := by
  rw [Language.mem_add, Language.mem_one, mem_character_mul_iff]
  simp only [mem_keyName_iff]
  constructor
  · intro spelt
    rcases spelt with rfl | ⟨name, rfl, keyed⟩
    · exact ⟨none, by simp, rfl⟩
    · refine ⟨some (String.ofList name), ?_, ?_⟩
      · intro other same
        cases same
        rwa [String.toList_ofList]
      · rw [keySpelling, String.toList_ofList]
  · intro spelt
    obtain ⟨key, keyed, rfl⟩ := spelt
    cases key with
    | none => exact .inl rfl
    | some name => exact .inr ⟨name.toList, rfl, keyed name rfl⟩

/-- A text belongs to the language just if it is the text of some literal. -/
theorem mem_language_iff (text : List Char) :
    text ∈ language ↔ ∃ literal : Literal, literal.Spells text := by
  constructor
  · intro belongs
    obtain ⟨sign, signed, unsigned, rest, rfl⟩ := Language.mem_mul.mp belongs
    obtain ⟨digits, decimal, behind, keyed, rfl⟩ := Language.mem_mul.mp rest
    obtain ⟨negative, rfl⟩ := (mem_sign_iff _).mp signed
    obtain ⟨key, spelt, rfl⟩ := (mem_key_iff _).mp keyed
    obtain ⟨nonempty, decimal⟩ := (mem_digits_iff _).mp decimal
    exact ⟨⟨negative, digits, key⟩, nonempty, decimal, spelt, rfl⟩
  · intro spelt
    obtain ⟨literal, spells⟩ := spelt
    rw [spells.written]
    have sign := (mem_sign_iff _).mpr ⟨literal.negative, rfl⟩
    have digits := (mem_digits_iff _).mpr ⟨spells.nonempty, spells.decimal⟩
    have key := (mem_key_iff _).mpr ⟨literal.key, spells.keyed, rfl⟩
    exact Language.append_mem_mul sign (Language.append_mem_mul digits key)

theorem ofText?_eq_none_iff (text : List Char) : ofText? text = none ↔ text ∉ language := by
  rw [mem_language_iff, Option.eq_none_iff_forall_ne_some]
  simp only [ne_eq, ofText?_eq_some_iff, not_exists]

/-- A literal is one numeral lexeme from its first character to its last. -/
theorem mem_numeral_of_mem_language {text : List Char} (spelt : text ∈ language) :
    text ∈ Lexeme.language .numeral := by
  obtain ⟨literal, spells⟩ := (mem_language_iff text).mp spelt
  have first := spells_of_ofText? ((ofText?_eq_some_iff ..).mpr spells) [] delimits_nil
  rw [List.append_nil] at first
  exact (Lexeme.mem_language_iff ..).mpr ((Lexeme.first?_eq_some_iff ..).mp first)

end Literal

end UnaryNumeral
