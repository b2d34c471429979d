import UnaryNumeral.Notation.Literal
import UnaryNumeral.Token

namespace UnaryNumeral

namespace Text

theorem isKeyPart_of_isNameStart {c : Char} (start : isNameStart c = true) : isKeyPart c = true := by
  simp only [isNameStart, Bool.or_eq_true] at start
  rcases start with letter | underscore
  · simp [isKeyPart, Char.isAlphanum, letter]
  · simp [isKeyPart, underscore]

theorem isKeyPart_of_isDigit {c : Char} (digit : c.isDigit = true) : isKeyPart c = true := by
  simp [isKeyPart, Char.isAlphanum, digit]

theorem le_toNat_of_isKeyPart {c : Char} (part : isKeyPart c = true) : 0x30 ≤ c.toNat := by
  delta isKeyPart Char.isAlphanum Char.isAlpha Char.isUpper Char.isLower Char.isDigit at part
  simp only [Bool.or_eq_true, Bool.and_eq_true, decide_eq_true_eq, beq_iff_eq,
    UInt32.le_iff_toNat_le] at part
  rcases part with (((bounds | bounds) | bounds) | rfl)
  · exact Nat.le_trans (by decide) bounds.1
  · exact Nat.le_trans (by decide) bounds.1
  · exact bounds.1
  · decide

theorem not_isBlank_of_isKeyPart {c : Char} (part : isKeyPart c = true) : isBlank c = false := by
  have low := le_toNat_of_isKeyPart part
  have high := isKeyPart_toNat_lt part
  simp only [isBlank, inRanges, blankRanges, List.any_cons, List.any_nil, Bool.or_false,
    Bool.or_eq_false_iff, Bool.and_eq_false_iff, decide_eq_false_iff_not]
  omega

theorem dot_notMem_of_isName {name : List Char} (named : isName name = true) : '.' ∉ name := by
  cases name with
  | nil => simp
  | cons c rest =>
    simp only [isName, Bool.and_eq_true, List.all_eq_true] at named
    intro dotted
    rcases List.mem_cons.mp dotted with rfl | member
    · exact absurd named.1 (by decide)
    · exact absurd (named.2 _ member) (by decide)

theorem not_isDigit_of_isNameStart {c : Char} (start : isNameStart c = true) :
    c.isDigit = false := by
  delta isNameStart Char.isAlpha Char.isUpper Char.isLower at start
  delta Char.isDigit
  simp only [Bool.or_eq_true, Bool.and_eq_true, decide_eq_true_eq, beq_iff_eq,
    UInt32.le_iff_toNat_le] at start
  simp only [Bool.and_eq_false_iff, decide_eq_false_iff_not, UInt32.le_iff_toNat_le]
  rcases start with (bounds | bounds) | rfl
  · exact .inr fun small => absurd (Nat.le_trans bounds.1 small) (by decide)
  · exact .inr fun small => absurd (Nat.le_trans bounds.1 small) (by decide)
  · decide

end Text

/-- What may stand behind an atom: nothing, a space or a closing parenthesis. -/
def Delimits (behind : List Char) : Prop := ∀ c ∈ behind.head?, c = ' ' ∨ c = ')'

@[simp]
theorem delimits_nil : Delimits [] := by simp [Delimits]

@[simp]
theorem delimits_space (behind : List Char) : Delimits (' ' :: behind) := by simp [Delimits]

@[simp]
theorem delimits_closing (behind : List Char) : Delimits (')' :: behind) := by simp [Delimits]

/-- A run of characters to which neither a space nor a closing parenthesis belongs stops there. -/
theorem Delimits.takeWhile_eq_nil {behind : List Char} (delimits : Delimits behind)
    {part : Char → Bool} (space : part ' ' = false) (closing : part ')' = false) :
    behind.takeWhile part = [] := by
  cases behind with
  | nil => rfl
  | cons c more =>
    rcases delimits c rfl with rfl | rfl
    · simp [space]
    · simp [closing]

namespace Lexeme

/-- The first lexeme of a text is an atom's whole spelling, whatever it is delimited by. -/
def Spells (lexeme : Lexeme) (chars : List Char) : Prop :=
  ∀ behind, Delimits behind → first? (chars ++ behind) = some (lexeme, chars.length)

theorem first?_opening (behind : List Char) : first? ('(' :: behind) = some (opening, 1) := rfl

theorem first?_closing (behind : List Char) : first? (')' :: behind) = some (closing, 1) := rfl

theorem first?_space (behind : List Char) :
    first? (' ' :: behind) = some (blank, 1 + runLength Text.isBlank behind) := rfl

theorem nameLength_append {name behind : List Char} (parts : name.all Text.isNamePart = true)
    (delimits : Delimits behind) : nameLength (name ++ behind) = name.length := by
  induction name with
  | nil =>
    cases behind with
    | nil => rfl
    | cons c more =>
      rcases delimits c rfl with rfl | rfl
      · cases more <;> rfl
      · cases more <;> rfl
  | cons c rest ih =>
    simp only [List.all_cons, Bool.and_eq_true] at parts
    rw [List.cons_append, nameLength.eq_def]
    simp only [parts.1, ↓reduceIte, ih parts.2, List.length_cons]
    exact Nat.add_comm ..

/-- Past blanks and parentheses, a first character of a key decides between numeral and name. -/
theorem first?_cons_of_isKeyPart {c : Char} (part : Text.isKeyPart c = true) (rest : List Char) :
    first? (c :: rest) =
      if c.isDigit then some (numeral, 1 + runLength isNumeralPart rest)
      else if Text.isNameStart c then some (name, 1 + nameLength rest)
      else none := by
  have low := Text.le_toNat_of_isKeyPart part
  have opening : c ≠ '(' := by rintro rfl; revert low; decide
  have closing : c ≠ ')' := by rintro rfl; revert low; decide
  have hyphen : c ≠ '-' := by rintro rfl; revert low; decide
  simp [first?, Text.not_isBlank_of_isKeyPart part, opening, closing, hyphen]

theorem spells_name {chars : List Char} (named : Text.isName chars = true) : name.Spells chars := by
  intro behind delimits
  cases chars with
  | nil => cases named
  | cons c rest =>
    simp only [Text.isName, Bool.and_eq_true] at named
    rw [List.cons_append, first?_cons_of_isKeyPart (Text.isKeyPart_of_isNameStart named.1),
      Text.not_isDigit_of_isNameStart named.1, if_neg Bool.false_ne_true, if_pos named.1,
      nameLength_append named.2 delimits, List.length_cons, Nat.add_comm]

theorem runLength_append {chars behind : List Char}
    (parts : ∀ part ∈ chars, isNumeralPart part = true) (delimits : Delimits behind) :
    runLength isNumeralPart (chars ++ behind) = chars.length := by
  rw [runLength, List.takeWhile_append_of_pos parts,
    delimits.takeWhile_eq_nil (by decide) (by decide), List.append_nil]

theorem spells_numeral {c : Char} {rest : List Char} (digit : c.isDigit = true)
    (parts : ∀ part ∈ rest, isNumeralPart part = true) : numeral.Spells (c :: rest) := by
  intro behind delimits
  rw [List.cons_append, first?_cons_of_isKeyPart (Text.isKeyPart_of_isDigit digit), if_pos digit,
    runLength_append parts delimits, List.length_cons, Nat.add_comm]

theorem spells_negative {c : Char} {rest : List Char} (digit : c.isDigit = true)
    (parts : ∀ part ∈ rest, isNumeralPart part = true) : numeral.Spells ('-' :: c :: rest) := by
  intro behind delimits
  have hyphen : first? ('-' :: c :: (rest ++ behind)) =
      if c.isDigit then some (numeral, 2 + runLength isNumeralPart (rest ++ behind)) else none := rfl
  rw [List.cons_append, List.cons_append, hyphen, if_pos digit, runLength_append parts delimits,
    List.length_cons, List.length_cons, Nat.add_comm]

end Lexeme

namespace Literal

theorem keyOf?_parts {behind : List Char} {key : Option String} (keyed : keyOf? behind = some key) :
    ∀ c ∈ behind, Lexeme.isNumeralPart c = true := by
  cases behind with
  | nil => simp
  | cons mark name =>
    simp only [keyOf?, Option.ite_none_right_eq_some] at keyed
    obtain ⟨⟨rfl, spelt⟩, -⟩ := keyed
    cases name with
    | nil => cases spelt
    | cons c rest =>
      simp only [Text.isKey, Bool.and_eq_true, List.all_eq_true] at spelt
      intro part member
      simp only [List.mem_cons] at member
      rcases member with rfl | rfl | member
      · rfl
      · simp [Lexeme.isNumeralPart, Text.isKeyPart_of_isNameStart spelt.1]
      · simp [Lexeme.isNumeralPart, spelt.2 part member]

theorem unsigned?_parts {negative : Bool} {text : List Char} {literal : Literal}
    (spelt : unsigned? negative text = some literal) :
    ∃ c rest, text = c :: rest ∧ c.isDigit = true ∧
      ∀ part ∈ rest, Lexeme.isNumeralPart part = true := by
  cases text with
  | nil => cases spelt
  | cons c rest =>
    by_cases digit : c.isDigit = true
    · simp only [unsigned?, List.takeWhile_cons_of_pos digit, List.dropWhile_cons_of_pos digit,
        List.isEmpty_cons, Bool.false_eq_true, ↓reduceIte, Option.map_eq_some_iff] at spelt
      obtain ⟨key, keyed, -⟩ := spelt
      refine ⟨c, rest, rfl, digit, fun part member => ?_⟩
      rw [← List.takeWhile_append_dropWhile (p := Char.isDigit) (l := rest),
        List.mem_append] at member
      rcases member with inDigits | behind
      · have decimal := List.all_eq_true.mp List.all_takeWhile part inDigits
        simp [Lexeme.isNumeralPart, Text.isKeyPart_of_isDigit decimal]
      · exact keyOf?_parts keyed part behind
    · simp [unsigned?, digit] at spelt

theorem spells_of_ofText? {text : List Char} {literal : Literal}
    (spelt : ofText? text = some literal) : Lexeme.numeral.Spells text := by
  unfold ofText? at spelt
  split at spelt
  · obtain ⟨c, rest, rfl, digit, parts⟩ := unsigned?_parts spelt
    exact Lexeme.spells_negative digit parts
  · obtain ⟨c, rest, rfl, digit, parts⟩ := unsigned?_parts spelt
    exact Lexeme.spells_numeral digit parts

end Literal

namespace Token

variable (source : Option String) (position : Nat) (tokens : List Token)

/-- A space leaves no token, and neither do the blanks behind it. -/
theorem scan_space (behind : List Char) :
    scan source position (' ' :: behind) tokens = scan source (position + 1) behind tokens := by
  rw [scan_of_first? source position tokens (Lexeme.first?_space behind)]
  simp only [↓reduceIte, Nat.add_comm 1, List.drop_succ_cons]
  cases behind with
  | nil => rfl
  | cons c rest =>
    by_cases blank : Text.isBlank c = true
    · have run : Lexeme.runLength Text.isBlank (c :: rest) =
          1 + Lexeme.runLength Text.isBlank rest := by
        simp [Lexeme.runLength, blank, Nat.add_comm]
      have found : Lexeme.first? (c :: rest) =
          some (.blank, Lexeme.runLength Text.isBlank (c :: rest)) := by
        simp [Lexeme.first?, blank, run]
      rw [scan_of_first? source (position + 1) tokens found, if_pos rfl, Nat.add_right_comm,
        Nat.add_assoc]
    · have run : Lexeme.runLength Text.isBlank (c :: rest) = 0 := by
        simp [Lexeme.runLength, blank]
      rw [run, List.drop_zero, Nat.zero_add]

theorem scan_opening (behind : List Char) :
    scan source position ('(' :: behind) tokens =
      scan source (position + 1) behind
        (⟨.opening, "(", ⟨position, (position + 1 : Nat), source⟩⟩ :: tokens) :=
  scan_of_first? source position tokens (Lexeme.first?_opening behind)

theorem scan_closing (behind : List Char) :
    scan source position (')' :: behind) tokens =
      scan source (position + 1) behind
        (⟨.closing, ")", ⟨position, (position + 1 : Nat), source⟩⟩ :: tokens) :=
  scan_of_first? source position tokens (Lexeme.first?_closing behind)

theorem scan_append {lexeme : Lexeme} {chars behind : List Char}
    (found : Lexeme.first? (chars ++ behind) = some (lexeme, chars.length))
    (solid : lexeme ≠ .blank) :
    scan source position (chars ++ behind) tokens =
      scan source (position + chars.length) behind
        (⟨lexeme, String.ofList chars, ⟨position, position + chars.length, source⟩⟩ :: tokens) := by
  rw [scan_of_first? source position tokens found, if_neg solid, List.drop_left, List.take_left]

end Token

end UnaryNumeral
