import UnaryNumeral.Notation.Literal

namespace UnaryNumeral

namespace Literal

theorem unsigned?_append (negative : Bool) {digits behind : List Char} (nonempty : digits ≠ [])
    (decimal : ∀ c ∈ digits, c.isDigit = true) (ends : ∀ c ∈ behind.head?, c.isDigit = false) :
    unsigned? negative (digits ++ behind) = (keyOf? behind).map (⟨negative, digits, ·⟩) := by
  have rest : behind.takeWhile Char.isDigit = [] ∧ behind.dropWhile Char.isDigit = behind := by
    cases behind with
    | nil => exact ⟨rfl, rfl⟩
    | cons c more =>
      have other := ends c rfl
      simp [other]
  rw [unsigned?]
  simp [List.takeWhile_append_of_pos decimal, List.dropWhile_append_of_pos decimal, rest, nonempty]

theorem ofText?_digits {digits : List Char} (nonempty : digits ≠ [])
    (decimal : ∀ c ∈ digits, c.isDigit = true) (behind : List Char) :
    ofText? (digits ++ behind) = unsigned? false (digits ++ behind) := by
  obtain ⟨c, more, rfl⟩ := List.exists_cons_of_ne_nil nonempty
  have digit := decimal c (List.mem_cons_self ..)
  unfold ofText?
  split
  · rename_i same
    obtain ⟨rfl, -⟩ := List.cons.inj same
    simp at digit
  · rfl

theorem ofText?_eq_some {digits behind : List Char} {key : Option String}
    (nonempty : digits ≠ []) (decimal : ∀ c ∈ digits, c.isDigit = true)
    (ends : ∀ c ∈ behind.head?, c.isDigit = false) (keyed : keyOf? behind = some key) :
    ofText? (digits ++ behind) = .some ⟨false, digits, key⟩ := by
  rw [ofText?_digits nonempty decimal, unsigned?_append false nonempty decimal ends, keyed]
  rfl

theorem value_repr (n : Nat) (key : Option String) :
    (⟨false, (Nat.repr n).toList, key⟩ : Literal).value = n :=
  congrArg Int.ofNat (Text.digitsValue_repr n)

theorem unsigned?_digits {negative : Bool} {text : List Char} {literal : Literal}
    (spelt : unsigned? negative text = .some literal) :
    literal.digits ≠ [] ∧ ∀ c ∈ literal.digits, c.isDigit = true := by
  simp only [unsigned?] at spelt
  split at spelt
  · cases spelt
  · rename_i begun
    obtain ⟨key, -, rfl⟩ := Option.map_eq_some_iff.mp spelt
    exact ⟨by simpa using begun, List.all_eq_true.mp List.all_takeWhile⟩

theorem toNat_value_le (literal : Literal) :
    literal.value.toNat ≤ Text.digitsValue literal.digits := by
  simp only [value]
  split <;> omega

/-- Written again, the number of a literal has no more digits than the literal. -/
theorem length_repr_value_le {text : List Char} {literal : Literal}
    (spelt : ofText? text = .some literal) :
    (Nat.repr literal.value.toNat).length ≤ literal.digits.length := by
  have digits : literal.digits ≠ [] ∧ ∀ c ∈ literal.digits, c.isDigit = true := by
    unfold ofText? at spelt
    split at spelt <;> exact unsigned?_digits spelt
  have shorter := Text.length_repr_mono literal.toNat_value_le
  exact Nat.le_trans shorter (Text.length_repr_digitsValue_le digits.1 digits.2)

theorem keyOf?_percent {key : String} (spelt : Text.isKey key.toList = true) :
    keyOf? ('%' :: key.toList) = .some (some key) := by
  simp [keyOf?, spelt]

end Literal

namespace NotationTable

theorem interpreter_eq_ok_iff (table : NotationTable) (scope : String) (found : Interpreter) :
    table.interpreter scope = .ok found ↔ table.interpreters.find? scope = some found := by
  unfold interpreter
  cases table.interpreters.find? scope <;> simp

theorem interpret_eq_ok_iff (table : NotationTable) (scope : String) (span : Option Span) (n : Int)
    (term : Term) :
    table.interpret scope span n = .ok term ↔
      ∃ interpreter, table.interpreters.find? scope = some interpreter ∧
        interpreter.encode span (.int n) = .ok term := by
  simp only [interpret, interpretValue, bind_eq_ok_iff, interpreter_eq_ok_iff]

theorem elaborate_getD (table : NotationTable) (text : String) (span : Option Span)
    (defaultScope : Option String) :
    table.elaborate text (some (span.getD ⟨0, text.length, none⟩)) defaultScope =
      table.elaborate text span defaultScope := rfl

theorem elaborate_of_scopeOfLiteral {table : NotationTable} {text : String} {span : Span}
    {literal : Literal} {defaultScope : Option String} {scope : String}
    (spelt : Literal.ofText? text.toList = some literal)
    (selected : table.scopeOfLiteral text span literal defaultScope = .ok scope) :
    table.elaborate text (some span) defaultScope =
      if Literal.digitLimit < literal.digits.length then
        .error (.tooManyDigits literal.digits.length)
      else table.interpret scope (some span) literal.value := by
  simp only [elaborate, Option.getD_some, spelt, selected]
  rfl

theorem elaborate_eq_ok_iff (table : NotationTable) (text : String) (span : Span)
    (defaultScope : Option String) (term : Term) :
    table.elaborate text (some span) defaultScope = .ok term ↔
      ∃ literal scope interpreter, Literal.ofText? text.toList = some literal ∧
        table.scopeOfLiteral text span literal defaultScope = .ok scope ∧
        literal.digits.length ≤ Literal.digitLimit ∧
        table.interpreters.find? scope = some interpreter ∧
        interpreter.encode (some span) (.int literal.value) = .ok term := by
  unfold elaborate
  simp only [Option.getD_some]
  constructor
  · intro elaborated
    cases spelt : Literal.ofText? text.toList with
    | none => simp [spelt] at elaborated
    | some literal =>
      simp only [spelt, bind_eq_ok_iff] at elaborated
      obtain ⟨scope, selected, rest⟩ := elaborated
      split at rest
      · cases rest
      · rename_i few
        obtain ⟨interpreter, found, encoded⟩ := (interpret_eq_ok_iff ..).mp rest
        exact ⟨literal, scope, interpreter, rfl, selected, Nat.not_lt.mp few, found, encoded⟩
  · intro given
    obtain ⟨literal, scope, interpreter, spelt, selected, few, found, encoded⟩ := given
    simp only [spelt, bind_eq_ok_iff]
    refine ⟨scope, selected, ?_⟩
    rw [if_neg (Nat.not_lt.mpr few)]
    exact (interpret_eq_ok_iff ..).mpr ⟨interpreter, found, encoded⟩

theorem scopeOfDelimiter_eq_ok_iff (table : NotationTable) (key scope : String) :
    table.scopeOfDelimiter key = .ok scope ↔ table.delimiters.find? key = some scope := by
  unfold scopeOfDelimiter
  cases table.delimiters.find? key <;> simp

theorem scopeOfDelimiter_of_delimiterOfScope {table : NotationTable} {scope key : String}
    (selected : table.delimiterOfScope scope = some key) :
    table.scopeOfDelimiter key = .ok scope := by
  simp only [delimiterOfScope, Option.map_eq_some_iff] at selected
  obtain ⟨⟨_, owner⟩, found, rfl⟩ := selected
  have same : owner = scope := by simpa using List.find?_some found
  subst same
  exact (scopeOfDelimiter_eq_ok_iff ..).mpr
    (OrderedMap.find?_of_mem_entries (List.mem_of_find?_eq_some found))

/-- The text of a numeral is the number in digits, with the key of its scope behind it where the
scope is not open. -/
theorem ofText?_format {table : NotationTable} {scope : String} {openScopes : List String}
    (keyed : scope ∉ openScopes →
      ∃ key, table.delimiterOfScope scope = some key ∧ Text.isKey key.toList = true) (n : Nat) :
    ∃ literal, Literal.ofText? (table.format n scope openScopes).toList = some literal ∧
      literal.digits = (Nat.repr n).toList ∧ literal.value = n ∧
      if scope ∈ openScopes then literal.key = none
      else ∃ key, literal.key = some key ∧ table.delimiterOfScope scope = some key := by
  have nonempty := Text.repr_ne_nil n
  have decimal : ∀ c ∈ (Nat.repr n).toList, c.isDigit = true := fun c => Text.isDigit_of_mem_repr
  by_cases opened : scope ∈ openScopes
  · refine ⟨⟨false, (Nat.repr n).toList, none⟩, ?_, rfl, ?_, ?_⟩
    · have nothing : Literal.keyOf? [] = some none := rfl
      have spelt := Literal.ofText?_eq_some nonempty decimal (by simp) nothing
      rw [List.append_nil] at spelt
      simpa [format, opened, Text.decimal] using spelt
    · exact Literal.value_repr n _
    · rw [if_pos opened]
  · obtain ⟨key, selected, spelt⟩ := keyed opened
    refine ⟨⟨false, (Nat.repr n).toList, some key⟩, ?_, rfl, ?_, ?_⟩
    · have keyOf := Literal.keyOf?_percent spelt
      have spelt := Literal.ofText?_eq_some nonempty decimal (by simp) keyOf
      simpa [format, opened, Text.decimal, selected] using spelt
    · exact Literal.value_repr n _
    · rw [if_neg opened]
      exact ⟨key, rfl, selected⟩

/-- A number that is printed for a scope is elaborated by the encoder of that scope: an open scope
has to be the default one, and any other needs a key that a literal can spell. -/
theorem elaborate_format {table : NotationTable} {scope : String} {interpreter : Interpreter}
    {openScopes : List String} {defaultScope : Option String}
    (found : table.interpreters.find? scope = some interpreter)
    (opened : scope ∈ openScopes → defaultScope = some scope)
    (keyed : scope ∉ openScopes →
      ∃ key, table.delimiterOfScope scope = some key ∧ Text.isKey key.toList = true)
    {n : Nat} (short : (Nat.repr n).length ≤ Literal.digitLimit) {span : Span} {term : Term}
    (encoded : interpreter.encode (some span) (.int n) = .ok term) :
    table.elaborate (table.format n scope openScopes) (some span) defaultScope = .ok term := by
  obtain ⟨literal, spelt, digits, value, key⟩ := ofText?_format keyed n
  have selected : table.scopeOfLiteral (table.format n scope openScopes) span literal defaultScope =
      .ok scope := by
    unfold scopeOfLiteral
    split at key
    · rename_i listed
      rw [key, opened listed]
    · obtain ⟨name, named, selects⟩ := key
      rw [named]
      exact scopeOfDelimiter_of_delimiterOfScope selects
  have few : literal.digits.length ≤ Literal.digitLimit := by
    rw [digits, String.length_toList]
    exact short
  rw [← value] at encoded
  exact (elaborate_eq_ok_iff ..).mpr
    ⟨literal, scope, interpreter, spelt, selected, few, found, encoded⟩

end NotationTable

end UnaryNumeral
