import UnaryNumeral.Proofs.NotationHistory
import UnaryNumeral.Proofs.StandardTables

/-! A formatted number is read back as that number in its scope. A scope that is open needs no key;
any other scope needs a key that a literal can spell, which a declared key is when it is written in
ASCII. -/

namespace UnaryNumeral

namespace Literal

/-- What a written number is as a literal: its digits, its sign, and the key behind it. -/
theorem ofText?_decimal (v : Int) {behind : List Char}
    (ends : ∀ c ∈ behind.head?, c.isDigit = false) :
    ofText? ((Text.decimal v).toList ++ behind) =
      (keyOf? behind).map (⟨decide (v < 0), (Nat.repr v.natAbs).toList, ·⟩) := by
  have decimal (n : Nat) : ∀ c ∈ (Nat.repr n).toList, c.isDigit = true :=
    fun c => Text.isDigit_of_mem_repr
  cases v with
  | ofNat n =>
    rw [Text.decimal, ofText?_digits (Text.repr_ne_nil n) (decimal n)]
    exact unsigned?_append false (Text.repr_ne_nil n) (decimal n) ends
  | negSucc n =>
    have sign : "-".toList = ['-'] := rfl
    rw [Text.decimal, String.toList_append, sign, decide_eq_true (Int.negSucc_lt_zero n)]
    exact unsigned?_append true (Text.repr_ne_nil (n + 1)) (decimal (n + 1)) ends

theorem value_decimal (v : Int) (key : Option String) :
    (⟨decide (v < 0), (Nat.repr v.natAbs).toList, key⟩ : Literal).value = v := by
  simp only [value, Text.digitsValue_repr, decide_eq_true_eq]
  split <;> omega

end Literal

namespace NotationTable

theorem elaborate_eq_interpret {table : NotationTable} {text : String} {span : Span}
    {literal : Literal} {defaultScope : Option String} {scope : String}
    (spelt : Literal.ofText? text.toList = some literal)
    (selected : table.scopeOfLiteral text span literal defaultScope = .ok scope)
    (few : literal.digits.length ≤ Literal.digitLimit) :
    table.elaborate text (some span) defaultScope =
      table.interpret scope (some span) literal.value := by
  rw [elaborate_of_scopeOfLiteral spelt selected, if_neg (Nat.not_lt.mpr few)]

theorem elaborate_format_of_mem (table : NotationTable) {scope : String} {openScopes : List String}
    (opened : scope ∈ openScopes) {v : Int}
    (short : (Nat.repr v.natAbs).length ≤ Literal.digitLimit) (span : Span) :
    table.elaborate (table.format v scope openScopes) (some span) (some scope) =
      table.interpret scope (some span) v := by
  have written : table.format v scope openScopes = Text.decimal v := by simp [format, opened]
  have spelt := @Literal.ofText?_decimal v [] (by simp)
  rw [List.append_nil] at spelt
  rw [written, elaborate_eq_interpret spelt rfl (String.length_toList ▸ short),
    Literal.value_decimal]

section

variable {table : NotationTable} {scope key : String} {openScopes : List String}
  (closed : scope ∉ openScopes) (selected : table.delimiterOfScope scope = some key)
include closed selected

/-- Outside its scope a number is a literal just when the key of the scope can be spelled. -/
theorem ofText?_format_of_notMem (v : Int) :
    Literal.ofText? (table.format v scope openScopes).toList =
      if Text.isKey key.toList = true then
        some ⟨decide (v < 0), (Nat.repr v.natAbs).toList, some key⟩
      else none := by
  have written : (table.format v scope openScopes).toList =
      (Text.decimal v).toList ++ '%' :: key.toList := by
    simp [format, closed, selected]
  rw [written, Literal.ofText?_decimal v (by simp), Literal.keyOf?]
  by_cases spelt : Text.isKey key.toList = true <;> simp [spelt]

/-- Outside its scope a number is written with the key of the scope, and a key that a literal can
spell leads back to the scope. -/
theorem elaborate_format_of_isKey (spelt : Text.isKey key.toList = true) {v : Int}
    (short : (Nat.repr v.natAbs).length ≤ Literal.digitLimit) (span : Span)
    (defaultScope : Option String) :
    table.elaborate (table.format v scope openScopes) (some span) defaultScope =
      table.interpret scope (some span) v := by
  have literal := ofText?_format_of_notMem closed selected v
  rw [if_pos spelt] at literal
  rw [elaborate_eq_interpret literal (scopeOfDelimiter_of_delimiterOfScope selected)
    (String.length_toList ▸ short), Literal.value_decimal]

theorem elaborate_format_of_not_isKey (other : ¬ Text.isKey key.toList = true) (v : Int)
    (span : Span) (defaultScope : Option String) :
    table.elaborate (table.format v scope openScopes) (some span) defaultScope =
      .error (.malformed (table.format v scope openScopes) span .notDecimal) := by
  have nothing := ofText?_format_of_notMem closed selected v
  rw [if_neg other] at nothing
  simp only [elaborate, Option.getD_some, nothing]

end

/-- Every key of the table is an identifier. -/
def KeysAreIdentifiers (table : NotationTable) : Prop :=
  ∀ key scope, table.delimiters.find? key = some scope → Text.isIdentifier key.toList = true

theorem Call.keeps_identifiers (call : Call) : call.perform.Keeps KeysAreIdentifiers := by
  intro table identifiers
  cases call.does table with
  | nothing error failed =>
    rw [failed.state]
    exact identifiers
  | clears cleared done =>
    rw [done.state]
    intro key scope stored
    cases stored
  | registers interpreter given keyless kept room done =>
    rw [done.state]
    exact identifiers
  | declares key scope given silent kept spelt done =>
    rw [done.state]
    intro name owner stored
    rw [find?_withKey] at stored
    split at stored
    · rename_i same
      rw [same]
      exact spelt
    · exact identifiers name owner stored

/-- Writing a number and reading it back over any table that was built by calls. A number with at
most as many digits as a literal may have is written for a scope that has a key. Where the key is
written in ASCII, the literal comes to the same as the number in the scope, the same term or the
same error; with any other key the text is no literal at all. Where the scope is open, and is the
default one, the key does not matter. -/
theorem elaborate_format_eq_interpret (policy : Policy) (calls : List Call) :
    let table := Action.afterAll Call.perform { policy } calls
    ∀ (scope key : String) (v : Int) (span : Span), table.delimiterOfScope scope = some key →
      (Nat.repr v.natAbs).length ≤ Literal.digitLimit →
      ((∀ c ∈ key.toList, c.toNat < 0x80) → ∀ defaultScope : Option String,
        table.elaborate (table.format v scope []) (some span) defaultScope =
          table.interpret scope (some span) v) ∧
      ((∃ c ∈ key.toList, 0x80 ≤ c.toNat) → ∀ defaultScope : Option String,
        table.elaborate (table.format v scope []) (some span) defaultScope =
          .error (.malformed (table.format v scope []) span .notDecimal)) ∧
      table.elaborate (table.format v scope [scope]) (some span) (some scope) =
        table.interpret scope (some span) v := by
  intro table scope key v span selected short
  have identifiers : table.KeysAreIdentifiers := by
    apply Action.Keeps.afterAll Call.keeps_identifiers
    intro key scope stored
    cases stored
  have identifier := identifiers key scope ((scopeOfDelimiter_eq_ok_iff ..).mp
    (scopeOfDelimiter_of_delimiterOfScope selected))
  have spelt := Text.isKey_iff_of_isIdentifier identifier
  refine ⟨?_, ?_, table.elaborate_format_of_mem (List.mem_singleton_self scope) short span⟩
  · intro ascii defaultScope
    exact elaborate_format_of_isKey List.not_mem_nil selected (spelt.mpr ascii) short span _
  · intro beyond defaultScope
    obtain ⟨c, member, large⟩ := beyond
    have other : ¬ Text.isKey key.toList = true := by
      intro isKey
      exact absurd (spelt.mp isKey c member) (Nat.not_lt.mpr large)
    exact elaborate_format_of_not_isKey List.not_mem_nil selected other v span _

/-- The standard scope has an ASCII key: a negative number is refused there in either form. -/
theorem elaborate_format_standard :
    let table := Action.afterAll Call.perform {}
      (Call.registering .standard standardScope (some standardKey))
    table.delimiterOfScope standardScope = some standardKey ∧
      (Nat.repr (-12 : Int).natAbs).length ≤ Literal.digitLimit ∧
      (∀ c ∈ standardKey.toList, c.toNat < 0x80) ∧
      table.elaborate (table.format (-12) standardScope []) (some ⟨4, 11, none⟩) none =
        table.interpret standardScope (some ⟨4, 11, none⟩) (-12) ∧
      table.elaborate (table.format (-12) standardScope [standardScope]) (some ⟨4, 7, none⟩)
          (some standardScope) =
        table.interpret standardScope (some ⟨4, 7, none⟩) (-12) := by
  have keyed : (Action.afterAll Call.perform {}
      (Call.registering .standard standardScope (some standardKey))).delimiterOfScope
        standardScope = some standardKey := by rfl
  have short : (Nat.repr (-12 : Int).natAbs).length ≤ Literal.digitLimit := by decide +kernel
  have ascii : ∀ c ∈ standardKey.toList, c.toNat < 0x80 := by
    have each : standardKey.toList.all (fun c => decide (c.toNat < 0x80)) = true := by decide
    intro c member
    exact of_decide_eq_true (List.all_eq_true.mp each c member)
  exact ⟨keyed, short, ascii,
    (elaborate_format_eq_interpret .replace _ _ _ _ _ keyed short).1 ascii none,
    (elaborate_format_eq_interpret .replace _ _ _ _ _ keyed short).2.2⟩

/-- A key may be declared that no literal can spell: the number is then written with that key and
cannot be read back. -/
theorem elaborate_format_beyond_ascii :
    let table := Action.afterAll Call.perform {}
      (Call.registering .standard standardScope (some "é"))
    table.delimiterOfScope standardScope = some "é" ∧
      table.format 3 standardScope [] = "3%é" ∧
      table.elaborate "3%é" (some ⟨0, 3, none⟩) none =
        .error (.malformed "3%é" ⟨0, 3, none⟩ .notDecimal) ∧
      table.interpret standardScope (some ⟨0, 3, none⟩) 3 =
        .ok (Codec.standard.numeral ⟨0, 3, none⟩ 3) := by
  refine ⟨?_, ?_, ?_, ?_⟩
  · rfl
  · decide +kernel
  · rfl
  · rfl

end NotationTable

end UnaryNumeral
