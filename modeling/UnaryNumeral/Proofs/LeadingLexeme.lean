import UnaryNumeral.Proofs.Lexing

namespace UnaryNumeral

namespace Lexeme

/-- A run that ends within the first characters ends where it did. -/
theorem runLength_take (part : Char → Bool) {text : List Char} {count : Nat}
    (enough : runLength part text ≤ count) :
    runLength part (text.take count) = runLength part text := by
  induction text generalizing count with
  | nil => rw [List.take_nil]
  | cons c rest ih =>
    by_cases inside : part c = true
    · have step : runLength part (c :: rest) = runLength part rest + 1 := by
        simp [runLength, inside]
      obtain ⟨more, rfl⟩ : ∃ more, count = more + 1 := ⟨count - 1, by omega⟩
      have later : runLength part (rest.take more) = runLength part rest := ih (by omega)
      rw [step, ← later, List.take_succ_cons]
      simp [runLength, inside]
    · have whole : runLength part (c :: rest) = 0 := by simp [runLength, inside]
      rw [whole]
      cases count with
      | zero => rfl
      | succ more => simp [runLength, inside]

/-- Whether a name goes on at a dot is decided by the character behind the dot. -/
theorem nameLength_take {text : List Char} {count : Nat} (enough : nameLength text ≤ count) :
    nameLength (text.take count) = nameLength text := by
  fun_induction nameLength text generalizing count with
  | case1 => rw [List.take_nil]; rfl
  | case2 c rest part ih =>
    obtain ⟨more, rfl⟩ : ∃ more, count = more + 1 := ⟨count - 1, by omega⟩
    have later : nameLength (rest.take more) = nameLength rest := ih (by omega)
    rw [List.take_succ_cons, nameLength.eq_def]
    simp [part, later]
  | case3 c part =>
    cases count with
    | zero => rfl
    | succ more => simp [nameLength, part]
  | case4 c part d rest dotted ih =>
    obtain ⟨more, rfl⟩ : ∃ more, count = more + 2 := ⟨count - 2, by omega⟩
    have later : nameLength (rest.take more) = nameLength rest := ih (by omega)
    rw [List.take_succ_cons, List.take_succ_cons, nameLength.eq_def]
    simp [part, dotted, later]
  | case5 c part d rest dotted =>
    rcases count with _ | _ | more
    · rfl
    · simp [nameLength, part]
    · rw [List.take_succ_cons, List.take_succ_cons, nameLength.eq_def]
      simp [part, dotted]

theorem nameLength_le (text : List Char) : nameLength text ≤ text.length := by
  fun_induction nameLength text with
  | case1 => exact Nat.le_refl _
  | case2 c rest part ih => rw [List.length_cons]; omega
  | case3 c part => exact Nat.zero_le _
  | case4 c part d rest dotted ih => rw [List.length_cons, List.length_cons]; omega
  | case5 c part d rest dotted => exact Nat.zero_le _

/-- A lexeme of some length at the front of a text: what its class says about the characters, and
how far it goes. -/
inductive Leads : List Char → Lexeme → Nat → Prop where
  | blank {c : Char} {rest : List Char} (space : Text.isBlank c = true) :
      Leads (c :: rest) .blank (1 + runLength Text.isBlank rest)
  | opening {rest : List Char} : Leads ('(' :: rest) .opening 1
  | closing {rest : List Char} : Leads (')' :: rest) .closing 1
  | numeral {c : Char} {rest : List Char} (digit : c.isDigit = true) :
      Leads (c :: rest) .numeral (1 + runLength isNumeralPart rest)
  | negative {c : Char} {rest : List Char} (digit : c.isDigit = true) :
      Leads ('-' :: c :: rest) .numeral (2 + runLength isNumeralPart rest)
  | name {c : Char} {rest : List Char} (start : Text.isNameStart c = true) :
      Leads (c :: rest) .name (1 + nameLength rest)

theorem leads_of_first? {text : List Char} {lexeme : Lexeme} {length : Nat}
    (found : first? text = some (lexeme, length)) : Leads text lexeme length := by
  unfold first? at found
  split at found
  · cases found
  · rename_i c rest
    split at found
    · rename_i space
      cases found
      exact .blank space
    split at found
    · rename_i same
      cases found
      exact same ▸ .opening
    split at found
    · rename_i same
      cases found
      exact same ▸ .closing
    split at found
    · rename_i digit
      cases found
      exact .numeral digit
    split at found
    · rename_i hyphen
      split at found
      · rename_i d more
        split at found
        · rename_i digit
          cases found
          exact hyphen ▸ .negative digit
        · cases found
      · cases found
    split at found
    · rename_i start
      cases found
      exact .name start
    · cases found

theorem first?_eq_some_iff (text : List Char) (lexeme : Lexeme) (length : Nat) :
    first? text = some (lexeme, length) ↔ Leads text lexeme length := by
  constructor
  · exact leads_of_first?
  · intro leads
    cases leads with
    | blank space => simp [first?, space]
    | opening => rfl
    | closing => rfl
    | numeral digit =>
      rw [first?_cons_of_isKeyPart (Text.isKeyPart_of_isDigit digit), if_pos digit]
    | @negative c rest digit =>
      have hyphen : first? ('-' :: c :: rest) =
          if c.isDigit then some (.numeral, 2 + runLength isNumeralPart rest) else none := rfl
      rw [hyphen, if_pos digit]
    | name start =>
      rw [first?_cons_of_isKeyPart (Text.isKeyPart_of_isNameStart start),
        Text.not_isDigit_of_isNameStart start, if_neg Bool.false_ne_true, if_pos start]

theorem Leads.length_pos {text : List Char} {lexeme : Lexeme} {length : Nat}
    (leads : Leads text lexeme length) : 0 < length :=
  first?_length_pos ((first?_eq_some_iff ..).mpr leads)

theorem Leads.length_le {text : List Char} {lexeme : Lexeme} {length : Nat}
    (leads : Leads text lexeme length) : length ≤ text.length := by
  have run (part : Char → Bool) (rest : List Char) : runLength part rest ≤ rest.length :=
    (List.takeWhile_sublist part).length_le
  cases leads with
  | @blank c rest _ =>
    have bound := run Text.isBlank rest
    rw [List.length_cons]
    omega
  | opening => rw [List.length_cons]; omega
  | closing => rw [List.length_cons]; omega
  | @numeral c rest _ =>
    have bound := run isNumeralPart rest
    rw [List.length_cons]
    omega
  | @negative c rest _ =>
    have bound := run isNumeralPart rest
    rw [List.length_cons, List.length_cons]
    omega
  | @name c rest _ =>
    have bound := nameLength_le rest
    rw [List.length_cons]
    omega

theorem Leads.take {text : List Char} {lexeme : Lexeme} {length count : Nat}
    (leads : Leads text lexeme length) (enough : length ≤ count) :
    Leads (text.take count) lexeme length := by
  have positive := leads.length_pos
  obtain ⟨more, rfl⟩ : ∃ more, count = more + 1 := ⟨count - 1, by omega⟩
  cases leads with
  | @blank c rest space =>
    rw [List.take_succ_cons, ← runLength_take Text.isBlank (by omega : _ ≤ more)]
    exact .blank space
  | opening => exact .opening
  | closing => exact .closing
  | @numeral c rest digit =>
    rw [List.take_succ_cons, ← runLength_take isNumeralPart (by omega : _ ≤ more)]
    exact .numeral digit
  | @negative c rest digit =>
    obtain ⟨others, rfl⟩ : ∃ others, more = others + 1 := ⟨more - 1, by omega⟩
    rw [List.take_succ_cons, List.take_succ_cons,
      ← runLength_take isNumeralPart (by omega : _ ≤ others)]
    exact .negative digit
  | @name c rest start =>
    rw [List.take_succ_cons, ← nameLength_take (by omega : _ ≤ more)]
    exact .name start

end Lexeme

end UnaryNumeral
