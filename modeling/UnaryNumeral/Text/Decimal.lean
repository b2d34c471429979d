import UnaryNumeral.Text.Ranges

namespace UnaryNumeral.Text

/-- The decimal digits of all scripts: each script has its ten in order. -/
def digitRanges : List (Nat × Nat) :=
  [(0x30, 0x39), (0x660, 0x669), (0x6f0, 0x6f9), (0x7c0, 0x7c9), (0x966, 0x96f), (0x9e6, 0x9ef),
    (0xa66, 0xa6f), (0xae6, 0xaef), (0xb66, 0xb6f), (0xbe6, 0xbef), (0xc66, 0xc6f), (0xce6, 0xcef),
    (0xd66, 0xd6f), (0xde6, 0xdef), (0xe50, 0xe59), (0xed0, 0xed9), (0xf20, 0xf29),
    (0x1040, 0x1049), (0x1090, 0x1099), (0x17e0, 0x17e9), (0x1810, 0x1819), (0x1946, 0x194f),
    (0x19d0, 0x19d9), (0x1a80, 0x1a89), (0x1a90, 0x1a99), (0x1b50, 0x1b59), (0x1bb0, 0x1bb9),
    (0x1c40, 0x1c49), (0x1c50, 0x1c59), (0xa620, 0xa629), (0xa8d0, 0xa8d9), (0xa900, 0xa909),
    (0xa9d0, 0xa9d9), (0xa9f0, 0xa9f9), (0xaa50, 0xaa59), (0xabf0, 0xabf9), (0xff10, 0xff19),
    (0x104a0, 0x104a9), (0x10d30, 0x10d39), (0x11066, 0x1106f), (0x110f0, 0x110f9),
    (0x11136, 0x1113f), (0x111d0, 0x111d9), (0x112f0, 0x112f9), (0x11450, 0x11459),
    (0x114d0, 0x114d9), (0x11650, 0x11659), (0x116c0, 0x116c9), (0x11730, 0x11739),
    (0x118e0, 0x118e9), (0x11950, 0x11959), (0x11c50, 0x11c59), (0x11d50, 0x11d59),
    (0x11da0, 0x11da9), (0x16a60, 0x16a69), (0x16ac0, 0x16ac9), (0x16b50, 0x16b59),
    (0x1d7ce, 0x1d7ff), (0x1e140, 0x1e149), (0x1e2f0, 0x1e2f9), (0x1e950, 0x1e959),
    (0x1fbf0, 0x1fbf9)]

def isAnyDigit (c : Char) : Bool := inRanges digitRanges c

/-- A whole number in decimal, a minus sign in front of the negative ones. -/
def decimal : Int → String
  | .ofNat n => Nat.repr n
  | .negSucc n => "-" ++ Nat.repr (n + 1)

/-- The value of a string of ASCII digits, most significant first. -/
def digitsValue (digits : List Char) : Nat := Nat.ofDigitChars 10 digits 0

theorem digitsValue_repr (n : Nat) : digitsValue (Nat.repr n).toList = n := by
  simp [digitsValue, Nat.repr_eq_ofList_toDigits, Nat.ofDigitChars_ten_toDigits]

theorem repr_ne_nil (n : Nat) : (Nat.repr n).toList ≠ [] := by simp

theorem isDigit_of_mem_repr {n : Nat} {c : Char} (member : c ∈ (Nat.repr n).toList) :
    c.isDigit = true := by
  rw [Nat.toList_repr] at member
  exact Nat.isDigit_of_mem_toDigits (by decide) (by decide) member

theorem digitsValue_lt {digits : List Char} (decimal : ∀ c ∈ digits, c.isDigit = true) :
    digitsValue digits < Nat.pow 10 digits.length := by
  induction digits with
  | nil => decide
  | cons c rest ih =>
    obtain ⟨digit, others⟩ := List.forall_mem_cons.mp decimal
    have later := ih others
    have small : c.toNat - '0'.toNat ≤ 9 := by
      simp only [Char.isDigit, Bool.and_eq_true, decide_eq_true_eq, UInt32.le_iff_toNat_le] at digit
      have bound : c.toNat ≤ 57 := digit.2
      have zero : '0'.toNat = 48 := rfl
      omega
    have scaled := Nat.mul_le_mul_left (Nat.pow 10 rest.length) small
    simp only [digitsValue, Nat.ofDigitChars_cons, Nat.mul_zero, Nat.zero_add, List.length_cons,
      Nat.pow_eq, Nat.pow_succ] at later scaled ⊢
    rw [Nat.ofDigitChars_eq_ofDigitChars_zero]
    omega

theorem length_repr_le_iff {n count : Nat} (positive : 0 < count) :
    (Nat.repr n).length ≤ count ↔ n < Nat.pow 10 count := by
  rw [← String.length_toList, Nat.toList_repr]
  exact Nat.length_toDigits_le_iff (by decide) positive

theorem length_repr_mono {n m : Nat} (below : n ≤ m) :
    (Nat.repr n).length ≤ (Nat.repr m).length := by
  have written : (Nat.repr m).toList ≠ [] := by simp
  have positive : 0 < (Nat.repr m).length := String.length_toList ▸ List.length_pos_iff.mpr written
  have fits := (length_repr_le_iff positive).mp (Nat.le_refl (Nat.repr m).length)
  exact (length_repr_le_iff positive).mpr (Nat.lt_of_le_of_lt below fits)

theorem length_repr_digitsValue_le {digits : List Char} (nonempty : digits ≠ [])
    (decimal : ∀ c ∈ digits, c.isDigit = true) :
    (Nat.repr (digitsValue digits)).length ≤ digits.length :=
  (length_repr_le_iff (List.length_pos_iff.mpr nonempty)).mpr (digitsValue_lt decimal)

end UnaryNumeral.Text
