/-! Fractions: numbers held with 53 binary digits. A decimal that is read becomes the nearest of
them. -/

namespace UnaryNumeral

/-- The binary number `significand · 2 ^ exponent`. -/
structure BinaryFraction where
  significand : Nat
  exponent : Int
  deriving DecidableEq

namespace BinaryFraction

def numerator (x : BinaryFraction) : Nat := x.significand * Nat.pow 2 x.exponent.toNat
def denominator (x : BinaryFraction) : Nat := Nat.pow 2 (-x.exponent).toNat

/-- A quotient rounded to a whole number, a tie to the even one. -/
def roundQuotient (num den : Nat) : Nat :=
  let q := num / den
  let r := num % den
  if 2 * r > den || (2 * r == den && q % 2 == 1) then q + 1 else q

/-- `num / den` in units of `2 ^ exponent`, rounded. -/
def inUnits (num den : Nat) (exponent : Int) : Nat :=
  roundQuotient (num * Nat.pow 2 (-exponent).toNat) (den * Nat.pow 2 exponent.toNat)

/-- The nearest binary number to `num / den` with at most 53 significant digits and an exponent
of at least -1074. -/
def nearest (num den : Nat) : BinaryFraction :=
  let guess : Int := (Nat.log2 num : Int) - Nat.log2 den - 52
  let low := num * Nat.pow 2 (-guess).toNat < den * Nat.pow 2 guess.toNat * Nat.pow 2 52
  let exponent := max (if low then guess - 1 else guess) (-1074)
  let significand := inUnits num den exponent
  if significand = Nat.pow 2 53 then ⟨Nat.pow 2 52, exponent + 1⟩ else ⟨significand, exponent⟩

def isInfinite (x : BinaryFraction) : Bool := 0 < x.significand && 971 < x.exponent

end BinaryFraction

/-- The decimal number `digits · 10 ^ exponent`. -/
structure DecimalFraction where
  digits : Nat
  exponent : Int
  deriving DecidableEq

namespace DecimalFraction

def numerator (x : DecimalFraction) : Nat := x.digits * Nat.pow 10 x.exponent.toNat
def denominator (x : DecimalFraction) : Nat := Nat.pow 10 (-x.exponent).toNat

def width (n : Nat) : Nat := (Nat.toDigits 10 n).length

/-- The place of the leading digit, counted from the point; what lies far beyond the places of
binary numbers need not be computed. -/
def scale (x : DecimalFraction) : Int := x.exponent + width x.digits

end DecimalFraction

/-- A fraction: a number with its sign, which zero has too, or what stands for a number that is too
large, or for none. -/
inductive Fraction where
  | finite (negative : Bool) (magnitude : BinaryFraction)
  | infinite (negative : Bool)
  | undefined
  deriving DecidableEq

namespace Fraction

/-- The fraction nearest to a decimal with a sign. -/
def ofDecimal (negative : Bool) (x : DecimalFraction) : Fraction :=
  if x.digits = 0 ∨ x.scale < -400 then finite negative ⟨0, 0⟩
  else if 400 < x.scale then infinite negative
  else
    let magnitude := BinaryFraction.nearest x.numerator x.denominator
    if magnitude.isInfinite then infinite negative else finite negative magnitude

def isZero : Fraction → Bool
  | finite _ magnitude => magnitude.significand = 0
  | _ => false

end Fraction

end UnaryNumeral
