import UnaryNumeral.Fraction

/-! The text of a fraction: the shortest decimal that still denotes the same fraction, and among the
shortest the nearest. -/

namespace UnaryNumeral

namespace DecimalFraction

/-- The least `k` up to a limit with `10 ^ k * num ≥ den`. -/
def leadingZeros (num den : Nat) : (limit : Nat) → (k : Nat) → Nat
  | 0, k => k
  | limit + 1, k => if den ≤ num * Nat.pow 10 k then k else leadingZeros num den limit (k + 1)

/-- The exponent of the leading digit of `num / den`. -/
def leadingExponent (num den : Nat) : Int :=
  if den ≤ num then (width (num / den) : Int) - 1 else -(leadingZeros num den 400 0 : Int)

/-- The neighbours of a binary number among the decimals with `count` digits, the nearer first. -/
def neighbours (x : BinaryFraction) (count : Nat) : List DecimalFraction :=
  let exponent := leadingExponent x.numerator x.denominator + 1 - count
  let num := x.numerator * Nat.pow 10 (-exponent).toNat
  let den := x.denominator * Nat.pow 10 exponent.toNat
  let below := num / den
  let rounded := BinaryFraction.roundQuotient num den
  [⟨rounded, exponent⟩, ⟨if rounded = below then below + 1 else below, exponent⟩]

/-- The shortest decimal that denotes a binary number. -/
def shortest (x : BinaryFraction) : DecimalFraction :=
  let candidates := (List.range 17).flatMap fun n => neighbours x (n + 1)
  (candidates.find? fun d => BinaryFraction.nearest d.numerator d.denominator = x).getD ⟨0, 0⟩

def dropTrailingZeros (digits : List Char) : List Char :=
  (digits.reverse.dropWhile (· == '0')).reverse

/-- A decimal is written positionally when its leading digit stands between the places `10 ^ -4`
and `10 ^ 15`, otherwise with an exponent of at least two digits. -/
def text (x : DecimalFraction) : String :=
  if x.digits = 0 then "0.0"
  else
    let digits := dropTrailingZeros (Nat.toDigits 10 x.digits)
    let leading := x.exponent + width x.digits - 1
    if leading < -4 ∨ 16 ≤ leading then
      let tail := digits.drop 1
      let fraction := if tail.isEmpty then [] else '.' :: tail
      let power := Nat.toDigits 10 leading.natAbs
      let sign := if leading < 0 then '-' else '+'
      String.ofList (digits.take 1 ++ fraction ++ 'e' :: sign ::
        List.replicate (2 - power.length) '0' ++ power)
    else if leading < 0 then
      String.ofList ('0' :: '.' :: List.replicate (leading.natAbs - 1) '0' ++ digits)
    else
      let places := leading.natAbs + 1
      let whole := digits.take places ++ List.replicate (places - digits.length) '0'
      let tail := digits.drop places
      String.ofList (whole ++ '.' :: if tail.isEmpty then ['0'] else tail)

end DecimalFraction

def Fraction.text : Fraction → String
  | finite negative magnitude =>
    let digits :=
      if magnitude.significand = 0 then "0.0" else (DecimalFraction.shortest magnitude).text
    if negative then "-" ++ digits else digits
  | infinite negative => if negative then "-inf" else "inf"
  | undefined => "nan"

end UnaryNumeral
