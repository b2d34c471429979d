import UnaryNumeral.Fraction.Shortest
import UnaryNumeral.Text.Decimal
import UnaryNumeral.Text.Quoted

namespace UnaryNumeral

/-- A value of unknown type. -/
inductive Value where
  | null
  | bool (value : Bool)
  | int (value : Int)
  | fraction (value : Fraction)
  | text (value : String)
  | list (items : List Value)
  | object (fields : List (String × Value))
  deriving Inhabited

namespace Value

/-- The name of a value's type, as messages give it. -/
def typeName : Value → String
  | null => "NoneType"
  | bool _ => "bool"
  | int _ => "int"
  | fraction .. => "float"
  | text _ => "str"
  | list _ => "list"
  | object _ => "dict"

/-- Nothing, false, zero and everything empty count as false. -/
def truth : Value → Bool
  | null => false
  | bool value => value
  | int value => value ≠ 0
  | fraction value => !value.isZero
  | text value => value ≠ ""
  | list items => !items.isEmpty
  | object fields => !fields.isEmpty

/-- The items of a bracketed list, separated by commas. -/
def separated (items : List String) : String := ", ".intercalate items

mutual

/-- The written form of a value: texts are quoted, lists and objects bracketed. -/
def written : Value → String
  | null => "None"
  | bool true => "True"
  | bool false => "False"
  | int value => Text.decimal value
  | fraction value => value.text
  | text value => Text.quoted value
  | list items => "[" ++ separated (writtenItems items) ++ "]"
  | object fields => "\x7b" ++ separated (writtenFields fields) ++ "\x7d"

def writtenItems : List Value → List String
  | [] => []
  | item :: rest => written item :: writtenItems rest

def writtenFields : List (String × Value) → List String
  | [] => []
  | (name, value) :: rest => (Text.quoted name ++ ": " ++ written value) :: writtenFields rest

end

/-- Lists and objects have no place in a set. -/
def isHashable : Value → Bool
  | list _ | object _ => false
  | _ => true

/-- A value as a finite number: the truth values count as zero and one. The number is
`first · 2 ^ second`. -/
def number? : Value → Option (Int × Int)
  | bool value => some (if value then 1 else 0, 0)
  | int value => some (value, 0)
  | fraction (.finite negative magnitude) =>
    let significand : Int := magnitude.significand
    some (if negative then -significand else significand, magnitude.exponent)
  | _ => none

/-- Members of a set are the same when they are exactly the same number, the same text, the same
infinity, both undefined or both nothing. -/
def sameMember (a b : Value) : Bool :=
  match a, b with
  | null, null => true
  | text x, text y => x == y
  | fraction (.infinite x), fraction (.infinite y) => x == y
  | fraction .undefined, fraction .undefined => true
  | a, b =>
    match a.number?, b.number? with
    | some (x, e), some (y, f) =>
      x * Nat.pow 2 (e - f).toNat == y * Nat.pow 2 (f - e).toNat
    | _, _ => false

end Value

end UnaryNumeral
