import UnaryNumeral.Codec

namespace UnaryNumeral

/-- From a value, and the span of its literal if there is one, to a term. Literals hand over whole
numbers; an encoder may refuse other values. -/
abbrev Encoder := Option Span → Value → Except Error Term

/-- From a term to the number it stands for. -/
abbrev Decoder := Term → Option Int

namespace Codec

def encoder (codec : Codec) : Encoder := codec.encodeValue

def decoder (codec : Codec) : Decoder := fun term => (codec.decode term).map Int.ofNat

end Codec

/-- What an interpreter says about where it comes from: a path and a name. Nothing depends on it,
and it is kept as it was given. -/
structure Origin where
  path : List Value
  name : Value

/-- An interpreter of a scope. It prints the terms whose head is among those of its print
references, provided it matches terms at all. -/
structure Interpreter where
  scope : String
  origin : Origin
  encode : Encoder
  printRefs : List Operand
  decode : Decoder
  matchesTerms : Bool

/-- The entities at the heads of the print references. What is no term has no head. -/
def Interpreter.printableHeads (interpreter : Interpreter) : List Handle :=
  interpreter.printRefs.filterMap Operand.headRef

end UnaryNumeral
