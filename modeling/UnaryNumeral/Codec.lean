import UnaryNumeral.Settings
import UnaryNumeral.Symbol.Table
import UnaryNumeral.Term.Operand

namespace UnaryNumeral

/-- A number type with its zero and its successor. -/
structure Codec where
  nat : Handle
  zero : Handle
  succ : Handle
  deriving DecidableEq

namespace Codec

/-- A term under further applications of the successor. -/
def wrap (codec : Codec) (span : Span) : Nat → Term → Term
  | 0, term => term
  | count + 1, term => codec.wrap span count ((Term.ref codec.succ span).applyTo term span)

/-- The numeral of a number, every node at one span. -/
def numeral (codec : Codec) (span : Span) (n : Nat) : Term :=
  codec.wrap span n (.ref codec.zero span)

/-- The last successor of the loop may as well be put on the outside. -/
theorem wrap_succ (codec : Codec) (span : Span) (count : Nat) (term : Term) :
    codec.wrap span (count + 1) term =
      (Term.ref codec.succ span).applyTo (codec.wrap span count term) span := by
  induction count generalizing term with
  | zero => rfl
  | succ count ih => exact ih _

theorem numeral_zero (codec : Codec) (span : Span) :
    codec.numeral span 0 = .ref codec.zero span := rfl

theorem numeral_succ (codec : Codec) (span : Span) (n : Nat) :
    codec.numeral span (n + 1) =
      (Term.ref codec.succ span).applyTo (codec.numeral span n) span :=
  codec.wrap_succ span n _

/-- The numeral of a number that is not negative. Without a span it is nowhere. -/
def encode (codec : Codec) (span : Option Span) (n : Int) : Except Error Term :=
  if n < 0 then .error (.negativeNumeral span)
  else .ok (codec.numeral (span.getD .nowhere) n.toNat)

/-- The numeral of a value, which has to be a whole number. -/
def encodeValue (codec : Codec) (span : Option Span) : Value → Except Error Term
  | .int n => codec.encode span n
  | value => .error (.notInteger value.typeName)

/-- The number of a term under `count` successors that were already removed. -/
def countFrom (codec : Codec) (term : Term) (count : Nat) : Option Nat :=
  if term.asRef = some codec.zero then some count
  else
    match term with
    | .app head [arg] _ =>
      if head.asRef = some codec.succ then codec.countFrom arg (count + 1) else none
    | _ => none
termination_by term.size
decreasing_by simp only [Term.size, Term.sizeAll]; omega

/-- The number that a term stands for, if the term is a numeral. -/
def decode (codec : Codec) (term : Term) : Option Nat := codec.countFrom term 0

def decodeOperand (codec : Codec) (operand : Operand) : Option Nat :=
  operand.asTerm?.bind codec.decode

/-- The references that start a numeral. -/
def printRefs (codec : Codec) : List Term := [.ref codec.succ .nowhere, .ref codec.zero .nowhere]

def path (codec : Codec) : Path := codec.nat.path

def written (codec : Codec) : String := "NatCodec(" ++ codec.nat.qualifiedName ++ ")"

/-- Finds the type, its zero and its successor under a path, in this order. -/
def find (table : SymbolTable) (path : Path) : Except Error Codec := do
  let nat ← table.resolve path.spelled natName
  let zero ← table.resolve path.spelled zeroName
  let succ ← table.resolve path.spelled succName
  pure ⟨nat, zero, succ⟩

def load (settings : Settings) (path : Option PathSpelling := none) :
    Action SymbolTable Codec := do
  let path ← .ofExcept (settings.resolutionPath path)
  let table ← .get
  let codec ← .ofExcept (find table path)
  .note .debug .codec ("nat codec bound to " ++ codec.nat.qualifiedName ++ ", " ++
    codec.zero.qualifiedName ++ ", " ++ codec.succ.qualifiedName)
  pure codec

end Codec

end UnaryNumeral
