import UnaryNumeral.Notation.Literal

/-! Printing terms: numerals in decimal, the rest by juxtaposition. Pending work is kept on a stack,
so that the height of a term is no limit. Below the top of a run of one unary head the numeral
check is left out: if the whole run is no numeral, nothing further down in it is one. -/

namespace UnaryNumeral

/-- What to print of a term, and how numerals are marked. -/
structure Layout where
  /-- The scopes that may print numerals, in order of preference; all of a table by default. -/
  scopes : Option (List String) := none
  /-- The scopes whose numerals are bare; by default those that may print numerals. -/
  openScopes : Option (List String) := none
  maxDepth : Option Int := none
  maxWidth : Option Int := none

/-- A layout with its defaults filled in from a table. -/
structure Printer where
  notations : NotationTable
  scopes : List String
  openScopes : List String
  maxDepth : Option Int
  maxWidth : Option Int

def NotationTable.printer (table : NotationTable) (layout : Layout := {}) : Printer :=
  let scopes := layout.scopes.getD table.scopes
  ⟨table, scopes, layout.openScopes.getD scopes, layout.maxDepth, layout.maxWidth⟩

/-- A printed subterm. Text that is not atomic needs parentheses inside an application. -/
structure Piece where
  text : String
  atomic : Bool
  deriving DecidableEq

namespace Piece

def ellipsis : Piece := ⟨"…", true⟩

def enclosed (piece : Piece) : String :=
  if piece.atomic then piece.text else "(" ++ piece.text ++ ")"

/-- The pieces of an application side by side, with an ellipsis for the arguments left out. -/
def juxtapose (pieces : List Piece) (truncated : Bool) : Piece :=
  ⟨" ".intercalate (pieces.map enclosed ++ if truncated then [ellipsis.text] else []), false⟩

end Piece

/-- One call of a scope's decoder on a node. -/
structure DecoderCall where
  place : Place
  node : Term
  scope : String

/-- Pending work: to print a node at a depth, without a numeral check if it is known to be plain,
or to put the latest pieces together. -/
inductive PrintTask where
  | visit (place : Place) (node : Term) (depth : Nat) (plain : Bool)
  | build (count : Nat) (truncated : Bool)

namespace PrintTask

/-- The work that a task still stands for. -/
def weight : PrintTask → Nat
  | visit _ node _ _ => 2 * node.size
  | build .. => 1

def totalWeight : List PrintTask → Nat
  | [] => 0
  | task :: rest => task.weight + totalWeight rest

theorem totalWeight_append (a b : List PrintTask) :
    totalWeight (a ++ b) = totalWeight a + totalWeight b := by
  induction a with
  | nil => simp [totalWeight]
  | cons task rest ih => simp only [List.cons_append, totalWeight, ih]; omega

end PrintTask

namespace Printer

def isTooDeep (printer : Printer) (depth : Nat) : Bool :=
  printer.maxDepth.any fun limit => decide (limit < (depth : Int))

def isTooWide (printer : Printer) (count : Nat) : Bool :=
  printer.maxWidth.any fun limit => decide (limit < (count : Int))

/-- How many of so many arguments are printed: as many as the limit says, or for a negative limit
all but that many at the end. -/
def keptCount (printer : Printer) (count : Nat) : Nat :=
  match printer.maxWidth with
  | some limit =>
    if limit < (count : Int) then
      if limit < 0 then count - limit.natAbs else limit.toNat
    else count
  | none => count

def keptArgs {α : Type} (printer : Printer) (args : List α) : List α :=
  args.take (printer.keptCount args.length)

theorem sizeAll_keptArgs_le (printer : Printer) (args : List Term) :
    Term.sizeAll (printer.keptArgs args) ≤ Term.sizeAll args := by
  have parts := congrArg Term.sizeAll
    (List.take_append_drop (printer.keptCount args.length) args)
  simp only [keptArgs, Term.sizeAll_append] at parts ⊢
  omega

theorem map_keptArgs {α β : Type} (printer : Printer) (f : α → β) (args : List α) :
    (printer.keptArgs args).map f = printer.keptArgs (args.map f) := by
  simp [keptArgs, List.map_take]

theorem keptArgs_of_not_isTooWide {α : Type} (printer : Printer) (args : List α)
    (fits : printer.isTooWide args.length = false) : printer.keptArgs args = args := by
  unfold isTooWide at fits
  unfold keptArgs keptCount
  cases limited : printer.maxWidth with
  | none => simp
  | some limit =>
    simp only [limited, Option.any_some, decide_eq_false_iff_not] at fits
    simp [fits]

/-- An argument goes on with the unary head of its application, and numerals of the scopes may
start with that head. -/
def continuesRun (printer : Printer) (head : Term) (args : List Term) (arg : Term) : Bool :=
  match head.asRef, args.length, arg with
  | some handle, 1, .app inner [_] _ =>
    (printer.notations.printableHeads printer.scopes).contains handle &&
      inner.asRef = some handle
  | _, _, _ => false

/-- The tasks of the arguments, the first one at a given number. -/
def argTasks (printer : Printer) (place : Place) (head : Term) (args : List Term) (depth : Nat) :
    (number : Nat) → List Term → List PrintTask
  | _, [] => []
  | number, arg :: rest =>
    .visit (number :: place) arg (depth + 1) (printer.continuesRun head args arg) ::
      printer.argTasks place head args depth (number + 1) rest

theorem totalWeight_argTasks (printer : Printer) (place : Place) (head : Term) (args : List Term)
    (depth number : Nat) (kept : List Term) :
    PrintTask.totalWeight (printer.argTasks place head args depth number kept) =
      2 * Term.sizeAll kept := by
  induction kept generalizing number with
  | nil => rfl
  | cons arg rest ih =>
    simp only [argTasks, PrintTask.totalWeight, PrintTask.weight, Term.sizeAll, ih (number + 1)]
    omega

/-- Works the tasks off. Pieces and decoder calls are kept with the latest first. -/
def run (printer : Printer) : List PrintTask → List Piece → List DecoderCall →
    List Piece × List DecoderCall
  | [], pieces, calls => (pieces, calls)
  | .build count truncated :: rest, pieces, calls =>
    printer.run rest
      (.juxtapose (pieces.take count).reverse truncated :: pieces.drop count) calls
  | .visit place node depth plain :: rest, pieces, calls =>
    if printer.isTooDeep depth then printer.run rest (.ellipsis :: pieces) calls
    else
      let seen := if plain then {} else printer.notations.recognize node printer.scopes
      let calls := (seen.asked.map fun scope => ⟨place, node, scope⟩).reverse ++ calls
      match seen.answer with
      | some (value, scope) =>
        printer.run rest (⟨printer.notations.format value scope printer.openScopes, true⟩ :: pieces)
          calls
      | none =>
        match node with
        | .ref handle _ => printer.run rest (⟨handle.name, true⟩ :: pieces) calls
        | .var name _ => printer.run rest (⟨name, true⟩ :: pieces) calls
        | .app head [] _ => printer.run (.visit (0 :: place) head depth false :: rest) pieces calls
        | .app head (first :: others) _ =>
          let args := first :: others
          let kept := printer.keptArgs args
          printer.run
            (.visit (0 :: place) head depth false ::
              (printer.argTasks place head args depth 1 kept ++
                .build (kept.length + 1) (printer.isTooWide args.length) :: rest))
            pieces calls
termination_by tasks => PrintTask.totalWeight tasks
decreasing_by
  all_goals simp only [PrintTask.totalWeight_append, totalWeight_argTasks, PrintTask.totalWeight,
    PrintTask.weight, Term.size, Term.sizeAll]
  · omega
  · have := node.size_pos; omega
  · have := node.size_pos; omega
  · omega
  · omega
  · omega
  · have bound := printer.sizeAll_keptArgs_le (first :: others)
    simp only [Term.sizeAll] at bound
    omega

/-- A printed term, with the decoder calls that it took, in order. -/
structure Rendering where
  text : String
  calls : List DecoderCall := []

def render (printer : Printer) (term : Term) : Rendering :=
  let (pieces, calls) := printer.run [.visit [] term 0 false] [] []
  ⟨(pieces.head?.map Piece.text).getD "", calls.reverse⟩

def print (printer : Printer) (term : Term) : String := (printer.render term).text

/-- Prints an operand; a value that is no term shows its written form. -/
def renderOperand (printer : Printer) : Operand → Rendering
  | .ofTerm term => printer.render term
  | .ofValue value =>
    ⟨if printer.isTooDeep 0 then Piece.ellipsis.text else value.written, []⟩

end Printer

end UnaryNumeral
