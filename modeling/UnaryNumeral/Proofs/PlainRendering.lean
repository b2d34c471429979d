import UnaryNumeral.Proofs.NumeralRecognition
import UnaryNumeral.Proofs.PrinterSteps
import UnaryNumeral.Proofs.Recognition
import UnaryNumeral.Proofs.StandardTables

/-! Plain rendering: a term printed by recursion, every node asked whether it is a numeral. The
printer, which works on a stack and leaves out the question below the top of a run of one unary
head, prints the same text, provided that no decoder knows a number further down in a run whose
top it does not know. -/

namespace UnaryNumeral

/-- What is unknown under two applications of a unary head is unknown under one. -/
def Decoder.RespectsRuns (decoder : Decoder) : Prop :=
  ∀ (handle : Handle) (x : Term) (outer inner whole part : Span),
    decoder (.app (.ref handle outer) [.app (.ref handle inner) [x] part] whole) = none →
      decoder (.app (.ref handle inner) [x] part) = none

/-- A codec that does not know `S (S x)` does not know `S x` either, whatever `S` is. -/
theorem Codec.decoder_respectsRuns (codec : Codec) : codec.decoder.RespectsRuns := by
  intro handle x outer inner whole part
  by_cases succ : handle = codec.succ <;> simp [decoder, succ]

namespace Printer

/-- The items in front of a position, which is counted from the end when it is negative. -/
def sliceTo {α : Type} (stop : Int) (items : List α) : List α :=
  items.take (if stop < 0 then items.length + stop else stop).toNat

/-- The arguments up to the width, if there are more than that many. -/
def withinWidth {α : Type} (printer : Printer) (args : List α) : List α :=
  match printer.maxWidth with
  | some width => if width < args.length then sliceTo width args else args
  | none => args

theorem withinWidth_eq_keptArgs {α : Type} (printer : Printer) (args : List α) :
    printer.withinWidth args = printer.keptArgs args := by
  unfold withinWidth keptArgs keptCount
  cases printer.maxWidth with
  | none => simp
  | some width =>
    simp only
    split
    · unfold sliceTo
      split
      · congr 1
        omega
      · rfl
    · simp

theorem mem_of_mem_withinWidth {α : Type} {printer : Printer} {args : List α} {arg : α}
    (kept : arg ∈ printer.withinWidth args) : arg ∈ args := by
  rw [withinWidth_eq_keptArgs] at kept
  exact List.mem_of_mem_take kept

end Printer

theorem Term.size_le_sizeAll {term : Term} {terms : List Term} (member : term ∈ terms) :
    term.size ≤ sizeAll terms := by
  induction terms with
  | nil => cases member
  | cons first rest ih =>
    simp only [sizeAll]
    rcases List.mem_cons.mp member with rfl | later
    · omega
    · have bound := ih later
      omega

namespace Printer

/-- The rendering of a node at a depth: an ellipsis past the depth limit; a numeral, if it is
recognised as one; else a name; an application to nothing as its head; and any other application
side by side, its arguments one level deeper. -/
def plain (printer : Printer) (node : Term) (depth : Nat) : Piece :=
  if printer.isTooDeep depth then .ellipsis
  else
    match printer.notations.uninterpret node printer.scopes with
    | some (value, scope) => ⟨printer.notations.format value scope printer.openScopes, true⟩
    | none =>
      match node with
      | .ref handle _ => ⟨handle.name, true⟩
      | .var name _ => ⟨name, true⟩
      | .app head [] _ => printer.plain head depth
      | .app head (first :: others) _ =>
        .juxtapose
          (printer.plain head depth ::
            (printer.withinWidth (first :: others)).attach.map fun arg =>
              printer.plain arg.val (depth + 1))
          (printer.isTooWide (first :: others).length)
termination_by node.size
decreasing_by
  all_goals simp only [Term.size, Term.sizeAll]
  · omega
  · omega
  · have bound := Term.size_le_sizeAll (mem_of_mem_withinWidth arg.property)
    simp only [Term.sizeAll] at bound
    omega

theorem plain_of_isTooDeep {printer : Printer} {depth : Nat} (node : Term)
    (deep : printer.isTooDeep depth = true) : printer.plain node depth = .ellipsis := by
  rw [plain.eq_def, if_pos deep]

section

variable {printer : Printer} {depth : Nat} (near : printer.isTooDeep depth = false)
include near

theorem plain_of_uninterpret {node : Term} {value : Int} {scope : String}
    (known : printer.notations.uninterpret node printer.scopes = some (value, scope)) :
    printer.plain node depth =
      ⟨printer.notations.format value scope printer.openScopes, true⟩ := by
  rw [plain.eq_def, near, if_neg Bool.false_ne_true, known]

theorem plain_ref {handle : Handle} {span : Span}
    (unknown : printer.notations.uninterpret (.ref handle span) printer.scopes = none) :
    printer.plain (.ref handle span) depth = ⟨handle.name, true⟩ := by
  rw [plain, near, if_neg Bool.false_ne_true, unknown]

theorem plain_var {name : String} {span : Span}
    (unknown : printer.notations.uninterpret (.var name span) printer.scopes = none) :
    printer.plain (.var name span) depth = ⟨name, true⟩ := by
  rw [plain, near, if_neg Bool.false_ne_true, unknown]

theorem plain_app_nil {head : Term} {span : Span}
    (unknown : printer.notations.uninterpret (.app head [] span) printer.scopes = none) :
    printer.plain (.app head [] span) depth = printer.plain head depth := by
  rw [plain, near, if_neg Bool.false_ne_true, unknown]

theorem plain_app_cons {head first : Term} {others : List Term} {span : Span}
    (unknown : printer.notations.uninterpret (.app head (first :: others) span) printer.scopes =
      none) :
    printer.plain (.app head (first :: others) span) depth =
      .juxtapose
        (printer.plain head depth ::
          (printer.withinWidth (first :: others)).map fun arg => printer.plain arg (depth + 1))
        (printer.isTooWide (first :: others).length) := by
  rw [plain, near, if_neg Bool.false_ne_true, unknown]
  simp

end

/-- No decoder among the printed scopes knows a number further down in a run of one unary head
whose top it does not know. -/
def RespectsRuns (printer : Printer) : Prop :=
  ∀ scope interpreter, printer.notations.Matches printer.scopes scope interpreter →
    interpreter.decode.RespectsRuns

/-- What makes the printer leave the question out: an argument that goes on with the unary head of
an application that is no numeral is none. -/
theorem uninterpret_eq_none_of_continuesRun {printer : Printer} (respects : printer.RespectsRuns)
    {head arg : Term} {args : List Term} {span : Span} (member : arg ∈ args)
    (continues : printer.continuesRun head args arg = true)
    (unknown : printer.notations.uninterpret (.app head args span) printer.scopes = none) :
    printer.notations.uninterpret arg printer.scopes = none := by
  unfold continuesRun at continues
  split at continues
  · rename_i handle inner x part headed single
    obtain ⟨only, rfl⟩ := List.length_eq_one_iff.mp single
    obtain rfl := List.mem_singleton.mp member
    simp only [Bool.and_eq_true, decide_eq_true_eq] at continues
    rw [NotationTable.uninterpret_eq_none_iff] at unknown ⊢
    intro scope interpreter found matching same printable
    cases head with
    | ref outer place =>
      cases inner with
      | ref below other =>
        simp only [Term.asRef_ref, Option.some.injEq] at headed continues
        obtain rfl := headed
        obtain rfl := continues.2
        exact respects scope interpreter matching _ _ _ _ _ _
          (unknown scope interpreter found matching same printable)
      | _ => simp at continues
    | _ => simp at headed
  · cases continues

/-- One step of the printer on a node. Either the node is done with, or it is no numeral and its
name is printed or the work on its children is put in front of the rest. -/
theorem run_visit_step (printer : Printer) (place : Place) (node : Term) (depth : Nat)
    (skip : Bool) (rest : List PrintTask) (pieces : List Piece) (calls : List DecoderCall)
    (sound : skip = true → printer.notations.uninterpret node printer.scopes = none) :
    ∃ more,
      printer.run (.visit place node depth skip :: rest) pieces calls =
          printer.run rest (printer.plain node depth :: pieces) more ∨
        printer.isTooDeep depth = false ∧
        printer.notations.uninterpret node printer.scopes = none ∧
        match node with
        | .ref .. | .var .. => False
        | .app head [] _ =>
          printer.run (.visit place node depth skip :: rest) pieces calls =
            printer.run (.visit (0 :: place) head depth false :: rest) pieces more
        | .app head (first :: others) _ =>
          printer.run (.visit place node depth skip :: rest) pieces calls =
            printer.run (printer.applicationTasks place head (first :: others) depth ++ rest) pieces
              more := by
  refine ⟨(printer.asks place node depth skip).reverse ++ calls, ?_⟩
  rw [run_visit]
  unfold atOnce?
  by_cases deep : printer.isTooDeep depth = true
  · rw [if_pos deep, plain_of_isTooDeep node deep]
    exact .inl rfl
  · have near : printer.isTooDeep depth = false := Bool.eq_false_iff.mpr deep
    have asked : (if skip = true then none
        else printer.notations.uninterpret node printer.scopes) =
          printer.notations.uninterpret node printer.scopes := by
      cases skip with
      | false => rfl
      | true => exact (sound rfl).symm
    rw [if_neg deep, asked]
    cases known : printer.notations.uninterpret node printer.scopes with
    | some found => exact .inl (by rw [plain_of_uninterpret near known])
    | none =>
      cases node with
      | ref handle span => exact .inl (by rw [plain_ref near known])
      | var name span => exact .inl (by rw [plain_var near known])
      | app head args span =>
        refine .inr ⟨near, rfl, ?_⟩
        cases args with
        | nil => rfl
        | cons first others => rfl

/-- Whatever work is left behind a node, the printer leaves the plain rendering of the node. -/
def Prints (printer : Printer) (node : Term) (depth : Nat) (skip : Bool) : Prop :=
  ∀ place rest pieces calls, ∃ more,
    printer.run (.visit place node depth skip :: rest) pieces calls =
      printer.run rest (printer.plain node depth :: pieces) more

/-- The tasks of the arguments leave the pieces of the arguments, the last one on top. -/
theorem run_argTasks {printer : Printer} (place : Place) (head : Term) (args : List Term)
    (depth : Nat) (kept : List Term)
    (prints : ∀ arg ∈ kept, printer.Prints arg (depth + 1) (printer.continuesRun head args arg))
    (number : Nat) (rest : List PrintTask) (pieces : List Piece) (calls : List DecoderCall) :
    ∃ more,
      printer.run (printer.argTasks place head args depth number kept ++ rest) pieces calls =
        printer.run rest
          ((kept.map fun arg => printer.plain arg (depth + 1)).reverse ++ pieces) more := by
  induction kept generalizing number pieces calls with
  | nil => exact ⟨calls, rfl⟩
  | cons arg others ih =>
    obtain ⟨first, printsOthers⟩ := List.forall_mem_cons.mp prints
    obtain ⟨later, visited⟩ := first (number :: place)
      (printer.argTasks place head args depth (number + 1) others ++ rest) pieces calls
    obtain ⟨more, remaining⟩ := ih printsOthers (number + 1)
      (printer.plain arg (depth + 1) :: pieces) later
    refine ⟨more, ?_⟩
    rw [argTasks, List.cons_append, visited, remaining]
    simp

theorem run_build (printer : Printer) (latest pieces : List Piece) (truncated : Bool)
    (rest : List PrintTask) (calls : List DecoderCall) :
    printer.run (.build latest.length truncated :: rest) (latest.reverse ++ pieces) calls =
      printer.run rest (.juxtapose latest truncated :: pieces) calls := by
  rw [run, List.take_left' (List.length_reverse ..), List.drop_left' (List.length_reverse ..),
    List.reverse_reverse]

theorem run_applicationTasks {printer : Printer} (place : Place) {head : Term} {args : List Term}
    {depth : Nat} (printsHead : printer.Prints head depth false)
    (printsArgs : ∀ arg ∈ args,
      printer.Prints arg (depth + 1) (printer.continuesRun head args arg))
    (rest : List PrintTask) (pieces : List Piece) (calls : List DecoderCall) :
    ∃ more,
      printer.run (printer.applicationTasks place head args depth ++ rest) pieces calls =
        printer.run rest
          (.juxtapose
              (printer.plain head depth ::
                (printer.keptArgs args).map fun arg => printer.plain arg (depth + 1))
              (printer.isTooWide args.length) :: pieces) more := by
  let build : PrintTask :=
    .build ((printer.keptArgs args).length + 1) (printer.isTooWide args.length)
  obtain ⟨between, visited⟩ := printsHead (0 :: place)
    (printer.argTasks place head args depth 1 (printer.keptArgs args) ++ build :: rest) pieces calls
  have printsKept : ∀ arg ∈ printer.keptArgs args,
      printer.Prints arg (depth + 1) (printer.continuesRun head args arg) := by
    intro arg kept
    exact printsArgs arg (List.mem_of_mem_take kept)
  obtain ⟨more, arguments⟩ := run_argTasks place head args depth _ printsKept 1 (build :: rest)
    (printer.plain head depth :: pieces) between
  have built := printer.run_build
    (printer.plain head depth ::
      (printer.keptArgs args).map fun arg => printer.plain arg (depth + 1))
    pieces (printer.isTooWide args.length) rest more
  refine ⟨more, ?_⟩
  rw [applicationTasks, List.cons_append, List.append_assoc, List.singleton_append, visited,
    arguments]
  simpa using built

theorem prints_of_children_eq_nil {printer : Printer} {node : Term} (leaf : node.children = [])
    {depth : Nat} {skip : Bool}
    (sound : skip = true → printer.notations.uninterpret node printer.scopes = none) :
    printer.Prints node depth skip := by
  intro place rest pieces calls
  obtain ⟨more, finished | ⟨-, -, step⟩⟩ :=
    printer.run_visit_step place node depth skip rest pieces calls sound
  · exact ⟨more, finished⟩
  · cases node with
    | ref handle span => exact step.elim
    | var name span => exact step.elim
    | app head args span => cases leaf

/-- The stack machine prints a node as the recursion does. By induction on the node; a node whose
check is skipped is known to be no numeral. -/
theorem prints_of_respectsRuns {printer : Printer} (respects : printer.RespectsRuns) (node : Term)
    (depth : Nat) (skip : Bool)
    (sound : skip = true → printer.notations.uninterpret node printer.scopes = none) :
    printer.Prints node depth skip := by
  induction node generalizing depth skip with
  | ref handle span => exact prints_of_children_eq_nil rfl sound
  | var name span => exact prints_of_children_eq_nil rfl sound
  | app head args span ihHead ihArgs =>
    intro place rest pieces calls
    have printsHead : printer.Prints head depth false := ihHead depth false (by simp)
    obtain ⟨more, finished | ⟨near, unknown, step⟩⟩ :=
      printer.run_visit_step place _ depth skip rest pieces calls sound
    · exact ⟨more, finished⟩
    · cases args with
      | nil =>
        obtain ⟨final, visited⟩ := printsHead (0 :: place) rest pieces more
        exact ⟨final, by rw [step, visited, plain_app_nil near unknown]⟩
      | cons first others =>
        have printsArgs : ∀ arg ∈ first :: others, printer.Prints arg (depth + 1)
            (printer.continuesRun head (first :: others) arg) := by
          intro arg member
          apply ihArgs arg member (depth + 1)
          intro continues
          exact uninterpret_eq_none_of_continuesRun respects member continues unknown
        obtain ⟨final, worked⟩ :=
          run_applicationTasks place printsHead printsArgs rest pieces more
        refine ⟨final, ?_⟩
        rw [step, worked, plain_app_cons near unknown, withinWidth_eq_keptArgs]

theorem render_eq_plain {printer : Printer} (respects : printer.RespectsRuns) (term : Term) :
    ∃ calls, printer.render term = ⟨(printer.plain term 0).text, calls⟩ := by
  have prints := prints_of_respectsRuns respects term 0 false (by simp)
  obtain ⟨calls, visited⟩ := prints [] [] [] []
  exact ⟨calls.reverse, by simp [render, visited, run]⟩

/-- Skipping the numeral check inside a run is never seen: the stack machine prints exactly the
plain rendering, with any scopes, open scopes and limits, negative ones included. -/
theorem print_eq_plain (printer : Printer) (respects : printer.RespectsRuns) (term : Term) :
    printer.print term = (printer.plain term 0).text := by
  obtain ⟨calls, rendered⟩ := render_eq_plain respects term
  rw [print, rendered]

/-- With the standard tables, a run of successors that is no numeral and an argument too many. -/
theorem print_eq_plain_standard :
    let succ := Term.ref Codec.standard.succ .nowhere
    let printer := Tables.standard.notations.printer { openScopes := some [], maxWidth := some 1 }
    let run := succ.applyTo (succ.applyTo (.var "x" .nowhere))
    let term := Term.app (Codec.standard.numeral .nowhere 2) [run, run] .nowhere
    printer.RespectsRuns ∧ printer.print term = (printer.plain term 0).text ∧
      printer.print term = "2%nat (S (S x)) …" := by
  intro succ printer run term
  have respects : printer.RespectsRuns := by
    intro scope interpreter matching
    rw [(Tables.standard_find? matching.found).2]
    exact Codec.standard.decoder_respectsRuns
  exact ⟨respects, print_eq_plain printer respects term, by decide +kernel⟩

end Printer

end UnaryNumeral
