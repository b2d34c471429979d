import UnaryNumeral.Proofs.Measures
import UnaryNumeral.Proofs.PrinterSteps
import UnaryNumeral.Proofs.StandardTables

/-! Limits of depth and width that a term does not exceed. The depth at which the printer stands
grows on arguments only, so it never outgrows the depth of the term, and then the printer takes the
same steps as without limits. -/

namespace UnaryNumeral

namespace Printer

def unlimited (printer : Printer) : Printer := { printer with maxDepth := none, maxWidth := none }

/-- A node that is reached at a depth fits into the limits: nothing in it lies deeper, and no
application in it is wider. -/
structure HasRoom (printer : Printer) (node : Term) (depth : Nat) : Prop where
  deep : ∀ limit, printer.maxDepth = some limit → ((depth + node.depth : Nat) : Int) ≤ limit
  wide : ∀ limit, printer.maxWidth = some limit → ∀ head args span,
    (Term.app head args span).Within node → (args.length : Int) ≤ limit

variable {printer : Printer} {node : Term} {depth : Nat}

theorem HasRoom.isTooDeep_eq_false (room : printer.HasRoom node depth) :
    printer.isTooDeep depth = false := by
  unfold isTooDeep
  cases limited : printer.maxDepth with
  | none => rfl
  | some limit =>
    have bound := room.deep limit limited
    simp only [Option.any_some, decide_eq_false_iff_not]
    omega

theorem HasRoom.isTooWide_eq_false {head : Term} {args : List Term} {span : Span}
    (room : printer.HasRoom (.app head args span) depth) :
    printer.isTooWide args.length = false := by
  unfold isTooWide
  cases limited : printer.maxWidth with
  | none => rfl
  | some limit =>
    have bound := room.wide limit limited head args span .self
    simp only [Option.any_some, decide_eq_false_iff_not]
    omega

/-- The head of an application keeps the depth, and an argument takes one level. Either is less deep
than the application by at least one. -/
theorem HasRoom.child (room : printer.HasRoom node depth) {child : Term} {below : Nat}
    (member : child ∈ node.children) (level : below ≤ depth + 1) :
    printer.HasRoom child below where
  deep := by
    intro limit limited
    have bound := room.deep limit limited
    have lower := Term.depth_lt_of_mem_children member
    omega
  wide := by
    intro limit limited head args span inside
    exact room.wide limit limited head args span (.child member inside)

/-- A pending visit has room for its node. -/
def TaskHasRoom (printer : Printer) : PrintTask → Prop
  | .visit _ node depth _ => printer.HasRoom node depth
  | .build .. => True

theorem HasRoom.task (room : printer.HasRoom node depth) {place : Place} {task : PrintTask}
    (below : printer.ChildTask place node depth task) : printer.TaskHasRoom task := by
  cases below with
  | head shape =>
    subst shape
    exact room.child (List.mem_cons_self ..) (Nat.le_succ _)
  | arg shape listed =>
    subst shape
    exact room.child (List.mem_cons_of_mem _ (List.mem_of_getElem? listed)) (Nat.le_refl _)
  | build count truncated => trivial

theorem TaskHasRoom.subtasks {task : PrintTask} (room : printer.TaskHasRoom task) :
    ∀ child ∈ printer.subtasks task, printer.TaskHasRoom child := by
  intro child member
  cases task with
  | visit place node depth skip => exact HasRoom.task room (childTask_of_mem_subtasks member)
  | build count truncated => cases member

theorem atOnce?_unlimited (room : printer.HasRoom node depth) (skip : Bool) :
    printer.unlimited.atOnce? node depth skip = printer.atOnce? node depth skip := by
  have near : printer.unlimited.isTooDeep depth = false := rfl
  unfold atOnce?
  rw [near, room.isTooDeep_eq_false]
  rfl

theorem asks_unlimited (room : printer.HasRoom node depth) (place : Place) (skip : Bool) :
    printer.unlimited.asks place node depth skip = printer.asks place node depth skip := by
  have near : printer.unlimited.isTooDeep depth = false := rfl
  unfold asks
  rw [near, room.isTooDeep_eq_false]
  rfl

theorem argTasks_unlimited (printer : Printer) (place : Place) (head : Term) (args : List Term)
    (depth number : Nat) (kept : List Term) :
    printer.unlimited.argTasks place head args depth number kept =
      printer.argTasks place head args depth number kept := by
  induction kept generalizing number with
  | nil => rfl
  | cons arg rest ih =>
    rw [argTasks, ih, argTasks]
    rfl

theorem childTasks_unlimited (room : printer.HasRoom node depth) (place : Place) :
    printer.unlimited.childTasks place node depth = printer.childTasks place node depth := by
  cases node with
  | ref handle span => rfl
  | var name span => rfl
  | app head args span =>
    cases args with
    | nil => rfl
    | cons first others =>
      have fits := room.isTooWide_eq_false
      have fitsUnlimited : printer.unlimited.isTooWide (first :: others).length = false := rfl
      simp only [childTasks, applicationTasks, keptArgs_of_not_isTooWide _ _ fits,
        keptArgs_of_not_isTooWide _ _ fitsUnlimited, fits, fitsUnlimited, argTasks_unlimited]

theorem subtasks_unlimited {task : PrintTask} (room : printer.TaskHasRoom task) :
    printer.unlimited.subtasks task = printer.subtasks task := by
  cases task with
  | visit place node depth skip =>
    rw [subtasks, subtasks, atOnce?_unlimited room, childTasks_unlimited room]
  | build count truncated => rfl

/-- Work that has room is worked off alike without limits, step by step. -/
theorem run_unlimited {tasks : List PrintTask} (room : ∀ task ∈ tasks, printer.TaskHasRoom task)
    (pieces : List Piece) (calls : List DecoderCall) :
    printer.unlimited.run tasks pieces calls = printer.run tasks pieces calls := by
  induction tasks using carriedOut.induct printer generalizing pieces calls with
  | case1 => rw [run, run]
  | case2 task rest ih =>
    obtain ⟨first, others⟩ := List.forall_mem_cons.mp room
    have pending : ∀ child ∈ printer.subtasks task ++ rest, printer.TaskHasRoom child :=
      List.forall_mem_append.mpr ⟨first.subtasks, others⟩
    cases task with
    | build count truncated =>
      rw [run, run]
      exact ih pending _ _
    | visit place node depth skip =>
      rw [run_visit_subtasks, run_visit_subtasks, asks_unlimited first, atOnce?_unlimited first,
        subtasks_unlimited first]
      exact ih pending _ _

theorem render_unlimited {term : Term} (room : printer.HasRoom term 0) :
    printer.unlimited.render term = printer.render term := by
  have pending : ∀ task ∈ [PrintTask.visit [] term 0 false], printer.TaskHasRoom task :=
    List.forall_mem_singleton.mpr room
  rw [render, run_unlimited pending, render]

/-- Limits bite only past the size of the term itself: where the depth limit is at least the depth
of the term, and the width limit at least the number of arguments of each application in it, the
text is the one that is printed without limits. -/
theorem print_within_limits (table : NotationTable) (layout : Layout) (term : Term)
    (deep : ∀ limit, layout.maxDepth = some limit → (term.depth : Int) ≤ limit)
    (wide : ∀ limit, layout.maxWidth = some limit → ∀ head args span,
      (Term.app head args span).Within term → (args.length : Int) ≤ limit) :
    (table.printer layout).print term =
      (table.printer { layout with maxDepth := none, maxWidth := none }).print term := by
  have room : (table.printer layout).HasRoom term 0 := by
    refine ⟨?_, wide⟩
    intro limit limited
    rw [Nat.zero_add]
    exact deep limit limited
  rw [print, ← render_unlimited room]
  rfl

/-- Limits that are as large as the term, and not larger: one less would leave something out. -/
theorem print_within_limits_standard :
    let succ := Term.ref Codec.standard.succ .nowhere
    let run := succ.applyTo (succ.applyTo (.var "x" .nowhere))
    let term := Term.app (.var "f" .nowhere) [run, .var "y" .nowhere] .nowhere
    let table := Tables.standard.notations
    term.depth = 3 ∧
      (table.printer { maxDepth := some 3, maxWidth := some 2 }).print term =
        (table.printer {}).print term ∧
      (table.printer {}).print term = "f (S (S x)) y" ∧
      (table.printer { maxDepth := some 2 }).print term = "f (S (S …)) y" ∧
      (table.printer { maxWidth := some 1 }).print term = "f (S (S x)) …" := by
  intro succ run term table
  have tall : term.depth = 3 := by decide +kernel
  have within : (table.printer { maxDepth := some 3, maxWidth := some 2 }).print term =
      (table.printer {}).print term := by
    apply print_within_limits table { maxDepth := some 3, maxWidth := some 2 } term
    · intro limit limited
      cases limited
      rw [tall]
      decide
    · intro limit limited head args span inside
      cases limited
      simp only [term, run, succ, Term.applyTo, Term.within_app_iff, Term.within_ref_iff,
        Term.within_var_iff, List.mem_cons, List.not_mem_nil, or_false, exists_eq_or_imp,
        exists_eq_left, reduceCtorEq, false_or] at inside
      rcases inside with whole | outer | inner
      · cases whole
        decide
      · cases outer
        decide
      · cases inner
        decide
  exact ⟨tall, within, by decide +kernel, by decide +kernel, by decide +kernel⟩

end Printer

end UnaryNumeral
