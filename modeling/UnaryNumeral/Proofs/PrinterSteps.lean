import UnaryNumeral.Printer

/-! The steps of the printer. A visit asks decoders about its node, and then the node is printed at
once or the work on its children is put in front of the rest. The tasks that a run carries out, one
after another, tell which decoders are called. -/

namespace UnaryNumeral

namespace Printer

/-- What a node is printed as at once: an ellipsis past the depth limit, a numeral, or a name. An
application that is no numeral is printed from its children. -/
def atOnce? (printer : Printer) (node : Term) (depth : Nat) (skip : Bool) : Option Piece :=
  if printer.isTooDeep depth then some .ellipsis
  else
    match if skip then none else printer.notations.uninterpret node printer.scopes with
    | some (value, scope) =>
      some ⟨printer.notations.format value scope printer.openScopes, true⟩
    | none =>
      match node with
      | .ref handle _ => some ⟨handle.name, true⟩
      | .var name _ => some ⟨name, true⟩
      | .app .. => none

def asks (printer : Printer) (place : Place) (node : Term) (depth : Nat) (skip : Bool) :
    List DecoderCall :=
  if printer.isTooDeep depth || skip then []
  else (printer.notations.recognize node printer.scopes).asked.map fun scope => ⟨place, node, scope⟩

/-- The work on an application that is no numeral: its head, the arguments that are kept, and the
piece that they make up. -/
def applicationTasks (printer : Printer) (place : Place) (head : Term) (args : List Term)
    (depth : Nat) : List PrintTask :=
  .visit (0 :: place) head depth false ::
    (printer.argTasks place head args depth 1 (printer.keptArgs args) ++
      [.build ((printer.keptArgs args).length + 1) (printer.isTooWide args.length)])

def childTasks (printer : Printer) (place : Place) (node : Term) (depth : Nat) :
    List PrintTask :=
  match node with
  | .app head [] _ => [.visit (0 :: place) head depth false]
  | .app head (first :: others) _ => printer.applicationTasks place head (first :: others) depth
  | _ => []

/-- What there is to do for the children of a node: to visit the head at the same depth, or an
argument one level deeper, or to put the pieces together. -/
inductive ChildTask (printer : Printer) (place : Place) (node : Term) (depth : Nat) :
    PrintTask → Prop where
  | head {head : Term} {args : List Term} {span : Span} (shape : node = .app head args span) :
      ChildTask printer place node depth (.visit (0 :: place) head depth false)
  | arg {head arg : Term} {args : List Term} {span : Span} {number : Nat}
      (shape : node = .app head args span) (listed : args[number]? = some arg) :
      ChildTask printer place node depth
        (.visit ((number + 1) :: place) arg (depth + 1) (printer.continuesRun head args arg))
  | build (count : Nat) (truncated : Bool) :
      ChildTask printer place node depth (.build count truncated)

theorem exists_of_mem_argTasks {printer : Printer} {place : Place} {head : Term} {args : List Term}
    {depth number : Nat} {kept : List Term} {task : PrintTask}
    (member : task ∈ printer.argTasks place head args depth number kept) :
    ∃ i arg, kept[i]? = some arg ∧
      task = .visit ((number + i) :: place) arg (depth + 1)
        (printer.continuesRun head args arg) := by
  induction kept generalizing number with
  | nil => cases member
  | cons first others ih =>
    rcases List.mem_cons.mp member with rfl | later
    · exact ⟨0, first, rfl, rfl⟩
    · obtain ⟨i, arg, listed, rfl⟩ := ih later
      exact ⟨i + 1, arg, listed, by rw [Nat.add_assoc, Nat.add_comm 1]⟩

theorem childTask_of_mem {printer : Printer} {place : Place} {node : Term} {depth : Nat}
    {task : PrintTask} (member : task ∈ printer.childTasks place node depth) :
    printer.ChildTask place node depth task := by
  cases node with
  | ref handle span => cases member
  | var name span => cases member
  | app head args span =>
    cases args with
    | nil =>
      obtain rfl := List.mem_singleton.mp member
      exact .head rfl
    | cons first others =>
      rcases List.mem_cons.mp member with rfl | member
      · exact .head rfl
      rcases List.mem_append.mp member with visits | build
      · obtain ⟨i, arg, kept, rfl⟩ := exists_of_mem_argTasks visits
        rw [keptArgs, List.getElem?_take, Option.ite_none_right_eq_some] at kept
        rw [Nat.add_comm 1]
        exact .arg rfl kept.2
      · obtain rfl := List.mem_singleton.mp build
        exact .build ..

theorem run_visit (printer : Printer) (place : Place) (node : Term) (depth : Nat) (skip : Bool)
    (rest : List PrintTask) (pieces : List Piece) (calls : List DecoderCall) :
    printer.run (.visit place node depth skip :: rest) pieces calls =
      let calls := (printer.asks place node depth skip).reverse ++ calls
      match printer.atOnce? node depth skip with
      | some piece => printer.run rest (piece :: pieces) calls
      | none => printer.run (printer.childTasks place node depth ++ rest) pieces calls := by
  rw [run.eq_def]
  unfold asks atOnce?
  by_cases deep : printer.isTooDeep depth = true
  · simp [deep]
  · have near : printer.isTooDeep depth = false := Bool.eq_false_iff.mpr deep
    cases skip with
    | true =>
      simp only [near]
      cases node with
      | ref handle span => simp
      | var name span => simp
      | app head args span => cases args <;> simp [childTasks, applicationTasks]
    | false =>
      simp only [near]
      have answer : (printer.notations.recognize node printer.scopes).answer =
          printer.notations.uninterpret node printer.scopes := rfl
      simp only [Bool.false_eq_true, ↓reduceIte, answer, Bool.or_self]
      cases printer.notations.uninterpret node printer.scopes with
      | some found => rfl
      | none =>
        cases node with
        | ref handle span => rfl
        | var name span => rfl
        | app head args span => cases args <;> simp [childTasks, applicationTasks]

/-- The tasks that a task leaves to be done in front of the others. -/
def subtasks (printer : Printer) : PrintTask → List PrintTask
  | .visit place node depth skip =>
    if (printer.atOnce? node depth skip).isSome then [] else printer.childTasks place node depth
  | .build .. => []

/-- A visit is carried out in one go: what is printed at once is put on the pieces, the decoders it
asks on the calls, and what it leaves to do in front of the rest. -/
theorem run_visit_subtasks (printer : Printer) (place : Place) (node : Term) (depth : Nat)
    (skip : Bool) (rest : List PrintTask) (pieces : List Piece) (calls : List DecoderCall) :
    printer.run (.visit place node depth skip :: rest) pieces calls =
      printer.run (printer.subtasks (.visit place node depth skip) ++ rest)
        ((printer.atOnce? node depth skip).toList ++ pieces)
        ((printer.asks place node depth skip).reverse ++ calls) := by
  rw [run_visit, subtasks]
  cases printer.atOnce? node depth skip with
  | some piece => rfl
  | none => rfl

theorem childTask_of_mem_subtasks {printer : Printer} {place : Place} {node : Term} {depth : Nat}
    {skip : Bool} {task : PrintTask}
    (member : task ∈ printer.subtasks (.visit place node depth skip)) :
    printer.ChildTask place node depth task := by
  simp only [subtasks] at member
  split at member
  · cases member
  · exact childTask_of_mem member

theorem totalWeight_subtasks_lt (printer : Printer) (task : PrintTask) :
    PrintTask.totalWeight (printer.subtasks task) < task.weight := by
  cases task with
  | build count truncated => simp [subtasks, PrintTask.totalWeight, PrintTask.weight]
  | visit place node depth skip =>
    have positive := node.size_pos
    simp only [subtasks, PrintTask.weight]
    split
    · simp only [PrintTask.totalWeight]
      omega
    · cases node with
      | ref handle span => simp [childTasks, PrintTask.totalWeight, Term.size]
      | var name span => simp [childTasks, PrintTask.totalWeight, Term.size]
      | app head args span =>
        cases args with
        | nil =>
          simp only [childTasks, PrintTask.totalWeight, PrintTask.weight, Term.size]
          omega
        | cons first others =>
          have kept := printer.sizeAll_keptArgs_le (first :: others)
          simp only [childTasks, applicationTasks, PrintTask.totalWeight,
            PrintTask.totalWeight_append, totalWeight_argTasks, PrintTask.weight, Term.size]
          omega

/-- The tasks that are carried out until none is left, in this order. -/
def carriedOut (printer : Printer) : List PrintTask → List PrintTask
  | [] => []
  | task :: rest => task :: printer.carriedOut (printer.subtasks task ++ rest)
termination_by tasks => PrintTask.totalWeight tasks
decreasing_by
  have lighter := printer.totalWeight_subtasks_lt task
  simp only [PrintTask.totalWeight, PrintTask.totalWeight_append]
  omega

/-- What holds of the pending tasks, and passes from a task on to those it leaves, holds of every
task that is carried out. -/
theorem forall_mem_carriedOut {printer : Printer} {holds : PrintTask → Prop}
    (passes : ∀ task, holds task → ∀ child ∈ printer.subtasks task, holds child)
    {tasks : List PrintTask} (pending : ∀ task ∈ tasks, holds task) :
    ∀ task ∈ printer.carriedOut tasks, holds task := by
  induction tasks using carriedOut.induct printer with
  | case1 =>
    intro task member
    rw [carriedOut] at member
    cases member
  | case2 task rest ih =>
    obtain ⟨first, others⟩ := List.forall_mem_cons.mp pending
    rw [carriedOut]
    exact List.forall_mem_cons.mpr
      ⟨first, ih (List.forall_mem_append.mpr ⟨passes task first, others⟩)⟩

def callsOf (printer : Printer) : PrintTask → List DecoderCall
  | .visit place node depth skip => printer.asks place node depth skip
  | .build .. => []

theorem calls_run (printer : Printer) (tasks : List PrintTask) (pieces : List Piece)
    (calls : List DecoderCall) :
    (printer.run tasks pieces calls).2 =
      ((printer.carriedOut tasks).flatMap printer.callsOf).reverse ++ calls := by
  induction tasks using carriedOut.induct printer generalizing pieces calls with
  | case1 => simp [run, carriedOut]
  | case2 task rest ih =>
    rw [carriedOut, List.flatMap_cons, List.reverse_append, List.append_assoc]
    cases task with
    | build count truncated =>
      rw [run]
      exact ih _ _
    | visit place node depth skip =>
      rw [run_visit_subtasks]
      exact ih _ _

theorem calls_render (printer : Printer) (term : Term) :
    (printer.render term).calls =
      (printer.carriedOut [.visit [] term 0 false]).flatMap printer.callsOf := by
  have calls := printer.calls_run [.visit [] term 0 false] [] []
  rw [List.append_nil] at calls
  change (printer.run [.visit [] term 0 false] [] []).2.reverse = _
  rw [calls, List.reverse_reverse]

end Printer

end UnaryNumeral
