import Mathlib.Data.List.Nodup
import UnaryNumeral.Proofs.PrinterSteps
import UnaryNumeral.Proofs.StandardTables

/-! Which decoders the printer calls, and on which nodes. A node is visited at its place in the
term, each place at most once, and nothing below a node that is printed at once. Below the top of a
run of one unary head no decoder is called. -/

namespace UnaryNumeral

/-- So many applications of one unary head to a term, at any spans. -/
inductive Term.Run (handle : Handle) (x : Term) : Nat → Term → Prop where
  | zero : Run handle x 0 x
  | succ {k : Nat} {below : Term} {inner outer : Span} (run : Run handle x k below) :
      Run handle x (k + 1) (.app (.ref handle inner) [below] outer)

/-- In a run, so many arguments down, there is the rest of the run. -/
theorem Term.Run.exists_at? {handle : Handle} {x : Term} {k : Nat} {term node : Term}
    {place : Place} (run : Term.Run handle x k node) (found : term.at? place = some node) {j : Nat}
    (inside : j ≤ k) :
    ∃ below, Term.Run handle x (k - j) below ∧
      term.at? (List.replicate j 1 ++ place) = some below := by
  induction j with
  | zero => exact ⟨node, run, found⟩
  | succ j ih =>
    obtain ⟨below, rest, reached⟩ := ih (Nat.le_of_succ_le inside)
    obtain ⟨left, more⟩ : ∃ left, k - j = left + 1 := ⟨k - (j + 1), by omega⟩
    rw [more] at rest
    cases rest with
    | succ rest =>
      have same : k - (j + 1) = left := by omega
      rw [List.replicate_succ, List.cons_append, at?, reached, same]
      exact ⟨_, rest, rfl⟩

/-- The place at which a task visits a node. -/
def PrintTask.place? : PrintTask → Option Place
  | visit place .. => some place
  | build .. => none

theorem Recognition.asked_sublist (term : Term) (entries : List (String × Interpreter)) :
    (Recognition.ask term entries).asked.Sublist (entries.map Prod.fst) := by
  induction entries with
  | nil => exact List.Sublist.refl _
  | cons entry rest ih =>
    obtain ⟨scope, interpreter⟩ := entry
    rw [ask]
    cases interpreter.decode term with
    | some value => exact (List.nil_sublist _).cons_cons scope
    | none => exact ih.cons_cons scope

namespace NotationTable

theorem map_fst_matching_sublist (table : NotationTable) (scopes : List String) :
    ((table.matching scopes).map Prod.fst).Sublist scopes := by
  induction scopes with
  | nil => exact List.Sublist.refl _
  | cons scope rest ih =>
    rw [matching, List.filterMap_cons]
    cases (table.interpreters.find? scope).filter (·.matchesTerms) with
    | none => exact ih.cons scope
    | some interpreter => exact ih.cons_cons scope

/-- The decoders that are asked about a term are of scopes among those given, in their order. -/
theorem recognize_asked_sublist (table : NotationTable) (term : Term) (scopes : List String) :
    (table.recognize term scopes).asked.Sublist scopes := by
  unfold recognize
  cases term.headRef with
  | none => exact List.nil_sublist _
  | some head =>
    have asked := Recognition.asked_sublist term
      ((table.matching scopes).filter fun entry => entry.2.printableHeads.contains head)
    exact (asked.trans (List.filter_sublist.map Prod.fst)).trans
      (table.map_fst_matching_sublist scopes)

end NotationTable

namespace Printer

variable {printer : Printer}

/-- A visit stands at the place of its node. It leaves the numeral check out just when the node goes
on with the unary head of the application above it. -/
structure Sits (printer : Printer) (term : Term) (place : Place) (node : Term) (skip : Bool) :
    Prop where
  found : term.at? place = some node
  continues : ∀ number above head args span, place = (number + 1) :: above →
    term.at? above = some (.app head args span) → skip = printer.continuesRun head args node

/-- A visit among the tasks stands at the place of its node. -/
def TaskSits (printer : Printer) (term : Term) : PrintTask → Prop
  | .visit place node _ skip => printer.Sits term place node skip
  | .build .. => True

theorem sits_root (printer : Printer) (term : Term) : printer.Sits term [] term false where
  found := rfl
  continues := by
    intro number above head args span same
    cases same

theorem TaskSits.subtasks {term : Term} {task : PrintTask} (sits : printer.TaskSits term task) :
    ∀ child ∈ printer.subtasks task, printer.TaskSits term child := by
  intro child member
  cases task with
  | build count truncated => cases member
  | visit place node depth skip =>
    have found : term.at? place = some node := Sits.found sits
    cases childTask_of_mem_subtasks member with
    | build count truncated => trivial
    | head shape =>
      subst shape
      refine ⟨by rw [Term.at?, found]; rfl, ?_⟩
      intro number above head args span same
      cases same
    | arg shape listed =>
      subst shape
      refine ⟨by rw [Term.at?, found]; exact listed, ?_⟩
      intro number above head args span same reached
      cases same
      cases found.symm.trans reached
      rfl

/-- What is handed to a decoder is the node at a place that is visited, and the numeral check was
not left out there. -/
theorem exists_visit_of_mem_calls {term : Term} {call : DecoderCall}
    (member : call ∈ (printer.render term).calls) :
    ∃ depth, .visit call.place call.node depth false ∈
        printer.carriedOut [.visit [] term 0 false] ∧
      printer.Sits term call.place call.node false ∧
      call ∈ printer.asks call.place call.node depth false := by
  rw [calls_render] at member
  obtain ⟨task, carried, called⟩ := List.mem_flatMap.mp member
  have sits : printer.TaskSits term task :=
    forall_mem_carriedOut (fun _ sits => sits.subtasks)
      (List.forall_mem_singleton.mpr (printer.sits_root term)) task carried
  cases task with
  | build count truncated => cases called
  | visit place node depth skip =>
    cases skip with
    | true =>
      simp [callsOf, asks] at called
    | false =>
      have own := called
      simp only [callsOf, asks] at called
      split at called
      · cases called
      · obtain ⟨scope, -, rfl⟩ := List.mem_map.mp called
        exact ⟨depth, carried, sits, own⟩

/-! Places are counted from the node up to the root, so what is below a place ends in it. -/

/-- Neither of two tasks visits a node at or below the place that the other visits. -/
def Apart (a b : PrintTask) : Prop :=
  ∀ p q, a.place? = some p → b.place? = some q → ¬ p <:+ q ∧ ¬ q <:+ p

/-- The later of two tasks is not at or above the place of the earlier one, and not below it either
if the earlier one leaves nothing to do. -/
def Precedes (printer : Printer) (a b : PrintTask) : Prop :=
  ∀ p q, a.place? = some p → b.place? = some q →
    ¬ q <:+ p ∧ (printer.subtasks a = [] → ¬ p <:+ q)

private theorem not_cons_suffix {place : Place} {number : Nat} : ¬ number :: place <:+ place := by
  intro below
  exact absurd below.length_le (Nat.not_succ_le_self _)

private theorem not_cons_suffix_cons {place : Place} {m n : Nat} (different : m ≠ n) :
    ¬ m :: place <:+ n :: place := by
  intro below
  rcases List.suffix_cons_iff.mp below with same | longer
  · exact different (List.cons.inj same).1
  · exact not_cons_suffix longer

private theorem apart_of_ne {a b : PrintTask} {place : Place} {m n : Nat}
    (first : a.place? = some (m :: place)) (second : b.place? = some (n :: place))
    (different : m ≠ n) : Apart a b := by
  intro p q atFirst atSecond
  cases first.symm.trans atFirst
  cases second.symm.trans atSecond
  exact ⟨not_cons_suffix_cons different, not_cons_suffix_cons different.symm⟩

private theorem apart_build (task : PrintTask) (count : Nat) (truncated : Bool) :
    Apart task (.build count truncated) := by
  intro p q _ none
  cases none

theorem pairwise_argTasks (printer : Printer) (place : Place) (head : Term) (args : List Term)
    (depth number : Nat) (kept : List Term) :
    (printer.argTasks place head args depth number kept).Pairwise Apart := by
  induction kept generalizing number with
  | nil => exact .nil
  | cons arg rest ih =>
    refine .cons ?_ (ih (number + 1))
    intro later member
    obtain ⟨i, other, -, rfl⟩ := exists_of_mem_argTasks member
    exact apart_of_ne rfl rfl (by omega)

theorem pairwise_subtasks (printer : Printer) (task : PrintTask) :
    (printer.subtasks task).Pairwise Apart := by
  cases task with
  | build count truncated => exact .nil
  | visit place node depth skip =>
    rw [subtasks]
    split
    · exact .nil
    · cases node with
      | ref handle span => exact .nil
      | var name span => exact .nil
      | app head args span =>
        cases args with
        | nil => exact List.pairwise_singleton ..
        | cons first others =>
          refine .cons ?_ (List.pairwise_append.mpr
            ⟨pairwise_argTasks .., List.pairwise_singleton .., ?_⟩)
          · intro later member
            rcases List.mem_append.mp member with visits | build
            · obtain ⟨i, arg, -, rfl⟩ := exists_of_mem_argTasks visits
              exact apart_of_ne rfl rfl (by omega)
            · obtain rfl := List.mem_singleton.mp build
              exact apart_build _ _ _
          · intro visit _ build member
            obtain rfl := List.mem_singleton.mp member
            exact apart_build _ _ _

theorem exists_place_of_mem_subtasks {task child : PrintTask} {place : Place}
    (member : child ∈ printer.subtasks task) (stands : child.place? = some place) :
    ∃ number above, task.place? = some above ∧ place = number :: above := by
  cases task with
  | build count truncated => cases member
  | visit above node depth skip =>
    cases childTask_of_mem_subtasks member with
    | build count truncated => cases stands
    | head shape =>
      cases stands
      exact ⟨_, _, rfl, rfl⟩
    | arg shape listed =>
      cases stands
      exact ⟨_, _, rfl, rfl⟩

theorem Apart.subtasks {task other : PrintTask} (apart : Apart task other) :
    ∀ child ∈ printer.subtasks task, Apart child other := by
  intro child member p q atChild atOther
  obtain ⟨number, above, atTask, rfl⟩ := exists_place_of_mem_subtasks member atChild
  obtain ⟨notBelow, notAbove⟩ := apart above q atTask atOther
  constructor
  · intro below
    exact notBelow ((List.suffix_cons ..).trans below)
  · intro upwards
    rcases List.suffix_cons_iff.mp upwards with rfl | upwards
    · exact notBelow (List.suffix_cons ..)
    · exact notAbove upwards

theorem exists_pending_of_mem_carriedOut {tasks : List PrintTask} {task : PrintTask}
    (carried : task ∈ printer.carriedOut tasks) {place : Place}
    (stands : task.place? = some place) :
    ∃ pending ∈ tasks, ∃ above, pending.place? = some above ∧ above <:+ place := by
  have below : ∀ task ∈ printer.carriedOut tasks, ∀ place, task.place? = some place →
      ∃ pending ∈ tasks, ∃ above, pending.place? = some above ∧ above <:+ place := by
    apply forall_mem_carriedOut
    · intro task below child member place atChild
      obtain ⟨number, above, atTask, rfl⟩ := exists_place_of_mem_subtasks member atChild
      obtain ⟨pending, listed, start, atPending, ends⟩ := below above atTask
      exact ⟨pending, listed, start, atPending, ends.trans (List.suffix_cons ..)⟩
    · intro task member place atTask
      exact ⟨task, member, place, atTask, List.suffix_refl _⟩
  exact below task carried place stands

/-- If the pending tasks are apart, then each place is visited before those below it, once, and
nothing is visited below a node that is printed at once. -/
theorem pairwise_carriedOut {tasks : List PrintTask} (apart : tasks.Pairwise Apart) :
    (printer.carriedOut tasks).Pairwise printer.Precedes := by
  induction tasks using carriedOut.induct printer with
  | case1 =>
    rw [carriedOut]
    exact .nil
  | case2 task rest ih =>
    obtain ⟨fromTask, others⟩ := List.pairwise_cons.mp apart
    rw [carriedOut]
    refine .cons ?_ (ih (List.pairwise_append.mpr ⟨printer.pairwise_subtasks task, others, ?_⟩))
    · intro later carried p q atTask atLater
      obtain ⟨pending, member, above, atPending, ends⟩ :=
        exists_pending_of_mem_carriedOut carried atLater
      rcases List.mem_append.mp member with below | listed
      · obtain ⟨number, place, same, rfl⟩ := exists_place_of_mem_subtasks below atPending
        cases same.symm.trans atTask
        constructor
        · intro upwards
          exact not_cons_suffix (ends.trans upwards)
        · intro settled
          rw [settled] at below
          cases below
      · obtain ⟨notBelow, notAbove⟩ := fromTask pending listed p above atTask atPending
        constructor
        · intro upwards
          exact notAbove (ends.trans upwards)
        · intro _ under
          exact (List.suffix_or_suffix_of_suffix under ends).elim notBelow notAbove
    · intro child member other listed
      exact (fromTask other listed).subtasks child member

theorem place?_of_mem_callsOf {task : PrintTask} {call : DecoderCall}
    (called : call ∈ printer.callsOf task) : task.place? = some call.place := by
  cases task with
  | build count truncated => cases called
  | visit place node depth skip =>
    simp only [callsOf, asks] at called
    split at called
    · cases called
    · obtain ⟨scope, -, rfl⟩ := List.mem_map.mp called
      rfl

theorem callsOf_nodup (distinct : printer.scopes.Nodup) (task : PrintTask) :
    ((printer.callsOf task).map fun call => (call.place, call.scope)).Nodup := by
  cases task with
  | build count truncated => exact .nil
  | visit place node depth skip =>
    simp only [callsOf, asks]
    split
    · exact .nil
    · have asked := (printer.notations.recognize_asked_sublist node printer.scopes).nodup distinct
      rw [List.map_map]
      exact asked.map fun a b same => congrArg Prod.snd same

theorem pairwise_carriedOut_root (printer : Printer) (term : Term) :
    (printer.carriedOut [.visit [] term 0 false]).Pairwise printer.Precedes :=
  pairwise_carriedOut (List.pairwise_singleton ..)

theorem eq_or_precedes {term : Term} {a b : PrintTask}
    (first : a ∈ printer.carriedOut [.visit [] term 0 false])
    (second : b ∈ printer.carriedOut [.visit [] term 0 false]) :
    a = b ∨ printer.Precedes a b ∨ printer.Precedes b a :=
  List.Pairwise.forall_of_forall_of_flip
    (R := fun a b => a = b ∨ printer.Precedes a b ∨ printer.Precedes b a)
    (fun _ _ => .inl rfl)
    ((printer.pairwise_carriedOut_root term).imp fun precedes => .inr (.inl precedes))
    ((printer.pairwise_carriedOut_root term).imp fun precedes => .inr (.inr precedes)) first second

/-- No decoder is called twice on the node at one place. -/
theorem calls_nodup (distinct : printer.scopes.Nodup) (term : Term) :
    ((printer.render term).calls.map fun call => (call.place, call.scope)).Nodup := by
  rw [calls_render, List.map_flatMap, List.nodup_flatMap]
  refine ⟨fun task _ => callsOf_nodup distinct task, ?_⟩
  apply (printer.pairwise_carriedOut_root term).imp
  intro earlier later precedes key fromEarlier fromLater
  obtain ⟨first, called, rfl⟩ := List.mem_map.mp fromEarlier
  obtain ⟨second, calledLater, same⟩ := List.mem_map.mp fromLater
  obtain ⟨notAbove, -⟩ := precedes first.place second.place (place?_of_mem_callsOf called)
    (place?_of_mem_callsOf calledLater)
  obtain ⟨atSame, -⟩ := Prod.mk.inj same
  exact notAbove (atSame ▸ List.suffix_refl _)

/-- Below an application of a unary head that numerals may start with, an argument that goes on
with this head is handed to no decoder. -/
theorem place_ne_of_continues {term : Term} {call : DecoderCall}
    (member : call ∈ (printer.render term).calls) {handle : Handle}
    (printable : handle ∈ printer.notations.printableHeads printer.scopes) {above : Place}
    {y : Term} {outer inner below whole : Span}
    (reached : term.at? above =
      some (.app (.ref handle outer) [.app (.ref handle inner) [y] below] whole)) :
    call.place ≠ 1 :: above := by
  intro same
  obtain ⟨depth, -, sits, -⟩ := exists_visit_of_mem_calls member
  have shape : call.node = .app (.ref handle inner) [y] below := by
    have found := sits.found
    rw [same, Term.at?, reached] at found
    exact (Option.some.inj found).symm
  have continues := sits.continues 0 above _ _ _ same reached
  rw [shape] at continues
  simp [continuesRun, printable] at continues

theorem subtasks_eq_nil_of_uninterpret {node : Term}
    (known : (printer.notations.uninterpret node printer.scopes).isSome) (place : Place)
    (depth : Nat) : printer.subtasks (.visit place node depth false) = [] := by
  obtain ⟨answer, found⟩ := Option.isSome_iff_exists.mp known
  have settled : (printer.atOnce? node depth false).isSome := by
    unfold atOnce?
    split
    · rfl
    · simp [found]
  rw [subtasks, if_pos settled]

/-- Below a node that is recognised no decoder is called. -/
theorem place_eq_of_recognised {term : Term} {call other : DecoderCall}
    (called : call ∈ (printer.render term).calls)
    (known : (printer.notations.uninterpret call.node printer.scopes).isSome)
    (calledOther : other ∈ (printer.render term).calls) (below : call.place <:+ other.place) :
    other.place = call.place := by
  obtain ⟨depth, visited, -, -⟩ := exists_visit_of_mem_calls called
  obtain ⟨otherDepth, visitedOther, -, -⟩ := exists_visit_of_mem_calls calledOther
  have settled := subtasks_eq_nil_of_uninterpret known call.place depth
  rcases eq_or_precedes visited visitedOther with same | earlier | later
  · exact (PrintTask.visit.inj same).1.symm
  · exact absurd below ((earlier call.place other.place rfl rfl).2 settled)
  · exact absurd below (later other.place call.place rfl rfl).1

/-- In a run of a unary head that numerals may start with, only the top is handed to decoders. -/
theorem eq_zero_of_run {term : Term} {call : DecoderCall}
    (called : call ∈ (printer.render term).calls) {handle : Handle}
    (printable : handle ∈ printer.notations.printableHeads printer.scopes) {x node : Term}
    {place : Place} {k j : Nat} (run : Term.Run handle x k node)
    (found : term.at? place = some node) (inside : j < k)
    (same : call.place = List.replicate j 1 ++ place) : j = 0 := by
  cases j with
  | zero => rfl
  | succ j =>
    obtain ⟨above, rest, reached⟩ := run.exists_at? found (Nat.le_of_lt (Nat.lt_of_succ_lt inside))
    obtain ⟨left, more⟩ : ∃ left, k - j = left + 1 + 1 := ⟨k - (j + 2), by omega⟩
    rw [more] at rest
    cases rest with
    | succ rest =>
      cases rest with
      | succ rest => exact absurd same (place_ne_of_continues called printable reached)

theorem place_eq_nil_of_uninterpret {term : Term} {call : DecoderCall}
    (known : (printer.notations.uninterpret term printer.scopes).isSome)
    (called : call ∈ (printer.render term).calls) : call.place = [] := by
  obtain ⟨depth, carried, -, -⟩ := exists_visit_of_mem_calls called
  rw [carriedOut, subtasks_eq_nil_of_uninterpret known, List.nil_append, carriedOut] at carried
  exact (PrintTask.visit.inj (List.mem_singleton.mp carried)).1

/-- Each run of one unary head is decoded once. With decoders that answer as they like, and scopes
without repetition, a decoder is called at most once on the node at a place, and never on one that
goes on with the unary head of the application above it, if numerals may start with that head. So
in a run of such a head only the top is handed to decoders, and nothing below a node that is
recognised is. -/
theorem runs_decoded_once (printer : Printer) (distinct : printer.scopes.Nodup) (term : Term) :
    let calls := (printer.render term).calls
    let heads := printer.notations.printableHeads printer.scopes
    let recognised := fun node => (printer.notations.uninterpret node printer.scopes).isSome
    (∀ call ∈ calls, term.at? call.place = some call.node) ∧
      (calls.map fun call => (call.place, call.scope)).Nodup ∧
      (∀ handle ∈ heads, ∀ above y outer inner below whole,
        term.at? above =
            some (.app (.ref handle outer) [.app (.ref handle inner) [y] below] whole) →
          ∀ call ∈ calls, call.place ≠ 1 :: above) ∧
      (∀ handle ∈ heads, ∀ k x node place, Term.Run handle x k node →
        term.at? place = some node →
          ∀ call ∈ calls, ∀ j < k, call.place = List.replicate j 1 ++ place → j = 0) ∧
      (∀ call ∈ calls, recognised call.node →
        ∀ other ∈ calls, call.place <:+ other.place → other.place = call.place) ∧
      (recognised term → ∀ call ∈ calls, call.place = []) := by
  intro calls heads recognised
  refine ⟨?_, calls_nodup distinct term, ?_, ?_, ?_, ?_⟩
  · intro call called
    obtain ⟨depth, -, sits, -⟩ := exists_visit_of_mem_calls called
    exact sits.found
  · intro handle printable above y outer inner below whole reached call called
    exact place_ne_of_continues called printable reached
  · intro handle printable k x node place run found call called j inside same
    exact eq_zero_of_run called printable run found inside same
  · intro call called known other calledOther below
    exact place_eq_of_recognised called known calledOther below
  · intro known call called
    exact place_eq_nil_of_uninterpret known called

/-- With the standard tables: a run that is no numeral, and one that is. Of the first the top is
asked about, then its head and the variable at its end; of the second the top alone. -/
theorem runs_decoded_once_standard :
    let succ := Term.ref Codec.standard.succ .nowhere
    let printer := Tables.standard.notations.printer
    let run := succ.applyTo (succ.applyTo (succ.applyTo (.var "x" .nowhere)))
    let numeral := Codec.standard.numeral .nowhere 2
    let calls := (printer.render (.app (.var "f" .nowhere) [run, numeral] .nowhere)).calls
    printer.scopes.Nodup ∧
      calls.map DecoderCall.place =
        [[1], [0, 1], [0, 1, 1], [0, 1, 1, 1], [2]] ∧
      (∀ call ∈ calls, ∀ j < 3, call.place = List.replicate j 1 ++ [1] → j = 0) := by
  intro succ printer run numeral calls
  have distinct : printer.scopes.Nodup := by
    have scopes : printer.scopes = [standardScope] := Tables.standard_scopes
    rw [scopes]
    exact List.nodup_singleton _
  obtain ⟨-, -, -, topmost, -, -⟩ := runs_decoded_once printer distinct
    (.app (.var "f" .nowhere) [run, numeral] .nowhere)
  have printable : Codec.standard.succ ∈ printer.notations.printableHeads printer.scopes := by
    decide +kernel
  refine ⟨distinct, by decide +kernel, ?_⟩
  exact topmost _ printable 3 (.var "x" .nowhere) run [1] (.succ (.succ (.succ .zero))) rfl

end Printer

end UnaryNumeral
