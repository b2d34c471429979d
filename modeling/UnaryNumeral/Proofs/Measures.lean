import UnaryNumeral.Notation.Interpreter
import UnaryNumeral.Proofs.Subterm
import UnaryNumeral.Proofs.Traversal

namespace UnaryNumeral

namespace Term

mutual

/-- The longest chain of applications, by recursion: an application has one more than the longest of
its head and its arguments. -/
def height : Term → Nat
  | ref .. | var .. => 0
  | app head args _ => 1 + max head.height (heightAll args)

def heightAll : List Term → Nat
  | [] => 0
  | term :: rest => max term.height (heightAll rest)

end

theorem depth_eq_measure (term : Term) :
    term.depth = term.measure (fun _ => 0) fun _ depths => 1 + depths.foldl max 0 := by
  rw [depth, depthIn, fold_eq_measure, Option.getD_some]

theorem countNodes_eq_measure (term : Term) :
    term.countNodes = term.measure (fun _ => 1) fun _ counts => 1 + counts.foldl (· + ·) 0 := by
  rw [countNodes, countNodesIn, fold_eq_measure, Option.getD_some]

section

variable {κ : Type} [Ord κ] [Std.TransOrd κ] [Std.LawfulEqOrd κ] {term : Term}
  (storage : Storage κ term)

/-- Where the nodes are stored makes no difference to what is measured. -/
theorem depthIn_eq : term.depthIn storage = some term.depth := by
  rw [depthIn, fold_eq_measure, depth_eq_measure]

theorem countNodesIn_eq : term.countNodesIn storage = some term.countNodes := by
  rw [countNodesIn, fold_eq_measure, countNodes_eq_measure]

end

@[simp]
theorem depth_ref (handle : Handle) (span : Span) : (ref handle span).depth = 0 :=
  depth_eq_measure _

@[simp]
theorem depth_var (name : String) (span : Span) : (var name span).depth = 0 :=
  depth_eq_measure _

theorem depth_app (head : Term) (args : List Term) (span : Span) :
    (app head args span).depth = 1 + ((head :: args).map depth).foldl max 0 := by
  rw [depth_eq_measure, measure_app, funext depth_eq_measure]

@[simp]
theorem countNodes_ref (handle : Handle) (span : Span) : (ref handle span).countNodes = 1 :=
  countNodes_eq_measure _

@[simp]
theorem countNodes_var (name : String) (span : Span) : (var name span).countNodes = 1 :=
  countNodes_eq_measure _

theorem countNodes_app (head : Term) (args : List Term) (span : Span) :
    (app head args span).countNodes = 1 + ((head :: args).map countNodes).foldl (· + ·) 0 := by
  rw [countNodes_eq_measure, measure_app, funext countNodes_eq_measure]

private theorem foldl_max_map_depth {terms : List Term}
    (each : ∀ term ∈ terms, term.depth = term.height) (start : Nat) :
    (terms.map depth).foldl max start = max start (heightAll terms) := by
  induction terms generalizing start with
  | nil => simp [heightAll]
  | cons term rest ih =>
    obtain ⟨first, later⟩ := List.forall_mem_cons.mp each
    rw [List.map_cons, List.foldl_cons, ih later, first, heightAll, Nat.max_assoc]

theorem depth_eq_height (term : Term) : term.depth = term.height := by
  induction term with
  | ref handle span => exact depth_ref ..
  | var name span => exact depth_var ..
  | app head args span ihHead ihArgs =>
    rw [depth_app, List.map_cons, List.foldl_cons, foldl_max_map_depth ihArgs, Nat.zero_max, ihHead,
      height]

private theorem foldl_add_map_countNodes {terms : List Term}
    (each : ∀ term ∈ terms, term.countNodes = term.size) (start : Nat) :
    (terms.map countNodes).foldl (· + ·) start = start + sizeAll terms := by
  induction terms generalizing start with
  | nil => rfl
  | cons term rest ih =>
    obtain ⟨first, later⟩ := List.forall_mem_cons.mp each
    rw [List.map_cons, List.foldl_cons, ih later, first, sizeAll, Nat.add_assoc]

theorem countNodes_eq_size (term : Term) : term.countNodes = term.size := by
  induction term with
  | ref handle span => exact countNodes_ref ..
  | var name span => exact countNodes_var ..
  | app head args span ihHead ihArgs =>
    rw [countNodes_app, List.map_cons, List.foldl_cons, foldl_add_map_countNodes ihArgs,
      Nat.zero_add, ihHead, size, Nat.add_assoc]

private theorem le_foldl_max {depths : List Nat} {start depth : Nat}
    (reached : depth ≤ start ∨ depth ∈ depths) : depth ≤ depths.foldl max start := by
  induction depths generalizing start with
  | nil => simpa using reached
  | cons first rest ih =>
    rw [List.foldl_cons]
    apply ih
    rcases reached with below | listed
    · exact .inl (Nat.le_trans below (Nat.le_max_left ..))
    · rcases List.mem_cons.mp listed with rfl | later
      · exact .inl (Nat.le_max_right ..)
      · exact .inr later

theorem depth_lt_of_mem_children {term child : Term} (member : child ∈ term.children) :
    child.depth < term.depth := by
  cases term with
  | ref handle span => cases member
  | var name span => cases member
  | app head args span =>
    have listed : child.depth ∈ (head :: args).map depth := List.mem_map_of_mem member
    have bound := le_foldl_max (.inr listed : child.depth ≤ 0 ∨ _)
    rw [depth_app]
    omega

theorem Within.depth_le {sub term : Term} (inside : sub.Within term) : sub.depth ≤ term.depth := by
  induction inside with
  | self => exact Nat.le_refl _
  | child member deeper ih => exact Nat.le_trans ih (Nat.le_of_lt (depth_lt_of_mem_children member))

/-- What is measured without a look at spans does not depend on them. -/
theorem measure_bare {α : Type} {leaf : Term → α} {combine : Term → List α → α}
    (leafBlind : ∀ node : Term, leaf node.bare = leaf node)
    (combineBlind : ∀ (node : Term) results, combine node.bare results = combine node results)
    (term : Term) : term.bare.measure leaf combine = term.measure leaf combine := by
  induction term with
  | ref handle span => exact leafBlind (ref handle span)
  | var name span => exact leafBlind (var name span)
  | app head args span ihHead ihArgs =>
    have same : (args.map bare).map (measure leaf combine) = args.map (measure leaf combine) := by
      rw [List.map_map]
      exact List.map_congr_left ihArgs
    rw [measure_app, ← combineBlind, bare_app, measure_app, List.map_cons, List.map_cons, ihHead,
      same]

theorem depth_bare (term : Term) : term.bare.depth = term.depth := by
  rw [depth_eq_measure, depth_eq_measure, measure_bare (fun _ => rfl) fun _ _ => rfl]

theorem countNodes_bare (term : Term) : term.bare.countNodes = term.countNodes := by
  rw [countNodes_eq_measure, countNodes_eq_measure, measure_bare (fun _ => rfl) fun _ _ => rfl]

/-- The search through the stack finds a variable just when one occurs in a term on it. -/
private theorem allClosed_eq_true_iff (terms : List Term) :
    allClosed terms = true ↔ ∀ term ∈ terms, ∀ name span, ¬ (var name span).Within term := by
  induction terms using allClosed.induct with
  | case1 => simp [allClosed]
  | case2 name span rest =>
    simp only [allClosed, Bool.false_eq_true, List.forall_mem_cons, false_iff, not_and]
    intro closed
    exact absurd .self (closed name span)
  | case3 term rest other ih =>
    have children : (∀ name span, ¬ (var name span).Within term) ↔
        ∀ child ∈ term.children, ∀ name span, ¬ (var name span).Within child := by
      constructor
      · intro closed child member name span inside
        exact closed name span (.child member inside)
      · intro closed name span inside
        cases inside with
        | self => exact other name span rfl
        | child member deeper => exact closed _ member name span deeper
    have step : allClosed (term :: rest) = allClosed (term.children.reverse ++ rest) := by
      cases term with
      | ref handle span => rw [allClosed]; exact other
      | var name span => exact absurd rfl (other name span)
      | app head args span => rw [allClosed]; exact other
    rw [step, ih]
    simp only [List.forall_mem_append, List.mem_reverse, List.forall_mem_cons, children]

theorem isClosed_eq_true_iff (term : Term) :
    term.isClosed = true ↔ ∀ name span, ¬ (var name span).Within term := by
  rw [isClosed, allClosed_eq_true_iff, List.forall_mem_singleton]

theorem isClosed_ref (handle : Handle) (span : Span) : (ref handle span).isClosed = true := by
  simp [isClosed_eq_true_iff, within_ref_iff]

theorem isClosed_var (name : String) (span : Span) : (var name span).isClosed = false := by
  simp [isClosed, allClosed]

theorem isClosed_app (head : Term) (args : List Term) (span : Span) :
    (app head args span).isClosed = (head.isClosed && args.all isClosed) := by
  rw [Bool.eq_iff_iff]
  simp only [Bool.and_eq_true, List.all_eq_true, isClosed_eq_true_iff, within_app_iff, reduceCtorEq,
    false_or, not_or, not_exists, not_and, forall_and]
  apply and_congr_right
  intro _
  exact ⟨fun closed arg member name span => closed name span arg member,
    fun closed name span arg member => closed arg member name span⟩

theorem isClosed_bare (term : Term) : term.bare.isClosed = term.isClosed := by
  induction term with
  | ref handle span => rw [bare_ref, isClosed_ref, isClosed_ref]
  | var name span => rw [bare_var, isClosed_var, isClosed_var]
  | app head args span ihHead ihArgs =>
    have same : (args.map bare).all isClosed = args.all isClosed := by
      rw [List.all_map, Bool.eq_iff_iff, List.all_eq_true, List.all_eq_true]
      exact forall_congr' fun arg => forall_congr' fun member => by
        rw [Function.comp_apply, ihArgs arg member]
    rw [bare_app, isClosed_app, isClosed_app, ihHead, same]

end Term

theorem Codec.depth_numeral (codec : Codec) (span : Span) (n : Nat) :
    (codec.numeral span n).depth = n := by
  induction n with
  | zero => rw [numeral_zero, Term.depth_ref]
  | succ n ih => simp [numeral_succ, Term.applyTo, Term.depth_app, ih, Nat.add_comm]

theorem Codec.countNodes_numeral (codec : Codec) (span : Span) (n : Nat) :
    (codec.numeral span n).countNodes = 2 * n + 1 := by
  induction n with
  | zero => rw [numeral_zero, Term.countNodes_ref]
  | succ n ih =>
    simp only [numeral_succ, Term.applyTo, Term.countNodes_app, List.map_cons, List.map_nil,
      List.foldl_cons, List.foldl_nil, Term.countNodes_ref, ih]
    omega

theorem Codec.isClosed_numeral (codec : Codec) (span : Span) (n : Nat) :
    (codec.numeral span n).isClosed = true :=
  (Term.isClosed_eq_true_iff _).mpr fun _ _ => not_var_within_numeral

/-- A numeral is as deep as its number. -/
theorem Codec.depth_of_decode {codec : Codec} {term : Term} {n : Nat}
    (found : codec.decode term = some n) : term.depth = n := by
  rw [← Term.depth_bare, bare_of_decode found, depth_numeral]

theorem Codec.depth_of_decoder {codec : Codec} {term : Term} {value : Int}
    (answer : codec.decoder term = some value) : value = term.depth := by
  obtain ⟨n, decoded, rfl⟩ := Option.map_eq_some_iff.mp answer
  rw [depth_of_decode decoded]
  rfl

/-- The measures of a numeral: an application, with a reference at its head, for each successor, and
the zero. They are the same however the nodes are stored. -/
structure Term.SizedAs (term : Term) (n : Nat) : Prop where
  depth : term.depth = n
  countNodes : term.countNodes = 2 * n + 1
  closed : term.isClosed = true
  stored : ∀ {κ : Type} [Ord κ] [Std.TransOrd κ] [Std.LawfulEqOrd κ] (storage : Storage κ term),
    term.depthIn storage = some n ∧ term.countNodesIn storage = some (2 * n + 1)

/-- What decodes to a number measures as its numeral does, since no measure looks at spans. -/
theorem Codec.sizedAs_of_decode {codec : Codec} {term : Term} {n : Nat}
    (found : codec.decode term = some n) : term.SizedAs n := by
  have depth := depth_of_decode found
  have count : term.countNodes = 2 * n + 1 := by
    rw [← Term.countNodes_bare, bare_of_decode found, countNodes_numeral]
  have closed : term.isClosed = true := by
    rw [← Term.isClosed_bare, bare_of_decode found, isClosed_numeral]
  refine ⟨depth, count, closed, fun storage => ⟨?_, ?_⟩⟩
  · rw [Term.depthIn_eq, depth]
  · rw [Term.countNodesIn_eq, count]

/-- Encoding a number gives a numeral with every node at the span asked for, and it measures as the
number demands; so does any term that decodes to the number. -/
theorem Codec.numeral_measures (codec : Codec) :
    (∀ (span : Option Span) (n : Nat), ∃ numeral, codec.encode span n = .ok numeral ∧
      (∀ node : Term, node.Within numeral → node.span = span.getD .nowhere) ∧ numeral.SizedAs n) ∧
    ∀ (term : Term) (n : Nat), codec.decode term = some n → term.SizedAs n := by
  refine ⟨fun span n => ?_, fun term n => sizedAs_of_decode⟩
  refine ⟨codec.numeral (span.getD .nowhere) n, codec.encode_ofNat span n, ?_, ?_⟩
  · intro node inside
    exact span_of_within_numeral inside
  · exact sizedAs_of_decode (codec.decode_numeral _ n)

end UnaryNumeral
