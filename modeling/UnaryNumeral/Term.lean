import UnaryNumeral.Span
import UnaryNumeral.Symbol.Handle

namespace UnaryNumeral

/-- The place of a node: the numbers of the children from the node up to the root, where the head
of an application is child 0. -/
abbrev Place := List Nat

/-- A term. An application has any number of arguments, none included. The span of a node says
where it was read; it is no part of what the term means. -/
inductive Term where
  | ref (handle : Handle) (span : Span)
  | var (name : String) (span : Span)
  | app (head : Term) (args : List Term) (span : Span)

instance : Inhabited Term := ⟨.var "" .nowhere⟩

namespace Term

def span : Term → Span
  | ref _ span | var _ span | app _ _ span => span

def applyTo (head arg : Term) (span : Span := .nowhere) : Term := app head [arg] span

/-- The head and the arguments of an application; other terms have no children. -/
def children : Term → List Term
  | app head args _ => head :: args
  | _ => []

/-- The node at a place of a term. -/
def at? (term : Term) : Place → Option Term
  | [] => some term
  | number :: above => (term.at? above).bind fun node => node.children[number]?

/-- The entity that a bare reference denotes. -/
def asRef : Term → Option Handle
  | ref handle _ => some handle
  | _ => none

@[simp]
theorem asRef_ref (handle : Handle) (span : Span) : (ref handle span).asRef = some handle := rfl

@[simp]
theorem asRef_var (name : String) (span : Span) : (var name span).asRef = none := rfl

@[simp]
theorem asRef_app (head : Term) (args : List Term) (span : Span) :
    (app head args span).asRef = none := rfl

def asApp : Term → Option (Term × List Term)
  | app head args _ => some (head, args)
  | _ => none

/-- The entity at the head of a term: of a reference itself, of an application its head, when
that is a reference. -/
def headRef : Term → Option Handle
  | app head _ _ => head.asRef
  | term => term.asRef

mutual

def size : Term → Nat
  | ref .. | var .. => 1
  | app head args _ => 1 + head.size + sizeAll args

def sizeAll : List Term → Nat
  | [] => 0
  | term :: rest => term.size + sizeAll rest

end

theorem size_pos (term : Term) : 0 < term.size := by
  cases term <;> simp only [size] <;> omega

theorem sizeAll_append (a b : List Term) : sizeAll (a ++ b) = sizeAll a + sizeAll b := by
  induction a with
  | nil => simp [sizeAll]
  | cons term rest ih => simp only [List.cons_append, sizeAll, ih]; omega

theorem sizeAll_reverse (terms : List Term) : sizeAll terms.reverse = sizeAll terms := by
  induction terms with
  | nil => rfl
  | cons term rest ih => simp only [List.reverse_cons, sizeAll_append, sizeAll, ih]; omega

theorem size_eq_children (term : Term) : term.size = 1 + sizeAll term.children := by
  cases term <;> simp [size, children, sizeAll, Nat.add_assoc]

/-- Induction on terms: an application follows from its head and each of its arguments. -/
@[elab_as_elim, induction_eliminator]
theorem induct {motive : Term → Prop}
    (ref : ∀ handle span, motive (.ref handle span))
    (var : ∀ name span, motive (.var name span))
    (app : ∀ head args span, motive head → (∀ arg ∈ args, motive arg) →
      motive (.app head args span))
    (term : Term) : motive term :=
  match term with
  | .ref handle span => ref handle span
  | .var name span => var name span
  | .app head args span =>
    app head args span (induct ref var app head) fun arg _ => induct ref var app arg

end Term

end UnaryNumeral
