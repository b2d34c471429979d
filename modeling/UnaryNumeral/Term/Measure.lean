import UnaryNumeral.Term.Storage

/-! Measures of a term, computed on a stack of pending visits so that the height of a term is no
limit. The results are kept by the addresses of the nodes. -/

namespace UnaryNumeral

namespace Term

/-- A pending visit to the node at an address: for the first time or, once its children were pushed,
to leave it. -/
structure Visit (κ : Type) where
  address : κ
  node : Term
  expanded : Bool := false

namespace Visit

variable {κ : Type}

def children (child : κ → Nat → κ) (visit : Visit κ) : List (Visit κ) :=
  visit.node.children.mapIdx fun number below =>
    { address := child visit.address number, node := below }

/-- The work that a visit still stands for. -/
def weight (visit : Visit κ) : Nat := if visit.expanded then 1 else 2 * visit.node.size

theorem weight_pos (visit : Visit κ) : 0 < visit.weight := by
  have positive := visit.node.size_pos
  unfold weight
  split <;> omega

def totalWeight : List (Visit κ) → Nat
  | [] => 0
  | visit :: rest => visit.weight + totalWeight rest

theorem totalWeight_append (a b : List (Visit κ)) :
    totalWeight (a ++ b) = totalWeight a + totalWeight b := by
  induction a with
  | nil => simp [totalWeight]
  | cons visit rest ih => simp only [List.cons_append, totalWeight, ih]; omega

theorem totalWeight_reverse (visits : List (Visit κ)) :
    totalWeight visits.reverse = totalWeight visits := by
  induction visits with
  | nil => rfl
  | cons visit rest ih =>
    simp only [List.reverse_cons, totalWeight_append, totalWeight, ih]
    omega

private theorem totalWeight_mapIdx (address : Nat → κ) (terms : List Term) :
    totalWeight (terms.mapIdx fun number term => { address := address number, node := term }) =
      2 * sizeAll terms := by
  induction terms generalizing address with
  | nil => rfl
  | cons term rest ih =>
    simp only [List.mapIdx_cons, totalWeight, weight, sizeAll, Bool.false_eq_true, ↓reduceIte,
      ih fun number => address (number + 1)]
    omega

theorem totalWeight_children (child : κ → Nat → κ) (visit : Visit κ) :
    totalWeight (visit.children child) = 2 * sizeAll visit.node.children :=
  totalWeight_mapIdx (child visit.address) visit.node.children

end Visit

section

variable {κ α : Type} [Ord κ]

/-- Measures from the leaves upwards: a node without children is measured by itself, any other node
from the results of its children, in their order. The results are kept by address. There are none
in the end if that of a child is looked up before it is there. -/
def foldVisits (child : κ → Nat → κ) (leaf : Term → α) (combine : Term → List α → α) :
    List (Visit κ) → Std.TreeMap κ α → Option (Std.TreeMap κ α)
  | [], results => some results
  | visit :: rest, results =>
    if visit.node.children.isEmpty then
      foldVisits child leaf combine rest (results.insert visit.address (leaf visit.node))
    else if visit.expanded then
      match (visit.children child).mapM fun below => results[below.address]? with
      | none => none
      | some found =>
        foldVisits child leaf combine rest
          (results.insert visit.address (combine visit.node found))
    else
      foldVisits child leaf combine
        ((visit.children child).reverse ++ { visit with expanded := true } :: rest) results
termination_by visits => Visit.totalWeight visits
decreasing_by
  · have positive := visit.weight_pos
    simp only [Visit.totalWeight]
    omega
  · have positive := visit.weight_pos
    simp only [Visit.totalWeight]
    omega
  · rename_i fresh
    have whole := visit.node.size_eq_children
    simp only [Visit.totalWeight_append, Visit.totalWeight_reverse, Visit.totalWeight_children,
      Visit.totalWeight, Visit.weight, if_neg fresh, ↓reduceIte]
    omega

variable (term : Term) (storage : Storage κ term)

def fold (leaf : Term → α) (combine : Term → List α → α) : Option α :=
  (foldVisits storage.child leaf combine [{ address := storage.root, node := term }] ∅).bind
    (·[storage.root]?)

/-- The longest chain of applications from the root to a leaf. -/
def depthIn : Option Nat := term.fold storage (fun _ => 0) fun _ depths => 1 + depths.foldl max 0

/-- How many nodes a term has, a shared node counted wherever it occurs. -/
def countNodesIn : Option Nat :=
  term.fold storage (fun _ => 1) fun _ counts => 1 + counts.foldl (· + ·) 0

end

def depth (term : Term) : Nat := (term.depthIn (.unshared term)).getD 0

def countNodes (term : Term) : Nat := (term.countNodesIn (.unshared term)).getD 0

/-- No variable is among the terms or below them. -/
def allClosed : List Term → Bool
  | [] => true
  | var .. :: _ => false
  | term :: rest => allClosed (term.children.reverse ++ rest)
termination_by terms => sizeAll terms
decreasing_by
  have whole := size_eq_children term
  simp only [sizeAll_append, sizeAll_reverse, sizeAll]
  omega

def isClosed (term : Term) : Bool := allClosed [term]

end Term

end UnaryNumeral
