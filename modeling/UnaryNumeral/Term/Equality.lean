import UnaryNumeral.Term

/-! Equality of terms up to their spans, decided on a stack of pairs. Digests of the nodes may settle
a pair early, and so may the knowledge that two nodes are one. -/

namespace UnaryNumeral

/-- How digests are made: that of a reference from its entity, that of a variable from its name, and
that of an application from the digests of its head and its arguments. Different nodes may get the
same digest. -/
structure Hashing (δ : Type) where
  ref : Handle → δ
  var : String → δ
  app : δ → List δ → δ

namespace Term

mutual

/-- The digest of a node, which is made when the node is built. Spans play no part in it. -/
def digest {δ : Type} (hashing : Hashing δ) : Term → δ
  | ref handle _ => hashing.ref handle
  | var name _ => hashing.var name
  | app head args _ => hashing.app (digest hashing head) (digestAll hashing args)

def digestAll {δ : Type} (hashing : Hashing δ) : List Term → List δ
  | [] => []
  | term :: rest => digest hashing term :: digestAll hashing rest

end

/-- Which nodes are one node in memory: whether, with some pairs still to be compared, the first of
them pairs a node with itself. One node is one term, its span included. -/
structure Sharing where
  shares : List (Term × Term) → Bool
  eq_of_shares : ∀ a b rest, shares ((a, b) :: rest) = true → a = b

/-- Nothing is known about shared nodes. -/
def Sharing.unknown : Sharing where
  shares := fun _ => false
  eq_of_shares := by
    intro a b rest shared
    cases shared

/-- Two nodes agree on what is not below them: the entity, the name, or the number of arguments. -/
def sameLabel : Term → Term → Bool
  | ref a _, ref b _ => a = b
  | var a _, var b _ => a = b
  | app _ a _, app _ b _ => a.length = b.length
  | _, _ => false

private theorem sizeAll_fst_zip_le (a b : List Term) :
    sizeAll ((a.zip b).map Prod.fst) ≤ sizeAll a := by
  induction a generalizing b with
  | nil => simp [sizeAll]
  | cons x a ih =>
    cases b with
    | nil => simp [sizeAll]
    | cons y b =>
      have := ih b
      simp only [List.zip_cons_cons, List.map_cons, sizeAll]
      omega

/-- Compares pairs until none is left. A node is the same as itself; a digest that differs settles a
pair at once. -/
def samePairs {δ : Type} [DecidableEq δ] (digest : Term → δ) (sharing : Sharing) :
    List (Term × Term) → Bool
  | [] => true
  | (a, b) :: rest =>
    if sharing.shares ((a, b) :: rest) then samePairs digest sharing rest
    else if digest a = digest b ∧ sameLabel a b = true then
      samePairs digest sharing ((a.children.zip b.children).reverse ++ rest)
    else false
termination_by pairs => sizeAll (pairs.map Prod.fst)
decreasing_by
  · have positive := size_pos a
    simp only [List.map_cons, sizeAll]
    omega
  · have shrinks := sizeAll_fst_zip_le a.children b.children
    have whole := size_eq_children a
    simp only [List.map_append, List.map_cons, List.map_reverse, sizeAll_append, sizeAll_reverse,
      sizeAll]
    omega

/-- The terms are the same up to spans, by a comparison that may use digests and shared nodes. -/
def sameBy {δ : Type} [DecidableEq δ] (digest : Term → δ) (sharing : Sharing) (a b : Term) : Bool :=
  samePairs digest sharing [(a, b)]

/-- The terms are the same up to spans. -/
def same (a b : Term) : Bool := sameBy (fun _ => ()) .unknown a b

end Term

end UnaryNumeral
