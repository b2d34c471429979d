import Std.Data.TreeMap.Basic
import UnaryNumeral.Term

/-! Terms in memory. A node has an address, and may be a child of several nodes, or of one node
several times. -/

namespace UnaryNumeral

/-- What the addresses hold that are reached from the root of a term, child by child. -/
inductive Term.StoredAt {κ : Type} (root : κ) (child : κ → Nat → κ) (term : Term) :
    κ → Term → Prop where
  | root : StoredAt root child term root term
  | child {address : κ} {node below : Term} {number : Nat}
      (above : StoredAt root child term address node)
      (listed : node.children[number]? = some below) :
      StoredAt root child term (child address number) below

/-- Where the nodes of a term are stored: the address of the root, and those of the children of the
node at an address. An address holds one node. -/
structure Storage (κ : Type) (term : Term) where
  root : κ
  child : κ → Nat → κ
  coherent : ∀ address a b,
    term.StoredAt root child address a → term.StoredAt root child address b → a = b

/-- A place as an address, with its depth, so that places of different depths are told apart at
once. -/
structure Spot where
  depth : Nat
  place : Place

namespace Spot

/-- Compares places number by number, up to where both go on as one list in memory. -/
def decidePlaces : (a b : Place) → Decidable (a = b)
  | [], [] => isTrue rfl
  | [], _ :: _ => isFalse nofun
  | _ :: _, [] => isFalse nofun
  | m :: a, n :: b =>
    if first : m = n then
      match withPtrEqDecEq a b fun _ => decidePlaces a b with
      | isTrue rest => isTrue (by rw [first, rest])
      | isFalse apart => isFalse fun same => apart (List.cons.inj same).2
    else isFalse fun same => first (List.cons.inj same).1

/-- The order by depth and, at one depth, by place. -/
def order (a b : Spot) : Ordering :=
  (compare a.depth b.depth).then <|
    match decidePlaces a.place b.place with
    | isTrue _ => .eq
    | isFalse _ => compare a.place b.place

theorem order_eq_compareLex : order = compareLex (compareOn depth) (compareOn place) := by
  funext a b
  unfold order compareLex compareOn
  split
  · rename_i same _
    rw [same, Std.ReflOrd.compare_self]
  · rfl

instance : Ord Spot := ⟨order⟩

instance : Std.TransOrd Spot := by
  change Std.TransCmp order
  rw [order_eq_compareLex]
  infer_instance

instance : Std.LawfulEqOrd Spot where
  eq_of_compare := by
    intro a b same
    change order a b = .eq at same
    rw [order_eq_compareLex, compareLex_eq_eq] at same
    obtain ⟨depths, places⟩ := same
    cases a
    cases b
    rw [mk.injEq]
    exact ⟨Std.LawfulEqOrd.eq_of_compare depths, Std.LawfulEqOrd.eq_of_compare places⟩

def root : Spot := ⟨0, []⟩

def child (spot : Spot) (number : Nat) : Spot := ⟨spot.depth + 1, number :: spot.place⟩

end Spot

namespace Storage

/-- An address that is reached from the root holds a node. -/
def Holds {κ : Type} {term : Term} (storage : Storage κ term) (address : κ) (node : Term) : Prop :=
  term.StoredAt storage.root storage.child address node

/-- Addresses that are known to hold nodes in such a way that the children of a node are where they
are looked for. -/
def ofNodes {κ : Type} {term : Term} (root : κ) (child : κ → Nat → κ) (node? : κ → Option Term)
    (top : node? root = some term)
    (next : ∀ {address number node below}, node? address = some node →
      node.children[number]? = some below → node? (child address number) = some below) :
    Storage κ term where
  root := root
  child := child
  coherent := by
    have held {address : κ} {node : Term} (stored : term.StoredAt root child address node) :
        node? address = some node := by
      induction stored with
      | root => exact top
      | child above listed ih => exact next ih listed
    intro address a b first second
    exact Option.some.inj ((held first).symm.trans (held second))

/-- No node is shared: every place has one of its own. -/
def unshared (term : Term) : Storage Spot term :=
  ofNodes .root .child (fun spot => term.at? spot.place) rfl fun found listed => by
    rw [Spot.child, Term.at?, found]
    exact listed

end Storage

end UnaryNumeral
