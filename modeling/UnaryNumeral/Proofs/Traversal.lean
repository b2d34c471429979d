import Std.Data.TreeMap.Lemmas
import UnaryNumeral.Term.Measure

/-! The loop that measures a term, against recursion on the term. However the nodes are stored, the
loop finds every result that it looks up, and what it keeps for an address is the measure of the
node there. -/

namespace UnaryNumeral

namespace Term

section

variable {α : Type} (leaf : Term → α) (combine : Term → List α → α)

mutual

def measure : Term → α
  | ref handle span => leaf (ref handle span)
  | var name span => leaf (var name span)
  | app head args span => combine (app head args span) (measure head :: measureAll args)

def measureAll : List Term → List α
  | [] => []
  | term :: rest => measure term :: measureAll rest

end

private theorem measureAll_eq_map (terms : List Term) :
    measureAll leaf combine terms = terms.map (measure leaf combine) := by
  induction terms with
  | nil => rfl
  | cons term rest ih => rw [measureAll, List.map_cons, ih]

theorem measure_app (head : Term) (args : List Term) (span : Span) :
    measure leaf combine (app head args span) =
      combine (app head args span) ((head :: args).map (measure leaf combine)) := by
  rw [measure, measureAll_eq_map, List.map_cons]

theorem measure_of_children_eq_nil {node : Term} (bottom : node.children = []) :
    measure leaf combine node = leaf node := by
  cases node with
  | ref handle span => rfl
  | var name span => rfl
  | app head args span => cases bottom

theorem measure_of_children_ne_nil {node : Term} (inner : node.children ≠ []) :
    measure leaf combine node = combine node (node.children.map (measure leaf combine)) := by
  cases node with
  | ref handle span => exact absurd rfl inner
  | var name span => exact absurd rfl inner
  | app head args span => exact measure_app leaf combine head args span

end

namespace Visit

variable {κ : Type}

theorem map_node_children (child : κ → Nat → κ) (visit : Visit κ) :
    (visit.children child).map node = visit.node.children := by
  apply List.ext_getElem?
  intro number
  rw [children, List.getElem?_map, List.getElem?_mapIdx, Option.map_map]
  exact congrFun Option.map_id _

theorem storedAt_of_mem_children {term : Term} {root : κ} {child : κ → Nat → κ}
    {visit below : Visit κ} (stored : term.StoredAt root child visit.address visit.node)
    (member : below ∈ visit.children child) :
    term.StoredAt root child below.address below.node := by
  obtain ⟨number, bound, rfl⟩ := List.mem_mapIdx.mp member
  exact .child stored (List.getElem?_eq_getElem bound)

theorem not_expanded_of_mem_children {child : κ → Nat → κ} {visit below : Visit κ}
    (member : below ∈ visit.children child) : below.expanded = false := by
  obtain ⟨number, bound, rfl⟩ := List.mem_mapIdx.mp member
  rfl

/-- With results known at some addresses, pending visits find what they look up: a visit that leaves
a node needs those of its children, and each visit makes that of its node known to the ones behind
it. In the end that of the root is known. -/
def Supplied (root : κ) (child : κ → Nat → κ) : (κ → Prop) → List (Visit κ) → Prop
  | known, [] => known root
  | known, visit :: rest =>
    (visit.expanded = true → ∀ below ∈ visit.children child, known below.address) ∧
      Supplied root child (fun address => address = visit.address ∨ known address) rest

variable {root : κ} {child : κ → Nat → κ}

theorem Supplied.mono {known more : κ → Prop} {visits : List (Visit κ)}
    (supplied : Supplied root child known visits)
    (grows : ∀ address, known address → more address) :
    Supplied root child more visits := by
  induction visits generalizing known more with
  | nil => exact grows root supplied
  | cons visit rest ih =>
    refine ⟨fun expanded below member => grows _ (supplied.1 expanded below member), ?_⟩
    exact ih supplied.2 fun address => Or.imp_right (grows address)

/-- First visits need nothing, and leave the results of their nodes to what is behind them. -/
theorem supplied_append {known : κ → Prop} {front rest : List (Visit κ)}
    (first : ∀ visit ∈ front, visit.expanded = false)
    (supplied : Supplied root child
      (fun address => (∃ visit ∈ front, address = visit.address) ∨ known address) rest) :
    Supplied root child known (front ++ rest) := by
  induction front generalizing known with
  | nil =>
    refine supplied.mono fun address => ?_
    simp
  | cons visit others ih =>
    obtain ⟨fresh, later⟩ := List.forall_mem_cons.mp first
    refine ⟨fun expanded => ?_, ih later (supplied.mono fun address => ?_)⟩
    · rw [fresh] at expanded
      cases expanded
    · rintro (⟨other, listed, same⟩ | known)
      · rcases List.mem_cons.mp listed with rfl | listed
        · exact .inr (.inl same)
        · exact .inl ⟨other, listed, same⟩
      · exact .inr (.inr known)

theorem Supplied.expand {known : κ → Prop} {visit : Visit κ} {rest : List (Visit κ)}
    (supplied : Supplied root child known (visit :: rest)) :
    Supplied root child known
      ((visit.children child).reverse ++ { visit with expanded := true } :: rest) := by
  apply supplied_append
  · intro below member
    exact not_expanded_of_mem_children (List.mem_reverse.mp member)
  · refine ⟨fun _ below member => .inl ⟨below, List.mem_reverse.mpr member, rfl⟩, ?_⟩
    exact supplied.2.mono fun address => Or.imp_right .inr

end Visit

section

variable {κ α : Type} [Ord κ] [Std.TransOrd κ] [Std.LawfulEqOrd κ] {term : Term}
  {storage : Storage κ term} {leaf : Term → α} {combine : Term → List α → α}

/-- What holds between two turns of the loop: each pending visit is to the node at its address, what
is kept for an address is the measure of the node there, and the visits find what they look up. -/
structure Underway (storage : Storage κ term) (leaf : Term → α) (combine : Term → List α → α)
    (visits : List (Visit κ)) (results : Std.TreeMap κ α) : Prop where
  stored : ∀ visit ∈ visits, storage.Holds visit.address visit.node
  correct : ∀ address node result, storage.Holds address node → results[address]? = some result →
    result = node.measure leaf combine
  supplied : Visit.Supplied storage.root storage.child (· ∈ results) visits

namespace Underway

variable {visit : Visit κ} {rest : List (Visit κ)} {results : Std.TreeMap κ α}

omit [Std.LawfulEqOrd κ] in
theorem start (storage : Storage κ term) (leaf : Term → α) (combine : Term → List α → α) :
    Underway storage leaf combine [{ address := storage.root, node := term }] ∅ where
  stored := List.forall_mem_singleton.mpr .root
  correct := by
    intro address node result stored found
    simp at found
  supplied := by
    refine ⟨fun expanded => ?_, .inl rfl⟩
    cases expanded

/-- A visit is over when the measure of its node is kept. The address may have a result already: a
node that is shared is measured again, with the same result. -/
theorem keep (underway : Underway storage leaf combine (visit :: rest) results) :
    Underway storage leaf combine rest
      (results.insert visit.address (visit.node.measure leaf combine)) where
  stored := (List.forall_mem_cons.mp underway.stored).2
  correct := by
    intro address node result stored found
    rw [Std.TreeMap.getElem?_insert] at found
    split at found
    · rename_i same
      obtain rfl := Std.LawfulEqOrd.eq_of_compare same
      have here := underway.stored visit (List.mem_cons_self ..)
      rw [← Option.some.inj found, storage.coherent _ _ _ stored here]
    · exact underway.correct address node result stored found
  supplied := by
    refine underway.supplied.2.mono fun address known => ?_
    rw [Std.TreeMap.mem_insert, Std.compare_eq_iff_eq]
    exact known.imp_left Eq.symm

omit [Std.LawfulEqOrd κ] in
theorem found (underway : Underway storage leaf combine (visit :: rest) results)
    (expanded : visit.expanded = true) :
    ((visit.children storage.child).mapM fun below => results[below.address]?) =
      some (visit.node.children.map (measure leaf combine)) := by
  have here := underway.stored visit (List.mem_cons_self ..)
  have each : ∀ below ∈ visit.children storage.child,
      results[below.address]? = some (below.node.measure leaf combine) := by
    intro below member
    have known := underway.supplied.1 expanded below member
    have stored := Visit.storedAt_of_mem_children here member
    rw [Std.TreeMap.getElem?_eq_some_getElem known,
      underway.correct _ _ _ stored (Std.TreeMap.getElem?_eq_some_getElem known)]
  rw [← Visit.map_node_children storage.child visit, List.map_map]
  generalize visit.children storage.child = belows at each
  induction belows with
  | nil => rfl
  | cons below others ih =>
    obtain ⟨first, later⟩ := List.forall_mem_cons.mp each
    simp [List.mapM_cons, first, ih later]

omit [Std.TransOrd κ] [Std.LawfulEqOrd κ] in
theorem expand (underway : Underway storage leaf combine (visit :: rest) results) :
    Underway storage leaf combine
      ((visit.children storage.child).reverse ++ { visit with expanded := true } :: rest)
      results where
  stored := by
    obtain ⟨here, later⟩ := List.forall_mem_cons.mp underway.stored
    refine List.forall_mem_append.mpr ⟨?_, List.forall_mem_cons.mpr ⟨here, later⟩⟩
    intro below member
    exact Visit.storedAt_of_mem_children here (List.mem_reverse.mp member)
  correct := underway.correct
  supplied := underway.supplied.expand

/-- The loop comes to its end, and what it keeps there is correct: by induction on its turns. -/
theorem exists_final {visits : List (Visit κ)}
    (underway : Underway storage leaf combine visits results) :
    ∃ final, foldVisits storage.child leaf combine visits results = some final ∧
      Underway storage leaf combine [] final := by
  induction visits, results using foldVisits.induct storage.child leaf combine with
  | case1 results => exact ⟨results, by rw [foldVisits], underway⟩
  | case2 visit rest results bottom ih =>
    have kept := underway.keep
    rw [measure_of_children_eq_nil leaf combine (List.isEmpty_iff.mp bottom)] at kept
    rw [foldVisits, if_pos bottom]
    exact ih kept
  | case3 visit rest results inner expanded missing =>
    rw [underway.found expanded] at missing
    cases missing
  | case4 visit rest results inner expanded found present ih =>
    have kept := underway.keep
    rw [measure_of_children_ne_nil leaf combine (by simpa using inner)] at kept
    rw [underway.found expanded, Option.some.injEq] at present
    subst present
    rw [foldVisits, if_neg inner, if_pos expanded, underway.found expanded]
    exact ih kept
  | case5 visit rest results inner fresh ih =>
    rw [foldVisits, if_neg inner, if_neg fresh]
    exact ih underway.expand

end Underway

/-- However the nodes of a term are stored, its measure is the one by recursion. -/
theorem fold_eq_measure (storage : Storage κ term) (leaf : Term → α)
    (combine : Term → List α → α) :
    term.fold storage leaf combine = some (term.measure leaf combine) := by
  obtain ⟨final, finished, underway⟩ := (Underway.start storage leaf combine).exists_final
  have known : storage.root ∈ final := underway.supplied
  have result := Std.TreeMap.getElem?_eq_some_getElem known
  rw [fold, finished, Option.bind_some, result, underway.correct _ _ _ .root result]

end

end Term

end UnaryNumeral
