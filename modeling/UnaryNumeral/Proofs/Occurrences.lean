import Mathlib.Data.Set.Card
import UnaryNumeral.Proofs.Measures

namespace UnaryNumeral

namespace Term

theorem induct_children {motive : Term → Prop}
    (step : ∀ term : Term, (∀ child ∈ term.children, motive child) → motive term) (term : Term) :
    motive term := by
  induction term with
  | ref handle span => exact step _ nofun
  | var name span => exact step _ nofun
  | app head args span ihHead ihArgs => exact step _ (List.forall_mem_cons.mpr ⟨ihHead, ihArgs⟩)

theorem at?_append (term : Term) (below above : Place) :
    term.at? (below ++ above) = (term.at? above).bind (·.at? below) := by
  induction below with
  | nil => exact (Option.bind_fun_some _).symm
  | cons number below ih => rw [List.cons_append, at?, ih, Option.bind_assoc]; rfl

theorem at?_concat (term : Term) (below : Place) (number : Nat) :
    term.at? (below ++ [number]) = term.children[number]?.bind (·.at? below) :=
  at?_append term below [number]

/-- What occurs in a term is at some place. -/
theorem within_iff_exists_at? (sub term : Term) :
    sub.Within term ↔ ∃ place, term.at? place = some sub := by
  constructor
  · intro inside
    induction inside with
    | self => exact ⟨[], rfl⟩
    | child member deeper ih =>
      obtain ⟨number, listed⟩ := List.mem_iff_getElem?.mp member
      obtain ⟨below, found⟩ := ih
      refine ⟨below ++ [number], ?_⟩
      rw [at?_concat, listed]
      exact found
  · rintro ⟨place, found⟩
    -- from the root down: the last number of a place is that of a child of the root
    induction place using List.reverseRecOn generalizing term with
    | nil =>
      cases found
      exact .self
    | append_singleton below number ih =>
      rw [at?_concat] at found
      obtain ⟨child, listed, reached⟩ := Option.bind_eq_some_iff.mp found
      exact .child (List.mem_of_getElem? listed) (ih child reached)

/-- The places at which a term has a node. -/
def places (term : Term) : Set Place := {place | (term.at? place).isSome}

theorem nil_mem_places (term : Term) : [] ∈ term.places := rfl

theorem concat_mem_places_iff {term : Term} {below : Place} {number : Nat} :
    below ++ [number] ∈ term.places ↔
      ∃ child, term.children[number]? = some child ∧ below ∈ child.places := by
  change (term.at? (below ++ [number])).isSome ↔ _
  rw [at?_concat]
  cases term.children[number]? with
  | none => simp
  | some child => simp [places]

mutual

/-- The places of the nodes of a term that is at a place itself, each of them once. -/
def placesBelow (above : Place) : Term → List Place
  | ref .. | var .. => [above]
  | app head args _ => above :: (placesBelow (0 :: above) head ++ placesBelowAll above 1 args)

def placesBelowAll (above : Place) (number : Nat) : List Term → List Place
  | [] => []
  | term :: rest => placesBelow (number :: above) term ++ placesBelowAll above (number + 1) rest

end

theorem placesBelow_eq (above : Place) (term : Term) :
    placesBelow above term = above :: placesBelowAll above 0 term.children := by
  cases term <;> rfl

theorem length_placesBelow (above : Place) (term : Term) :
    (placesBelow above term).length = term.size := by
  induction term using induct_children generalizing above with
  | step term ih =>
    have all (number : Nat) (terms : List Term) (listed : ∀ child ∈ terms, child ∈ term.children) :
        (placesBelowAll above number terms).length = sizeAll terms := by
      induction terms generalizing number with
      | nil => rfl
      | cons child rest ihRest =>
        obtain ⟨first, later⟩ := List.forall_mem_cons.mp listed
        rw [placesBelowAll, List.length_append, ih child first, ihRest _ later, sizeAll]
    rw [placesBelow_eq, List.length_cons, all 0 _ fun _ => id, size_eq_children, Nat.add_comm]

theorem mem_placesBelowAll_iff {above place : Place} {start : Nat} {terms : List Term} :
    place ∈ placesBelowAll above start terms ↔
      ∃ number child, terms[number]? = some child ∧
        place ∈ placesBelow ((start + number) :: above) child := by
  induction terms generalizing start with
  | nil => simp [placesBelowAll]
  | cons term rest ih =>
    rw [placesBelowAll, List.mem_append, ih]
    constructor
    · rintro (first | ⟨number, child, listed, inside⟩)
      · exact ⟨0, term, rfl, first⟩
      · refine ⟨number + 1, child, listed, ?_⟩
        rwa [← Nat.add_assoc, Nat.add_right_comm]
    · rintro ⟨number, child, listed, inside⟩
      cases number with
      | zero =>
        cases listed
        exact .inl inside
      | succ number =>
        refine .inr ⟨number, child, listed, ?_⟩
        rwa [← Nat.add_assoc, Nat.add_right_comm] at inside

theorem mem_placesBelow_iff {above place : Place} {term : Term} :
    place ∈ placesBelow above term ↔ ∃ below ∈ term.places, place = below ++ above := by
  induction term using induct_children generalizing above with
  | step term ih =>
    rw [placesBelow_eq, List.mem_cons, mem_placesBelowAll_iff]
    constructor
    · rintro (rfl | ⟨number, child, listed, inside⟩)
      · exact ⟨[], nil_mem_places term, rfl⟩
      · obtain ⟨below, found, rfl⟩ := (ih child (List.mem_of_getElem? listed)).mp inside
        exact ⟨below ++ [number], concat_mem_places_iff.mpr ⟨child, listed, found⟩, by simp⟩
    · rintro ⟨below, found, rfl⟩
      rcases List.eq_nil_or_concat' below with rfl | ⟨below, number, rfl⟩
      · exact .inl rfl
      · obtain ⟨child, listed, found⟩ := concat_mem_places_iff.mp found
        refine .inr ⟨number, child, listed, ?_⟩
        exact (ih child (List.mem_of_getElem? listed)).mpr ⟨below, found, by simp⟩

theorem eq_of_mem_placesBelow {above place : Place} {m n : Nat} {a b : Term}
    (first : place ∈ placesBelow (m :: above) a) (second : place ∈ placesBelow (n :: above) b) :
    m = n := by
  obtain ⟨front, -, rfl⟩ := mem_placesBelow_iff.mp first
  obtain ⟨other, -, same⟩ := mem_placesBelow_iff.mp second
  exact (List.cons.inj (List.append_inj' same rfl).2).1

theorem nodup_placesBelow (above : Place) (term : Term) : (placesBelow above term).Nodup := by
  induction term using induct_children generalizing above with
  | step term ih =>
    have all (start : Nat) (terms : List Term) (listed : ∀ child ∈ terms, child ∈ term.children) :
        (placesBelowAll above start terms).Nodup := by
      induction terms generalizing start with
      | nil => exact List.nodup_nil
      | cons child rest ihRest =>
        obtain ⟨first, later⟩ := List.forall_mem_cons.mp listed
        refine List.nodup_append'.mpr ⟨ih child first _, ihRest _ later, ?_⟩
        intro place inChild inRest
        obtain ⟨number, other, -, inside⟩ := mem_placesBelowAll_iff.mp inRest
        have same := eq_of_mem_placesBelow inChild inside
        omega
    rw [placesBelow_eq]
    refine List.nodup_cons.mpr ⟨?_, all 0 _ fun _ => id⟩
    intro inside
    -- the places of the children are longer than that of the root
    obtain ⟨number, child, -, deeper⟩ := mem_placesBelowAll_iff.mp inside
    obtain ⟨front, -, same⟩ := mem_placesBelow_iff.mp deeper
    have lengths := congrArg List.length same
    rw [List.length_append, List.length_cons] at lengths
    omega

/-- A term has as many places as nodes. -/
theorem ncard_places (term : Term) : term.places.ncard = term.size := by
  have listed : term.places = ↑(placesBelow [] term).toFinset := by
    ext place
    simp [mem_placesBelow_iff]
  rw [listed, Set.ncard_coe_finset, List.toFinset_card_of_nodup (nodup_placesBelow [] term),
    length_placesBelow]

/-- The search through a stack finds a variable just when there is one at some place. -/
theorem isClosed_iff_at? (term : Term) :
    term.isClosed = true ↔ ∀ place name span, term.at? place ≠ some (var name span) := by
  rw [isClosed_eq_true_iff]
  simp only [within_iff_exists_at?, not_exists]
  exact ⟨fun closed place name span => closed name span place,
    fun closed name span place => closed place name span⟩

/-- However the nodes of a term are stored, the traversals come to an end, find each result that
they look up, and compute the measures by recursion: a fold that of its leaves and nodes, the depth
the height, the number of nodes the number of places. The search for a variable looks at every
place. -/
theorem traversals_eq_recursion {κ : Type} [Ord κ] [Std.TransOrd κ] [Std.LawfulEqOrd κ]
    {term : Term} (storage : Storage κ term) :
    (∀ (α : Type) (leaf : Term → α) (combine : Term → List α → α),
      term.fold storage leaf combine = some (term.measure leaf combine)) ∧
    (term.depthIn storage = some term.height ∧ term.depth = term.height) ∧
    (term.countNodesIn storage = some term.places.ncard ∧ term.countNodes = term.places.ncard) ∧
    (term.isClosed = true ↔ ∀ place name span, term.at? place ≠ some (var name span)) := by
  have deep := depth_eq_height term
  have count : term.countNodes = term.places.ncard := by rw [ncard_places, countNodes_eq_size]
  refine ⟨fun α leaf combine => fold_eq_measure storage leaf combine, ⟨?_, deep⟩, ⟨?_, count⟩,
    isClosed_iff_at? term⟩
  · rw [depthIn_eq, deep]
  · rw [countNodesIn_eq, count]

/-- A node that is shared below. -/
def single : Term := (var "f" .nowhere).applyTo (var "x" .nowhere)

/-- A term whose head and two arguments are one node. -/
def tripled : Term := app single [single, single] .nowhere

/-- The shared node is at address 1, whatever child of the root is asked for. -/
def tripledStorage : Storage Nat tripled :=
  .ofNodes 0 (fun address number => if address = 0 then 1 else 2 + number)
    (fun address => [tripled, single, var "f" .nowhere, var "x" .nowhere][address]?) rfl
    fun {address number node below} found listed => by
      rcases address with _ | _ | _ | _ | address
      · cases found
        rcases number with _ | _ | _ | number <;> cases listed <;> rfl
      · cases found
        rcases number with _ | _ | number <;> cases listed <;> rfl
      · cases found
        cases listed
      · cases found
        cases listed
      · cases found

/-- A shared node counts each time that it occurs. -/
theorem traversals_tripled :
    tripled.depthIn tripledStorage = some 2 ∧ tripled.countNodesIn tripledStorage = some 10 ∧
      tripled.isClosed = false := by
  obtain ⟨-, ⟨deep, -⟩, ⟨count, -⟩, closed⟩ := traversals_eq_recursion tripledStorage
  rw [ncard_places] at count
  refine ⟨deep, count, Bool.eq_false_iff.mpr fun holds => ?_⟩
  exact closed.mp holds [0, 2] "f" .nowhere rfl

end Term

end UnaryNumeral
