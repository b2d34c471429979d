import UnaryNumeral.Term.Equality

namespace UnaryNumeral

namespace Term

mutual

/-- A term with every span forgotten. -/
def bare : Term → Term
  | ref handle _ => ref handle .nowhere
  | var name _ => var name .nowhere
  | app head args _ => app head.bare (bareAll args) .nowhere

def bareAll : List Term → List Term
  | [] => []
  | term :: rest => term.bare :: bareAll rest

end

private theorem bareAll_eq_map (terms : List Term) : bareAll terms = terms.map bare := by
  induction terms with
  | nil => rfl
  | cons term rest ih => rw [bareAll, List.map_cons, ih]

@[simp]
theorem bare_ref (handle : Handle) (span : Span) : (ref handle span).bare = ref handle .nowhere :=
  rfl

@[simp]
theorem bare_var (name : String) (span : Span) : (var name span).bare = var name .nowhere := rfl

@[simp]
theorem bare_app (head : Term) (args : List Term) (span : Span) :
    (app head args span).bare = app head.bare (args.map bare) .nowhere := by
  rw [bare, bareAll_eq_map]

@[simp]
theorem asRef_bare (term : Term) : term.bare.asRef = term.asRef := by
  cases term <;> simp

private theorem map_bare_eq_iff (a b : List Term) :
    a.map bare = b.map bare ↔
      a.length = b.length ∧ ∀ pair ∈ a.zip b, pair.1.bare = pair.2.bare := by
  induction a generalizing b with
  | nil => cases b <;> simp
  | cons x a ih =>
    cases b with
    | nil => simp
    | cons y b =>
      simp only [List.map_cons, List.cons.injEq, ih, List.length_cons, Nat.add_right_cancel_iff,
        List.zip_cons_cons, List.forall_mem_cons]
      exact and_left_comm

theorem bare_eq_bare_iff (a b : Term) :
    a.bare = b.bare ↔
      sameLabel a b = true ∧ ∀ pair ∈ a.children.zip b.children, pair.1.bare = pair.2.bare := by
  cases a with
  | ref handle span => cases b <;> simp [sameLabel, children]
  | var name span => cases b <;> simp [sameLabel, children]
  | app head args span =>
    cases b with
    | ref handle other => simp [sameLabel]
    | var name other => simp [sameLabel]
    | app first rest other =>
      simp only [bare_app, app.injEq, map_bare_eq_iff, and_true, sameLabel, decide_eq_true_eq,
        children, List.zip_cons_cons, List.forall_mem_cons]
      exact and_left_comm

/-- A digest that looks at bare terms only cannot set apart terms that are equal up to spans. What
is left on the stack of pairs has to agree, whichever pair comes first; a pair that is passed over
for being one node twice agrees anyway. -/
theorem samePairs_eq_true_iff {δ : Type} [DecidableEq δ] (digest : Term → δ)
    (blind : ∀ a b : Term, a.bare = b.bare → digest a = digest b) (sharing : Sharing)
    (pairs : List (Term × Term)) :
    samePairs digest sharing pairs = true ↔ ∀ pair ∈ pairs, pair.1.bare = pair.2.bare := by
  induction pairs using samePairs.induct digest sharing with
  | case1 => simp [samePairs]
  | case2 a b rest shared ih =>
    obtain rfl := sharing.eq_of_shares a b rest shared
    rw [samePairs, if_pos shared, ih]
    simp only [List.forall_mem_cons, true_and]
  | case3 a b rest apart agree ih =>
    rw [samePairs, if_neg apart, if_pos agree, ih]
    simp only [List.forall_mem_append, List.mem_reverse, List.forall_mem_cons,
      bare_eq_bare_iff a b, agree.2, true_and]
  | case4 a b rest apart differ =>
    rw [samePairs, if_neg apart, if_neg differ]
    have unequal : ¬ a.bare = b.bare := fun equal =>
      differ ⟨blind a b equal, ((bare_eq_bare_iff a b).mp equal).1⟩
    simp [unequal]

theorem sameBy_eq_true_iff {δ : Type} [DecidableEq δ] (digest : Term → δ)
    (blind : ∀ a b : Term, a.bare = b.bare → digest a = digest b) (sharing : Sharing)
    (a b : Term) : a.sameBy digest sharing b = true ↔ a.bare = b.bare := by
  rw [sameBy, samePairs_eq_true_iff digest blind]
  simp

theorem same_eq_true_iff (a b : Term) : a.same b = true ↔ a.bare = b.bare :=
  sameBy_eq_true_iff (fun _ => ()) (fun _ _ _ => rfl) .unknown a b

section

variable {δ : Type} (hashing : Hashing δ)

private theorem digestAll_eq_map (terms : List Term) :
    digestAll hashing terms = terms.map (digest hashing) := by
  induction terms with
  | nil => rfl
  | cons term rest ih => rw [digestAll, List.map_cons, ih]

theorem digest_bare (term : Term) : digest hashing term.bare = digest hashing term := by
  induction term with
  | ref handle span => rfl
  | var name span => rfl
  | app head args span ihHead ihArgs =>
    have same : (args.map bare).map (digest hashing) = args.map (digest hashing) := by
      rw [List.map_map]
      exact List.map_congr_left ihArgs
    rw [bare_app, digest, digest, ihHead, digestAll_eq_map, digestAll_eq_map, same]

theorem digest_eq_of_bare_eq {a b : Term} (equal : a.bare = b.bare) :
    digest hashing a = digest hashing b := by
  rw [← digest_bare, equal, digest_bare]

/-- However digests are made, and whichever nodes are known to be shared, the comparison decides
whether two terms are one tree once their spans are forgotten. So it is an equivalence, it is the
same for all digests, terms that it finds equal have one digest, terms that are set apart by their
digests do differ, and terms that differ are told apart even if their digests do not. -/
theorem sameBy_digest [DecidableEq δ] (sharing : Sharing) :
    let equal (a b : Term) : Prop := a.sameBy (digest hashing) sharing b = true
    (∀ a b, equal a b ↔ a.bare = b.bare) ∧ Equivalence equal ∧
      (∀ a b, equal a b → digest hashing a = digest hashing b) ∧
      (∀ a b, digest hashing a ≠ digest hashing b → a.bare ≠ b.bare) ∧
      (∀ a b, digest hashing a = digest hashing b → a.bare ≠ b.bare → ¬ equal a b) ∧
      ∀ a b : Term, a.sameBy (digest hashing) sharing b = a.same b := by
  intro equal
  have decides (a b : Term) : equal a b ↔ a.bare = b.bare :=
    sameBy_eq_true_iff _ (fun _ _ => digest_eq_of_bare_eq hashing) sharing a b
  refine ⟨decides, ⟨?_, ?_, ?_⟩, ?_, ?_, ?_, ?_⟩
  · intro a
    exact (decides a a).mpr rfl
  · intro a b first
    exact (decides b a).mpr ((decides a b).mp first).symm
  · intro a b c first second
    exact (decides a c).mpr (((decides a b).mp first).trans ((decides b c).mp second))
  · intro a b same
    exact digest_eq_of_bare_eq hashing ((decides a b).mp same)
  · intro a b differ same
    exact differ (digest_eq_of_bare_eq hashing same)
  · intro a b _ differ same
    exact differ ((decides a b).mp same)
  · intro a b
    rw [Bool.eq_iff_iff, same_eq_true_iff]
    exact decides a b

end

end Term

end UnaryNumeral
