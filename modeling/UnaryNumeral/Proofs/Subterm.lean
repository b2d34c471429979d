import UnaryNumeral.Proofs.NumeralRecognition

namespace UnaryNumeral

namespace Term

/-- A term occurs in another one: it is that term, or it occurs in the head or in an argument. -/
inductive Within (sub : Term) : Term → Prop where
  | self : Within sub sub
  | child {term child : Term} (member : child ∈ term.children) (inside : Within sub child) :
      Within sub term

theorem within_app_iff {sub head : Term} {args : List Term} {span : Span} :
    sub.Within (.app head args span) ↔
      sub = .app head args span ∨ sub.Within head ∨ ∃ arg ∈ args, sub.Within arg := by
  constructor
  · intro inside
    cases inside with
    | self => exact .inl rfl
    | child member deeper =>
      rcases List.mem_cons.mp member with rfl | member
      · exact .inr (.inl deeper)
      · exact .inr (.inr ⟨_, member, deeper⟩)
  · intro place
    rcases place with rfl | inside | ⟨arg, member, inside⟩
    · exact .self
    · exact .child (List.mem_cons_self ..) inside
    · exact .child (List.mem_cons_of_mem _ member) inside

theorem within_ref_iff {sub : Term} {handle : Handle} {span : Span} :
    sub.Within (.ref handle span) ↔ sub = .ref handle span := by
  constructor
  · intro inside
    cases inside with
    | self => rfl
    | child member _ => cases member
  · intro same
    subst same
    exact .self

theorem within_var_iff {sub : Term} {name : String} {span : Span} :
    sub.Within (.var name span) ↔ sub = .var name span := by
  constructor
  · intro inside
    cases inside with
    | self => rfl
    | child member _ => cases member
  · intro same
    subst same
    exact .self

/-- No application inside the term is to nothing. -/
def Saturated (term : Term) : Prop := ∀ head span, ¬ (app head [] span).Within term

mutual

/-- A term with every application to nothing replaced by its head. -/
def collapsed : Term → Term
  | ref handle span => ref handle span
  | var name span => var name span
  | app head [] _ => head.collapsed
  | app head (first :: others) span =>
    app head.collapsed (first.collapsed :: collapsedAll others) span

def collapsedAll : List Term → List Term
  | [] => []
  | term :: rest => term.collapsed :: collapsedAll rest

end

private theorem collapsedAll_eq_map (terms : List Term) : collapsedAll terms = terms.map collapsed := by
  induction terms with
  | nil => rfl
  | cons term rest ih => rw [collapsedAll, List.map_cons, ih]

@[simp]
theorem collapsed_app_nil (head : Term) (span : Span) :
    (app head [] span).collapsed = head.collapsed := rfl

@[simp]
theorem collapsed_app_cons (head first : Term) (others : List Term) (span : Span) :
    (app head (first :: others) span).collapsed =
      app head.collapsed ((first :: others).map collapsed) span := by
  rw [collapsed, collapsedAll_eq_map, List.map_cons]

theorem collapsed_bare (term : Term) : term.bare.collapsed = term.collapsed.bare := by
  induction term with
  | ref handle span => rfl
  | var name span => rfl
  | app head args span ihHead ihArgs =>
    cases args with
    | nil => simpa using ihHead
    | cons first others =>
      obtain ⟨ihFirst, ihOthers⟩ := List.forall_mem_cons.mp ihArgs
      simpa [ihHead, ihFirst] using ihOthers

theorem collapsed_of_saturated {term : Term} (saturated : term.Saturated) :
    term.collapsed = term := by
  induction term with
  | ref handle span => rfl
  | var name span => rfl
  | app head args span ihHead ihArgs =>
    have inHead : head.collapsed = head :=
      ihHead fun function place inside =>
        saturated function place (within_app_iff.mpr (.inr (.inl inside)))
    have inArgs : ∀ arg ∈ args, arg.collapsed = arg := fun arg member =>
      ihArgs arg member fun function place inside =>
        saturated function place (within_app_iff.mpr (.inr (.inr ⟨arg, member, inside⟩)))
    cases args with
    | nil => exact absurd .self (saturated head span)
    | cons first others =>
      rw [collapsed_app_cons, inHead, List.map_congr_left inArgs, List.map_id']

end Term

/-- What occurs in a numeral is the successor, the zero or an application of the successor to the
numeral of a smaller number. -/
theorem Codec.within_numeral {codec : Codec} {span : Span} {n : Nat} {sub : Term}
    (inside : sub.Within (codec.numeral span n)) :
    sub = .ref codec.succ span ∨ sub = .ref codec.zero span ∨
      ∃ m < n, sub = (Term.ref codec.succ span).applyTo (codec.numeral span m) span := by
  induction n with
  | zero =>
    rw [numeral_zero, Term.within_ref_iff] at inside
    exact .inr (.inl inside)
  | succ n ih =>
    rw [numeral_succ, Term.applyTo, Term.within_app_iff, Term.within_ref_iff] at inside
    rcases inside with whole | succ | ⟨arg, member, below⟩
    · exact .inr (.inr ⟨n, Nat.lt_succ_self n, whole⟩)
    · exact .inl succ
    · obtain rfl := List.mem_singleton.mp member
      rcases ih below with succ | zero | ⟨m, smaller, applied⟩
      · exact .inl succ
      · exact .inr (.inl zero)
      · exact .inr (.inr ⟨m, Nat.lt_succ_of_lt smaller, applied⟩)

theorem Codec.ref_within_numeral {codec : Codec} {span place : Span} {n : Nat} {handle : Handle}
    (inside : (Term.ref handle place).Within (codec.numeral span n)) :
    handle = codec.succ ∨ handle = codec.zero := by
  rcases within_numeral inside with succ | zero | ⟨m, -, applied⟩
  · exact .inl (Term.ref.inj succ).1
  · exact .inr (Term.ref.inj zero).1
  · cases applied

theorem Codec.not_var_within_numeral {codec : Codec} {span place : Span} {n : Nat} {name : String} :
    ¬ (Term.var name place).Within (codec.numeral span n) := by
  intro inside
  rcases within_numeral inside with succ | zero | ⟨m, -, applied⟩
  · cases succ
  · cases zero
  · cases applied

/-- Every node of a numeral stands at the span of the numeral. -/
theorem Codec.span_of_within_numeral {codec : Codec} {span : Span} {n : Nat} {node : Term}
    (inside : node.Within (codec.numeral span n)) : node.span = span := by
  rcases within_numeral inside with rfl | rfl | ⟨m, -, rfl⟩ <;> rfl

theorem Codec.numeral_saturated (codec : Codec) (span : Span) (n : Nat) :
    (codec.numeral span n).Saturated := by
  intro head place inside
  rcases within_numeral inside with succ | zero | ⟨m, -, applied⟩
  · cases succ
  · cases zero
  · cases applied

theorem Codec.encode_saturated {codec : Codec} {span : Option Span} {n : Int} {term : Term}
    (encoded : codec.encode span n = .ok term) : term.Saturated := by
  obtain ⟨-, rfl⟩ := (codec.encode_eq_ok_iff ..).mp encoded
  exact codec.numeral_saturated _ _

theorem Codec.bare_collapsed_of_decode {codec : Codec} {term : Term} {n : Nat}
    (found : codec.decode term = some n) :
    term.collapsed.bare = codec.numeral .nowhere n := by
  rw [← Term.collapsed_bare, bare_of_decode found,
    Term.collapsed_of_saturated (codec.numeral_saturated .nowhere n)]

end UnaryNumeral
