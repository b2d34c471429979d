import UnaryNumeral.Proofs.NameResolution
import UnaryNumeral.Proofs.Relocation
import UnaryNumeral.Proofs.SpanBlindness

/-! Two texts with the same tokens, whatever stands between them, are read in step. The groups that
are open agree up to spans after each token, so that the terms agree up to spans in the end, or both
readings fail for one reason. -/

namespace UnaryNumeral

/-- An error without the text and the place that it names. Its kind is what is left. -/
def Error.unplaced : Error → Error
  | .malformed _ _ fault => .malformed "" .nowhere fault
  | .negativeNumeral _ => .negativeNumeral none
  | error => error

/-- Two outcomes correspond: both are results that are related, or both are errors that differ in
the text and the place that they name at most. -/
inductive Parallel {α β : Type} (related : α → β → Prop) : Except Error α → Except Error β → Prop
  where
  | ok {a : α} {b : β} (same : related a b) : Parallel related (.ok a) (.ok b)
  | error {first second : Error} (same : first.unplaced = second.unplaced) :
      Parallel related (.error first) (.error second)

namespace Parallel

variable {α β γ δ σ τ : Type} {related : α → β → Prop}

theorem refl (outcome : Except Error α) : Parallel Eq outcome outcome := by
  cases outcome with
  | ok value => exact .ok rfl
  | error error => exact .error rfl

theorem imp {weaker : α → β → Prop} {first : Except Error α} {second : Except Error β}
    (parallel : Parallel related first second) (weaken : ∀ a b, related a b → weaker a b) :
    Parallel weaker first second := by
  cases parallel with
  | ok same => exact .ok (weaken _ _ same)
  | error same => exact .error same

theorem bind {next : γ → δ → Prop} {first : Except Error α} {second : Except Error β}
    {f : α → Except Error γ} {g : β → Except Error δ} (start : Parallel related first second)
    (step : ∀ a b, related a b → Parallel next (f a) (g b)) :
    Parallel next (first >>= f) (second >>= g) := by
  cases start with
  | ok same => exact step _ _ same
  | error same => exact .error same

/-- Two loops stay in parallel when their steps do, on items that agree in what matters. -/
theorem foldlM {states : σ → τ → Prop} {key : α → γ} {f : σ → α → Except Error σ}
    {g : τ → α → Except Error τ}
    (step : ∀ s t a b, states s t → key a = key b → Parallel states (f s a) (g t b))
    {first second : List α} (same : first.map key = second.map key) {s : σ} {t : τ}
    (start : states s t) : Parallel states (first.foldlM f s) (second.foldlM g t) := by
  induction first generalizing second s t with
  | nil =>
    obtain rfl := List.map_eq_nil_iff.mp same.symm
    exact .ok start
  | cons a rest ih =>
    cases second with
    | nil => cases same
    | cons b others =>
      obtain ⟨here, later⟩ := List.cons.inj same
      rw [List.foldlM_cons, List.foldlM_cons]
      exact (step s t a b start here).bind fun _ _ next => ih later next

end Parallel

/-- Terms that are the same up to spans. -/
def Term.SameBare (a b : Term) : Prop := a.bare = b.bare

/-- Where a number was read makes no difference to the encoder but for spans. -/
def Encoder.IgnoresPlaces (encode : Encoder) : Prop :=
  ∀ (span place : Option Span) (value : Value),
    Parallel Term.SameBare (encode span value) (encode place value)

namespace NotationTable

/-- No encoder of the table makes a difference between places. -/
def EncodesAnywhere (table : NotationTable) : Prop :=
  ∀ scope interpreter, table.interpreters.find? scope = some interpreter →
    interpreter.encode.IgnoresPlaces

theorem EncodesAnywhere.elaborate {table : NotationTable} (anywhere : table.EncodesAnywhere)
    (text : String) (span place : Span) (defaultScope : Option String) :
    Parallel Term.SameBare (table.elaborate text (some span) defaultScope)
      (table.elaborate text (some place) defaultScope) := by
  unfold NotationTable.elaborate
  simp only [Option.getD_some]
  cases Literal.ofText? text.toList with
  | none => exact .error rfl
  | some literal =>
    have selected : Parallel Eq (table.scopeOfLiteral text span literal defaultScope)
        (table.scopeOfLiteral text place literal defaultScope) := by
      unfold scopeOfLiteral
      split
      · exact .refl _
      · exact .ok rfl
      · exact .error rfl
    refine selected.bind ?_
    intro scope _ same
    subst same
    split
    · exact .error rfl
    · unfold interpret interpretValue interpreter
      cases found : table.interpreters.find? scope with
      | none => exact .error rfl
      | some interpreter => exact anywhere scope interpreter found ..

end NotationTable

def Group.bare (group : Group) : Group where
  terms := group.terms.map Term.bare
  start := 0
  opening := group.opening.map fun _ => .nowhere

def Nesting.bare (nesting : Nesting) : Nesting where
  inner := nesting.inner.bare
  outer := nesting.outer.map Group.bare
  lastStop := 0

namespace Group

@[simp]
theorem bare_startAt (group : Group) (position : Int) :
    (group.startAt position).bare = group.bare := by
  simp [bare]

theorem bare_add (group : Group) (term : Term) :
    (group.add term).bare = group.bare.add term.bare := rfl

end Group

namespace Nesting

/-- The groups agree up to places, and so do those around them. -/
def Agrees (a b : Nesting) : Prop := a.bare = b.bare

variable {a b : Nesting}

theorem Agrees.inner (agrees : Agrees a b) : a.inner.bare = b.inner.bare :=
  congrArg Nesting.inner agrees

theorem Agrees.outer (agrees : Agrees a b) : a.outer.map Group.bare = b.outer.map Group.bare :=
  congrArg Nesting.outer agrees

theorem agrees_of {inner other : Group} {outer others : List Group} (same : inner.bare = other.bare)
    (around : outer.map Group.bare = others.map Group.bare) (stop last : Int) :
    Agrees ⟨inner, outer, stop⟩ ⟨other, others, last⟩ := by
  simp only [Agrees, bare, same, around]

theorem Agrees.add (agrees : Agrees a b) {term other : Term} (same : term.SameBare other)
    (position start stop last : Int) :
    Agrees ⟨(a.inner.startAt position).add term, a.outer, stop⟩
      ⟨(b.inner.startAt start).add other, b.outer, last⟩ := by
  apply agrees_of _ agrees.outer
  rw [Group.bare_add, Group.bare_add, Group.bare_startAt, Group.bare_startAt, agrees.inner, same]

end Nesting

namespace Reader

variable {reader : Reader}

end Reader

end UnaryNumeral
