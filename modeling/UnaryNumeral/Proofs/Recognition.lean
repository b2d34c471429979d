import UnaryNumeral.Proofs.NotationEffects
import UnaryNumeral.Proofs.NumeralRecognition

namespace UnaryNumeral

theorem Recognition.ask_answer (term : Term) (entries : List (String × Interpreter)) :
    (Recognition.ask term entries).answer =
      entries.findSome? fun entry => (entry.2.decode term).map fun value => (value, entry.1) := by
  induction entries with
  | nil => rfl
  | cons entry rest ih =>
    obtain ⟨scope, interpreter⟩ := entry
    cases known : interpreter.decode term with
    | some value => simp [Recognition.ask, known]
    | none => simp [Recognition.ask, known, ih]

namespace NotationTable

/-- The scope is among those given and has an interpreter that matches terms. -/
structure Matches (table : NotationTable) (scopes : List String) (scope : String)
    (interpreter : Interpreter) : Prop where
  listed : scope ∈ scopes
  found : table.interpreters.find? scope = some interpreter
  matchesTerms : interpreter.matchesTerms = true

private theorem matching_cons (table : NotationTable) (scope : String) (rest : List String) :
    table.matching (scope :: rest) =
      (((table.interpreters.find? scope).filter (·.matchesTerms)).map (scope, ·)).toList ++
        table.matching rest := by
  rw [matching, List.filterMap_cons]
  cases (table.interpreters.find? scope).filter (·.matchesTerms) with
  | none => rfl
  | some interpreter => rfl

/-- The number that a scope has for a term: the interpreter of the scope matches terms, may print the
head of the term, and knows the number. -/
def numberIn (table : NotationTable) (term : Term) (scope : String) : Option Int :=
  match table.interpreters.find? scope, term.headRef with
  | some interpreter, some head =>
    if interpreter.matchesTerms = true ∧ head ∈ interpreter.printableHeads then
      interpreter.decode term
    else none
  | _, _ => none

theorem numberIn_eq_some_iff (table : NotationTable) (term : Term) (scope : String) (value : Int) :
    table.numberIn term scope = some value ↔
      ∃ interpreter head, table.interpreters.find? scope = some interpreter ∧
        interpreter.matchesTerms = true ∧ term.headRef = some head ∧
        head ∈ interpreter.printableHeads ∧ interpreter.decode term = some value := by
  unfold numberIn
  cases table.interpreters.find? scope with
  | none => simp
  | some interpreter =>
    cases term.headRef with
    | none => simp
    | some head => simp [and_assoc]

/-- The scopes are asked one after another. -/
theorem uninterpret_eq_findSome? (table : NotationTable) (term : Term) (scopes : List String) :
    table.uninterpret term scopes =
      scopes.findSome? fun scope => (table.numberIn term scope).map fun value => (value, scope) := by
  unfold uninterpret recognize
  cases headed : term.headRef with
  | none =>
    symm
    rw [List.findSome?_eq_none_iff]
    intro scope _
    simp [numberIn, headed]
  | some head =>
    simp only [Recognition.ask_answer]
    induction scopes with
    | nil => rfl
    | cons scope rest ih =>
      rw [List.findSome?_cons, ← ih]
      unfold numberIn
      rw [matching_cons]
      -- the scope is passed over if it has no interpreter, or one that matches no terms, or one that
      -- does not print this head; else its decoder is asked
      cases found : table.interpreters.find? scope with
      | none => simp
      | some interpreter =>
        by_cases matchesTerms : interpreter.matchesTerms = true
        · by_cases listed : head ∈ interpreter.printableHeads
          · cases known : interpreter.decode term with
            | some value => simp [headed, Option.filter_some, matchesTerms, listed, known]
            | none => simp [headed, Option.filter_some, matchesTerms, listed, known]
          · simp [headed, Option.filter_some, matchesTerms, listed]
        · simp [headed, Option.filter_some, matchesTerms]

theorem uninterpret_eq_some_iff (table : NotationTable) (term : Term) (scopes : List String)
    (value : Int) (scope : String) :
    table.uninterpret term scopes = some (value, scope) ↔
      table.numberIn term scope = some value ∧
        ∃ before after, scopes = before ++ scope :: after ∧
          ∀ earlier ∈ before, table.numberIn term earlier = none := by
  rw [uninterpret_eq_findSome?, List.findSome?_eq_some_iff]
  simp only [Option.map_eq_some_iff, Prod.mk.injEq, Option.map_eq_none_iff]
  constructor
  · intro found
    obtain ⟨before, _, after, split, ⟨_, known, rfl, rfl⟩, silent⟩ := found
    exact ⟨known, before, after, split, silent⟩
  · intro found
    obtain ⟨known, before, after, split, silent⟩ := found
    exact ⟨before, scope, after, split, ⟨value, known, rfl, rfl⟩, silent⟩

theorem uninterpret_eq_none_iff_numberIn (table : NotationTable) (term : Term)
    (scopes : List String) :
    table.uninterpret term scopes = none ↔ ∀ scope ∈ scopes, table.numberIn term scope = none := by
  simp only [uninterpret_eq_findSome?, List.findSome?_eq_none_iff, Option.map_eq_none_iff]

/-- A term is left alone exactly when no interpreter that may print its head knows a number. -/
theorem uninterpret_eq_none_iff (table : NotationTable) (term : Term) (scopes : List String) :
    table.uninterpret term scopes = none ↔
      ∀ scope interpreter head, table.Matches scopes scope interpreter →
        term.headRef = some head → head ∈ interpreter.printableHeads →
        interpreter.decode term = none := by
  rw [uninterpret_eq_none_iff_numberIn]
  constructor
  · intro silent scope interpreter head matching headed printable
    rw [Option.eq_none_iff_forall_ne_some]
    intro value decoded
    have known := (numberIn_eq_some_iff table term scope value).mpr
      ⟨interpreter, head, matching.found, matching.matchesTerms, headed, printable, decoded⟩
    exact nomatch (silent scope matching.listed).symm.trans known
  · intro silent scope listed
    rw [Option.eq_none_iff_forall_ne_some]
    intro value known
    obtain ⟨interpreter, head, found, matchesTerms, headed, printable, decoded⟩ :=
      (numberIn_eq_some_iff ..).mp known
    have unknown := silent scope interpreter head ⟨listed, found, matchesTerms⟩ headed printable
    exact nomatch unknown.symm.trans decoded

theorem exists_of_uninterpret {table : NotationTable} {term : Term} {scopes : List String}
    {value : Int} {scope : String} (found : table.uninterpret term scopes = some (value, scope)) :
    ∃ interpreter, table.Matches scopes scope interpreter ∧
      interpreter.decode term = some value := by
  obtain ⟨known, before, after, rfl, -⟩ := (uninterpret_eq_some_iff ..).mp found
  obtain ⟨interpreter, head, stored, matchesTerms, -, -, decoded⟩ :=
    (numberIn_eq_some_iff ..).mp known
  exact ⟨interpreter, ⟨by simp, stored, matchesTerms⟩, decoded⟩

/-- In a scope that is registered for a codec, a term is taken for a numeral just when the codec
takes it for one: whatever has a number starts with the zero or the successor, and the codec prints
both. -/
theorem numberIn_of_interpreterOf {table : NotationTable} {scope : String} {codec : Codec}
    (registered : table.interpreters.find? scope = some (codec.interpreterOf scope)) (term : Term) :
    table.numberIn term scope = (codec.decode term).map Int.ofNat := by
  have zeroListed : codec.zero ∈ (codec.interpreterOf scope).printableHeads :=
    List.mem_cons_of_mem _ (List.mem_singleton_self _)
  have succListed : codec.succ ∈ (codec.interpreterOf scope).printableHeads :=
    List.mem_cons_self ..
  have matchesTerms : (codec.interpreterOf scope).matchesTerms = true := rfl
  have asked : (codec.interpreterOf scope).decode term = (codec.decode term).map Int.ofNat := rfl
  unfold numberIn
  rw [registered]
  cases decoded : codec.decode term with
  | none => cases headed : term.headRef <;> simp [asked, decoded]
  | some n =>
    rcases Codec.headRef_of_decode decoded with zero | succ
    · simp [zero, zeroListed, matchesTerms, asked, decoded]
    · simp [succ, succListed, matchesTerms, asked, decoded]

theorem uninterpret_of_interpreterOf {table : NotationTable} {scope : String} {codec : Codec}
    (registered : table.interpreters.find? scope = some (codec.interpreterOf scope)) (term : Term) :
    table.uninterpret term [scope] =
      (codec.decode term).map fun n => (Int.ofNat n, scope) := by
  rw [uninterpret_eq_findSome?]
  simp only [List.findSome?_cons, List.findSome?_nil, numberIn_of_interpreterOf registered,
    Option.map_map]
  cases codec.decode term with
  | none => rfl
  | some n => rfl

end NotationTable

end UnaryNumeral
