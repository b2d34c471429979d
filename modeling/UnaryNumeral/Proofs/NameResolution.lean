import UnaryNumeral.Proofs.Grammar

namespace UnaryNumeral

namespace Reader

theorem findOpen_eq_none_iff (reader : Reader) (name : String) (paths : List (List Value)) :
    reader.findOpen name paths = .ok none ↔
      ∀ path ∈ paths, reader.symbols.lookup (.segments path) name = .ok none := by
  induction paths with
  | nil => simp [findOpen]
  | cons path rest ih =>
    rw [findOpen, bind_eq_ok_iff, List.forall_mem_cons, ← ih]
    constructor
    · intro given
      obtain ⟨hit, looked, later⟩ := given
      cases hit with
      | none => exact ⟨looked, later⟩
      | some handle => cases later
    · intro given
      obtain ⟨looked, later⟩ := given
      exact ⟨none, looked, later⟩

theorem findOpen_eq_some_iff (reader : Reader) (name : String) (paths : List (List Value))
    (handle : Handle) :
    reader.findOpen name paths = .ok (some handle) ↔
      ∃ before path after, paths = before ++ path :: after ∧
        (∀ earlier ∈ before, reader.symbols.lookup (.segments earlier) name = .ok none) ∧
        reader.symbols.lookup (.segments path) name = .ok (some handle) := by
  induction paths with
  | nil => simp [findOpen]
  | cons path rest ih =>
    rw [findOpen, bind_eq_ok_iff]
    constructor
    · intro given
      obtain ⟨hit, looked, later⟩ := given
      cases hit with
      | some other =>
        cases later
        exact ⟨[], path, rest, rfl, by simp, looked⟩
      | none =>
        obtain ⟨before, hit, after, rfl, silent, declared⟩ := ih.mp later
        exact ⟨path :: before, hit, after, rfl, List.forall_mem_cons.mpr ⟨looked, silent⟩,
          declared⟩
    · intro given
      obtain ⟨before, hit, after, split, silent, declared⟩ := given
      cases before with
      | nil =>
        obtain ⟨rfl, rfl⟩ := List.cons.inj split
        exact ⟨some handle, declared, rfl⟩
      | cons first before =>
        obtain ⟨rfl, rfl⟩ := List.cons.inj split
        obtain ⟨looked, silent⟩ := List.forall_mem_cons.mp silent
        exact ⟨none, looked, ih.mpr ⟨before, hit, after, rfl, silent, declared⟩⟩

theorem findOpen_congr {reader other : Reader} {name : String} {paths : List (List Value)}
    (agree : ∀ path ∈ paths, other.symbols.lookup (.segments path) name = reader.symbols.lookup (.segments path) name) :
    other.findOpen name paths = reader.findOpen name paths := by
  induction paths with
  | nil => rfl
  | cons path rest ih =>
    obtain ⟨first, others⟩ := List.forall_mem_cons.mp agree
    rw [findOpen, findOpen, first, ih others]

/-- The term of a name depends on what is declared under the open paths, if the name is bare, and
on what the name itself leads to, if it is dotted. -/
theorem resolveName_congr {reader other : Reader} {name : String}
    (paths : other.openPaths = reader.openPaths)
    (bare : '.' ∉ name.toList → ∀ path ∈ reader.openPaths,
      other.symbols.lookup (.segments path) name = reader.symbols.lookup (.segments path) name)
    (dotted : '.' ∈ name.toList →
      other.symbols.resolveQualified name = reader.symbols.resolveQualified name) (span : Span) :
    other.resolveName name span = reader.resolveName name span := by
  unfold resolveName
  by_cases dot : '.' ∈ name.toList
  · simp only [List.contains_iff_mem, dot, ↓reduceIte, dotted dot]
  · simp only [List.contains_iff_mem, dot, ↓reduceIte, paths, findOpen_congr (bare dot)]

theorem resolveName_eq_ok_iff (reader : Reader) (name : String) (span : Span) (term : Term) :
    reader.resolveName name span = .ok term ↔ reader.Names name span term := by
  unfold resolveName
  by_cases dotted : '.' ∈ name.toList
  · simp only [List.contains_iff_mem, dotted, ↓reduceIte, bind_eq_ok_iff, pure_eq_ok_iff]
    constructor
    · intro given
      obtain ⟨handle, resolved, same⟩ := given
      subst same
      exact .qualified dotted resolved
    · intro named
      cases named with
      | qualified _ found => exact ⟨_, found, rfl⟩
      | opened undotted _ => exact (undotted dotted).elim
      | free undotted _ _ => exact (undotted dotted).elim
  · simp only [List.contains_iff_mem, dotted, ↓reduceIte, bind_eq_ok_iff]
    constructor
    · intro given
      obtain ⟨hit, searched, rest⟩ := given
      cases hit with
      | some handle =>
        cases rest
        exact .opened dotted ((reader.findOpen_eq_some_iff name _ handle).mp searched)
      | none =>
        have unknown := (reader.findOpen_eq_none_iff name _).mp searched
        by_cases lower : isVariableName name = true
        · simp only [lower, ↓reduceIte, pure_eq_ok_iff] at rest
          subst rest
          exact .free dotted unknown lower
        · simp only [lower] at rest
          cases paths : reader.openPaths with
          | nil => simp [paths] at rest
          | cons path others => simp [paths, bind_eq_ok_iff] at rest
    · intro named
      cases named with
      | qualified dot _ => exact (dotted dot).elim
      | opened _ found =>
        exact ⟨_, (reader.findOpen_eq_some_iff name _ _).mpr found, rfl⟩
      | free _ unknown lower =>
        refine ⟨none, (reader.findOpen_eq_none_iff name _).mpr unknown, ?_⟩
        simp [lower]

end Reader

end UnaryNumeral
