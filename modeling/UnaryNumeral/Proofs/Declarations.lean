import UnaryNumeral.Proofs.SymbolInvariant

namespace UnaryNumeral

theorem forM_eq_ok_iff {ε α : Type} (check : α → Except ε Unit) (members : List α) :
    members.forM check = .ok () ↔ ∀ member ∈ members, check member = .ok () := by
  induction members with
  | nil => simp [pure, Except.pure]
  | cons member rest ih =>
    have step : (member :: rest).forM check = check member >>= fun _ => rest.forM check := rfl
    rw [step, bind_eq_ok_iff, List.forall_mem_cons, ih]
    constructor
    · intro checked
      obtain ⟨_, first, others⟩ := checked
      exact ⟨first, others⟩
    · intro checked
      exact ⟨(), checked⟩

theorem hasRepetition_eq_false_iff (names : List String) :
    hasRepetition (names.map .text) = false ↔ names.Nodup := by
  induction names with
  | nil => simp [hasRepetition]
  | cons name rest ih =>
    simp only [List.map_cons, hasRepetition, Bool.or_eq_false_iff, ih, List.any_eq_false,
      List.forall_mem_map, Value.sameMember, beq_iff_eq, List.nodup_cons]
    apply and_congr_left
    intro _
    constructor
    · intro apart member
      exact apart name member rfl
    · intro fresh other member same
      exact fresh (same ▸ member)

theorem exists_map_text {property : String → Prop} {values : List Value}
    (texts : ∀ value ∈ values, ∃ name, value = .text name ∧ property name) :
    ∃ names : List String, values = names.map .text ∧ ∀ name ∈ names, property name := by
  induction values with
  | nil => exact ⟨[], rfl, by simp⟩
  | cons value rest ih =>
    obtain ⟨⟨name, rfl, holds⟩, others⟩ := List.forall_mem_cons.mp texts
    obtain ⟨names, rfl, each⟩ := ih others
    exact ⟨name :: names, rfl, List.forall_mem_cons.mpr ⟨holds, each⟩⟩

theorem checkDistinct_eq_ok_iff (names : List String) :
    checkDistinct (names.map .text) = .ok () ↔ names.Nodup := by
  have hashable : (names.map Value.text).find? (!·.isHashable) = none := by
    simp [Value.isHashable]
  rw [checkDistinct, hashable, ← hasRepetition_eq_false_iff]
  cases hasRepetition (names.map .text) <;> simp

namespace SymbolTable

def extendAll (table : SymbolTable) (handles : List Handle) : SymbolTable :=
  handles.foldl extend table

/-- The handles of constructors, the first one at the given position. -/
def constructorHandles (path : Path) : (position : Nat) → List String → List Handle
  | _, [] => []
  | position, name :: rest =>
    ⟨.constructor, path, name, some position⟩ :: constructorHandles path (position + 1) rest

/-- A short name that is free under a path. -/
structure Free (table : SymbolTable) (path : Path) (name : String) : Prop where
  short : ShortName name
  vacant : table.entries.find? (path, name) = none

theorem checkFree_eq_ok_iff (table : SymbolTable) (path : Path) (value : Value) :
    table.checkFree path value = .ok () ↔ ∃ name, value = .text name ∧ table.Free path name := by
  unfold checkFree
  simp only [bind_eq_ok_iff, checkName_eq_ok_iff]
  apply exists_congr
  intro name
  rw [and_assoc]
  apply and_congr_right
  intro _
  cases found : table.entries.find? (path, name) with
  | none =>
    simp only [OrderedMap.contains, found, Option.isSome_none, Bool.false_eq_true, ↓reduceIte,
      and_true]
    exact ⟨fun short => ⟨short, found⟩, Free.short⟩
  | some handle =>
    simp only [OrderedMap.contains, found, Option.isSome_some, ↓reduceIte, reduceCtorEq, and_false,
      false_iff]
    intro free
    cases found.symm.trans free.vacant

theorem Free.extend {table : SymbolTable} {path : Path} {name : String}
    (free : table.Free path name) {handle : Handle} (other : handle.name ≠ name) :
    (table.extend handle).Free path name := by
  refine ⟨free.short, ?_⟩
  rw [find?_extend, if_neg]
  · exact free.vacant
  · intro same
    exact other (congrArg Prod.snd same).symm

theorem Free.others {table : SymbolTable} {path : Path} {name : String} {rest : List String}
    (fresh : name ∉ rest) (free : ∀ other ∈ rest, table.Free path other) (kind : Kind)
    (index : Option Int) :
    ∀ other ∈ rest, (table.extend ⟨kind, path, name, index⟩).Free path other := by
  intro other member
  apply (free other member).extend
  rintro rfl
  exact fresh member

variable {path : Path} (valid : ∀ segment ∈ path, Path.isSegment segment = true)
include valid

theorem declare_gives {table : SymbolTable} {name : String} (free : table.Free path name)
    (kind : Kind) (index : Option Int) :
    (declare path.spelled (.text name) kind index).Gives table ⟨kind, path, name, index⟩
      (table.extend ⟨kind, path, name, index⟩) :=
  declare_of_free (PathSpelling.toPath_spelled path valid)
    ((checkName_eq_ok_iff ..).mpr ⟨rfl, free.short⟩) free.vacant kind index

theorem declareConstructors_gives {table : SymbolTable} {names : List String}
    (distinct : names.Nodup) (free : ∀ name ∈ names, table.Free path name) (position : Nat) :
    (declareConstructors path position (names.map .text)).Gives table
      (constructorHandles path position names)
      (table.extendAll (constructorHandles path position names)) := by
  induction names generalizing table position with
  | nil => exact .pure ..
  | cons name rest ih =>
    obtain ⟨fresh, different⟩ := List.nodup_cons.mp distinct
    obtain ⟨here, later⟩ := List.forall_mem_cons.mp free
    have rest_free := Free.others fresh later .constructor (some position)
    exact .bind (declare_gives valid here ..)
      (.bind (ih different rest_free (position + 1)) (.pure ..))

omit valid in
theorem declareInductive_gives {table : SymbolTable} {spelling : PathSpelling}
    (spelt : spelling.toPath = .ok path) {type : String} {names : List String}
    (distinct : (type :: names).Nodup) (free : ∀ name ∈ type :: names, table.Free path name) :
    (declareInductive spelling (.text type) (names.map .text)).Gives table
      (⟨.inductiveType, path, type, none⟩, constructorHandles path 1 names)
      ((table.extend ⟨.inductiveType, path, type, none⟩).extendAll
        (constructorHandles path 1 names)) := by
  have valid := ((PathSpelling.toPath_eq_ok_iff spelling path).mp spelt).2
  have accepted := (checkDistinct_eq_ok_iff _).mpr distinct
  have checked : ((type :: names).map Value.text).forM (table.checkFree path) = .ok () := by
    rw [forM_eq_ok_iff]
    intro value member
    obtain ⟨name, listed, rfl⟩ := List.mem_map.mp member
    exact (checkFree_eq_ok_iff ..).mpr ⟨name, rfl, free name listed⟩
  obtain ⟨here, later⟩ := List.forall_mem_cons.mp free
  obtain ⟨fresh, others⟩ := List.nodup_cons.mp distinct
  have typeDeclared := declare_gives valid here .inductiveType none
  have stillFree := Free.others fresh later .inductiveType none
  have constructorsDeclared := declareConstructors_gives valid others stillFree 1
  exact .bind (.ofExcept spelt _) (.bind (.ofExcept accepted _) (.bind (.get _)
    (.bind (.ofExcept checked _) (.bind typeDeclared (.bind constructorsDeclared (.pure ..))))))

omit valid in
/-- A declaration either fails and leaves the table as it was, or its names are different and free
and all of them are declared. -/
theorem declareInductive_cases (spelling : PathSpelling) (name : Value) (constructors : List Value)
    (table : SymbolTable) :
    (∃ error, (declareInductive spelling name constructors).Fails table error table) ∨
    ∃ path type names, spelling.toPath = .ok path ∧ name = .text type ∧
      constructors = names.map .text ∧ (type :: names).Nodup ∧
      ∀ name ∈ type :: names, table.Free path name := by
  cases spelt : spelling.toPath with
  | error error => exact .inl ⟨error, .bind (.ofExcept spelt _) _⟩
  | ok path =>
    cases distinct : checkDistinct (name :: constructors) with
    | error error =>
      exact .inl ⟨error, .after (.ofExcept spelt _) (.bind (.ofExcept distinct _) _)⟩
    | ok _ =>
      cases checked : (name :: constructors).forM (table.checkFree path) with
      | error error =>
        exact .inl ⟨error, .after (.ofExcept spelt _) (.after (.ofExcept distinct _)
          (.after (.get _) (.bind (.ofExcept checked _) _)))⟩
      | ok _ =>
        have free := (forM_eq_ok_iff ..).mp checked
        simp only [checkFree_eq_ok_iff] at free
        obtain ⟨names, same, each⟩ := exists_map_text free
        cases names with
        | nil => cases same
        | cons type names =>
          rw [same] at distinct
          obtain ⟨typeNamed, constructorsNamed⟩ := List.cons.inj same
          exact .inr ⟨path, type, names, rfl, typeNamed, constructorsNamed,
            (checkDistinct_eq_ok_iff _).mp distinct, each⟩

end SymbolTable

end UnaryNumeral
