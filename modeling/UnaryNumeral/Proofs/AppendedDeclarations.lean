import UnaryNumeral.Proofs.FreshEnvironment

/-! Declarations only append. One that succeeds puts its handles behind those that are there, in the
order in which it names them; one that fails changes nothing. So what a name stands for is settled
once it is declared, as long as the table is not cleared. -/

namespace UnaryNumeral

namespace SymbolTable

/-- What a declaration needs: its path is spelled right, and its names are short names, all
different and free under the path. -/
structure Admits (table : SymbolTable) (spelling : PathSpelling) (values : List Value)
    (path : Path) (names : List String) : Prop where
  spelt : spelling.toPath = .ok path
  texts : values = names.map .text
  distinct : names.Nodup
  free : ∀ name ∈ names, table.Free path name

/-- A later table has the entries of an earlier one in the same order and, behind them, those of
further handles, each under its own path and name. -/
def Appends (before after : SymbolTable) (handles : List Handle) : Prop :=
  after.entries.entries =
    before.entries.entries ++ handles.map fun handle => ((handle.path, handle.name), handle)

namespace Appends

theorem refl (table : SymbolTable) : Appends table table [] := (List.append_nil _).symm

theorem trans {before middle after : SymbolTable} {handles more : List Handle}
    (first : Appends before middle handles) (second : Appends middle after more) :
    Appends before after (handles ++ more) := by
  rw [Appends, second, first, List.map_append, List.append_assoc]

theorem find? {before after : SymbolTable} {handles : List Handle}
    (appends : Appends before after handles) {key : Path × String} {handle : Handle}
    (found : before.entries.find? key = some handle) : after.entries.find? key = some handle := by
  rw [OrderedMap.find?_eq_some_iff] at found ⊢
  rw [appends]
  exact List.mem_append_left _ found

theorem find?_of_ne {before after : SymbolTable} {handles : List Handle}
    (appends : Appends before after handles) {key : Path × String}
    (other : ∀ handle ∈ handles, (handle.path, handle.name) ≠ key) :
    after.entries.find? key = before.entries.find? key := by
  have absent : (handles.map fun handle => ((handle.path, handle.name), handle)).find?
      (·.1 = key) = none := by
    simpa [List.find?_eq_none] using other
  rw [OrderedMap.find?, appends, List.find?_append, absent, Option.or_none, OrderedMap.find?]

theorem resolve {before after : SymbolTable} {handles : List Handle}
    (appends : Appends before after handles) {spelling : PathSpelling} {name : String}
    {handle : Handle} (resolved : before.resolve spelling name = .ok handle) :
    after.resolve spelling name = .ok handle := by
  rw [resolve_eq_ok_iff] at resolved ⊢
  obtain ⟨path, spelt, found⟩ := resolved
  exact ⟨path, spelt, appends.find? found⟩

end Appends

theorem appends_extend {table : SymbolTable} {handle : Handle}
    (free : table.Free handle.path handle.name) : Appends table (table.extend handle) [handle] :=
  OrderedMap.entries_insert_of_find?_eq_none free.vacant handle

theorem appends_extendAll {table : SymbolTable} {handles : List Handle}
    (distinct : (handles.map Handle.name).Nodup)
    (free : ∀ handle ∈ handles, table.Free handle.path handle.name) :
    Appends table (table.extendAll handles) handles := by
  induction handles generalizing table with
  | nil => exact .refl table
  | cons handle rest ih =>
    obtain ⟨fresh, different⟩ := List.nodup_cons.mp distinct
    obtain ⟨here, later⟩ := List.forall_mem_cons.mp free
    have stillFree : ∀ other ∈ rest, (table.extend handle).Free other.path other.name := by
      intro other member
      apply (later other member).extend
      intro same
      exact fresh (same ▸ List.mem_map_of_mem member)
    exact (appends_extend here).trans (ih different stillFree)

theorem constructorHandles_eq_mapIdx (path : Path) (position : Nat) (names : List String) :
    constructorHandles path position names =
      names.mapIdx fun i name => ⟨.constructor, path, name, some ((position + i : Nat) : Int)⟩ := by
  induction names generalizing position with
  | nil => rfl
  | cons name rest ih =>
    rw [constructorHandles, ih, List.mapIdx_cons]
    simp only [Nat.add_zero, Nat.add_assoc, Nat.add_comm 1]

theorem map_name_constructorHandles (path : Path) (position : Nat) (names : List String) :
    (constructorHandles path position names).map Handle.name = names := by
  induction names generalizing position with
  | nil => rfl
  | cons name rest ih => rw [constructorHandles, List.map_cons, ih]

theorem of_mem_declared {path : Path} {type : String} {names : List String} {handle : Handle}
    (member : handle ∈
      (⟨.inductiveType, path, type, none⟩ :: constructorHandles path 1 names : List Handle)) :
    handle.path = path ∧ handle.name ∈ type :: names := by
  rcases List.mem_cons.mp member with rfl | later
  · exact ⟨rfl, List.mem_cons_self ..⟩
  · have named := List.mem_map_of_mem (f := Handle.name) later
    rw [map_name_constructorHandles] at named
    rw [constructorHandles_eq_mapIdx] at later
    obtain ⟨i, inside, rfl⟩ := List.mem_mapIdx.mp later
    exact ⟨rfl, List.mem_cons_of_mem _ named⟩

/-- A type and its constructors are put behind the handles of the table. -/
theorem appends_declared {table : SymbolTable} {path : Path} {type : String} {names : List String}
    (distinct : (type :: names).Nodup) (free : ∀ name ∈ type :: names, table.Free path name) :
    Appends table
      ((table.extend ⟨.inductiveType, path, type, none⟩).extendAll
        (constructorHandles path 1 names))
      (⟨.inductiveType, path, type, none⟩ :: constructorHandles path 1 names) := by
  refine @appends_extendAll table (⟨.inductiveType, path, type, none⟩ :: _) ?_ ?_
  · rw [List.map_cons, map_name_constructorHandles]
    exact distinct
  · intro handle member
    obtain ⟨under, named⟩ := of_mem_declared member
    rw [under]
    exact free handle.name named

theorem declare_outcome (table : SymbolTable) (path : PathSpelling) (name : Value) (kind : Kind)
    (index : Option Int) :
    (∃ found short left, table.Admits path [name] found [short] ∧
      (declare path name kind index).Gives table ⟨kind, found, short, index⟩ left ∧
      Appends table left [⟨kind, found, short, index⟩]) ∨
    (∀ found names, ¬ table.Admits path [name] found names) ∧
      ∃ error, (declare path name kind index).Fails table error table := by
  by_cases admitted : ∃ found names, table.Admits path [name] found names
  · obtain ⟨found, names, admits⟩ := admitted
    obtain ⟨short, rest, rfl⟩ : ∃ short rest, names = short :: rest := by
      cases names with
      | nil => cases admits.texts
      | cons short rest => exact ⟨short, rest, rfl⟩
    obtain ⟨named, none⟩ := List.cons.inj admits.texts
    obtain rfl : rest = [] := List.map_eq_nil_iff.mp none.symm
    have free := admits.free short (List.mem_cons_self ..)
    have checked := (checkName_eq_ok_iff name short).mpr ⟨named, free.short⟩
    have gives := declare_of_free admits.spelt checked free.vacant kind index
    exact .inl ⟨found, short, _, admits, gives, appends_extend free⟩
  · refine .inr ⟨fun found names admits => admitted ⟨found, names, admits⟩, ?_⟩
    rcases declare_cases path name kind index table with
      failed | ⟨found, short, spelt, named, vacant, -⟩
    · exact failed
    · obtain ⟨rfl, shortName⟩ := (checkName_eq_ok_iff name short).mp named
      refine absurd ⟨found, [short], spelt, rfl, by simp, ?_⟩ admitted
      intro other member
      rw [List.mem_singleton.mp member]
      exact ⟨shortName, vacant⟩

theorem declareInductive_outcome (table : SymbolTable) (path : PathSpelling) (name : Value)
    (constructors : List Value) :
    (∃ found type names left, table.Admits path (name :: constructors) found (type :: names) ∧
      (declareInductive path name constructors).Gives table
        (⟨.inductiveType, found, type, none⟩, constructorHandles found 1 names) left ∧
      Appends table left
        (⟨.inductiveType, found, type, none⟩ :: constructorHandles found 1 names)) ∨
    (∀ found names, ¬ table.Admits path (name :: constructors) found names) ∧
      ∃ error, (declareInductive path name constructors).Fails table error table := by
  by_cases admitted : ∃ found names, table.Admits path (name :: constructors) found names
  · obtain ⟨found, names, admits⟩ := admitted
    obtain ⟨type, rest, rfl⟩ : ∃ type rest, names = type :: rest := by
      cases names with
      | nil => cases admits.texts
      | cons type rest => exact ⟨type, rest, rfl⟩
    obtain ⟨rfl, rfl⟩ := List.cons.inj admits.texts
    exact .inl ⟨found, type, rest, _, admits,
      declareInductive_gives admits.spelt admits.distinct admits.free,
      appends_declared admits.distinct admits.free⟩
  · refine .inr ⟨fun found names admits => admitted ⟨found, names, admits⟩, ?_⟩
    rcases declareInductive_cases path name constructors table with
      failed | ⟨found, type, names, spelt, rfl, rfl, distinct, free⟩
    · exact failed
    · exact absurd ⟨found, type :: names, spelt, rfl, distinct, free⟩ admitted

/-- The paths and names under which a call declares an entity, if it succeeds. -/
def Call.Declares : Call → Path → String → Prop
  | .declare spelling value _ _, path, name => spelling.toPath = .ok path ∧ value = .text name
  | .declareInductive spelling value constructors, path, name =>
    spelling.toPath = .ok path ∧ .text name ∈ value :: constructors
  | .declareNat spelling, path, name =>
    spelling.toPath = .ok path ∧ name ∈ [natName, zeroName, succName]
  | .clear, _, _ => False

private theorem declares_of_admits {table : SymbolTable} {spelling : PathSpelling}
    {values : List Value} {path : Path} {type : String} {names : List String}
    (admits : table.Admits spelling values path (type :: names)) {handle : Handle}
    (member : handle ∈
      (⟨.inductiveType, path, type, none⟩ :: constructorHandles path 1 names : List Handle)) :
    spelling.toPath = .ok handle.path ∧ .text handle.name ∈ values := by
  obtain ⟨under, named⟩ := of_mem_declared member
  rw [under, admits.texts]
  exact ⟨admits.spelt, List.mem_map_of_mem named⟩

theorem exists_appends_declared (table : SymbolTable) {call : Call} (kept : call ≠ .clear) :
    ∃ handles, Appends table (table.after call) handles ∧
      ∀ handle ∈ handles, call.Declares handle.path handle.name := by
  cases call with
  | declare path name kind index =>
    rcases table.declare_outcome path name kind index with
      ⟨found, short, left, admits, gives, appends⟩ | ⟨-, error, failed⟩
    · rw [after, gives.state]
      refine ⟨_, appends, List.forall_mem_singleton.mpr ⟨admits.spelt, ?_⟩⟩
      exact (List.cons.inj admits.texts).1
    · rw [after, failed.state]
      exact ⟨[], .refl table, List.forall_mem_nil _⟩
  | declareInductive path name constructors =>
    rcases table.declareInductive_outcome path name constructors with
      ⟨found, type, names, left, admits, gives, appends⟩ | ⟨-, error, failed⟩
    · rw [after, gives.state]
      exact ⟨_, appends, fun handle => declares_of_admits admits⟩
    · rw [after, failed.state]
      exact ⟨[], .refl table, List.forall_mem_nil _⟩
  | declareNat path =>
    rcases table.declareInductive_outcome path (.text natName) [.text zeroName, .text succName] with
      ⟨found, type, names, left, admits, gives, appends⟩ | ⟨-, error, failed⟩
    · rw [after, declareNat, gives.state]
      refine ⟨_, appends, ?_⟩
      intro handle member
      obtain ⟨spelt, named⟩ := declares_of_admits admits member
      exact ⟨spelt, by simpa using named⟩
    · rw [after, declareNat, failed.state]
      exact ⟨[], .refl table, List.forall_mem_nil _⟩
  | clear => exact absurd rfl kept

theorem exists_appends_after_all (table : SymbolTable) {calls : List Call}
    (kept : ∀ call ∈ calls, call ≠ .clear) :
    ∃ handles, Appends table (calls.foldl SymbolTable.after table) handles := by
  induction calls generalizing table with
  | nil => exact ⟨[], .refl table⟩
  | cons call rest ih =>
    obtain ⟨first, others⟩ := List.forall_mem_cons.mp kept
    obtain ⟨handles, appends, -⟩ := table.exists_appends_declared first
    obtain ⟨more, later⟩ := ih (table.after call) others
    exact ⟨handles ++ more, appends.trans later⟩

/-- The number type is declared as a whole or not at all. -/
theorem declareNat_outcome (table : SymbolTable) (path : PathSpelling) :
    (∃ found left,
      table.Admits path ([natName, zeroName, succName].map .text) found
        [natName, zeroName, succName] ∧
      (declareNat path).Gives table
        ((Codec.under found).nat, [(Codec.under found).zero, (Codec.under found).succ]) left ∧
      Appends table left
        [(Codec.under found).nat, (Codec.under found).zero, (Codec.under found).succ]) ∨
    (∀ found names, ¬ table.Admits path ([natName, zeroName, succName].map .text) found names) ∧
      ∃ error, (declareNat path).Fails table error table := by
  rcases table.declareInductive_outcome path (.text natName) [.text zeroName, .text succName] with
    ⟨found, type, names, left, admits, gives, appends⟩ | failed
  · have same : [natName, zeroName, succName] = type :: names :=
      (List.map_inj_right fun _ _ => Value.text.inj).mp admits.texts
    obtain ⟨rfl, rfl⟩ := List.cons.inj same
    exact .inl ⟨found, left, admits, gives, appends⟩
  · exact .inr failed

/-- Declarations are all or nothing, and they only append. Whatever calls a table has been through,
a declaration succeeds just when its path and its names are in order, and then its handles stand, in
the order of their names, behind those that the table had: the one of an entity with the kind and
index that it was given, those of a type as an inductive type without index and constructors that
count from one. Otherwise it fails, and the table is the same as before. So as long as the table is
not cleared, it only grows at its end, and a name that resolves to a handle does so for good. -/
theorem declarations_append (earlier : List Call) :
    let table := earlier.foldl SymbolTable.after empty
    (∀ path name kind index,
      (∃ found short left, table.Admits path [name] found [short] ∧
        (declare path name kind index).Gives table ⟨kind, found, short, index⟩ left ∧
        Appends table left [⟨kind, found, short, index⟩]) ∨
      (∀ found names, ¬ table.Admits path [name] found names) ∧
        ∃ error, (declare path name kind index).Fails table error table) ∧
    (∀ path name constructors,
      (∃ found type names left, table.Admits path (name :: constructors) found (type :: names) ∧
        let made : List Handle :=
          names.mapIdx fun i short => ⟨.constructor, found, short, some ((1 + i : Nat) : Int)⟩
        (declareInductive path name constructors).Gives table
          (⟨.inductiveType, found, type, none⟩, made) left ∧
        Appends table left (⟨.inductiveType, found, type, none⟩ :: made)) ∨
      (∀ found names, ¬ table.Admits path (name :: constructors) found names) ∧
        ∃ error, (declareInductive path name constructors).Fails table error table) ∧
    (∀ path,
      (∃ found left,
        table.Admits path ([natName, zeroName, succName].map .text) found
          [natName, zeroName, succName] ∧
        (declareNat path).Gives table
          ((Codec.under found).nat, [(Codec.under found).zero, (Codec.under found).succ]) left ∧
        Appends table left
          [(Codec.under found).nat, (Codec.under found).zero, (Codec.under found).succ]) ∨
      (∀ found names, ¬ table.Admits path ([natName, zeroName, succName].map .text) found names) ∧
        ∃ error, (declareNat path).Fails table error table) ∧
    ∀ later : List Call, (∀ call ∈ later, call ≠ .clear) →
      (∃ handles, Appends table (later.foldl SymbolTable.after table) handles) ∧
      ∀ path name handle, table.resolve path name = .ok handle →
        (later.foldl SymbolTable.after table).resolve path name = .ok handle := by
  intro table
  refine ⟨table.declare_outcome, ?_, table.declareNat_outcome, ?_⟩
  · intro path name constructors
    have outcome := table.declareInductive_outcome path name constructors
    simp only [constructorHandles_eq_mapIdx] at outcome
    exact outcome
  · intro later kept
    obtain ⟨handles, appends⟩ := table.exists_appends_after_all kept
    exact ⟨⟨handles, appends⟩, fun path name handle => appends.resolve⟩

/-- A name of the number type outlasts a clash and a further declaration. -/
theorem declarations_append_standard :
    let table := [Call.declareNat (.dotted "Top")].foldl SymbolTable.after empty
    let later : List Call :=
      [.declareInductive (.dotted "Top") (.text "list") [.text "nil", .text "S"],
        .declare (.dotted "Top") (.text "x") .constant none]
    (∀ call ∈ later, call ≠ .clear) ∧
      table.resolve (.dotted "Top") "S" = .ok ⟨.constructor, ["Top"], "S", some 2⟩ ∧
      (later.foldl SymbolTable.after table).resolve (.dotted "Top") "S" =
        .ok ⟨.constructor, ["Top"], "S", some 2⟩ := by
  intro table later
  have kept : ∀ call ∈ later, call ≠ .clear := by simp [later]
  have resolved : table.resolve (.dotted "Top") "S" =
      .ok ⟨.constructor, ["Top"], "S", some 2⟩ := rfl
  obtain ⟨-, -, -, forGood⟩ := declarations_append [.declareNat (.dotted "Top")]
  exact ⟨kept, resolved, (forGood later kept).2 _ _ _ resolved⟩

end SymbolTable

end UnaryNumeral
