import UnaryNumeral.Environment
import UnaryNumeral.Proofs.Ascending
import UnaryNumeral.Proofs.Effects
import UnaryNumeral.Proofs.PathSpelling

namespace UnaryNumeral

namespace SymbolTable

/-- A call that changes the declared entities. -/
inductive Call where
  | declare (path : PathSpelling) (name : Value) (kind : Kind) (index : Option Int)
  | declareInductive (path : PathSpelling) (name : Value) (constructors : List Value)
  | declareNat (path : PathSpelling)
  | clear

/-- The table after a call, whether the call succeeds or fails. -/
def after (table : SymbolTable) : Call → SymbolTable
  | .declare path name kind index => ((SymbolTable.declare path name kind index).run table).state
  | .declareInductive path name constructors =>
    ((SymbolTable.declareInductive path name constructors).run table).state
  | .declareNat path => ((SymbolTable.declareNat path).run table).state
  | .clear => (SymbolTable.clear.run table).state

/-- A handle under the path and name that it was declared with, both of them well formed. -/
structure Entry (key : Path × String) (handle : Handle) : Prop where
  path : handle.path = key.1
  name : handle.name = key.2
  segments : ∀ segment ∈ key.1, Path.Segment segment
  short : ShortName key.2

def WellFormed (table : SymbolTable) : Prop :=
  ∀ key handle, table.entries.find? key = some handle → Entry key handle

theorem wellFormed_empty : empty.WellFormed := by
  intro key handle found
  cases found

/-- The table with one more handle, under the path and name of the handle. -/
def extend (table : SymbolTable) (handle : Handle) : SymbolTable :=
  ⟨table.entries.insert (handle.path, handle.name) handle⟩

theorem find?_extend (table : SymbolTable) (handle : Handle) (key : Path × String) :
    (table.extend handle).entries.find? key =
      if key = (handle.path, handle.name) then some handle else table.entries.find? key :=
  table.entries.find?_insert ..

theorem declare_of_free {path : PathSpelling} {found : Path} {name : Value} {short : String}
    {table : SymbolTable} (spelt : path.toPath = .ok found) (named : checkName name = .ok short)
    (free : table.entries.find? (found, short) = none) (kind : Kind) (index : Option Int) :
    (declare path name kind index).Gives table ⟨kind, found, short, index⟩
      (table.extend ⟨kind, found, short, index⟩) := by
  refine .bind (.ofExcept spelt _) (.bind (.ofExcept named _) (.bind (.get _) ?_))
  have vacant : table.entries.contains (found, short) = false := by
    rw [OrderedMap.contains, free, Option.isSome_none]
  rw [vacant]
  exact .bind (.put _ _) (.bind (.note ..) (.pure _ _))

/-- A declaration fails and leaves the table as it was, or it adds a handle under a path and a short
name that were free. -/
theorem declare_cases (path : PathSpelling) (name : Value) (kind : Kind) (index : Option Int)
    (table : SymbolTable) :
    (∃ error, (declare path name kind index).Fails table error table) ∨
    ∃ found short, path.toPath = .ok found ∧ checkName name = .ok short ∧
      table.entries.find? (found, short) = none ∧
      (declare path name kind index).Gives table ⟨kind, found, short, index⟩
        (table.extend ⟨kind, found, short, index⟩) := by
  cases spelt : path.toPath with
  | error error => exact .inl ⟨error, .bind (.ofExcept spelt _) _⟩
  | ok found =>
    cases named : checkName name with
    | error error => exact .inl ⟨error, .after (.ofExcept spelt _) (.bind (.ofExcept named _) _)⟩
    | ok short =>
      cases taken : table.entries.find? (found, short) with
      | some handle =>
        have occupied : table.entries.contains (found, short) = true := by
          rw [OrderedMap.contains, taken, Option.isSome_some]
        refine .inl ⟨.alreadyDeclared found short, ?_⟩
        refine .after (.ofExcept spelt _) (.after (.ofExcept named _) (.after (.get _) ?_))
        rw [if_pos occupied]
        exact .fail _ _
      | none =>
        exact .inr ⟨found, short, rfl, rfl, taken, declare_of_free spelt named taken kind index⟩

theorem declare_keeps (path : PathSpelling) (name : Value) (kind : Kind) (index : Option Int) :
    (declare path name kind index).Keeps WellFormed := by
  intro table wellFormed
  rcases declare_cases path name kind index table with
    ⟨error, failed⟩ | ⟨found, short, spelt, named, -, declared⟩
  · rw [failed.state]
    exact wellFormed
  · rw [declared.state]
    intro key handle stored
    rw [find?_extend] at stored
    split at stored
    · rename_i here
      cases stored
      subst here
      have valid := ((PathSpelling.toPath_eq_ok_iff path found).mp spelt).2
      have segments : ∀ segment ∈ found, Path.Segment segment := by
        intro segment member
        exact (Path.isSegment_iff segment).mp (valid segment member)
      exact ⟨rfl, rfl, segments, ((checkName_eq_ok_iff name short).mp named).2⟩
    · exact wellFormed key handle stored

theorem declareConstructors_keeps (path : Path) (position : Nat) (names : List Value) :
    (declareConstructors path position names).Keeps WellFormed := by
  induction names generalizing position with
  | nil => exact .pure []
  | cons name rest ih =>
    refine .bind (declare_keeps path.spelled name .constructor (some position)) fun handle => ?_
    exact .bind (ih (position + 1)) fun handles => .pure (handle :: handles)

theorem declareInductive_keeps (path : PathSpelling) (name : Value) (constructors : List Value) :
    (declareInductive path name constructors).Keeps WellFormed := by
  -- The checks leave the table alone, whatever they say; only the declarations behind them count.
  refine .bind (.ofExcept path.toPath) fun found => ?_
  refine .bind (.ofExcept _) fun distinct => ?_
  refine .bind .get fun table => ?_
  refine .bind (.ofExcept _) fun free => ?_
  refine .bind (declare_keeps found.spelled name .inductiveType none) fun type => ?_
  exact .bind (declareConstructors_keeps found 1 constructors) fun handles => .pure (type, handles)

theorem WellFormed.after {table : SymbolTable} (wellFormed : table.WellFormed) (call : Call) :
    (table.after call).WellFormed := by
  cases call with
  | declare path name kind index => exact declare_keeps path name kind index table wellFormed
  | declareInductive path name constructors =>
    exact declareInductive_keeps path name constructors table wellFormed
  | declareNat path => exact declareInductive_keeps path _ _ table wellFormed
  | clear => exact wellFormed_empty

theorem WellFormed.after_all {table : SymbolTable} (wellFormed : table.WellFormed)
    (calls : List Call) : (calls.foldl SymbolTable.after table).WellFormed := by
  induction calls generalizing table with
  | nil => exact wellFormed
  | cons call rest ih => exact ih (wellFormed.after call)

theorem resolve_eq_ok_iff (table : SymbolTable) (path : PathSpelling) (name : String)
    (handle : Handle) :
    table.resolve path name = .ok handle ↔
      ∃ found, path.toPath = .ok found ∧ table.entries.find? (found, name) = some handle := by
  unfold resolve
  rw [bind_eq_ok_iff]
  apply exists_congr
  intro found
  apply and_congr_right
  intro spelt
  cases table.entries.find? (found, name) <;> simp

theorem Entry.valid {key : Path × String} {handle : Handle} (entry : Entry key handle) :
    ∀ segment ∈ key.1, Path.isSegment segment = true := by
  intro segment member
  exact (Path.isSegment_iff segment).mpr (entry.segments segment member)

theorem Entry.qualifiedName {key : Path × String} {handle : Handle} (entry : Entry key handle) :
    handle.qualifiedName = key.1.qualified key.2 := by
  rw [Handle.qualifiedName, entry.path, entry.name]

theorem mem_handles_iff (table : SymbolTable) (handle : Handle) :
    handle ∈ table.handles ↔ ∃ key, table.entries.find? key = some handle :=
  table.entries.mem_values_iff handle

/-- A dotted name leads to a handle exactly when the handle is in the table and has that dotted
name. -/
theorem WellFormed.resolveQualified_eq_ok_iff {table : SymbolTable} (wellFormed : table.WellFormed)
    (name : String) (handle : Handle) :
    table.resolveQualified name = .ok handle ↔
      handle ∈ table.handles ∧ handle.qualifiedName = name := by
  unfold resolveQualified
  rw [resolve_eq_ok_iff, mem_handles_iff]
  constructor
  · intro found
    obtain ⟨path, spelt, stored⟩ := found
    have entry := wellFormed _ handle stored
    obtain ⟨rfl, -⟩ := (Path.toPath_spelled_eq_ok_iff _ path).mp spelt
    refine ⟨⟨_, stored⟩, ?_⟩
    rw [entry.qualifiedName]
    exact Path.qualified_pieces name
  · intro listed
    obtain ⟨⟨key, stored⟩, rfl⟩ := listed
    have entry := wellFormed key handle stored
    have split := Path.pieces_qualified entry.segments entry.short
    rw [entry.qualifiedName, split, List.dropLast_concat]
    refine ⟨key.1, PathSpelling.toPath_spelled key.1 entry.valid, ?_⟩
    simpa using stored

/-- Entries apart in path or name are apart in their dotted names: each of these leads back to one
handle, and a handle to its path and name. -/
theorem WellFormed.nodup_qualifiedNames {table : SymbolTable} (wellFormed : table.WellFormed) :
    (table.handles.map Handle.qualifiedName).Nodup := by
  have split : table.handles.map Handle.qualifiedName =
      table.entries.entries.map fun entry => entry.2.qualifiedName := by
    simp [handles, OrderedMap.values, Function.comp_def]
  rw [split]
  apply List.pairwise_map.mpr
  apply (List.pairwise_map.mp table.entries.distinct).imp_of_mem
  intro first second firstListed secondListed apart same
  have firstStored := (table.entries.find?_eq_some_iff first.1 first.2).mpr firstListed
  have secondStored := (table.entries.find?_eq_some_iff second.1 second.2).mpr secondListed
  have firstFound := (wellFormed.resolveQualified_eq_ok_iff _ first.2).mpr
    ⟨(table.mem_handles_iff first.2).mpr ⟨first.1, firstStored⟩, same⟩
  have secondFound := (wellFormed.resolveQualified_eq_ok_iff _ second.2).mpr
    ⟨(table.mem_handles_iff second.2).mpr ⟨second.1, secondStored⟩, rfl⟩
  have handle : first.2 = second.2 := by
    rw [firstFound] at secondFound
    exact Except.ok.inj secondFound
  have firstEntry := wellFormed first.1 first.2 firstStored
  have secondEntry := wellFormed second.1 second.2 secondStored
  apply apart
  apply Prod.ext
  · rw [← firstEntry.path, handle, secondEntry.path]
  · rw [← firstEntry.name, handle, secondEntry.name]

theorem list_perm (table : SymbolTable) :
    table.list.Perm (table.handles.map Handle.qualifiedName) := List.mergeSort_perm ..

theorem WellFormed.pairwise_list {table : SymbolTable} (wellFormed : table.WellFormed) :
    table.list.Pairwise (· < ·) := pairwise_lt_mergeSort wellFormed.nodup_qualifiedNames

theorem length_list (table : SymbolTable) : table.list.length = table.size := by
  rw [table.list_perm.length_eq, List.length_map, handles, OrderedMap.values, List.length_map, size,
    OrderedMap.size]

/-- Whatever calls a table has been through, from the empty one on and failing ones included: each
entry is a handle with its own well-formed path and name, which either spelling of the path and its
dotted name lead to; no two entries share a dotted name, so that the list of all of them is strictly
ascending and as long as the table; and any other text leads to an error. -/
theorem entries_after_calls (calls : List Call) :
    let table := calls.foldl SymbolTable.after empty
    (∀ path name handle, ((path, name), handle) ∈ table.entries.entries →
      handle.path = path ∧ handle.name = name ∧
        (∀ segment ∈ path, Path.Segment segment) ∧ ShortName name ∧
        table.resolve path.spelled name = .ok handle ∧
        table.resolve (.dotted path.dotted) name = .ok handle ∧
        table.resolveQualified handle.qualifiedName = .ok handle) ∧
      (table.handles.map Handle.qualifiedName).Nodup ∧
      table.list.Pairwise (· < ·) ∧ table.list.length = table.size ∧
      (∀ name, name ∈ table.list ↔ ∃ handle ∈ table.handles, handle.qualifiedName = name) ∧
      ∀ name, (∀ handle ∈ table.handles, handle.qualifiedName ≠ name) →
        ∃ error, table.resolveQualified name = .error error := by
  intro table
  have wellFormed : table.WellFormed := wellFormed_empty.after_all calls
  refine ⟨?_, wellFormed.nodup_qualifiedNames, wellFormed.pairwise_list, table.length_list, ?_, ?_⟩
  · intro path name handle listed
    have stored := (table.entries.find?_eq_some_iff (path, name) handle).mpr listed
    have entry := wellFormed (path, name) handle stored
    have spelled := PathSpelling.toPath_spelled path entry.valid
    have dotted := Path.toPath_dotted entry.valid
    have member := (table.mem_handles_iff handle).mpr ⟨(path, name), stored⟩
    exact ⟨entry.path, entry.name, entry.segments, entry.short,
      (table.resolve_eq_ok_iff ..).mpr ⟨path, spelled, stored⟩,
      (table.resolve_eq_ok_iff ..).mpr ⟨path, dotted, stored⟩,
      (wellFormed.resolveQualified_eq_ok_iff ..).mpr ⟨member, rfl⟩⟩
  · intro name
    rw [table.list_perm.mem_iff, List.mem_map]
  · intro name unknown
    cases found : table.resolveQualified name with
    | ok handle =>
      obtain ⟨member, named⟩ := (wellFormed.resolveQualified_eq_ok_iff name handle).mp found
      exact absurd named (unknown handle member)
    | error error => exact ⟨error, rfl⟩

/-- A second declaration of a name changes nothing, a segment may hold a blank inside, and a name at
the root is its own dotted name. -/
example :
    ([.declareNat (.dotted "Top"), .declare (.dotted "Top") (.text "S") .constant none,
      .declare (.segments [.text "a b"]) (.text "c") .constant none,
      .declare (.dotted "") (.text "d") .constant none].foldl SymbolTable.after
        empty).handles.map Handle.qualifiedName =
      ["Top.nat", "Top.O", "Top.S", "a b.c", "d"] := by decide +kernel

end SymbolTable

end UnaryNumeral
