namespace UnaryNumeral

/-- Entries in order of arrival, no key twice. -/
structure OrderedMap (κ : Type) (ν : Type) where
  entries : List (κ × ν) := []
  distinct : (entries.map Prod.fst).Nodup := by exact List.nodup_nil

namespace OrderedMap

variable {κ ν : Type}

def empty : OrderedMap κ ν := {}

instance : Inhabited (OrderedMap κ ν) := ⟨empty⟩

def keys (map : OrderedMap κ ν) : List κ := map.entries.map Prod.fst
def values (map : OrderedMap κ ν) : List ν := map.entries.map Prod.snd
def size (map : OrderedMap κ ν) : Nat := map.entries.length

variable [DecidableEq κ]

def find? (map : OrderedMap κ ν) (key : κ) : Option ν :=
  (map.entries.find? (·.1 = key)).map Prod.snd

def contains (map : OrderedMap κ ν) (key : κ) : Bool := (map.find? key).isSome

/-- The entries after a key was given a value: a known key keeps its place, a new one comes
last. -/
def insertEntry (key : κ) (value : ν) : List (κ × ν) → List (κ × ν)
  | [] => [(key, value)]
  | entry :: rest =>
    if entry.1 = key then (key, value) :: rest else entry :: insertEntry key value rest

theorem mem_keys_insertEntry (key k : κ) (value : ν) (entries : List (κ × ν)) :
    k ∈ (insertEntry key value entries).map Prod.fst ↔ k ∈ entries.map Prod.fst ∨ k = key := by
  induction entries with
  | nil => simp [insertEntry]
  | cons entry rest ih =>
    by_cases same : entry.1 = key
    · simp only [insertEntry, same, ↓reduceIte, List.map_cons, List.mem_cons]
      grind
    · simp only [insertEntry, same, ↓reduceIte, List.map_cons, List.mem_cons, ih, or_assoc]

theorem distinct_insertEntry (key : κ) (value : ν) (entries : List (κ × ν))
    (distinct : (entries.map Prod.fst).Nodup) :
    ((insertEntry key value entries).map Prod.fst).Nodup := by
  induction entries with
  | nil => simp [insertEntry]
  | cons entry rest ih =>
    simp only [List.map_cons, List.nodup_cons] at distinct
    by_cases same : entry.1 = key
    · subst same
      simpa [insertEntry] using distinct
    · simpa [insertEntry, same, mem_keys_insertEntry, ih distinct.2] using distinct.1

def insert (map : OrderedMap κ ν) (key : κ) (value : ν) : OrderedMap κ ν :=
  ⟨insertEntry key value map.entries, distinct_insertEntry key value _ map.distinct⟩

theorem find?_empty (key : κ) : (empty : OrderedMap κ ν).find? key = none := rfl

theorem find?_insert (map : OrderedMap κ ν) (key k : κ) (value : ν) :
    (map.insert key value).find? k = if k = key then some value else map.find? k := by
  suffices ∀ entries : List (κ × ν), ((insertEntry key value entries).find? (·.1 = k)).map Prod.snd =
      if k = key then some value else (entries.find? (·.1 = k)).map Prod.snd from this _
  intro entries
  induction entries with
  | nil => by_cases same : k = key <;> simp [insertEntry, same, Ne.symm]
  | cons entry rest ih =>
    by_cases first : entry.1 = key <;> by_cases same : k = key <;>
      by_cases here : entry.1 = k <;> grind [insertEntry]

theorem keys_insert (map : OrderedMap κ ν) (key : κ) (value : ν) :
    (map.insert key value).keys = if key ∈ map.keys then map.keys else map.keys ++ [key] := by
  suffices ∀ entries : List (κ × ν), (insertEntry key value entries).map Prod.fst =
      if key ∈ entries.map Prod.fst then entries.map Prod.fst
      else entries.map Prod.fst ++ [key] from this _
  intro entries
  induction entries with
  | nil => simp [insertEntry]
  | cons entry rest ih =>
    by_cases first : entry.1 = key
    · simp [insertEntry, first]
    · simp only [insertEntry, first, ↓reduceIte, List.map_cons, ih, List.mem_cons,
        Ne.symm first, false_or]
      split <;> rfl

/-- A new key comes last, and nothing else is moved. -/
theorem entries_insert_of_find?_eq_none {map : OrderedMap κ ν} {key : κ}
    (absent : map.find? key = none) (value : ν) :
    (map.insert key value).entries = map.entries ++ [(key, value)] := by
  have new : ∀ entry ∈ map.entries, entry.1 ≠ key := by
    simpa [find?] using absent
  suffices ∀ entries : List (κ × ν), (∀ entry ∈ entries, entry.1 ≠ key) →
      insertEntry key value entries = entries ++ [(key, value)] from this _ new
  intro entries new
  induction entries with
  | nil => rfl
  | cons entry rest ih =>
    obtain ⟨first, others⟩ := List.forall_mem_cons.mp new
    rw [insertEntry, if_neg first, ih others, List.cons_append]

theorem find?_of_mem_entries {map : OrderedMap κ ν} {key : κ} {value : ν}
    (listed : (key, value) ∈ map.entries) : map.find? key = some value := by
  obtain ⟨before, after, split⟩ := List.append_of_mem listed
  have distinct := map.distinct
  rw [split, List.map_append, List.map_cons, List.nodup_append] at distinct
  have absent : before.find? (·.1 = key) = none := by
    rw [List.find?_eq_none]
    intro entry member
    have apart := distinct.2.2 entry.1 (List.mem_map_of_mem member) key (List.mem_cons_self ..)
    simpa using apart
  simp [find?, split, List.find?_append, absent]

theorem find?_eq_some_iff (map : OrderedMap κ ν) (key : κ) (value : ν) :
    map.find? key = some value ↔ (key, value) ∈ map.entries := by
  constructor
  · intro found
    simp only [find?, Option.map_eq_some_iff] at found
    obtain ⟨⟨owner, stored⟩, first, rfl⟩ := found
    have same : owner = key := by simpa using List.find?_some first
    subst same
    exact List.mem_of_find?_eq_some first
  · exact find?_of_mem_entries

theorem mem_keys_iff (map : OrderedMap κ ν) (key : κ) :
    key ∈ map.keys ↔ ∃ value, map.find? key = some value := by
  simp [keys, find?_eq_some_iff]

theorem mem_values_iff (map : OrderedMap κ ν) (value : ν) :
    value ∈ map.values ↔ ∃ key, map.find? key = some value := by
  simp [values, find?_eq_some_iff]

end OrderedMap

end UnaryNumeral
