import Mathlib.Data.List.DropRight
import UnaryNumeral.Proofs.Ascending
import UnaryNumeral.Proofs.LiteralElaboration
import UnaryNumeral.Proofs.NotationEffects

/-! What a notation table answers, told from the calls that it has been through: the table is the
replay of the calls that have succeeded since it was last cleared. -/

namespace UnaryNumeral

namespace OrderedMap

variable {κ ν : Type} [DecidableEq κ]

/-- The map that is left when entries are stored one after another. -/
def ofList (entries : List (κ × ν)) : OrderedMap κ ν :=
  entries.foldl (fun map entry => map.insert entry.1 entry.2) empty

theorem ofList_concat (entries : List (κ × ν)) (entry : κ × ν) :
    ofList (entries ++ [entry]) = (ofList entries).insert entry.1 entry.2 := List.foldl_append ..

/-- The last entry of a key decides. -/
theorem find?_ofList (entries : List (κ × ν)) (key : κ) :
    (ofList entries).find? key = (entries.filter (·.1 = key)).getLast?.map Prod.snd := by
  induction entries using List.reverseRecOn with
  | nil => rfl
  | append_singleton entries entry ih =>
    rw [ofList_concat, find?_insert, ih, List.filter_append]
    by_cases same : key = entry.1
    · simp [same]
    · simp [same, Ne.symm same]

/-- The first key with a property is the first one to arrive: keys keep their places. -/
theorem keys_find?_ofList (entries : List (κ × ν)) (property : κ → Bool) :
    (ofList entries).keys.find? property = (entries.map Prod.fst).find? property := by
  induction entries using List.reverseRecOn with
  | nil => rfl
  | append_singleton entries entry ih =>
    rw [ofList_concat, keys_insert, List.map_append, List.find?_append, ← ih]
    split
    · rename_i known
      cases first : (ofList entries).keys.find? property with
      | some key => rfl
      | none =>
        have fails := List.find?_eq_none.mp first entry.1 known
        simp [fails]
    · exact List.find?_append

theorem map_fst_find?_entries [DecidableEq ν] (map : OrderedMap κ ν) (value : ν) :
    (map.entries.find? (·.2 = value)).map Prod.fst =
      map.keys.find? fun key => map.find? key = some value := by
  rw [keys, List.find?_map, ← List.head?_filter, ← List.head?_filter]
  congr 2
  apply List.filter_congr
  intro entry listed
  have stored := (map.find?_eq_some_iff entry.1 entry.2).mpr listed
  simp [stored]

end OrderedMap

/-- The interpreter that a scope has after it was registered for, with the first or with the last
one. -/
def Policy.inForce : Policy → List Interpreter → Option Interpreter
  | .replace, registered => registered.getLast?
  | .strict, registered => registered.head?

namespace NotationTable

/-- A call that changes the interpreters or the keys. -/
inductive Call where
  | declareInterpreter (scope : String) (origin : Origin) (encoder : Option Encoder)
      (printRefs : List Operand) (decoder : Option Decoder) (matchesTerms : Bool)
  | declareDelimiter (scope key : String)
  | clear

namespace Call

/-- Carries out a call. The answer to a registration is the interpreter. -/
def perform : Call → Action NotationTable (Option Interpreter)
  | declareInterpreter scope origin encoder printRefs decoder matchesTerms => do
    let interpreter ← NotationTable.declareInterpreter scope origin encoder printRefs decoder
      matchesTerms
    pure (some interpreter)
  | declareDelimiter scope key => do
    NotationTable.declareDelimiter scope key
    pure none
  | clear => do
    NotationTable.clear
    pure none

/-- The interpreter that a call registers if it succeeds. -/
def interpreter? : Call → Option Interpreter
  | declareInterpreter scope origin (some encode) printRefs (some decode) matchesTerms =>
    some ⟨scope, origin, encode, printRefs, decode, matchesTerms⟩
  | _ => none

/-- The key that a call declares if it succeeds, with the scope of the key. -/
def delimiter? : Call → Option (String × String)
  | declareDelimiter scope key => some (key, scope)
  | _ => none

def isClear : Call → Bool
  | clear => true
  | _ => false

/-- What a call does to a table: it fails and leaves the table as it was, or it clears the table,
or it stores the interpreter that it hands over, or it declares a key. -/
inductive Does (call : Call) (table : NotationTable) : Prop where
  | nothing (error : Error) (failed : call.perform.Fails table error table)
  | clears (cleared : call = clear)
      (done : call.perform.Gives table call.interpreter? { policy := table.policy })
  | registers (interpreter : Interpreter) (given : call.interpreter? = some interpreter)
      (keyless : call.delimiter? = none) (kept : call.isClear = false)
      (room : ¬ table.Refuses interpreter.scope)
      (done : call.perform.Gives table call.interpreter? (table.withInterpreter interpreter))
  | declares (key scope : String) (given : call.delimiter? = some (key, scope))
      (silent : call.interpreter? = none) (kept : call.isClear = false)
      (spelt : Text.isIdentifier key.toList = true)
      (done : call.perform.Gives table call.interpreter? (table.withKey scope (some key)))

theorem declareInterpreter_registers {scope : String} {table : NotationTable}
    (room : ¬ table.Refuses scope) (origin : Origin) (encode : Encoder) (printRefs : List Operand)
    (decode : Decoder) (matchesTerms : Bool) :
    (declareInterpreter scope origin (some encode) printRefs (some decode)
      matchesTerms).perform.Gives table
        (some ⟨scope, origin, encode, printRefs, decode, matchesTerms⟩)
        (table.withInterpreter ⟨scope, origin, encode, printRefs, decode, matchesTerms⟩) :=
  .bind (declareInterpreter_gives _ _ _ _ _ room) (.pure ..)

theorem declareDelimiter_declares {key : String} (spelt : Text.isIdentifier key.toList = true)
    (table : NotationTable) (scope : String) :
    (declareDelimiter scope key).perform.Gives table none (table.withKey scope (some key)) :=
  .bind (declareKey_gives (declarable_some spelt) ..) (.pure ..)

theorem does (call : Call) (table : NotationTable) : call.Does table := by
  cases call with
  | declareInterpreter scope origin encoder printRefs decoder matchesTerms =>
    rcases encoder with _ | encode
    · exact .nothing .notCallable (.bind (.fail ..) _)
    rcases decoder with _ | decode
    · exact .nothing .notCallable (.bind (.fail ..) _)
    by_cases refuses : table.Refuses scope
    · exact .nothing _ (.bind (declareInterpreter_fails _ _ _ _ _ refuses) _)
    · exact .registers _ rfl rfl rfl refuses (declareInterpreter_registers refuses ..)
  | declareDelimiter scope key =>
    cases spelt : Text.isIdentifier key.toList with
    | false => exact .nothing _ (.bind (declareDelimiter_fails spelt ..) _)
    | true => exact .declares key scope rfl rfl rfl spelt (declareDelimiter_declares spelt ..)
  | clear => exact .clears rfl (.bind (.bind (.get _) (.put ..)) (.pure ..))

/-- What a call answers when it succeeds, and that it leaves no trace when it fails. -/
theorem outcome (call : Call) (table : NotationTable) :
    (∀ answer, (call.perform.run table).result = .ok answer → answer = call.interpreter?) ∧
      ∀ error, (call.perform.run table).result = .error error →
        (call.perform.run table).state = table := by
  have succeeds {left : NotationTable} (done : call.perform.Gives table call.interpreter? left) :
      (∀ answer, (call.perform.run table).result = .ok answer → answer = call.interpreter?) ∧
        ∀ error, (call.perform.run table).result = .error error →
          (call.perform.run table).state = table := by
    simp only [done.result, Except.ok.injEq, reduceCtorEq, false_implies, implies_true, and_true]
    exact fun answer same => same.symm
  cases call.does table with
  | nothing error failed => simp [failed.result, failed.state]
  | clears cleared done => exact succeeds done
  | registers interpreter given keyless kept room done => exact succeeds done
  | declares key scope given silent kept spelt done => exact succeeds done

/-- The calls that a registration is made of. -/
def registering (codec : Codec) (scope : String) (key : Option String) : List Call :=
  declareInterpreter scope ⟨codec.path.map .text, .text "Datatypes"⟩ (some codec.encoder)
      (codec.printRefs.map .ofTerm) (some codec.decoder) true ::
    key.toList.map (declareDelimiter scope)

end Call

/-- What is left of a sequence of calls once everything up to the last clearing is dropped. -/
def sinceClear (calls : List Call) : List Call := calls.rtakeWhile (!·.isClear)

/-- The interpreters that calls register for a scope, in order. -/
def registrations (calls : List Call) (scope : String) : List Interpreter :=
  (calls.filterMap Call.interpreter?).filter (·.scope = scope)

/-- The keys that calls declare, with their scopes, in order. -/
def declarations (calls : List Call) : List (String × String) := calls.filterMap Call.delimiter?

def scopeDeclared (calls : List Call) (key : String) : Option String :=
  ((declarations calls).filter (·.1 = key)).getLast?.map Prod.snd

/-- The table that calls build which all succeed. -/
def replay (policy : Policy) (calls : List Call) : NotationTable where
  policy := policy
  interpreters := .ofList ((calls.filterMap Call.interpreter?).map fun interpreter =>
    (interpreter.scope, interpreter))
  delimiters := .ofList (declarations calls)

theorem sinceClear_concat (calls : List Call) (call : Call) :
    sinceClear (calls ++ [call]) =
      if call.isClear = true then [] else sinceClear calls ++ [call] := by
  rw [sinceClear, List.rtakeWhile_concat, sinceClear]
  cases call.isClear <;> rfl

theorem replay_concat_interpreter (policy : Policy) (calls : List Call) {call : Call}
    {interpreter : Interpreter} (registers : call.interpreter? = some interpreter)
    (noKey : call.delimiter? = none) :
    replay policy (calls ++ [call]) = (replay policy calls).withInterpreter interpreter := by
  simp [replay, withInterpreter, declarations, registers, noKey, OrderedMap.ofList_concat]

theorem replay_concat_delimiter (policy : Policy) (calls : List Call) {call : Call}
    {key scope : String} (declares : call.delimiter? = some (key, scope))
    (silent : call.interpreter? = none) :
    replay policy (calls ++ [call]) = (replay policy calls).withKey scope (some key) := by
  simp [replay, withKey, declarations, silent, declares, OrderedMap.ofList_concat]

/-- The successful calls of a sequence, from an empty table on and since the last clearing. -/
def effective (policy : Policy) (calls : List Call) : List Call :=
  sinceClear (Action.successes Call.perform { policy } calls)

theorem effective_concat_of_fails {policy : Policy} {calls : List Call} {call : Call}
    {error : Error} {left : NotationTable}
    (failed : call.perform.Fails (Action.afterAll Call.perform { policy } calls) error left) :
    effective policy (calls ++ [call]) = effective policy calls := by
  rw [effective, Action.successes_append, Action.successes_of_fails failed, Action.successes,
    List.append_nil, effective]

theorem effective_concat_of_gives {policy : Policy} {calls : List Call} {call : Call}
    {answer : Option Interpreter} {left : NotationTable}
    (done : call.perform.Gives (Action.afterAll Call.perform { policy } calls) answer left) :
    effective policy (calls ++ [call]) =
      if call.isClear = true then [] else effective policy calls ++ [call] := by
  rw [effective, Action.successes_append, Action.successes_of_gives done, Action.successes,
    sinceClear_concat, effective]

/-- The table behind any sequence of calls is the replay of those that are still effective. -/
theorem afterAll_eq_replay (policy : Policy) (calls : List Call) :
    Action.afterAll Call.perform { policy } calls = replay policy (effective policy calls) := by
  induction calls using List.reverseRecOn with
  | nil => rfl
  | append_singleton calls call ih =>
    rw [Action.afterAll_concat]
    cases call.does (Action.afterAll Call.perform { policy } calls) with
    | nothing error failed => rw [failed.state, effective_concat_of_fails failed, ih]
    | clears cleared done =>
      rw [done.state, effective_concat_of_gives done, ih, cleared]
      rfl
    | registers interpreter given keyless kept room done =>
      rw [done.state, effective_concat_of_gives done, kept, if_neg Bool.false_ne_true,
        replay_concat_interpreter policy _ given keyless, ih]
    | declares key scope given silent kept spelt done =>
      rw [done.state, effective_concat_of_gives done, kept, if_neg Bool.false_ne_true,
        replay_concat_delimiter policy _ given silent, ih]

theorem find?_replay_interpreters (policy : Policy) (calls : List Call) (scope : String) :
    (replay policy calls).interpreters.find? scope = (registrations calls scope).getLast? := by
  simp [replay, registrations, OrderedMap.find?_ofList, List.filter_map, List.getLast?_map,
    Function.comp_def]

theorem find?_replay_delimiters (policy : Policy) (calls : List Call) (key : String) :
    (replay policy calls).delimiters.find? key = scopeDeclared calls key :=
  OrderedMap.find?_ofList ..

theorem registrations_ne_nil_iff (calls : List Call) (scope : String) :
    registrations calls scope ≠ [] ↔
      scope ∈ (calls.filterMap Call.interpreter?).map Interpreter.scope := by
  simp [registrations, List.filter_eq_nil_iff, -List.mem_filterMap]

/-- A strict table lets each scope register once. -/
theorem nodup_effective_scopes (calls : List Call) :
    (((effective .strict calls).filterMap Call.interpreter?).map Interpreter.scope).Nodup := by
  induction calls using List.reverseRecOn with
  | nil => exact List.nodup_nil
  | append_singleton calls call ih =>
    cases call.does (Action.afterAll Call.perform { policy := .strict } calls) with
    | nothing error failed =>
      rw [effective_concat_of_fails failed]
      exact ih
    | clears cleared done =>
      rw [effective_concat_of_gives done, cleared]
      exact List.nodup_nil
    | registers interpreter given keyless kept room done =>
      have fresh : interpreter.scope ∉
          ((effective .strict calls).filterMap Call.interpreter?).map Interpreter.scope := by
        intro known
        apply room
        rw [afterAll_eq_replay]
        refine ⟨rfl, ?_⟩
        rw [find?_replay_interpreters, List.getLast?_isSome]
        exact (registrations_ne_nil_iff ..).mpr known
      rw [effective_concat_of_gives done, kept, if_neg Bool.false_ne_true, List.filterMap_append,
        List.map_append, List.filterMap_cons_some given]
      exact (List.perm_append_singleton _ _).nodup_iff.mpr (List.nodup_cons.mpr ⟨fresh, ih⟩)
    | declares key scope given silent kept spelt done =>
      rw [effective_concat_of_gives done, kept, if_neg Bool.false_ne_true]
      simpa [silent] using ih

theorem length_registrations_le_one (calls : List Call) (scope : String) :
    (registrations (effective .strict calls) scope).length ≤ 1 := by
  have distinct := List.nodup_iff_count.mp (nodup_effective_scopes calls) scope
  rw [List.count, List.countP_map, List.countP_eq_length_filter] at distinct
  simpa [registrations, Function.comp_def, BEq.beq] using distinct

/-- Whether the first or the last registration counts, it is the interpreter in the table. -/
theorem find?_interpreters_eq_inForce (policy : Policy) (calls : List Call) (scope : String) :
    (replay policy (effective policy calls)).interpreters.find? scope =
      policy.inForce (registrations (effective policy calls) scope) := by
  rw [find?_replay_interpreters]
  cases policy with
  | replace => rfl
  | strict =>
    have once := length_registrations_le_one calls scope
    generalize registrations (effective .strict calls) scope = registered at once ⊢
    cases registered with
    | nil => rfl
    | cons first rest =>
      have alone : rest = [] := List.eq_nil_of_length_eq_zero (by simpa using once)
      rw [alone]
      rfl

theorem interpreter_eq_error_iff (table : NotationTable) (scope : String) :
    table.interpreter scope = .error (.unknownScope scope) ↔
      table.interpreters.find? scope = none := by
  unfold interpreter
  cases table.interpreters.find? scope <;> simp

theorem scope_of_mem_registrations {calls : List Call} {scope : String} {interpreter : Interpreter}
    (registered : interpreter ∈ registrations calls scope) : interpreter.scope = scope :=
  of_decide_eq_true (List.mem_filter.mp registered).2

theorem delimiterOfScope_eq_none_iff (table : NotationTable) (scope : String) :
    table.delimiterOfScope scope = none ↔ ∀ key, table.scopeOfDelimiter key ≠ .ok scope := by
  rw [delimiterOfScope, Option.map_eq_none_iff, List.find?_eq_none]
  constructor
  · intro others key selects
    have stored := (scopeOfDelimiter_eq_ok_iff ..).mp selects
    have listed := (table.delimiters.find?_eq_some_iff key scope).mp stored
    exact others _ listed (decide_eq_true rfl)
  · intro unselected entry listed
    have stored := (table.delimiters.find?_eq_some_iff entry.1 entry.2).mpr listed
    intro same
    rw [of_decide_eq_true same] at stored
    exact unselected entry.1 ((scopeOfDelimiter_eq_ok_iff ..).mpr stored)

theorem mem_scopes_iff (table : NotationTable) (scope : String) :
    scope ∈ table.scopes ↔ ∃ interpreter, table.interpreter scope = .ok interpreter := by
  simp only [interpreter_eq_ok_iff]
  exact (List.mergeSort_perm ..).mem_iff.trans (table.interpreters.mem_keys_iff scope)

/-- The answers of a table tell its history. After any calls on an empty table, failing ones
included, let those be effective that have succeeded since the last clearing. Then a scope has the
interpreter of its last effective registration, or of its first one where the table is strict; a key
selects the scope that was last declared for it; a scope is spelled with the key, among those that
select it now, that was declared before all others; and a call that fails changes nothing. -/
theorem lookups_after_calls (policy : Policy) (calls : List Call) :
    let table := Action.afterAll Call.perform { policy } calls
    let done := effective policy calls
    (∀ scope interpreter, table.interpreter scope = .ok interpreter ↔
        policy.inForce (registrations done scope) = some interpreter) ∧
      (∀ scope, table.interpreter scope = .error (.unknownScope scope) ↔
        registrations done scope = []) ∧
      (∀ scope interpreter, table.interpreter scope = .ok interpreter →
        interpreter.scope = scope) ∧
      (∀ key scope, table.scopeOfDelimiter key = .ok scope ↔
        scopeDeclared done key = some scope) ∧
      (∀ scope, table.delimiterOfScope scope =
        ((declarations done).map Prod.fst).find? fun key => scopeDeclared done key = some scope) ∧
      (∀ scope, table.delimiterOfScope scope = none ↔
        ∀ key, table.scopeOfDelimiter key ≠ .ok scope) ∧
      (∀ scope key, table.delimiterOfScope scope = some key →
        table.scopeOfDelimiter key = .ok scope) ∧
      table.scopes.Pairwise (· < ·) ∧
      (∀ scope, scope ∈ table.scopes ↔ ∃ interpreter, table.interpreter scope = .ok interpreter) ∧
      (∀ (call : Call) answer, (call.perform.run table).result = .ok answer →
        answer = call.interpreter?) ∧
      ∀ (call : Call) error, (call.perform.run table).result = .error error →
        (call.perform.run table).state = table := by
  intro table done
  have replayed : table = replay policy done := afterAll_eq_replay policy calls
  have inForce (scope : String) (interpreter : Interpreter) :
      table.interpreter scope = .ok interpreter ↔
        policy.inForce (registrations done scope) = some interpreter := by
    rw [interpreter_eq_ok_iff, replayed, find?_interpreters_eq_inForce]
  refine ⟨inForce, ?_, ?_, ?_, ?_, table.delimiterOfScope_eq_none_iff, ?_, ?_,
    table.mem_scopes_iff, fun call => (call.outcome table).1, fun call => (call.outcome table).2⟩
  · intro scope
    rw [interpreter_eq_error_iff, replayed, find?_replay_interpreters, List.getLast?_eq_none_iff]
  · intro scope interpreter found
    rw [interpreter_eq_ok_iff, replayed, find?_replay_interpreters] at found
    exact scope_of_mem_registrations (List.mem_of_getLast? found)
  · intro key scope
    rw [scopeOfDelimiter_eq_ok_iff, replayed, find?_replay_delimiters]
  · intro scope
    rw [delimiterOfScope, OrderedMap.map_fst_find?_entries, replayed]
    simp only [find?_replay_delimiters]
    exact OrderedMap.keys_find?_ofList ..
  · intro scope key selected
    exact scopeOfDelimiter_of_delimiterOfScope selected
  · exact pairwise_lt_mergeSort table.interpreters.distinct

/-- A key that was lost to another scope and is declared again is back in its old place. -/
example : (Action.afterAll Call.perform {} [.declareDelimiter "s" "a", .declareDelimiter "s" "b",
    .declareDelimiter "t" "a", .declareDelimiter "s" "a"]).delimiterOfScope "s" = some "a" := by
  decide +kernel

end NotationTable

end UnaryNumeral
