import UnaryNumeral.Action

namespace UnaryNumeral

namespace Action

variable {σ τ α β : Type}

/-- The operation succeeds on a state: it gives a value and leaves another state. -/
structure Gives (action : Action σ α) (state : σ) (value : α) (left : σ) : Prop where
  result : (action.run state).result = .ok value
  state : (action.run state).state = left

namespace Gives

theorem pure (value : α) (state : σ) : Gives (Pure.pure value) state value state := ⟨rfl, rfl⟩

theorem get (state : σ) : Gives Action.get state state state := ⟨rfl, rfl⟩

theorem put (left state : σ) : Gives (Action.put left) state () left := ⟨rfl, rfl⟩

theorem note (level : Level) (channel : Channel) (message : String) (state : σ) :
    Gives (Action.note level channel message) state () state := ⟨rfl, rfl⟩

theorem ofExcept {result : Except Error α} {value : α} (found : result = .ok value) (state : σ) :
    Gives (Action.ofExcept result) state value state := by
  rw [found]
  exact ⟨rfl, rfl⟩

theorem bind {first : Action σ α} {next : α → Action σ β} {state middle left : σ} {value : α}
    {result : β} (before : first.Gives state value middle)
    (after : (next value).Gives middle result left) :
    Gives (first >>= next) state result left := by
  constructor
  · rw [run_bind_ok before.result, before.state]
    exact after.result
  · rw [run_bind_ok before.result, before.state]
    exact after.state

theorem within {part : τ → σ} {replace : τ → σ → τ} {action : Action σ α} {whole : τ} {value : α}
    {left : σ} (inside : action.Gives (part whole) value left) :
    Gives (action.within part replace) whole value (replace whole left) :=
  ⟨inside.result, congrArg (replace whole) inside.state⟩

end Gives

/-- The operation fails on a state with an error and leaves another state. -/
structure Fails (action : Action σ α) (state : σ) (error : Error) (left : σ) : Prop where
  result : (action.run state).result = .error error
  state : (action.run state).state = left

namespace Fails

theorem fail (error : Error) (state : σ) :
    Fails (Action.fail error : Action σ α) state error state :=
  ⟨rfl, rfl⟩

theorem ofExcept {result : Except Error α} {error : Error} (failed : result = .error error)
    (state : σ) : Fails (Action.ofExcept result) state error state := by
  rw [failed]
  exact ⟨rfl, rfl⟩

theorem bind {first : Action σ α} {state left : σ} {error : Error}
    (failed : first.Fails state error left) (next : α → Action σ β) :
    Fails (first >>= next) state error left := by
  constructor
  · rw [run_bind_error failed.result]
  · rw [run_bind_error failed.result]
    exact failed.state

theorem after {first : Action σ α} {next : α → Action σ β} {state middle left : σ} {value : α}
    {error : Error} (before : first.Gives state value middle)
    (failed : (next value).Fails middle error left) :
    Fails (first >>= next) state error left := by
  constructor
  · rw [run_bind_ok before.result, before.state]
    exact failed.result
  · rw [run_bind_ok before.result, before.state]
    exact failed.state

theorem within {part : τ → σ} {replace : τ → σ → τ} {action : Action σ α} {whole : τ}
    {error : Error} {left : σ} (inside : action.Fails (part whole) error left) :
    Fails (action.within part replace) whole error (replace whole left) :=
  ⟨inside.result, congrArg (replace whole) inside.state⟩

theorem error_eq {action : Action σ α} {state left : σ} {error other : Error}
    (fails : action.Fails state error left)
    (failed : (action.run state).result = .error other) : other = error :=
  Except.error.inj (failed.symm.trans fails.result)

end Fails

/-- The operation leaves a state with the property wherever it was run on one, also when it
fails. -/
def Keeps (property : σ → Prop) (action : Action σ α) : Prop :=
  ∀ state, property state → property (action.run state).state

namespace Keeps

variable {property : σ → Prop}

theorem pure (value : α) : Keeps property (Pure.pure value : Action σ α) := by
  intro state holds
  exact holds

theorem get : Keeps property (Action.get : Action σ σ) := by
  intro state holds
  exact holds

theorem ofExcept (result : Except Error α) : Keeps property (Action.ofExcept result) := by
  intro state holds
  cases result <;> exact holds

theorem bind {first : Action σ α} {next : α → Action σ β} (before : Keeps property first)
    (after : ∀ value, Keeps property (next value)) : Keeps property (first >>= next) := by
  intro state holds
  have reached := before state holds
  cases done : (first.run state).result with
  | ok value =>
    rw [run_bind_ok done]
    exact after value _ reached
  | error error =>
    rw [run_bind_error done]
    exact reached

end Keeps

section Sequences

variable {ι : Type} (perform : ι → Action σ α)

/-- The state behind a sequence of calls, each of which may succeed or fail. -/
def afterAll (state : σ) (calls : List ι) : σ :=
  calls.foldl (fun state call => ((perform call).run state).state) state

/-- Those calls of a sequence that succeed where they stand. -/
def successes (state : σ) : List ι → List ι
  | [] => []
  | call :: rest =>
    let done := (perform call).run state
    if done.result.isOk then call :: successes done.state rest else successes done.state rest

theorem afterAll_concat (state : σ) (calls : List ι) (call : ι) :
    afterAll perform state (calls ++ [call]) =
      ((perform call).run (afterAll perform state calls)).state :=
  List.foldl_append ..

theorem successes_append (state : σ) (earlier later : List ι) :
    successes perform state (earlier ++ later) =
      successes perform state earlier ++
        successes perform (afterAll perform state earlier) later := by
  induction earlier generalizing state with
  | nil => rfl
  | cons call rest ih =>
    simp only [List.cons_append, successes, ih, afterAll, List.foldl_cons]
    split <;> rfl

variable {perform}

theorem successes_of_gives {state left : σ} {call : ι} {value : α}
    (done : (perform call).Gives state value left) (rest : List ι) :
    successes perform state (call :: rest) = call :: successes perform left rest := by
  simp only [successes, done.result, done.state, Except.isOk, Except.toBool, ↓reduceIte]

theorem successes_of_fails {state left : σ} {call : ι} {error : Error}
    (failed : (perform call).Fails state error left) (rest : List ι) :
    successes perform state (call :: rest) = successes perform left rest := by
  simp only [successes, failed.result, failed.state, Except.isOk, Except.toBool, Bool.false_eq_true,
    ↓reduceIte]

theorem Keeps.afterAll {property : σ → Prop} (each : ∀ call, Keeps property (perform call))
    {state : σ} (holds : property state) (calls : List ι) :
    property (Action.afterAll perform state calls) := by
  induction calls generalizing state with
  | nil => exact holds
  | cons call rest ih => exact ih (each call state holds)

end Sequences

end Action

end UnaryNumeral
