import UnaryNumeral.Log

/-! Operations on a state. An operation that fails still leaves a state, with every effect that it
had up to then, and a log. -/

namespace UnaryNumeral

/-- How an operation ended, the state it left and what it logged. -/
structure Outcome (σ α : Type) where
  result : Except Error α
  state : σ
  log : List Record := []

/-- An operation on states of type `σ`. -/
def Action (σ α : Type) : Type := σ → Outcome σ α

namespace Action

variable {σ τ α β : Type}

def run (action : Action σ α) (state : σ) : Outcome σ α := action state

/-- Runs one operation after another; a failure of the first is the end. -/
def andThen (first : Action σ α) (next : α → Action σ β) : Action σ β := fun state =>
  let done := first state
  match done.result with
  | .ok value =>
    let more := next value done.state
    ⟨more.result, more.state, done.log ++ more.log⟩
  | .error error => ⟨.error error, done.state, done.log⟩

instance : Monad (Action σ) where
  pure value := fun state => ⟨.ok value, state, []⟩
  bind := andThen

def get : Action σ σ := fun state => ⟨.ok state, state, []⟩

def put (state : σ) : Action σ Unit := fun _ => ⟨.ok (), state, []⟩

def note (level : Level) (channel : Channel) (message : String) : Action σ Unit := fun state =>
  ⟨.ok (), state, [⟨level, channel, message⟩]⟩

def fail (error : Error) : Action σ α := fun state => ⟨.error error, state, error.records⟩

def ofExcept : Except Error α → Action σ α
  | .ok value => pure value
  | .error error => fail error

/-- Runs an operation on a part of the state. -/
def within (part : τ → σ) (replace : τ → σ → τ) (action : Action σ α) : Action τ α := fun whole =>
  let done := action (part whole)
  ⟨done.result, replace whole done.state, done.log⟩

theorem run_bind_ok {first : Action σ α} {next : α → Action σ β} {state : σ} {value : α}
    (done : (first.run state).result = .ok value) :
    (first >>= next).run state =
      ⟨((next value).run (first.run state).state).result,
        ((next value).run (first.run state).state).state,
        (first.run state).log ++ ((next value).run (first.run state).state).log⟩ := by
  simp only [run] at done
  simp only [run, bind, andThen, done]

theorem run_bind_error {first : Action σ α} {next : α → Action σ β} {state : σ} {error : Error}
    (failed : (first.run state).result = .error error) :
    (first >>= next).run state =
      ⟨.error error, (first.run state).state, (first.run state).log⟩ := by
  simp only [run] at failed
  simp only [run, bind, andThen, failed]

end Action

end UnaryNumeral
