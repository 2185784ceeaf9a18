import AgentMesh.Library.Checked

/-! Computations over a state that can fail part-way. A failure is no rollback: what was done to the state before it
stays done. -/
namespace AgentMesh.Library

variable {σ ε α β : Type}

def Handler (σ ε α : Type) : Type := σ → Except ε α × σ

namespace Handler

/-- Continue with the value of the first computation, or stop with its error in the state it reached. -/
def andThen (first : Handler σ ε α) (next : α → Handler σ ε β) : Handler σ ε β := fun state =>
  match first state with
  | (.ok value, reached) => next value reached
  | (.error error, reached) => (.error error, reached)

instance : Monad (Handler σ ε) where
  pure value := fun state => (.ok value, state)
  bind := andThen

/-- An outcome that was settled without looking at the state. -/
def lift (outcome : Except ε α) : Handler σ ε α := fun state => (outcome, state)

@[simp]
theorem pure_apply (value : α) (state : σ) : (pure value : Handler σ ε α) state = (.ok value, state) := rfl

@[simp]
theorem lift_apply (outcome : Except ε α) (state : σ) : lift outcome state = (outcome, state) := rfl

theorem bind_of_ok {first : Handler σ ε α} {next : α → Handler σ ε β} {state reached : σ} {value : α}
    (done : first state = (.ok value, reached)) : (first >>= next) state = next value reached := by
  simp only [bind, andThen, done]

theorem bind_of_error {first : Handler σ ε α} {next : α → Handler σ ε β} {state reached : σ} {error : ε}
    (failed : first state = (.error error, reached)) : (first >>= next) state = (.error error, reached) := by
  simp only [bind, andThen, failed]

theorem bind_eq_ok {first : Handler σ ε α} {next : α → Handler σ ε β} {state last : σ} {result : β} :
    (first >>= next) state = (.ok result, last) ↔
      ∃ value reached, first state = (.ok value, reached) ∧ next value reached = (.ok result, last) := by
  rcases outcome : first state with ⟨value | value, reached⟩
  · simp [bind_of_error outcome]
  · simp [bind_of_ok outcome, and_assoc]

theorem bind_eq_error {first : Handler σ ε α} {next : α → Handler σ ε β} {state last : σ} {error : ε} :
    (first >>= next) state = (.error error, last) ↔ first state = (.error error, last) ∨
      ∃ value reached, first state = (.ok value, reached) ∧ next value reached = (.error error, last) := by
  rcases outcome : first state with ⟨value | value, reached⟩
  · simp [bind_of_error outcome]
  · simp [bind_of_ok outcome, and_assoc]

def atomic (transaction : σ → Except ε (α × σ)) : Handler σ ε α := fun state =>
  match transaction state with
  | .ok (value, reached) => (.ok value, reached)
  | .error error => (.error error, state)

theorem atomic_eq_ok {transaction : σ → Except ε (α × σ)} {state last : σ} {value : α} :
    atomic transaction state = (.ok value, last) ↔ transaction state = .ok (value, last) := by
  unfold atomic
  split <;> simp_all

theorem atomic_eq_error {transaction : σ → Except ε (α × σ)} {state last : σ} {error : ε} :
    atomic transaction state = (.error error, last) ↔ transaction state = .error error ∧ last = state := by
  unfold atomic
  split <;> simp_all [eq_comm]

/-- An error of the given kind means that nothing was done. -/
def Undone (kind : ε → Prop) (handler : Handler σ ε α) (state : σ) : Prop :=
  ∀ error last, handler state = (.error error, last) → kind error → last = state

/-- Two transactions in a row undo nothing when the first has changed the state and the second is refused. -/
theorem undone_atomic_bind {kind : ε → Prop} {first : σ → Except ε (α × σ)} {second : α → σ → Except ε (β × σ)}
    {state : σ} : Undone kind (atomic first >>= fun value => atomic (second value)) state ↔
      ∀ value reached error, first state = .ok (value, reached) → second value reached = .error error → kind error →
        reached = state := by
  constructor
  · intro undone value reached error done refused matching
    have failed : (atomic first >>= fun value => atomic (second value)) state = (.error error, reached) :=
      (bind_of_ok (atomic_eq_ok.mpr done)).trans (atomic_eq_error.mpr ⟨refused, rfl⟩)
    exact undone error reached failed matching
  · intro unchanged error last failed matching
    rcases bind_eq_error.mp failed with refused | ⟨value, reached, done, refused⟩
    · exact (atomic_eq_error.mp refused).2
    · obtain ⟨refused, rfl⟩ := atomic_eq_error.mp refused
      exact unchanged value last error (atomic_eq_ok.mp done) refused matching

end Handler

end AgentMesh.Library
