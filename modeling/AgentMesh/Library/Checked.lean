import Mathlib

/-! Fallible computations: the checks a transaction body makes before it commits, and how a committed
result is read back into the facts those checks established. -/
namespace AgentMesh.Library

variable {ε α β : Type}

/-- Continue when the condition holds, fail with `error` when it does not. -/
def ensure (condition : Prop) [Decidable condition] (error : ε) : Except ε Unit :=
  if condition then .ok () else .error error

/-- The value of an optional lookup, or `error` when the lookup found nothing. -/
def required (error : ε) : Option α → Except ε α
  | some value => .ok value
  | none => .error error

@[simp]
theorem ensure_eq_ok (condition : Prop) [Decidable condition] (error : ε) (done : Unit) :
    ensure condition error = .ok done ↔ condition := by
  unfold ensure
  split <;> simp_all

@[simp]
theorem required_eq_ok {error : ε} {found : Option α} {value : α} :
    required error found = .ok value ↔ found = some value := by
  cases found <;> simp [required]

@[simp]
theorem bind_eq_ok {first : Except ε α} {next : α → Except ε β} {result : β} :
    (first >>= next) = .ok result ↔ ∃ value, first = .ok value ∧ next value = .ok result := by
  cases first <;> simp [bind, Except.bind]

@[simp]
theorem map_eq_ok {change : α → β} {first : Except ε α} {result : β} :
    (change <$> first) = .ok result ↔ ∃ value, first = .ok value ∧ change value = result := by
  cases first <;> simp [Functor.map, Except.map]

theorem snd_eq_ok {outcome : Except ε (α × β)} {last : β} (done : Prod.snd <$> outcome = .ok last) :
    ∃ value, outcome = .ok (value, last) := by
  obtain ⟨⟨value, _⟩, same, rfl⟩ := map_eq_ok.mp done
  exact ⟨value, same⟩

@[simp]
theorem pure_eq_ok {value result : α} : (pure value : Except ε α) = .ok result ↔ value = result := by
  simp [pure, Except.pure]

@[simp]
theorem throw_eq_ok (error : ε) (result : α) : (throw error : Except ε α) = .ok result ↔ False := by
  simp [throw, throwThe, MonadExceptOf.throw]

/-- What the steps of a computation that ended well established, as one set of rewriting rules. -/
theorem eq_ok_iff :
    (∀ {ε α β : Type} {first : Except ε α} {next : α → Except ε β} {result : β},
      (first >>= next) = .ok result ↔ ∃ value, first = .ok value ∧ next value = .ok result) ∧
    (∀ {ε α : Type} {value result : α}, (pure value : Except ε α) = .ok result ↔ value = result) ∧
    (∀ {ε : Type} {condition : Prop} [Decidable condition] {error : ε} {done : Unit},
      ensure condition error = .ok done ↔ condition) ∧
    (∀ {ε α : Type} {error : ε} {found : Option α} {value : α}, required error found = .ok value ↔ found = some value) ∧
    ∀ {α β : Type} {first third : α} {second fourth : β},
      (first, second) = (third, fourth) ↔ first = third ∧ second = fourth :=
  ⟨bind_eq_ok, pure_eq_ok, ensure_eq_ok _ _ _, required_eq_ok, Prod.mk_inj⟩

theorem toOption_eq_some {outcome : Except ε α} {value : α} : outcome.toOption = some value ↔ outcome = .ok value := by
  cases outcome <;> simp [Except.toOption]

/-- Whether a computation ends well in a value with a property can be evaluated. -/
instance decidableOkAnd {property : α → Prop} [DecidablePred property] :
    (outcome : Except ε α) → Decidable (∃ value, outcome = .ok value ∧ property value)
  | .error _ => isFalse (by rintro ⟨_, ⟨⟩, _⟩)
  | .ok value => decidable_of_iff (property value)
      ⟨fun holds => ⟨value, rfl, holds⟩, fun ⟨_, same, holds⟩ => Except.ok.inj same ▸ holds⟩

instance decidableIsOk : (outcome : Except ε α) → Decidable (∃ value, outcome = .ok value)
  | .error _ => isFalse (by rintro ⟨_, ⟨⟩⟩)
  | .ok value => isTrue ⟨value, rfl⟩

instance (priority := low) decidableEqOk [DecidableEq α] (value : α) :
    (outcome : Except ε α) → Decidable (outcome = .ok value)
  | .error _ => isFalse (by rintro ⟨⟩)
  | .ok found => decidable_of_iff (found = value) ⟨congrArg _, Except.ok.inj⟩

theorem mapM_eq_ok (change : α → Except ε β) (values : List α) (results : List β) :
    values.mapM change = .ok results ↔ List.Forall₂ (fun value result => change value = .ok result) values results := by
  induction values generalizing results with
  | nil => rw [List.mapM_nil, pure_eq_ok, List.forall₂_nil_left_iff, eq_comm]
  | cons value values ih =>
    rw [List.mapM_cons]
    simp only [bind_eq_ok, pure_eq_ok, ih]
    constructor
    · rintro ⟨result, here, rest, later, rfl⟩
      exact .cons here later
    · rintro (_ | ⟨here, later⟩)
      exact ⟨_, here, _, later, rfl⟩

theorem forM_eq_ok (check : α → Except ε PUnit) (values : List α) :
    values.forM check = .ok () ↔ ∀ value ∈ values, check value = .ok () := by
  induction values with
  | nil => simp
  | cons value values ih =>
    rw [List.forall_mem_cons, ← ih]
    show (check value >>= fun _ => values.forM check) = .ok () ↔ _
    cases check value <;> simp [bind, Except.bind]

end AgentMesh.Library
