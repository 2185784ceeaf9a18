import Mathlib

/-! The administrative locks of repositories (`AdminLockRegistry`, `with_admin_lock` in `worktree.rs`): mutexes made on
demand and known to the registry by weak references only. -/
namespace AgentMesh.Daemon.AdminLocks
open Relation Function

/-- Where a call of `with_admin_lock` is. From `waiting` to `released` it keeps a strong reference to its lock. -/
inductive Phase where
  | idle
  /-- It holds the map of the registry. -/
  | resolving
  /-- It found no lock that is alive, and still holds the map. -/
  | creating
  | waiting (lock : Nat)
  /-- It holds the guard and runs its closure. -/
  | running (lock : Nat)
  | released (lock : Nat)
  | finished
  deriving DecidableEq

namespace Phase

def lock : Phase → Option Nat
  | waiting lock | running lock | released lock => some lock
  | _ => none

def holdsMap : Phase → Bool
  | resolving | creating => true
  | _ => false

end Phase

variable {Call Key : Type}

/-- Locks are numbered in the order of their creation. -/
structure Registry (Call Key : Type) where
  phase : Call → Phase
  map : Key → Option Nat
  created : Nat

namespace Registry

def initial : Registry Call Key := { phase := fun _ => .idle, map := fun _ => none, created := 0 }

/-- A weak reference to the lock can be upgraded. -/
def Alive (registry : Registry Call Key) (lock : Nat) : Prop := ∃ call, (registry.phase call).lock = some lock

def move [DecidableEq Call] (registry : Registry Call Key) (call : Call) (phase : Phase) : Registry Call Key :=
  { registry with phase := update registry.phase call phase }

section

variable [DecidableEq Call] (registry : Registry Call Key) (call : Call) (phase : Phase)

@[simp, grind =]
theorem move_phase (other : Call) :
    (registry.move call phase).phase other = if other = call then phase else registry.phase other :=
  update_apply ..

@[simp, grind =]
theorem move_map (name : Key) : (registry.move call phase).map name = registry.map name := rfl

@[simp, grind =]
theorem move_created : (registry.move call phase).created = registry.created := rfl

end

end Registry

variable [DecidableEq Call] [DecidableEq Key] (key : Call → Key)

/-- One atomic action of a call for the common directory `key call`. -/
inductive Step (call : Call) (registry : Registry Call Key) : Registry Call Key → Prop where
  | enter (idle : registry.phase call = .idle) (free : ∀ other, (registry.phase other).holdsMap = false) :
    Step call registry (registry.move call .resolving)
  | upgrade {lock : Nat} (resolving : registry.phase call = .resolving)
    (entry : registry.map (key call) = some lock) (alive : registry.Alive lock) :
    Step call registry (registry.move call (.waiting lock))
  | miss (resolving : registry.phase call = .resolving)
    (dead : ∀ lock, registry.map (key call) = some lock → ¬registry.Alive lock) :
    Step call registry (registry.move call .creating)
  | create (creating : registry.phase call = .creating) :
    Step call registry { registry.move call (.waiting registry.created) with
      map := update registry.map (key call) (some registry.created), created := registry.created + 1 }
  | lock {lock : Nat} (waiting : registry.phase call = .waiting lock)
    (free : ∀ other, registry.phase other ≠ .running lock) : Step call registry (registry.move call (.running lock))
  | unlock {lock : Nat} (running : registry.phase call = .running lock) :
    Step call registry (registry.move call (.released lock))
  | release {lock : Nat} (released : registry.phase call = .released lock) :
    Step call registry (registry.move call .finished)

/-- What holds between the calls, whatever their interleaving. -/
structure Sound (registry : Registry Call Key) : Prop where
  bound : ∀ {name lock}, registry.map name = some lock → lock < registry.created
  injective : ∀ {name other lock}, registry.map name = some lock → registry.map other = some lock → name = other
  /-- A lock that some call still knows is the one the map names for its directory. -/
  mapped : ∀ {call lock}, (registry.phase call).lock = some lock → registry.map (key call) = some lock
  single : ∀ {call other}, (registry.phase call).holdsMap = true → (registry.phase other).holdsMap = true → call = other
  /-- No call for the directory has a lock while a new one is being made. -/
  vacant : ∀ {call other}, registry.phase call = .creating → key other = key call → (registry.phase other).lock = none
  exclusive : ∀ {call other lock}, registry.phase call = .running lock → registry.phase other = .running lock →
    call = other

variable {key}

theorem Sound.step {registry next : Registry Call Key} (sound : Sound key registry) {call : Call}
    (step : Step key call registry next) : Sound key next := by
  obtain ⟨bound, injective, mapped, single, vacant, exclusive⟩ := sound
  cases step with
  | miss resolving dead =>
    -- A call that knows a lock of this directory would keep the entry of the map alive.
    have unknown : ∀ other, key other = key call → (registry.phase other).lock = none := by
      intro other same
      by_contra known
      obtain ⟨lock, known⟩ := Option.ne_none_iff_exists'.mp known
      exact dead lock (same ▸ mapped known) ⟨other, known⟩
    constructor <;> grind [Phase.lock, Phase.holdsMap]
  | create creating =>
    -- The replaced entry is known to no call, and the new number is above all others.
    have unknown : ∀ other, key other = key call → (registry.phase other).lock = none := fun _ => vacant creating
    constructor <;> grind [Phase.lock, Phase.holdsMap]
  | enter | upgrade | lock | unlock | release => constructor <;> grind [Phase.lock, Phase.holdsMap]

omit [DecidableEq Call] [DecidableEq Key] in
theorem Sound.initial : Sound key Registry.initial := by
  constructor <;> simp [Registry.initial, Phase.lock, Phase.holdsMap]

theorem sound_of_run {registry : Registry Call Key}
    (run : ReflTransGen (fun before after => ∃ call, Step key call before after) .initial registry) :
    Sound key registry := by
  induction run with
  | refl => exact .initial
  | tail _ step sound => exact sound.step step.choose_spec

theorem step_of_holdsMap {registry : Registry Call Key} {call : Call}
    (holds : (registry.phase call).holdsMap = true) : ∃ next, Step key call registry next := by
  cases phase : registry.phase call <;> simp only [phase, Phase.holdsMap, Bool.false_eq_true] at holds
  case creating => exact ⟨_, .create phase⟩
  case resolving =>
    by_cases known : ∃ lock, registry.map (key call) = some lock ∧ registry.Alive lock
    · obtain ⟨lock, entry, alive⟩ := known
      exact ⟨_, .upgrade phase entry alive⟩
    · exact ⟨_, .miss phase fun lock entry alive => known ⟨lock, entry, alive⟩⟩

/-- Two closures for one directory never run at the same time. A call that has not finished can go on, unless it waits
for the map, whose holder can go on, or for a closure of its own directory. -/
theorem admin_lock_exclusive {registry : Registry Call Key}
    (run : ReflTransGen (fun before after => ∃ call, Step key call before after) .initial registry) :
    (∀ call other first second, registry.phase call = .running first → registry.phase other = .running second →
      key call = key other → call = other) ∧
    ∀ call, registry.phase call ≠ .finished →
      (∃ next, Step key call registry next) ∨
      (registry.phase call = .idle ∧ ∃ other ≠ call, (registry.phase other).holdsMap = true ∧
        ∃ next, Step key other registry next) ∨
      ∃ other ≠ call, key other = key call ∧ ∃ lock, registry.phase other = .running lock := by
  have sound := sound_of_run run
  constructor
  · intro call other first second runs others same
    have entry : registry.map (key call) = some first := sound.mapped (by rw [runs]; rfl)
    have entries : registry.map (key other) = some second := sound.mapped (by rw [others]; rfl)
    rw [same, entries, Option.some.injEq] at entry
    exact sound.exclusive runs (entry ▸ others)
  · intro call unfinished
    cases phase : registry.phase call with
    | finished => exact absurd phase unfinished
    | resolving | creating => exact .inl (step_of_holdsMap (by rw [phase]; rfl))
    | running lock => exact .inl ⟨_, .unlock phase⟩
    | released lock => exact .inl ⟨_, .release phase⟩
    | idle =>
      by_cases free : ∀ other, (registry.phase other).holdsMap = false
      · exact .inl ⟨_, .enter phase free⟩
      · obtain ⟨other, holds⟩ := not_forall.mp free
        have holds : (registry.phase other).holdsMap = true := by simpa using holds
        refine .inr (.inl ⟨rfl, other, ?_, holds, step_of_holdsMap holds⟩)
        rintro rfl
        simp [phase, Phase.holdsMap] at holds
    | waiting lock =>
      by_cases free : ∀ other, registry.phase other ≠ .running lock
      · exact .inl ⟨_, .lock phase free⟩
      · obtain ⟨other, runs⟩ := not_forall_not.mp free
        refine .inr (.inr ⟨other, ?_, ?_, lock, runs⟩)
        · rintro rfl
          simp [phase] at runs
        · exact sound.injective (sound.mapped (by rw [runs]; rfl)) (sound.mapped (by rw [phase]; rfl))

theorem admin_lock_exclusive_running : ∃ registry : Registry Bool Unit, registry.phase true = .running 0 ∧
    ∀ other lock, registry.phase other = .running lock → true = other := by
  have run : ReflTransGen (fun before after => ∃ call, Step (fun _ : Bool => ()) call before after) .initial _ :=
    (((ReflTransGen.refl.tail ⟨true, .enter rfl fun _ => rfl⟩).tail ⟨true, .miss rfl nofun⟩).tail
      ⟨true, .create rfl⟩).tail ⟨true, .lock rfl (by decide)⟩
  exact ⟨_, rfl, fun other lock runs => (admin_lock_exclusive run).1 true other 0 lock rfl runs rfl⟩

end AgentMesh.Daemon.AdminLocks
