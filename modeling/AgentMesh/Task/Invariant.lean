import AgentMesh.Task.Effects

/-! Invariants of every run. What each change of a task keeps holds for every task of every reachable store. -/
namespace AgentMesh.Task
open Library Daemon

variable {codec : Codec} {request : Request} {store before after : Store} {taskId : String} {first last : Store}
  {current : TaskView}

/-- A compacted task: it has no row left, and its tombstone keeps the identifier from being used again. -/
structure Gone (store : Store) (taskId : String) : Prop where
  vacant : Vacant store taskId
  buried : ∃ row ∈ store.tombstones.rows, row.taskId = taskId

/-- What a transaction did to one given task. -/
inductive EffectAt (codec : Codec) (request : Request) (before after : Store) (taskId : String) : Prop where
  | same (same : SameAt taskId before after)
  | created (fresh : TaskView) (asked : creates request = some taskId) (absent : before.tasks.lookup taskId = none)
      (admitted : request.admissible before → before.tombstones.lookup taskId = none) (submitted : Submitted fresh)
      (stored : view after taskId = some fresh)
  | changed (change : Change) (current next : TaskView) (found : view before taskId = some current)
      (performs : Performs before taskId request change)
      (step : TaskStep (Consented codec after) current change next) (stored : view after taskId = some next)
  | removed (current : TaskView) (asked : compacts request = some taskId) (found : view before taskId = some current)
      (ended : current.row.terminalAt.isSome = true) (gone : Gone after taskId)

namespace Effect

section

variable (effect : Effect codec request before after)

include effect

theorem retains : Retains before after := by
  cases effect with
  | unchanged untouched => exact untouched.retains
  | created _ _ _ _ _ _ _ _ retains _ => exact retains
  | changed _ _ changed _ => exact changed.retains
  | removed _ _ _ _ _ _ _ _ retains => exact retains

theorem tombstones (keeps : compacts request = none) : after.tombstones = before.tombstones := by
  cases effect with
  | unchanged untouched => exact untouched.tombstones
  | created _ _ _ _ _ _ _ _ _ tombstones => exact tombstones
  | changed _ _ changed _ => exact changed.tombstones
  | removed _ _ asked =>
    rw [keeps] at asked
    cases asked

theorem at_task (taskId : String) : EffectAt codec request before after taskId := by
  cases effect with
  | unchanged untouched => exact .same (untouched.same taskId)
  | created owner fresh asked absent admitted submitted stored frame _ _ =>
    by_cases here : taskId = owner
    · subst here
      exact .created fresh asked absent admitted submitted stored
    · exact .same (frame taskId here)
  | changed owner change changed performs =>
    by_cases here : taskId = owner
    · subst here
      obtain ⟨current, next, found, step, stored⟩ := changed.step
      exact .changed change current next found performs step stored
    · exact .same (changed.frame taskId here)
  | removed owner current asked found ended vacant buried frame _ =>
    by_cases here : taskId = owner
    · subst here
      exact .removed current asked found ended ⟨vacant, buried⟩
    · exact .same (frame taskId here)

end

end Effect

theorem lookup_of_view (found : view store taskId = some current) : store.tasks.lookup taskId ≠ none := by
  rw [(view_eq_some found).1]
  simp

theorem view_of_vacant (vacant : Vacant store taskId) : view store taskId = none := by
  simp [view, vacant.task]

section

variable (effect : Effect codec request before after)

include effect

theorem Effect.housed (housed : Housed before) : Housed after := by
  intro taskId absent
  cases effect.at_task taskId with
  | same same => exact same.vacant (housed taskId (same.task.symm.trans absent))
  | created _ _ _ _ _ stored | changed _ _ _ _ _ _ stored => exact absurd absent (lookup_of_view stored)
  | removed _ _ _ _ gone => exact gone.vacant

theorem Effect.keyed (keyed : Keyed before) : Keyed after :=
  ⟨effect.housed keyed.housed, effect.retains.attemptIds keyed.attemptIds,
    effect.retains.resultIds keyed.resultIds,
    effect.retains.responses keyed.referenced⟩

theorem Effect.gone (admissible : request.admissible before) (gone : Gone before taskId) : Gone after taskId := by
  obtain ⟨row, kept, owner⟩ := gone.buried
  have buried : ∃ row ∈ after.tombstones.rows, row.taskId = taskId :=
    ⟨row, effect.retains.tombstones row kept, owner⟩
  cases effect.at_task taskId with
  | same same => exact ⟨same.vacant gone.vacant, buried⟩
  | created _ _ _ admitted _ _ =>
    have free := Table.lookup_eq_none.mp (admitted admissible)
    exact absurd owner (free row kept)
  | changed _ current _ found _ _ _ =>
    rw [view_of_vacant gone.vacant] at found
    cases found
  | removed _ _ _ _ gone => exact gone

end

theorem keyed_initial : Keyed Store.initial where
  housed _ _ := ⟨rfl, rfl, rfl, rfl, rfl, rfl⟩
  attemptIds := List.nodup_nil
  resultIds := List.nodup_nil
  referenced := fun _ member => by cases member

section Runs

variable {permitted : Request → Store → Prop}

theorem keyed_of_reachable (run : ReachableWhen codec permitted store) : Keyed store := by
  induction run with
  | refl => exact keyed_initial
  | tail _ commits keyed =>
    obtain ⟨request, _, _, committed⟩ := commits
    exact (execute_effect keyed committed).keyed keyed

/-- The invariant rule: a property that new tasks have and that every permitted change keeps holds for every task
of every reachable store. -/
theorem views_of_reachable (property : Store → TaskView → Prop)
    (retained : ∀ {before after current}, Retains before after → property before current → property after current)
    (created : ∀ {store fresh}, Submitted fresh → property store fresh)
    (step : ∀ {request before after taskId current change next}, permitted request before →
      Performs before taskId request change → view before taskId = some current → property after current →
      TaskStep (Consented codec after) current change next → property after next)
    (run : ReachableWhen codec permitted store) :
    ∀ taskId current, view store taskId = some current → property store current := by
  induction run with
  | refl =>
    intro taskId current found
    cases found
  | tail run commits holds =>
    obtain ⟨request, _, allowed, committed⟩ := commits
    have effect := execute_effect (keyed_of_reachable run) committed
    intro taskId current found
    cases effect.at_task taskId with
    | same same => exact retained effect.retains (holds taskId current (same.view_eq.symm.trans found))
    | created fresh _ _ _ submitted stored =>
      obtain rfl : fresh = current := Option.mem_unique stored found
      exact created submitted
    | changed change earlier next earlierFound performs taskStep stored =>
      obtain rfl : next = current := Option.mem_unique stored found
      exact step allowed performs earlierFound (retained effect.retains (holds taskId earlier earlierFound)) taskStep
    | removed _ _ _ _ gone => exact absurd gone.vacant.task (lookup_of_view found)

/-- In every reachable store the log of every task stands for a state that its row agrees with. -/
theorem control_of_reachable (run : ReachableWhen codec permitted store) (found : view store taskId = some current) :
    ∃ derived, Control current derived := by
  refine views_of_reachable (fun _ current => ∃ derived, Control current derived) ?_ ?_ ?_ run taskId current found
  · exact fun _ => id
  · exact fun submitted => ⟨.queued, .submitted submitted⟩
  · rintro _ _ _ _ current change next _ _ found ⟨derived, control⟩ taskStep
    exact ⟨change.derived derived, control.step (wellFormed found) taskStep⟩

section Follow

variable (property : TaskView → Prop)
  (step : ∀ {after current derived change next}, Control current derived → current.WellFormed → property current →
    TaskStep (Consented codec after) current change next → property next)

include step

theorem follow_commit (reached : ReachableWhen codec permitted store) (committed : execute codec request store = .ok after)
    (found : view store taskId = some current) (holds : property current) :
    (∃ next, view after taskId = some next ∧ property next) ∨ (compacts request = some taskId ∧ Gone after taskId) := by
  cases (execute_effect (keyed_of_reachable reached) committed).at_task taskId with
  | same same => exact .inl ⟨current, same.view_eq.trans found, holds⟩
  | created _ _ absent _ _ _ => exact absurd absent (lookup_of_view found)
  | changed change earlier next earlierFound _ taskStep stored =>
    obtain rfl : earlier = current := Option.mem_unique earlierFound found
    obtain ⟨derived, control⟩ := control_of_reachable reached found
    exact .inl ⟨next, stored, step control (wellFormed found) holds taskStep⟩
  | removed _ asked _ _ gone => exact .inr ⟨asked, gone⟩

/-- The continuation rule: what every change of a task keeps stays true of it until it is compacted. -/
theorem follow (start : ReachableWhen codec permitted first)
    (run : Relation.ReflTransGen (Commits codec permitted) first last) (found : view first taskId = some current)
    (holds : property current) : (∃ next, view last taskId = some next ∧ property next) ∨ Gone last taskId := by
  induction run with
  | refl => exact .inl ⟨current, found, holds⟩
  | tail run commits status =>
    obtain ⟨request, admissible, _, committed⟩ := commits
    have reached := start.trans run
    rcases status with ⟨middle, middleFound, middleHolds⟩ | gone
    · exact (follow_commit property step reached committed middleFound middleHolds).imp id And.right
    · exact .inr ((execute_effect (keyed_of_reachable reached) committed).gone admissible gone)

theorem follow_uncompacted (kept : ∀ request store, permitted request store → compacts request = none)
    (start : Reachable codec first) (run : Relation.ReflTransGen (Commits codec permitted) first last)
    (found : view first taskId = some current) (holds : property current) :
    ∃ next, view last taskId = some next ∧ property next := by
  induction run with
  | refl => exact ⟨current, found, holds⟩
  | tail run commits status =>
    obtain ⟨request, admissible, allowed, committed⟩ := commits
    obtain ⟨middle, middleFound, middleHolds⟩ := status
    rcases follow_commit property step (start.trans (ReachableWhen.weaken run)) committed middleFound middleHolds with
      kept | ⟨asked, _⟩
    · exact kept
    · rw [kept request _ allowed] at asked
      cases asked

end Follow

end Runs

end AgentMesh.Task
