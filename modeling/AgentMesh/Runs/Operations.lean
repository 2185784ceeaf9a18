import AgentMesh.Daemon.Approvals
import AgentMesh.Task.Invariant

/-! The operations of several transactions. Reopening the store, recovering its tasks, answering and expiring an
interaction are runs of single transactions, so whatever holds after every transaction holds after and inside them. -/
namespace AgentMesh.Runs
open Library Daemon AgentMesh.Task Store List

variable {codec : Codec} {permitted : Request → Store → Prop} {store : Store} {generation : Int} {before : Store}
  {change : Change} {delivery : ResultDelivery} {after : Store} {ackToken interactionId operationId resultId : String}

/-- Any number of committed transactions of a permitted kind. -/
def CommittedWhen (codec : Codec) (permitted : Request → Store → Prop) (before after : Store) : Prop :=
  Relation.ReflTransGen (Commits codec permitted) before after

def Committed (codec : Codec) (before after : Store) : Prop := CommittedWhen codec (fun _ _ => True) before after

theorem CommittedWhen.single (request : Request) (admissible : request.admissible before)
    (allowed : permitted request before) (committed : execute codec request before = .ok after) :
    CommittedWhen codec permitted before after :=
  Relation.ReflTransGen.single ⟨request, admissible, allowed, committed⟩

theorem Committed.single (request : Request) (admissible : request.admissible before)
    (committed : execute codec request before = .ok after) : Committed codec before after :=
  CommittedWhen.single request admissible trivial committed

/-- A transaction that touched one task only left the others as they were. -/
theorem same_of_changed {taskId other : String} {consent : InteractionRow → ResponseRow → Prop}
    (outcome : after = before ∨ Changed consent taskId before after change) (differs : other ≠ taskId) :
    SameAt other before after := by
  rcases outcome with rfl | changed
  · exact .refl other after
  · exact changed.frame other differs

/-- The transactions `startup_integrity_check` and `reconcile_nonterminal` make, under the keys recovery reserves for
them. -/
def Recovers (request : Request) : Prop :=
  match request with
  | .replayTask .. | .recordResume .. => True
  | .scheduleSafeRetry _ operationId taskId generation _ _ => operationId = s!"recovery-retry:{taskId}:{generation}"
  | .transitionToFinalizing _ operationId taskId generation _ _ =>
    operationId = s!"recovery-finalizing:{taskId}:{generation}"
  | .finalize _ _ _ _ commandKey _ taskId generation _ _ _ =>
    commandKey = s!"recovery-result:{taskId}:{generation}"
  | _ => False

section Reopen

variable (allowed : ∀ taskId now store, permitted (.replayTask taskId now) store)

include allowed

theorem replayTasks_committed (now : Int) (tasks : List TaskRow) (distinct : (tasks.map TaskRow.taskId).Nodup)
    (stored : ∀ task ∈ tasks, store.tasks.lookup task.taskId = some task) :
    CommittedWhen codec permitted store (replayTasks now tasks store).2 := by
  induction tasks generalizing store with
  | nil => exact .refl
  | cons task tasks ih =>
    obtain ⟨absent, distinct⟩ := nodup_cons.mp distinct
    have here := stored task (mem_cons_self ..)
    unfold replayTasks
    cases done : store.replayTask task now with
    | error error => exact .refl
    | ok next =>
      have committed : execute codec (.replayTask task.taskId now) store = .ok next := by
        simp [execute, here, required, done, bind, Except.bind]
      refine (CommittedWhen.single (.replayTask task.taskId now) trivial (allowed _ _ _) committed).trans
        (ih distinct ?_)
      intro other member
      have differs : other.taskId ≠ task.taskId := fun same =>
        absent (same ▸ mem_map_of_mem member)
      have effect : next = store ∨ Changed (Consented codec next) task.taskId store next .repaired :=
        (replayTask_effect here done).imp id And.left
      have same := same_of_changed effect differs
      exact same.task.trans (stored other (mem_cons_of_mem _ member))

theorem replayProjections_committed (now : Int) :
    CommittedWhen codec permitted store (store.replayProjections now).2 := by
  apply replayTasks_committed allowed
  · exact (filter_sublist.map _).nodup store.tasks.keyed
  · intro task member
    exact (store.tasks.lookup_eq_some _ _).mpr ⟨mem_of_mem_filter member, rfl⟩

theorem startupIntegrityCheck_committed (verifyEvidence : Store → Checked Unit) (now : Int) :
    CommittedWhen codec permitted store (store.startupIntegrityCheck verifyEvidence now).2 := by
  unfold startupIntegrityCheck
  split
  · exact .refl
  · exact .refl
  · exact replayProjections_committed allowed now

end Reopen

/-- A run that touched one task only. -/
structure Alone (codec : Codec) (permitted : Request → Store → Prop) (taskId : String) (before after : Store) :
    Prop where
  committed : CommittedWhen codec permitted before after
  frame : ∀ other, other ≠ taskId → SameAt other before after

namespace Alone

theorem refl (codec : Codec) (permitted : Request → Store → Prop) (taskId : String) (store : Store) :
    Alone codec permitted taskId store store :=
  ⟨.refl, fun other _ => .refl other store⟩

theorem trans {taskId : String} {first second third : Store} (left : Alone codec permitted taskId first second)
    (right : Alone codec permitted taskId second third) : Alone codec permitted taskId first third :=
  ⟨left.committed.trans right.committed,
    fun other differs => (left.frame other differs).trans (right.frame other differs)⟩

theorem of_request {taskId : String} (request : Request) (admissible : request.admissible before)
    (allowed : permitted request before) (committed : execute codec request before = .ok after)
    (outcome : after = before ∨ Changed (Consented codec after) taskId before after change) :
    Alone codec permitted taskId before after :=
  ⟨.single request admissible allowed committed, fun _ differs => same_of_changed outcome differs⟩

end Alone

section Recover

variable {ambient : Ambient} {taskId : String} {now : Int}

theorem scheduleSafeRetry_alone {retryAt next : Int}
    (allowed : permitted (.scheduleSafeRetry ambient operationId taskId generation retryAt now) store)
    (done : store.scheduleSafeRetry codec ambient operationId taskId generation retryAt now = .ok (next, after)) :
    Alone codec permitted taskId store after :=
  Alone.of_request (.scheduleSafeRetry ambient operationId taskId generation retryAt now) trivial allowed
    (map_eq_ok.mpr ⟨_, done, rfl⟩) ((scheduleSafeRetry_changed done).imp id fun new => new.2.toChanged)

theorem transition_alone {seq : Int} {sources : List TaskState}
    (allowed : permitted (.transitionToFinalizing ambient operationId taskId generation sources now) store)
    (done : store.transition codec ambient operationId taskId generation sources .finalizing now = .ok (seq, after)) :
    Alone codec permitted taskId store after :=
  Alone.of_request (.transitionToFinalizing ambient operationId taskId generation sources now) trivial allowed
    (map_eq_ok.mpr ⟨_, done, rfl⟩) ((transition_changed done).imp id Booked.toChanged)

theorem finalize_alone {consumerId commandKey requestDigest resultDigest : String} {terminal : TaskState}
    (allowed : permitted (.finalize ambient resultId ackToken consumerId commandKey requestDigest taskId generation
      terminal resultDigest now) store)
    (done : store.finalize ambient resultId ackToken consumerId commandKey requestDigest taskId generation terminal
      resultDigest now = .ok (delivery, after)) : Alone codec permitted taskId store after :=
  Alone.of_request (.finalize ambient resultId ackToken consumerId commandKey requestDigest taskId generation terminal
    resultDigest now) trivial allowed (map_eq_ok.mpr ⟨_, done, rfl⟩)
    ((finalize_changed done).imp And.right fun new => new.2.1.toChanged)

/-- The rows `reconcile_nonterminal` works through are still the ones it read. -/
def Current (store : Store) (row : TaskRow × Option AttemptRow) : Prop :=
  store.tasks.lookup row.1.taskId = some row.1 ∧ store.currentAttempt row.1 = row.2 ∧
    Store.settledState row.1.state = false

theorem Current.frame {row : TaskRow × Option AttemptRow} (current : Current store row)
    (same : SameAt row.1.taskId store after) : Current after row :=
  ⟨same.task.trans current.1, (same.attempt row.1.generation).trans current.2.1, current.2.2⟩

/-- The rows `reconcile_nonterminal` reads. -/
def nonterminalRows (store : Store) : List (TaskRow × Option AttemptRow) :=
  ((store.tasks.rows.filter fun task => !Store.settledState task.state).insertionSort
    fun first second => first.createdAt ≤ second.createdAt).map fun task => (task, store.currentAttempt task)

theorem reconcileNonterminal_eq (draw : String → String × String) (consumerId : String) :
    store.reconcileNonterminal codec ambient draw consumerId now =
      recoverTasks codec ambient draw consumerId now (nonterminalRows store) store := by
  simp only [reconcileNonterminal, ensureMutationAllowed, ensure, or_true, true_or, if_true]
  rfl

theorem mem_nonterminalRows (row : TaskRow × Option AttemptRow) : row ∈ nonterminalRows store ↔ Current store row := by
  constructor
  · intro member
    obtain ⟨task, listed, rfl⟩ := mem_map.mp member
    rw [mem_insertionSort, mem_filter] at listed
    exact ⟨(store.tasks.lookup_eq_some _ _).mpr ⟨listed.1, rfl⟩, rfl, by simpa using listed.2⟩
  · rintro ⟨stored, held, active⟩
    refine mem_map.mpr ⟨row.1, ?_, Prod.ext rfl held⟩
    rw [mem_insertionSort, mem_filter]
    exact ⟨(Table.of_lookup stored).1, by simp [active]⟩

theorem nodup_nonterminalRows (store : Store) : ((nonterminalRows store).map fun row => row.1.taskId).Nodup := by
  have sorted := perm_insertionSort (fun first second : TaskRow => first.createdAt ≤ second.createdAt)
    (store.tasks.rows.filter fun task => !settledState task.state)
  rw [nonterminalRows, map_map]
  exact (sorted.map _).nodup_iff.mpr ((filter_sublist.map _).nodup store.tasks.keyed)

section Allowed

variable (allowed : ∀ request store, Recovers request → permitted request store)

include allowed

section

variable (draw : String → String × String) (consumerId : String)

include draw consumerId

theorem recoverTerminal_alone (task : TaskRow) (target : TaskState) :
    Alone codec permitted task.taskId store (store.recoverTerminal codec ambient draw consumerId task target now).2 := by
  unfold recoverTerminal
  dsimp only
  split
  · split
    · exact .refl codec _ _ store
    · rename_i done
      exact finalize_alone (allowed _ _ rfl) done
  · split
    · exact .refl codec _ _ store
    · rename_i moved
      refine (transition_alone (allowed _ _ rfl) moved).trans ?_
      split
      · exact .refl codec _ _ _
      · rename_i done
        exact finalize_alone (allowed _ _ rfl) done

theorem applyDecision_alone {task : TaskRow} {decision : RecoveryDecision}
    (stored : store.tasks.lookup task.taskId = some task) (active : settledState task.state = false)
    (decided : recoveryDecision codec task (store.currentAttempt task) (store.latestAnsweredResponseKind task.taskId
      task.generation) = some decision) :
    Alone codec permitted task.taskId store (store.applyDecision codec ambient draw consumerId task decision now).2 := by
  cases decision with
  | retrySafe =>
    simp only [applyDecision]
    split
    · exact .refl codec _ _ store
    · rename_i done
      exact scheduleSafeRetry_alone (allowed _ _ rfl) done
  | resumeSession =>
    simp only [applyDecision]
    split
    · exact .refl codec _ _ store
    · rename_i next done
      have resumed : store.resumeTask codec task.taskId now = .ok next := by
        simp only [resumeTask, eq_ok_iff]
        exact ⟨task, stored, (), ⟨active, decided⟩, done⟩
      exact .of_request (.recordResume task.taskId now) trivial (allowed _ _ trivial) resumed
        ((resumeTask_effect resumed).imp id And.left)
  | finalizeCancellation => exact recoverTerminal_alone allowed draw consumerId task .cancelled
  | needsAttention => exact recoverTerminal_alone allowed draw consumerId task .needsAttention

theorem recoverTasks_committed (rows : List (TaskRow × Option AttemptRow))
    (distinct : (rows.map fun row => row.1.taskId).Nodup) (current : ∀ row ∈ rows, Current store row) :
    CommittedWhen codec permitted store (recoverTasks codec ambient draw consumerId now rows store).2 := by
  induction rows generalizing store with
  | nil => exact .refl
  | cons row rows ih =>
    obtain ⟨task, attempt⟩ := row
    obtain ⟨absent, distinct⟩ := nodup_cons.mp distinct
    obtain ⟨stored, held, active⟩ : Current store (task, attempt) := current _ (mem_cons_self ..)
    dsimp only at stored held active
    have rest : ∀ row ∈ rows, Current store row := fun row member => current row (mem_cons_of_mem _ member)
    unfold recoverTasks
    split
    · exact ih distinct rest
    · rename_i decision decided
      rw [← held] at decided
      have alone : Alone codec permitted task.taskId store
          (store.applyDecision codec ambient draw consumerId task decision now).2 :=
        applyDecision_alone allowed draw consumerId stored active decided
      have kept : ∀ row ∈ rows, Current (store.applyDecision codec ambient draw consumerId task decision now).2 row := by
        intro row member
        have differs : row.1.taskId ≠ task.taskId := fun same =>
          absent (mem_map.mpr ⟨row, member, same⟩)
        exact (rest row member).frame (alone.frame row.1.taskId differs)
      have recovered := ih distinct kept
      split
      · rename_i outcome
        rw [outcome] at alone
        exact alone.committed
      · rename_i outcome
        rw [outcome] at alone recovered
        split
        all_goals
          rename_i remaining
          rw [remaining] at recovered
          exact alone.committed.trans recovered

theorem reconcileNonterminal_committed :
    CommittedWhen codec permitted store (store.reconcileNonterminal codec ambient draw consumerId now).2 := by
  rw [reconcileNonterminal_eq]
  exact recoverTasks_committed allowed draw consumerId _ (nodup_nonterminalRows store)
    fun row member => (mem_nonterminalRows row).mp member

end

end Allowed

end Recover

section Expire

variable {ambient : Ambient} {now : Int}

theorem finishExpiry_committed {kind : ExpiryKind} {consumerId taskId : String} (operationId : String)
    (done : store.finalizeExpiry codec ambient kind resultId ackToken consumerId interactionId taskId generation now =
      .ok (delivery, after)) : Committed codec store (after.settleExpiry operationId delivery.resultId) :=
  (finalize_alone trivial done).committed.trans (Committed.single (.settleExpiry operationId delivery.resultId) trivial rfl)

theorem expire_committed (preflight : Bool) (resultId ackToken consumerId operationId interactionId : String)
    (generation : Int) :
    Committed codec store (store.expire codec ambient (expiryKind preflight) resultId ackToken consumerId operationId
      interactionId generation now).2 := by
  unfold expire
  dsimp only
  split
  · exact .refl
  · split
    · exact .refl
    · split
      · exact .refl
      · split
        · exact .refl
        · rename_i done
          exact finishExpiry_committed operationId done
  · split
    · exact .refl
    · rename_i next expired
      have first : Committed codec store next :=
        Committed.single (.expireTransaction preflight operationId interactionId generation now) trivial
          (map_eq_ok.mpr ⟨_, expired, rfl⟩)
      split
      · exact first
      · rename_i done
        exact first.trans (finishExpiry_committed operationId done)

end Expire

section Approve

variable {world : Surroundings} {consumerId : String} {answer : InteractionAnswer}

theorem cancelBeforeDispatch_committed {taskId interactionId : String} {generation now : Int} :
    Committed codec store (store.cancelBeforeDispatch codec world consumerId taskId generation interactionId now).2 := by
  unfold cancelBeforeDispatch
  dsimp only
  split
  · rename_i moved
    refine (transition_alone trivial moved).committed.trans ?_
    split
    · exact .refl
    · rename_i done
      exact (finalize_alone trivial done).committed
  iterate 2
    split
    · exact .refl
    · rename_i done
      exact (finalize_alone trivial done).committed
  exact .refl

theorem applyPreflight_committed : Committed codec store (store.applyPreflight codec world consumerId answer).2 := by
  unfold applyPreflight
  split
  · have cancelled := @cancelBeforeDispatch_committed codec store world consumerId answer.taskId answer.interactionId
      answer.generation answer.now
    split
    all_goals
      rename_i result
      rw [result] at cancelled
      exact cancelled
  · split
    · exact .refl
    all_goals
      rename_i done
      exact .single (.reclaimPreflightDispatchSlot (world.ambient 1)
        (reclaimOperationId answer.taskId answer.generation) answer.taskId answer.generation answer.spec answer.limits
        (saturatingAdd answer.now 1)) trivial (map_eq_ok.mpr ⟨_, done, rfl⟩)

theorem replayedInteraction_store : (store.replayedInteraction codec answer).2 = store := by
  unfold replayedInteraction
  split <;> rfl

theorem applyBeforeDispatch_committed (replayed : Bool) :
    Committed codec store (store.applyBeforeDispatch codec world consumerId answer replayed).2 := by
  unfold applyBeforeDispatch
  split
  · exact .refl
  · have applied := @applyPreflight_committed codec store world consumerId answer
    split
    · rename_i result
      rw [result] at applied
      exact applied
    · rename_i result
      rw [result] at applied
      split
      · rw [replayedInteraction_store]
        exact applied
      · exact applied

theorem respondInteraction_committed {ambient : Ambient} {request : ResponseRequest} {now : Int} {replayed : Bool}
    (done : store.respondInteraction codec ambient request now = .ok (replayed, after)) : Committed codec store after :=
  Committed.single (.respondInteraction ambient request now) trivial (map_eq_ok.mpr ⟨_, done, rfl⟩)

theorem applyResponse_committed : Committed codec store (store.applyResponse codec world consumerId answer).2 := by
  unfold applyResponse
  split
  · exact .refl
  · rename_i replayed next done
    have answered := respondInteraction_committed done
    split
    · exact answered
    · split
      · exact answered.trans (applyBeforeDispatch_committed replayed)
      · split
        · rw [replayedInteraction_store]
          exact answered
        · split
          · exact answered
          · split <;> exact answered

theorem expirePending_committed {taskId : String} {now : Int} :
    Committed codec store (store.expirePending codec world consumerId operationId taskId interactionId generation
      now).2 := by
  unfold expirePending
  split
  · exact .refl
  · split
    · have expired := @expire_committed codec store (world.ambient 0) now true world.resultId world.ackToken consumerId
        operationId interactionId generation
      unfold expirePreflightInteraction
      rw [show expiryKind true = .beforeDispatch from rfl] at expired
      split
      all_goals
        rename_i result
        rw [result] at expired
        exact expired
    · have expired := @expire_committed codec store (world.ambient 0) now false world.resultId world.ackToken consumerId
        operationId interactionId generation
      unfold expireInteraction
      rw [show expiryKind false = .runtime from rfl] at expired
      split
      all_goals
        rename_i result
        rw [result] at expired
        exact expired

end Approve

/-- One operation of the daemon, from a single transaction to a whole recovery. -/
inductive Operates (codec : Codec) (store : Store) : Store → Prop where
  | transaction (request : Request) (after : Store) (admissible : request.admissible store)
      (committed : execute codec request store = .ok after) : Operates codec store after
  | expire (ambient : Ambient) (preflight : Bool) (resultId ackToken consumerId operationId interactionId : String)
      (generation now : Int) :
      Operates codec store (store.expire codec ambient (expiryKind preflight) resultId ackToken consumerId operationId
        interactionId generation now).2
  | reopen (verifyEvidence : Store → Checked Unit) (now : Int) :
      Operates codec store (store.startupIntegrityCheck verifyEvidence now).2
  | reconcile (ambient : Ambient) (draw : String → String × String) (consumerId : String) (now : Int) :
      Operates codec store (store.reconcileNonterminal codec ambient draw consumerId now).2
  | answer (world : Surroundings) (consumerId : String) (answer : InteractionAnswer) :
      Operates codec store (store.applyResponse codec world consumerId answer).2
  | expirePending (world : Surroundings) (consumerId operationId taskId interactionId : String) (generation now : Int) :
      Operates codec store
        (store.expirePending codec world consumerId operationId taskId interactionId generation now).2

/-- Any number of operations, each of which may also stop after any of its transactions. -/
def Operated (codec : Codec) (before after : Store) : Prop := Relation.ReflTransGen (Operates codec) before after

theorem Operates.committed (operates : Operates codec store after) : Committed codec store after := by
  cases operates with
  | transaction request after admissible committed => exact .single request admissible committed
  | expire ambient preflight => exact expire_committed preflight _ _ _ _ _ _
  | reopen verifyEvidence now => exact startupIntegrityCheck_committed (fun _ _ _ => trivial) verifyEvidence now
  | reconcile ambient draw consumerId now => exact reconcileNonterminal_committed (fun _ _ _ => trivial) draw consumerId
  | answer world consumerId answer => exact applyResponse_committed
  | expirePending => exact expirePending_committed

theorem Operated.committed (run : Operated codec store after) : Committed codec store after := by
  induction run with
  | refl => exact .refl
  | tail _ operates earlier => exact earlier.trans operates.committed

theorem Operated.of_reachable (run : ReachableWhen codec permitted store) : Operated codec initial store :=
  Relation.ReflTransGen.mono (fun _ after ⟨request, admissible, _, committed⟩ =>
    Operates.transaction request after admissible committed) _ _ run

end AgentMesh.Runs
