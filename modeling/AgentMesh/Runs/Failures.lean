import AgentMesh.Library.Handler
import AgentMesh.Improvement.Observation
import AgentMesh.Runs.Recoveries

/-! What a refused operation leaves behind. An operation of one transaction leaves nothing. An operation of several
transactions keeps what the earlier ones committed, so it leaves nothing exactly when no transaction of it is refused
after an earlier one has changed a row. -/
namespace AgentMesh.Daemon
open Library

/-- The writer's operations on tasks, attempts, interactions, results and reviews. -/
inductive Mutation where
  | transaction (request : Request)
  | transition (ambient : Ambient) (operationId taskId : String) (generation : Int) (sources : List TaskState)
      (next : TaskState) (now : Int)
  | reviewAndAck (ambient : Ambient) (reviewId consumerId commandKey : String) (canonicalReviewCommand : Bytes)
      (delivery : ResultDelivery) (verdict : ReviewVerdict) (diagnosis : Option String) (now : Int)
  | expire (preflight : Bool) (ambient : Ambient)
      (resultId ackToken consumerId operationId interactionId : String) (generation now : Int)
  | reconcile (ambient : Ambient) (draw : String → String × String) (consumerId : String) (now : Int)

/-- Run an operation, with the store it leaves behind also when it is refused. -/
def Mutation.perform (codec : Codec) : Mutation → Handler Store StorageError Unit
  | .transaction request => .atomic fun store => (fun next => ((), next)) <$> execute codec request store
  | .transition ambient operationId taskId generation sources next now =>
    .atomic fun store => (fun answer => ((), answer.2)) <$>
      store.transition codec ambient operationId taskId generation sources next now
  | .reviewAndAck ambient reviewId consumerId commandKey command delivery verdict diagnosis now => do
    let _ ← .atomic fun store =>
      store.reviewAndAck codec ambient reviewId consumerId commandKey command delivery verdict diagnosis now
    .atomic fun store => (fun next => ((), next)) <$>
      store.recordReviewObservation codec ambient delivery.taskId verdict diagnosis now
  | .expire preflight ambient resultId ackToken consumerId operationId interactionId generation now => fun store =>
    let (answer, after) := store.expire codec ambient (expiryKind preflight) resultId ackToken consumerId operationId
      interactionId generation now
    (answer.map fun _ => (), after)
  | .reconcile ambient draw consumerId now => fun store =>
    let (answer, after) := store.reconcileNonterminal codec ambient draw consumerId now
    (answer.map fun _ => (), after)

end AgentMesh.Daemon

namespace AgentMesh.Runs
open Library Daemon AgentMesh.Task
open Improvement (Improves Recordable observing)

variable {codec : Codec} {store after : Store} {α β : Type}

/-- Nothing but the database can make the computation fail. -/
def Accepted (outcome : Checked α) : Prop := ∀ error, outcome = .error error → error.isDatabase = true

open Store

theorem accepted_ok {outcome : Checked α} {value : α} (done : outcome = .ok value) : Accepted outcome := by
  intro error failed
  rw [done] at failed
  cases failed

theorem not_accepted {outcome : Checked α} {error : StorageError} (failed : outcome = .error error)
    (refusal : Refusal error) : ¬Accepted outcome := fun accepted =>
  Bool.false_ne_true (refusal.symm.trans (accepted error failed))

section Expiry

variable {ambient : Ambient} {resultId ackToken consumerId operationId interactionId taskId : String}
  {generation now : Int} {kind : ExpiryKind}

/-- The key under which an expiry commits its result, when this consumer has used it for nothing else. -/
def KeyFree (codec : Codec) (kind : ExpiryKind) (consumerId interactionId : String) (store : Store) : Prop :=
  ∀ row, store.commands.lookup (consumerId, "finalize", kind.commandPrefix ++ interactionId) = some row →
    row.requestDigest = digestFields codec [interactionId, kind.requestLabel]

/-- The terminal commit of an expiry is refused exactly when its key is taken. -/
theorem accepted_finalizeExpiry (run : Reachable codec store) (preflight : Bool) {task : TaskRow}
    (stored : store.tasks.lookup taskId = some task) (finalizing : task.state = .finalizing)
    (open_ : task.cancelRequestedAt = none) (token : ackToken.length = 64) (unused : Unused resultId store) :
    Accepted (store.finalizeExpiry codec ambient (expiryKind preflight) resultId ackToken consumerId interactionId taskId
      task.generation now) ↔ KeyFree codec (expiryKind preflight) consumerId interactionId store := by
  have ends : (expiryKind preflight).terminal.isTerminal = true := by cases preflight <;> rfl
  unfold KeyFree finalizeExpiry
  cases found : store.commands.lookup (consumerId, "finalize", (expiryKind preflight).commandPrefix ++ interactionId) with
  | none =>
    obtain ⟨delivery, done, _⟩ := @finalize_commits codec store ambient taskId task now _ run stored resultId ackToken
      consumerId _ (digestFields codec [interactionId, (expiryKind preflight).requestLabel])
      (digestFields codec [(expiryKind preflight).resultLabel, interactionId]) _ finalizing ends (.inl open_) token
      ⟨unused.results, unused.outbox⟩ found
    exact iff_of_true (accepted_ok done) fun _ impossible => by cases impossible
  | some command =>
    simp only [Option.some.injEq, forall_eq', finalize, mutationAllowed_safe, bind, Except.bind, ensure, ends, if_true,
      replayingCommand_of_found found]
    split
    · rename_i same
      refine iff_of_true ?_ same
      by_cases listed : ∃ entry ∈ store.outbox.rows, entry.consumerId = consumerId ∧
          entry.resultId = command.responseLocator
      · obtain ⟨delivery, loaded⟩ := loadDelivery_of_listed run listed
        exact accepted_ok (by simp only [loaded]; rfl)
      · rintro error failed
        simp only [loadDelivery_of_unlisted listed] at failed
        cases failed
        rfl
    · rename_i conflict
      exact iff_of_false (not_accepted rfl rfl) conflict

/-- An expiry that fails has done nothing, or has committed its first transaction and had the second refused. -/
theorem expire_eq_error {error : StorageError} {last : Store} :
    store.expire codec ambient kind resultId ackToken consumerId operationId interactionId generation now =
        (.error error, last) →
      last = store ∨ store.operations.lookup operationId = none ∧ ∃ taskId,
        store.expireTransaction codec kind operationId interactionId generation now = .ok (taskId, last) ∧
        last.finalizeExpiry codec ambient kind resultId ackToken consumerId interactionId taskId generation now =
          .error error := by
  intro failed
  simp only [expire, mutationAllowed_safe] at failed
  cases known : store.operations.lookup operationId with
  | some operation =>
    simp only [known] at failed
    split at failed
    · exact .inl (Prod.mk.inj failed).2.symm
    · split at failed
      · exact .inl (Prod.mk.inj failed).2.symm
      · split at failed
        · exact .inl (Prod.mk.inj failed).2.symm
        · cases failed
  | none =>
    simp only [known] at failed
    split at failed
    · exact .inl (Prod.mk.inj failed).2.symm
    · rename_i taskId middle first
      split at failed
      · rename_i cause refused
        obtain ⟨rfl, rfl⟩ : cause = error ∧ middle = last := by simpa using failed
        exact .inr ⟨rfl, taskId, first, refused⟩
      · cases failed

theorem expire_of_refused {error : StorageError} {middle : Store} (unknown : store.operations.lookup operationId = none)
    (first : store.expireTransaction codec kind operationId interactionId generation now = .ok (taskId, middle))
    (refused : middle.finalizeExpiry codec ambient kind resultId ackToken consumerId interactionId taskId generation
      now = .error error) :
    store.expire codec ambient kind resultId ackToken consumerId operationId interactionId generation now =
      (.error error, middle) := by
  simp only [expire, mutationAllowed_safe, unknown, first, refused]

variable (ambient consumerId) in
/-- An expiry that is due commits its first transaction, and its second one is then accepted if its key is free. -/
theorem expireTransaction_leaves (run : Reachable codec store) (preflight : Bool) (token : ackToken.length = 64)
    (unused : Unused resultId store) (unknown : store.operations.lookup operationId = none) {row : InteractionRow}
    {task : TaskRow} (due : Expirable store (expiryKind preflight) interactionId generation now row task) :
    ∃ taskId middle, store.expireTransaction codec (expiryKind preflight) operationId interactionId generation now =
        .ok (taskId, middle) ∧ middle ≠ store ∧
      (KeyFree codec (expiryKind preflight) consumerId interactionId store ↔
        Accepted (middle.finalizeExpiry codec ambient (expiryKind preflight) resultId ackToken consumerId
          interactionId taskId generation now)) := by
  obtain ⟨⟨taskId, middle⟩, first, registers, moved, stored, finalizing, same, cancel⟩ :=
    expireTransaction_commits run unknown due
  have reached : Reachable codec middle := run.tail
    ⟨.expireTransaction preflight operationId interactionId generation now, trivial, trivial, by rw [execute, first]; rfl⟩
  have open_ : task.cancelRequestedAt = none := by
    obtain ⟨current, found, rfl⟩ := view_of_lookup due.stored
    obtain ⟨derived, control⟩ := control_of_reachable run found
    exact control.not_cancelled_of_not_cancelling (by rw [due.waiting]; rfl)
  obtain ⟨operation, named, added⟩ := registers.operations
  refine ⟨taskId, middle, first, fun still => ?_, ?_⟩
  · have filed := (Table.lookup_insert added operationId).trans (if_pos named)
    rw [still, unknown] at filed
    cases filed
  · have accepted := @accepted_finalizeExpiry codec middle ambient resultId ackToken consumerId interactionId taskId now
      reached preflight moved stored finalizing (cancel.trans open_) token (registers.unused unused)
    rw [same.trans due.current.2] at accepted
    rw [accepted, KeyFree, KeyFree, registers.commands]

/-- A refused expiry leaves nothing behind exactly when the key of its result is free, or its interaction is not due. -/
theorem undone_expire (run : Reachable codec store) (preflight : Bool) (token : ackToken.length = 64)
    (unused : Unused resultId store) :
    Handler.Undone Refusal (Mutation.perform codec (.expire preflight ambient resultId ackToken consumerId operationId
        interactionId generation now)) store ↔
      (store.operations.lookup operationId = none →
        (∃ row task, Expirable store (expiryKind preflight) interactionId generation now row task) →
          KeyFree codec (expiryKind preflight) consumerId interactionId store) := by
  constructor
  · rintro undone unknown ⟨row, task, due⟩
    obtain ⟨taskId, middle, first, differs, free⟩ :=
      expireTransaction_leaves ambient consumerId run preflight token unused unknown due
    refine free.mpr fun error refused => ?_
    by_contra counted
    have failed := expire_of_refused unknown first refused
    refine differs (undone error middle ?_ (by simpa [Refusal] using counted))
    simp [Mutation.perform, failed, Except.map]
  · intro free error last failed counted
    rcases outcome : store.expire codec ambient (expiryKind preflight) resultId ackToken consumerId operationId
      interactionId generation now with ⟨cause | delivery, left⟩
    · simp only [Mutation.perform, outcome, Except.map, Prod.mk.injEq, Except.error.injEq] at failed
      obtain ⟨rfl, rfl⟩ := failed
      rcases expire_eq_error outcome with same | ⟨unknown, taskId, first, refused⟩
      · exact same
      · obtain ⟨row, task, due⟩ := expirable_of_expireTransaction first
        obtain ⟨_, _, again, _, accepted⟩ :=
          expireTransaction_leaves ambient consumerId run preflight token unused unknown due
        cases first.symm.trans again
        exact (not_accepted refused counted (accepted.mp (free unknown ⟨row, task, due⟩))).elim
    · simp [Mutation.perform, outcome, Except.map] at failed

end Expiry

section Review

variable {ambient : Ambient} {reviewId consumerId commandKey taskId : String} {command : Bytes}
  {delivery : ResultDelivery} {verdict : ReviewVerdict} {diagnosis : Option String} {now : Int}

/-- A review that is recorded: a command that says what its arguments say, under a new key, for a result that is
delivered as named and either not acknowledged yet or acknowledged by the same review. -/
structure NewReview (codec : Codec) (reviewId consumerId commandKey : String) (command : Bytes)
    (delivery : ResultDelivery) (verdict : ReviewVerdict) (diagnosis : Option String) (store : Store) : Prop where
  parsed : parseReviewAckCommand codec command = .ok
    ⟨commandKey, delivery.taskId, delivery.resultId, delivery.resultVersion, delivery.ackToken, verdict, diagnosis⟩
  key : store.commands.lookup (consumerId, "review_ack", commandKey) = none
  delivered : ∃ entry task review, store.ackRow consumerId delivery = some (entry, task, review) ∧
    sameDelivery entry task delivery ∧
    (entry.ackedAt.isSome = true → sameReview review (hashBytes codec command) verdict diagnosis) ∧
    (entry.ackedAt.isSome = false → store.reviews.lookup reviewId = none)

theorem reviewAndAck_commits :
    (∃ acked, store.reviewAndAck codec ambient reviewId consumerId commandKey command delivery verdict diagnosis now =
      .ok (false, acked)) ↔
      NewReview codec reviewId consumerId commandKey command delivery verdict diagnosis store := by
  constructor
  · rintro ⟨acked, done⟩
    simp only [reviewAndAck, eq_ok_iff, replayingCommand_eq_ok] at done
    obtain ⟨_, _, parsed, read, _, ⟨rfl, named, result, version, token, rfl, rfl⟩, replay | ⟨new, fresh⟩⟩ := done
    · obtain ⟨_, _, _, _, _, _, _, _, _, _, _, again, _⟩ := replay
      cases again
    · obtain ⟨⟨entry, task, review⟩, found, _, delivered, outcome⟩ := fresh
      refine ⟨?_, new, entry, task, review, found, delivered, fun acked => ?_, fun open_ => ?_⟩
      · rw [read, ← named, ← result, ← version, ← token]
      · simp only [if_pos acked, eq_ok_iff] at outcome
        exact outcome.choose_spec.1
      · simp only [if_neg (ne_true_of_eq_false open_), eq_ok_iff, insertRow] at outcome
        obtain ⟨reviews, added, _⟩ := outcome
        exact (Table.insert_eq_some.mp added).1
  · rintro ⟨parsed, new, entry, task, review, found, delivered, again, free⟩
    suffices succeeds : Succeeds (store.reviewAndAck codec ambient reviewId consumerId commandKey command delivery verdict
        diagnosis now) fun done => done.1 = false by
      obtain ⟨⟨_, acked⟩, done, rfl⟩ := succeeds
      exact ⟨acked, done⟩
    refine succeeds_ok_bind (mutationAllowed_safe ambient) (succeeds_ok_bind parsed ?_)
    refine succeeds_ensure_bind ⟨rfl, rfl, rfl, rfl, rfl, rfl, rfl⟩ ?_
    rw [replayingCommand_of_free new]
    refine succeeds_required_bind found (succeeds_ensure_bind delivered ?_)
    dsimp only
    split
    · rename_i acked
      refine succeeds_ensure_bind (again acked) ((storeCommand_succeeds new).bind fun _ _ => ?_)
      exact succeeds_pure rfl
    · rename_i open_
      obtain ⟨reviews, added⟩ := store.reviews.insert_of_free
        { reviewId, consumerId, taskId := delivery.taskId, resultVersion := delivery.resultVersion,
          reviewDigest := hashBytes codec command, verdict, diagnosis, createdAt := now } (free (by simpa using open_))
      refine succeeds_required_bind added ((storeCommand_succeeds ?_).bind fun _ _ => ?_)
      · exact new
      · exact succeeds_pure rfl

/-- What the observation of a review needs beyond the review itself, when the feature is enabled and there is an attempt
to observe: a valid time, storage that is not in an emergency and not under pressure, and an observation that the
improvement tables can hold. -/
def Observable (codec : Codec) (ambient : Ambient) (taskId : String) (verdict : ReviewVerdict)
    (diagnosis : Option String) (now : Int) (store : Store) : Prop :=
  ∀ engine input, observing codec store taskId verdict diagnosis now = some (engine, input) →
    (0 ≤ now ∧ now ≤ maxSafeTimeUs) ∧ (ambient.emergency = .normal ∧ ambient.walBytes < 128 * 1024 * 1024) ∧
      Recordable codec store engine input

/-- What the improvement tables have been through, and that no digest collides. -/
structure Traced (codec : Codec) (taskId : String) (verdict : ReviewVerdict) (diagnosis : Option String) (now : Int)
    (store : Store) : Prop where
  hex : ∀ bytes, (codec.sha256Hex bytes).length = 64
  run : ∃ reached, Relation.ReflTransGen (Improves codec) (Store.initial, none) (store, reached)
  apart : ∀ engine input, observing codec store taskId verdict diagnosis now = some (engine, input) →
    Improvement.Apart codec engine input

/-- The observation of a review succeeds exactly when it is observable, and is refused for an emergency exactly in one. -/
theorem observation_cases (traced : Traced codec taskId verdict diagnosis now store) :
    (Observable codec ambient taskId verdict diagnosis now store ∧
      ∃ after, store.recordReviewObservation codec ambient taskId verdict diagnosis now = .ok after) ∨
    (¬Observable codec ambient taskId verdict diagnosis now store ∧
      ∃ error, store.recordReviewObservation codec ambient taskId verdict diagnosis now = .error error ∧ Refusal error ∧
        (error = .storageEmergency ↔ (0 ≤ now ∧ now ≤ maxSafeTimeUs) ∧ ambient.emergency ≠ .normal)) := by
  obtain ⟨hex, ⟨reached, run⟩, apart⟩ := traced
  have outcome := @Improvement.recordReviewObservation_outcome codec store reached ambient taskId verdict diagnosis now hex
    run apart
  revert outcome
  generalize store.recordReviewObservation codec ambient taskId verdict diagnosis now = result
  intro outcome
  cases outcome with
  | idle none => exact .inl ⟨fun engine input found => by simp [none] at found, _, rfl⟩
  | untimely engine input found late =>
    exact .inr ⟨fun observable => late (observable engine input found).1, _, rfl, rfl, by simp [late]⟩
  | fenced engine input error found time fence =>
    refine .inr ⟨fun observable => ?_, error, rfl, refusal_of_fence fence, ?_⟩
    · cases fence.symm.trans ((mutationAllowed_iff ambient).mpr (observable engine input found).2.1)
    · unfold ensureMutationAllowed ensure at fence
      split at fence
      · split at fence <;> cases fence
        simp_all
      · cases fence
        simp_all
  | recorded engine input after found time calm recordable =>
    refine .inl ⟨fun other same again => ?_, after, rfl⟩
    cases found.symm.trans again
    exact ⟨time, (mutationAllowed_iff ambient).mp calm, recordable⟩
  | drifts engine input reason found _ calm drift =>
    refine .inr ⟨fun observable => drift (observable engine input found).2.2, _, rfl, rfl, ?_⟩
    simp [((mutationAllowed_iff ambient).mp calm).1]

/-- The observation of a review is refused exactly when it is not observable. -/
theorem accepted_observation (traced : Traced codec taskId verdict diagnosis now store) :
    Accepted (store.recordReviewObservation codec ambient taskId verdict diagnosis now) ↔
      Observable codec ambient taskId verdict diagnosis now store := by
  obtain ⟨observable, _, done⟩ | ⟨refused, error, failed, refusal, _⟩ := observation_cases traced
  · exact iff_of_true (accepted_ok done) observable
  · exact iff_of_false (not_accepted failed refusal) refused

theorem reviewAndAck_leaves {replayed : Bool} (done : store.reviewAndAck codec ambient reviewId consumerId commandKey
      command delivery verdict diagnosis now = .ok (replayed, after)) :
    (replayed = true ∧ after = store ∧ (store.commands.lookup (consumerId, "review_ack", commandKey)).isSome = true) ∨
    (replayed = false ∧ after ≠ store ∧
      (observing codec after delivery.taskId verdict diagnosis now =
        observing codec store delivery.taskId verdict diagnosis now ∧
          after.improvementTables = store.improvementTables) ∧
      (Traced codec delivery.taskId verdict diagnosis now store →
        Traced codec delivery.taskId verdict diagnosis now after)) := by
  have counted : ∀ {last : Store}, last.mutationEpoch = store.mutationEpoch → last.bumpMutationEpoch ≠ store := by
    intro last same changed
    have epoch := congrArg mutationEpoch changed
    simp only [bumpMutationEpoch, same] at epoch
    omega
  simp only [reviewAndAck, eq_ok_iff, replayingCommand_eq_ok] at done
  obtain ⟨_, _, _, _, _, _, replay | fresh⟩ := done
  · obtain ⟨_, known, _, _, _, ⟨_, _, _⟩, _, _, _, _, _, rfl, rfl⟩ := replay
    exact .inl ⟨rfl, rfl, known ▸ rfl⟩
  · obtain ⟨_, ⟨entry, task, review⟩, _, _, _, outcome⟩ := fresh
    refine .inr ?_
    split at outcome
    all_goals
      simp only [eq_ok_iff, insertRow, storeCommand] at outcome
      obtain ⟨_, _, _, rfl, _, ⟨_, _, rfl⟩, rfl, rfl⟩ := outcome
      exact ⟨rfl, counted rfl, ⟨rfl, rfl⟩, fun traced => ⟨traced.hex, traced.run.imp fun _ run => run.tail
        (.elsewhere _ _ _ rfl rfl rfl), traced.apart⟩⟩

/-- A refused review leaves nothing behind exactly when a review that is recorded can also be observed. -/
theorem undone_review (traced : Traced codec delivery.taskId verdict diagnosis now store) :
    Handler.Undone Refusal (Mutation.perform codec (.reviewAndAck ambient reviewId consumerId commandKey command delivery
        verdict diagnosis now)) store ↔
      (NewReview codec reviewId consumerId commandKey command delivery verdict diagnosis store →
        Observable codec ambient delivery.taskId verdict diagnosis now store) := by
  have observes : ∀ {reached : Store}, Traced codec delivery.taskId verdict diagnosis now reached →
      observing codec reached delivery.taskId verdict diagnosis now =
          observing codec store delivery.taskId verdict diagnosis now ∧
        reached.improvementTables = store.improvementTables →
      (Accepted ((fun next => ((), next)) <$> reached.recordReviewObservation codec ambient delivery.taskId verdict
        diagnosis now) ↔ Observable codec ambient delivery.taskId verdict diagnosis now store) := by
    rintro reached traced ⟨same, tables⟩
    have kept : Observable codec ambient delivery.taskId verdict diagnosis now store ↔
        Observable codec ambient delivery.taskId verdict diagnosis now reached := by
      simp only [Observable, Recordable, same, tables]
    rw [kept, ← accepted_observation traced]
    cases reached.recordReviewObservation codec ambient delivery.taskId verdict diagnosis now with
    | ok next => exact iff_of_true (accepted_ok rfl) (accepted_ok rfl)
    | error error => simp [Accepted, Functor.map, Except.map]
  rw [Mutation.perform, Handler.undone_atomic_bind]
  constructor
  · intro unchanged new
    obtain ⟨acked, recorded⟩ := reviewAndAck_commits.mpr new
    obtain ⟨impossible, _⟩ | ⟨_, differs, same, later⟩ := reviewAndAck_leaves recorded
    · cases impossible
    · refine (observes (later traced) same).mp fun error refused => ?_
      by_contra counted
      exact differs (unchanged false acked error recorded refused (by simpa [Refusal] using counted))
  · intro observable replayed reached error recorded refused counted
    obtain ⟨_, rfl, _⟩ | ⟨rfl, _, same, later⟩ := reviewAndAck_leaves recorded
    · rfl
    · have new := reviewAndAck_commits.mp ⟨reached, recorded⟩
      have database := (observes (later traced) same).mpr (observable new) error refused
      rw [Refusal, database] at counted
      cases counted

end Review

/-- When a refused operation is sure to leave nothing behind, by the operation and the rows before it. -/
def Mutation.Contained (codec : Codec) (store : Store) : Mutation → Prop
  | .transaction _ | .transition .. => True
  | .reviewAndAck ambient reviewId consumerId commandKey command delivery verdict diagnosis now =>
    NewReview codec reviewId consumerId commandKey command delivery verdict diagnosis store →
      Observable codec ambient delivery.taskId verdict diagnosis now store
  | .expire preflight _ _ _ consumerId operationId interactionId generation now =>
    store.operations.lookup operationId = none →
      (∃ row task, Expirable store (expiryKind preflight) interactionId generation now row task) →
        KeyFree codec (expiryKind preflight) consumerId interactionId store
  | .reconcile ambient _ consumerId now =>
    Unbroken true ((nonterminalRows store).map fun row => verdict codec ambient consumerId now store row.1)

/-- What an operation takes for granted: a review, improvement tables that only the improvement commands have written and
a digest that keeps the observed case apart from the others; an expiry and a recovery, identifiers that have not been
used. -/
def Mutation.Sound (codec : Codec) (store : Store) : Mutation → Prop
  | .reviewAndAck _ _ _ _ _ delivery verdict diagnosis now => Traced codec delivery.taskId verdict diagnosis now store
  | .expire _ _ resultId ackToken .. => ackToken.length = 64 ∧ Unused resultId store
  | .reconcile _ draw _ _ => Fresh draw store
  | _ => True

/-- An operation that is refused in a reachable state, in an emergency or not, leaves every row as it was, if and
only if it is contained. -/
theorem refused_unchanged_iff (codec : Codec) (mutation : Mutation) (store : Store) (run : Reachable codec store)
    (sound : Mutation.Sound codec store mutation) :
    (∀ error after, mutation.perform codec store = (.error error, after) → error.isDatabase = false → after = store) ↔
      Mutation.Contained codec store mutation := by
  cases mutation with
  | transaction | transition =>
    refine iff_of_true (fun error after failed refusal => ?_) trivial
    simp only [Mutation.perform, Handler.atomic_eq_error] at failed
    exact failed.2
  | reviewAndAck => exact undone_review sound
  | expire preflight => exact undone_expire run preflight sound.1 sound.2
  | reconcile ambient draw consumerId now =>
    refine Iff.trans ?_ (reconcileNonterminal_undone run sound)
    simp only [Mutation.perform]
    rcases store.reconcileNonterminal codec ambient draw consumerId now with ⟨error | decisions, last⟩ <;>
      simp [Except.map, Refusal]

/-- The operation is refused, and the store it leaves behind has seen more mutations. -/
def leavesBehind (codec : Codec) (mutation : Mutation) (store : Store) : Bool :=
  match mutation.perform codec store with
  | (.error error, after) => !error.isDatabase && after.mutationEpoch != store.mutationEpoch
  | (.ok _, _) => false

theorem exists_of_leavesBehind {mutation : Mutation} (leaves : leavesBehind codec mutation store = true) :
    ∃ error after, mutation.perform codec store = (.error error, after) ∧ error.isDatabase = false ∧ after ≠ store := by
  rcases outcome : mutation.perform codec store with ⟨error | value, after⟩
  · simp only [leavesBehind, outcome, Bool.and_eq_true, Bool.not_eq_true', bne_iff_ne] at leaves
    refine ⟨error, after, rfl, leaves.1, fun same => leaves.2 ?_⟩
    rw [same]
  · simp [leavesBehind, outcome] at leaves

def scriptImproving : List Request :=
  [Script.submit "t" "k", Script.claim "t" 0, Script.phase "t" 0 .processStarted,
    .transitionToFinalizing Script.ambient "finalizing:t:0" "t" 0 [.preparing, .running] 4,
    .finalize Script.ambient "result" Script.digest "console" "finalize:t:0" Script.digest "t" 0 .succeeded
      Script.digest 5,
    .assignCanary .empty ⟨.empty, .empty, .empty, .empty, 1, [1]⟩
      (some (.new { ImprovementPolicy.default with enabled := true }))]

/-- Two dispatched tasks: the first may have had an effect, the second has not. -/
def scriptInterrupted : List Request :=
  [Script.submit "s" "s", Script.claim "s" 0, Script.phase "s" 0 .processStarted, Script.submit "t" "t",
    .claimDispatchSlot Script.ambient "attempt:t:0" "claim:t:0" "t" 0
      { Script.spec with adapterInstanceId := "claude:local:default:" ++ Script.digest } SchedulerLimits.default 2]

/-- The results of a recovery, named after their tasks. -/
def scriptDraw (taskId : String) : String × String := ("result:" ++ taskId, Script.digest)

def scriptEmergency : Ambient := { Script.ambient with emergency := .latched }

def scriptRecovery : Mutation := .reconcile scriptEmergency scriptDraw "console" 9

theorem fresh_scriptDraw (none : store.results.rows = [] ∧ store.outbox.rows = [])
    (short : ∀ command ∈ store.commands.rows, command.responseLocator.length < 7) : Fresh scriptDraw store where
  token _ := show Script.digest.length = 64 by decide
  apart taskId otherId same := by simpa [scriptDraw] using same
  unused taskId := by
    refine ⟨by simp [none.1], by simp [none.2], fun command member same => ?_⟩
    have length := short command member
    have seven : "result:".length = 7 := by decide
    rw [same, scriptDraw, String.length_append, seven] at length
    omega

/-- In an emergency a recovery is refused at its only task, which had no effect yet, and leaves every row as it was. -/
theorem refused_recovery_unchanged : ∃ store, Reachable (Script.codec []) store ∧
    (Mutation.perform (Script.codec []) scriptRecovery store).1.toOption = none ∧
    ∀ error after, scriptRecovery.perform (Script.codec []) store = (.error error, after) → error.isDatabase = false →
      after = store := by
  obtain ⟨store, run, refused, none, short, verdicts⟩ : ∃ store, Reachable (Script.codec []) store ∧
      (Mutation.perform (Script.codec []) scriptRecovery store).1.toOption = none ∧
      (store.results.rows = [] ∧ store.outbox.rows = []) ∧
      (∀ command ∈ store.commands.rows, command.responseLocator.length < 7) ∧
      ((nonterminalRows store).map fun row => verdict (Script.codec []) scriptEmergency "console" 9 store row.1) =
        [.refused] :=
    exists_of_script (scriptInterrupted.drop 3) (by decide +kernel)
  refine ⟨store, run, refused, (refused_unchanged_iff _ scriptRecovery store run (fresh_scriptDraw none short)).mpr ?_⟩
  rw [scriptRecovery, Mutation.Contained, verdicts]
  rfl

def scriptAcceptance : Json :=
  .object [("command_key", .string "review:t"), ("task_id", .string "t"), ("result_id", .string "result"),
    ("result_version", .number 1), ("ack_token", .string Script.digest), ("verdict", .string "ACCEPTED")]

def scriptAccept : Mutation :=
  .reviewAndAck scriptEmergency "review" "console" "review:t" (utf8 "review:t")
    { taskId := "t", resultId := "result", resultVersion := 1, ackToken := Script.digest, terminalEventSeq := 5,
      terminalState := .succeeded } .accepted none 9

/-- In an emergency a review is refused after its result has been acknowledged, and a reconciliation is refused at the
second task after it has ended the first. -/
theorem refused_after_commit :
    (∃ store, Reachable (Script.codec [scriptAcceptance]) store ∧ ∃ error after,
      scriptAccept.perform (Script.codec [scriptAcceptance]) store = (.error error, after) ∧
        error.isDatabase = false ∧ after ≠ store) ∧
    ∃ store, Reachable (Script.codec []) store ∧ ∃ error after,
      scriptRecovery.perform (Script.codec []) store = (.error error, after) ∧ error.isDatabase = false ∧
        after ≠ store := by
  constructor
  · obtain ⟨store, run, leaves⟩ : ∃ store, Reachable (Script.codec [scriptAcceptance]) store ∧
        leavesBehind (Script.codec [scriptAcceptance]) scriptAccept store = true :=
      exists_of_script scriptImproving (by decide +kernel)
    exact ⟨store, run, exists_of_leavesBehind leaves⟩
  · obtain ⟨store, run, leaves⟩ : ∃ store, Reachable (Script.codec []) store ∧
        leavesBehind (Script.codec []) scriptRecovery store = true :=
      exists_of_script scriptInterrupted (by decide +kernel)
    exact ⟨store, run, exists_of_leavesBehind leaves⟩

end AgentMesh.Runs
