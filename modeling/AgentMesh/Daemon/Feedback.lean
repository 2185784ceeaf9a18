import AgentMesh.Daemon.Review

/-! What the store does with the improvement engine: the observation that follows a review, and the commands that
propose a candidate or roll one back. -/
namespace AgentMesh.Daemon
open Library

variable {ambient : Ambient} {response : CommandResponse} {command : ImprovementCommand} {engine : ImprovementEngine}
  {now : Int} {commandKey consumerId requestDigest : String}

inductive ImprovementCommand where
  | propose (proposal : CandidateProposal)
  | rollback (caseId : String) (targetConfigVersion : Int)

namespace ImprovementCommand

/-- The case a command names, which is also the locator of its answer. -/
def caseId : ImprovementCommand → String
  | propose proposal => proposal.caseId
  | rollback caseId _ => caseId

def method : ImprovementCommand → String
  | propose _ => "improvement_propose"
  | rollback _ _ => "improvement_rollback"

/-- The command as the client must have sent it: `validate_improvement_propose_command` and
`validate_improvement_rollback_command` compare it with what was received. -/
def wire (commandKey : String) : ImprovementCommand → Json
  | propose proposal => .object [("version", .number 1), ("kind", .string "command"),
      ("action", .string "improvement_propose"), ("command_key", .string commandKey),
      ("case_id", .string proposal.caseId), ("knob", .string proposal.knob.asStr), ("value", .string proposal.value),
      ("hypothesis", .string proposal.hypothesis),
      ("fixtures", .array (proposal.fixtures.map fun fixture => .object [("fixture_id", .string fixture.fixtureId),
        ("passed", .bool fixture.passed), ("hard_invariant_failures", .number fixture.hardInvariantFailures)]))]
  | rollback caseId targetConfigVersion => .object [("version", .number 1), ("kind", .string "command"),
      ("action", .string "improvement_rollback"), ("command_key", .string commandKey), ("case_id", .string caseId),
      ("target_config_version", .number targetConfigVersion)]

def apply (codec : Codec) (now : Int) (engine : ImprovementEngine) :
    ImprovementCommand → Checked (CommandResponse × ImprovementEngine)
  | propose proposal => do
    let (decision, engine) ← required .invalidRequest (engine.proposeCandidate codec proposal now)
    let case ← required .invalidRequest (engine.cases.lookup proposal.caseId)
    return (.candidate decision case (engine.candidateConfigVersion proposal.caseId), engine)
  | rollback caseId targetConfigVersion => do
    let (decision, engine) := engine.requestRollback caseId targetConfigVersion now
    match decision with
    | .waitingForSamples _ _ => throw .invalidRequest
    | _ =>
      let case ← required .invalidRequest (engine.cases.lookup caseId)
      return (.rollback decision case (engine.candidateConfigVersion caseId), engine)

/-- Whether a stored answer is one to a command of this kind. -/
def answeredBy : ImprovementCommand → CommandResponse → Bool
  | propose _, .candidate _ _ _ | rollback _ _, .rollback _ _ _ => true
  | _, _ => false

end ImprovementCommand

namespace Store

/-- `mutate_improvement`: an engine that did not change is not written. -/
def mutateImprovement (ambient : Ambient) (mutation : ImprovementEngine → ImprovementEngine) (now : Int)
    (store : Store) : Checked Store := do
  ensure (0 ≤ now ∧ now ≤ maxSafeTimeUs) StorageError.invalidRequest
  ensureMutationAllowed ambient false
  let engine ← required (.quarantined "improvement engine is not initialized") (← store.loadImprovementEngine)
  if mutation engine = engine then return store
  else
    let store ← store.withEngine (mutation engine)
    return store.bumpMutationEpoch

/-- `ensure_improvement_engine`: a stored engine must have the given policy. -/
def ensureImprovementEngine (ambient : Ambient) (policy : ImprovementPolicy) (now : Int) (store : Store) :
    Checked Store := do
  ensure (0 ≤ now ∧ now ≤ maxSafeTimeUs) StorageError.invalidRequest
  match ← store.loadImprovementEngine with
  | some engine =>
    ensure (engine.policy = policy) StorageError.idempotencyConflict
    return store
  | none =>
    ensureMutationAllowed ambient false
    let store ← store.withEngine (.new policy)
    return store.bumpMutationEpoch

def usageTokens (payload : Json) : Option Nat := do
  let input ← payload.i64? "input_tokens"
  let output ← payload.i64? "output_tokens"
  guard (0 ≤ input ∧ 0 ≤ output)
  return input.toNat + output.toNat

def usageTokenCost (store : Store) (taskId : String) : Option Nat := do
  let usage := (store.events.slice EventRow.taskId taskId).filter fun event => event.kind = "usage"
  guard (usage ≠ [])
  usage.foldlM (fun total event => do
    let tokens ← usageTokens event.payload
    guard (total + tokens < 2 ^ 64)
    return total + tokens) 0

def failureClass (state : TaskState) (verdict : ReviewVerdict) : String :=
  if verdict = .rejected then "review_rejected"
  else
    match state with
    | .failed => "terminal_failed"
    | .cancelled => "terminal_cancelled"
    | .needsAttention => "terminal_needs_attention"
    | _ => "terminal_unknown"

/-- What `record_review_observation` tells the engine about a reviewed task. -/
def reviewObservation (codec : Codec) (store : Store) (taskId : String) (verdict : ReviewVerdict)
    (diagnosis : Option String) (reviewedAtUs : Int) : Option ObservationInput := do
  let task ← store.tasks.lookup taskId
  let attempt ← store.attempts.lookup (taskId, task.generation)
  guard (attempt.adapterInstanceId ≠ "" ∧ attempt.configDigest ≠ "")
  let success : Bool := task.state = .succeeded && verdict = .accepted
  return {
    taskId
    component := attempt.adapterInstanceId
    cohort := { adapterInstanceId := attempt.adapterInstanceId, adapterVersion := attempt.adapterVersion,
                configVersion := attempt.configVersion, configDigest := attempt.configDigest }
    reviewedAtUs
    success
    failureSignature := if success then none else some
      { protocolStage := "terminal"
        failureClass := failureClass task.state verdict
        versionBucket := "version-" ++ codec.sha256Hex (utf8 attempt.adapterVersion)
        diagnosticCode := "diag-" ++ codec.sha256Hex (utf8 (diagnosis.getD "")) }
    latencyUs := attempt.endedAt.bind fun ended =>
      if attempt.createdAt ≤ ended ∧ ended - attempt.createdAt < 2 ^ 63 then some (ended - attempt.createdAt).toNat
      else none
    tokenCost := store.usageTokenCost taskId
    safetyViolations := (store.events.slice EventRow.taskId taskId).countP fun event => event.kind = "safety_violation" }

/-- `record_review_observation`: the second transaction of `review_and_ack`, made for a repeated review as well. -/
def recordReviewObservation (codec : Codec) (ambient : Ambient) (taskId : String) (verdict : ReviewVerdict)
    (diagnosis : Option String) (reviewedAtUs : Int) (store : Store) : Checked Store := do
  match ← store.loadImprovementEngine, store.reviewObservation codec taskId verdict diagnosis reviewedAtUs with
  | some engine, some input =>
    if engine.policy.enabled then
      store.mutateImprovement ambient (fun engine => engine.observeReview codec input) reviewedAtUs
    else pure store
  | _, _ => pure store

/-- `improvement_command_replay`: the stored answer of an identical command. -/
def improvementCommandReplay (store : Store) (consumerId commandKey requestDigest : String)
    (command : ImprovementCommand) : Checked (Option CommandResponse) :=
  match store.commands.lookup (consumerId, command.method, commandKey) with
  | none => pure none
  | some row => do
    ensure (row.requestDigest = requestDigest ∧ row.responseLocator = command.caseId) StorageError.idempotencyConflict
    let response ← required (.quarantined "improvement command replay lacks response evidence") row.response
    ensure (command.answeredBy response = true) (StorageError.quarantined "improvement command response is invalid")
    return some response

/-- `improvement_propose_command` and `improvement_rollback_command`. A command that leaves the engine as it was is
recorded all the same. -/
def improvementCommand (codec : Codec) (ambient : Ambient) (consumerId commandKey : String) (canonicalCommand : Bytes)
    (command : ImprovementCommand) (now : Int) (store : Store) : Checked (CommandResponse × Store) := do
  ensure (canonicalize codec (command.wire commandKey) = some canonicalCommand) StorageError.invalidRequest
  ensure (0 ≤ now ∧ now ≤ maxSafeTimeUs) StorageError.invalidRequest
  ensure (canonicalCommand ≠ [] ∧ canonicalCommand.length ≤ maxCanonicalTaskRequestBytes) StorageError.invalidRequest
  let requestDigest := hashBytes codec canonicalCommand
  match ← store.improvementCommandReplay consumerId commandKey requestDigest command with
  | some response => return (response, store)
  | none =>
    ensureMutationAllowed ambient false
    let engine ← required (.quarantined "improvement engine is not initialized") (← store.loadImprovementEngine)
    let (response, next) ← command.apply codec now engine
    let store ← if next = engine then pure store else store.withEngine next
    let commands ← insertRow store.commands
      { consumerId, method := command.method, commandKey, requestDigest, responseLocator := command.caseId,
        response := some response, committedAt := now }
    return (response, { store with commands }.bumpMutationEpoch)

variable {codec : Codec} {store after : Store}

theorem withEngine_eq_ok (done : store.withEngine engine = .ok after) : ∃ canaryAssignments improvementTables,
      after = { store with improvementEngine := some engine, improvementTables, canaryAssignments } := by
  simp only [withEngine, eq_ok_iff] at done
  obtain ⟨⟨improvementTables, canaryAssignments⟩, _, rfl⟩ := done
  exact ⟨canaryAssignments, improvementTables, rfl⟩

theorem improvementCommandReplay_eq_none
    (none : store.improvementCommandReplay consumerId commandKey requestDigest command = .ok none) :
    store.commands.lookup (consumerId, command.method, commandKey) = Option.none := by
  unfold improvementCommandReplay at none
  split at none
  · assumption
  · simp at none

/-- An improvement command is answered from the stored command, or it rewrites the engine, records itself and counts
the mutation. -/
theorem improvementCommand_eq_ok {canonicalCommand : Bytes}
    (done : store.improvementCommand codec ambient consumerId commandKey canonicalCommand command now =
      .ok (response, after)) :
    (after = store ∧ store.improvementCommandReplay consumerId commandKey (hashBytes codec canonicalCommand) command =
      .ok (some response)) ∨
    (store.commands.lookup (consumerId, command.method, commandKey) = none ∧
      ∃ engine canaryAssignments improvementTables commands, store.commands.insert?
          { consumerId, method := command.method, commandKey, requestDigest := hashBytes codec canonicalCommand,
            responseLocator := command.caseId, response := some response, committedAt := now } = some commands ∧
        after = { store with
          commands, canaryAssignments, improvementTables, improvementEngine := engine }.bumpMutationEpoch) := by
  simp only [improvementCommand, bind_eq_ok] at done
  obtain ⟨_, _, _, _, _, _, found, replayed, outcome⟩ := done
  cases found with
  | some stored =>
    simp only [eq_ok_iff] at outcome
    obtain ⟨rfl, rfl⟩ := outcome
    exact Or.inl ⟨rfl, replayed⟩
  | none =>
    simp only [eq_ok_iff, insertRow, Prod.exists] at outcome
    obtain ⟨_, _, _, loaded, engine, rfl, answer, next, _, outcome⟩ := outcome
    refine Or.inr ⟨improvementCommandReplay_eq_none replayed, ?_⟩
    split at outcome
    · simp only [eq_ok_iff] at outcome
      obtain ⟨_, rfl, commands, inserted, rfl, rfl⟩ := outcome
      exact ⟨store.improvementEngine, store.canaryAssignments, store.improvementTables, commands, inserted, rfl⟩
    · simp only [eq_ok_iff] at outcome
      obtain ⟨_, written, commands, inserted, rfl, rfl⟩ := outcome
      obtain ⟨canaryAssignments, tables, rfl⟩ := withEngine_eq_ok written
      exact ⟨some next, canaryAssignments, tables, commands, inserted, rfl⟩

end Store

end AgentMesh.Daemon
