import AgentMesh.Library.Table
import AgentMesh.Daemon.Domain
import AgentMesh.Daemon.Json

/-! The improvement engine (`improvement.rs`): reviewed tasks are observed, repeated failures of one component open a
case, a case gets one candidate, and a candidate can be rolled back. The maps of the source are tables under the key
of each map. -/
namespace AgentMesh.Daemon
open Library

variable (codec : Codec)

inductive ImprovementState where
  | observing
  | canary
  | promoted
  | rolledBack
  | frozen
  deriving DecidableEq, Repr

def ImprovementState.asStr : ImprovementState → String
  | .observing => "OBSERVING"
  | .canary => "CANARY"
  | .promoted => "PROMOTED"
  | .rolledBack => "ROLLED_BACK"
  | .frozen => "FROZEN"

inductive CandidateKnob where
  | promptComposition
  | contextSelection
  | sameAgentTransportPriority
  | quality
  | effort
  deriving DecidableEq, Repr

def CandidateKnob.asStr : CandidateKnob → String
  | .promptComposition => "prompt_composition"
  | .contextSelection => "context_selection"
  | .sameAgentTransportPriority => "same_agent_transport_priority"
  | .quality => "quality"
  | .effort => "effort"

structure ImprovementPolicy where
  enabled : Bool
  promptProfiles : List String
  contextProfiles : List String
  transportProfiles : List String
  allowedQuality : List String
  allowedEffort : List String
  deriving DecidableEq

/-- Mutation stays disabled until a caller opts in. -/
def ImprovementPolicy.default : ImprovementPolicy where
  enabled := false
  promptProfiles := []
  contextProfiles := []
  transportProfiles := []
  allowedQuality := ["low", "standard", "high"]
  allowedEffort := ["low", "medium", "high"]

/-- The profile values a policy allows for a knob. -/
def ImprovementPolicy.allowlist (policy : ImprovementPolicy) : CandidateKnob → List String
  | .promptComposition => policy.promptProfiles
  | .contextSelection => policy.contextProfiles
  | .sameAgentTransportPriority => policy.transportProfiles
  | .quality => policy.allowedQuality
  | .effort => policy.allowedEffort

structure FailureSignature where
  protocolStage : String
  failureClass : String
  versionBucket : String
  diagnosticCode : String
  deriving DecidableEq

structure Cohort where
  adapterInstanceId : String
  adapterVersion : String
  configVersion : Int
  configDigest : String
  deriving DecidableEq

structure ObservationInput where
  taskId : String
  component : String
  cohort : Cohort
  reviewedAtUs : Int
  success : Bool
  failureSignature : Option FailureSignature
  latencyUs : Option Nat
  tokenCost : Option Nat
  safetyViolations : Nat
  deriving DecidableEq

structure FixtureOutcome where
  fixtureId : String
  passed : Bool
  hardInvariantFailures : Nat
  deriving DecidableEq

/-- The value is text: the router builds no other proposal. -/
structure CandidateProposal where
  caseId : String
  knob : CandidateKnob
  value : String
  hypothesis : String
  fixtures : List FixtureOutcome
  deriving DecidableEq

/-- A case, and at the same time the snapshot of it that answers a command. -/
structure CaseRecord where
  caseId : String
  component : String
  cohort : Cohort
  signature : String
  createdAtUs : Int
  state : ImprovementState
  candidateId : Option String
  parentConfigVersion : Int
  canaryStartedAtUs : Option Int
  rollbackCount : Nat
  deriving DecidableEq

structure CandidateRecord where
  candidateId : String
  caseId : String
  component : String
  knob : CandidateKnob
  value : String
  parentConfigVersion : Int
  rollbackConfigVersion : Int
  candidateConfigVersion : Int
  candidateConfigDigest : String
  fixtureGatePassed : Bool
  fixtureHardFailure : Bool
  deriving DecidableEq

structure CanaryAssignment where
  taskId : String
  caseId : String
  candidate : Bool
  configVersion : Int
  configDigest : String
  deriving DecidableEq

structure ImprovementEngine where
  policy : ImprovementPolicy
  observations : Table ObservationInput.taskId
  cases : Table CaseRecord.caseId
  candidates : Table CandidateRecord.candidateId
  assignments : Table CanaryAssignment.taskId
  activeConfigVersions : Table fun entry : String × Int => entry.1
  cooldownUntil : Table fun entry : String × Int => entry.1
  rollbackCounts : Table fun entry : String × Nat => entry.1
  nextConfigVersion : Int
  deriving DecidableEq

inductive ObservationDecision where
  | featureDisabled
  | invalid
  | conflictingReplay
  | recorded (comparableTasks matchingFailures : Nat)
  | eligible (caseId : String) (comparableTasks matchingFailures : Nat)
  | activeCase (caseId : String)
  | coolingDown
  | frozen
  deriving DecidableEq

inductive CandidateDecision where
  | featureDisabled
  | canary (candidateConfigVersion : Int) (candidateConfigDigest : String)
  | fixtureRejected (hardInvariantFailure : Bool)
  deriving DecidableEq

structure CanaryAdmission where
  taskId : String
  cohort : Cohort
  optedIn : Bool
  readOnly : Bool
  isNew : Bool
  nowUs : Int
  deriving DecidableEq

/-- An assignment is stored without the mark that tells a replay apart. -/
inductive CanaryDecision where
  | featureDisabled
  | notEligible
  | assigned (assignment : CanaryAssignment) (replayed : Bool)
  deriving DecidableEq

inductive EvaluationDecision where
  | featureDisabled
  | waitingForTime
  | waitingForSamples (candidate control : Nat)
  | missingMetrics
  | promoted (configVersion : Int)
  | rolledBack (configVersion : Int) (rollbackCount : Nat)
  | frozen (configVersion : Int) (rollbackCount : Nat)
  deriving DecidableEq

def eligibilityOccurrences : Nat := 3
def eligibilityWindow : Nat := 20
def minFixtureOutcomes : Nat := 10
def canaryPercent : Nat := 20
def minCanarySamplesPerArm : Nat := 20
def minCanaryAgeUs : Int := 7 * 86400000000
def cooldownUs : Int := 7 * 86400000000
def caseExpiryUs : Int := 30 * 86400000000
def maxTokenLength : Nat := 128
def maxHypothesisLength : Nat := 2048

/-- `i64::try_from` of an unsigned number succeeds. -/
def fitsI64 (value : Nat) : Bool := value < 2 ^ 63

def validToken (value : String) : Bool :=
  value ≠ "" && value.utf8ByteSize ≤ maxTokenLength &&
    value.toList.all fun char => char.isAlphanum || ['-', '_', '.', ':', '/', '@'].contains char

namespace FailureSignature

def normalizedKey (codec : Codec) (signature : FailureSignature) : Option String :=
  let fields := [signature.protocolStage, signature.failureClass, signature.versionBucket, signature.diagnosticCode]
  if fields.all validToken then some (codec.sha256Hex (fields.flatMap fun field => utf8 field ++ [0])) else none

end FailureSignature

def Cohort.validate (cohort : Cohort) : Bool :=
  validToken cohort.adapterInstanceId && validToken cohort.adapterVersion && 0 ≤ cohort.configVersion &&
    isLowerSha256 cohort.configDigest

def ObservationInput.validate (codec : Codec) (input : ObservationInput) : Bool :=
  validToken input.taskId && validToken input.component && input.cohort.validate && 0 ≤ input.reviewedAtUs &&
    input.failureSignature.all (fun signature => (signature.normalizedKey codec).isSome) &&
    input.success == input.failureSignature.isNone && input.latencyUs.all fitsI64 && input.tokenCost.all fitsI64

/-- `CandidateProposal::validate`: whether the fixture gate passed and whether a hard invariant failed. -/
def CandidateProposal.validate (proposal : CandidateProposal) (policy : ImprovementPolicy) : Option (Bool × Bool) :=
  let ids := proposal.fixtures.map FixtureOutcome.fixtureId
  if validToken proposal.caseId && proposal.hypothesis ≠ "" && proposal.hypothesis.length ≤ maxHypothesisLength &&
      minFixtureOutcomes ≤ proposal.fixtures.length && ids.all validToken && ids.Nodup && validToken proposal.value &&
      (policy.allowlist proposal.knob).contains proposal.value then
    let hardFailure := proposal.fixtures.any fun fixture => fixture.hardInvariantFailures ≠ 0
    some (proposal.fixtures.all FixtureOutcome.passed && !hardFailure, hardFailure)
  else none

def shortDigest (record : Json) : String :=
  String.ofList ((codec.sha256Hex (utf8 (codec.toText record))).toList.take 32)

def deterministicCaseId (component : String) (cohort : Cohort) (signature triggerTaskId : String) : String :=
  "imp-" ++ shortDigest codec (.object [("adapter_instance_id", .string cohort.adapterInstanceId),
    ("adapter_version", .string cohort.adapterVersion), ("component", .string component),
    ("config_digest", .string cohort.configDigest), ("config_version", .number cohort.configVersion),
    ("signature", .string signature), ("trigger_task_id", .string triggerTaskId)])

def CandidateProposal.candidateId (proposal : CandidateProposal) : String :=
  "cand-" ++ shortDigest codec (.object [("case", .string proposal.caseId), ("knob", .string proposal.knob.asStr),
    ("value", .string proposal.value)])

def candidateDigest (parentVersion : Int) (component : String) (knob : CandidateKnob) (value : String) : String :=
  codec.sha256Hex (utf8 (codec.toText (.object [("component", .string component), ("knob", .string knob.asStr),
    ("parent_version", .number parentVersion), ("value", .string value)])))

def hexValue (digits : List Char) : Nat :=
  digits.foldl (fun value digit => 16 * value + (if digit.isDigit then digit.toNat - 48 else digit.toNat - 87)) 0

/-- `stable_canary_bucket`: the first eight bytes of a digest, modulo one hundred. -/
def stableCanaryBucket (caseId taskId : String) : Nat :=
  hexValue ((codec.sha256Hex (utf8 (codec.toText (.object [("case_id", .string caseId),
    ("task_id", .string taskId)])))).toList.take 16) % 100

structure ArmMetrics where
  samples : Nat
  successes : Nat
  latencySum : Nat
  tokenSum : Nat
  missingMetrics : Bool
  safetyViolations : Nat

namespace ArmMetrics

def empty : ArmMetrics := ⟨0, 0, 0, 0, false, 0⟩

def sample (arm : ArmMetrics) (input : ObservationInput) : ArmMetrics where
  samples := arm.samples + 1
  successes := arm.successes + if input.success then 1 else 0
  latencySum := arm.latencySum + input.latencyUs.getD 0
  tokenSum := arm.tokenSum + input.tokenCost.getD 0
  missingMetrics := arm.missingMetrics || input.latencyUs.isNone || input.tokenCost.isNone
  safetyViolations := arm.safetyViolations + input.safetyViolations

def fits (arm : ArmMetrics) : Bool :=
  arm.samples < 2 ^ 64 && arm.successes < 2 ^ 64 && arm.latencySum < 2 ^ 128 && arm.tokenSum < 2 ^ 128 &&
    arm.safetyViolations < 2 ^ 64

/-- Count one observed task, unless a sum overflows. -/
def sampleWithin (arm : ArmMetrics) (input : ObservationInput) : Option ArmMetrics :=
  if (arm.sample input).fits then some (arm.sample input) else none

end ArmMetrics

inductive MetricGate where
  | pass
  | qualityRegression
  | resourceRegression
  | missing
  | safetyViolation
  deriving DecidableEq

def regressesOverTenPercent (candidateSum candidateSamples controlSum controlSamples : Nat) : Bool :=
  11 * controlSum * candidateSamples < 10 * candidateSum * controlSamples

/-- `compare_arms`: the candidate must succeed ten percentage points more often, and cost at most a tenth more. -/
def compareArms (candidate control : ArmMetrics) : MetricGate :=
  if candidate.safetyViolations ≠ 0 then .safetyViolation
  else if candidate.missingMetrics || control.missingMetrics then .missing
  else if candidate.samples = 0 ∨ control.samples = 0 then .qualityRegression
  else if 10 * candidate.successes * control.samples <
      10 * control.successes * candidate.samples + candidate.samples * control.samples then .qualityRegression
  else if regressesOverTenPercent candidate.latencySum candidate.samples control.latencySum control.samples ||
      regressesOverTenPercent candidate.tokenSum candidate.samples control.tokenSum control.samples then
    .resourceRegression
  else .pass

/-- A value of a 128-bit integer, unless the operation overflows. -/
def within128 (value : Nat) : Option Nat := if value < 2 ^ 128 then some value else none

/-- `regresses_over_ten_percent` in the integers of the source, unless an operation overflows. -/
def regressesWithin (candidateSum candidateSamples controlSum controlSamples : Nat) : Option Bool := do
  let cost ← within128 ((← within128 (10 * candidateSum)) * controlSamples)
  let bound ← within128 ((← within128 (11 * controlSum)) * candidateSamples)
  return bound < cost

/-- `compare_arms` in the integers of the source, unless an operation overflows. -/
def compareArmsWithin (candidate control : ArmMetrics) : Option MetricGate :=
  if candidate.safetyViolations ≠ 0 then some .safetyViolation
  else if candidate.missingMetrics || control.missingMetrics then some .missing
  else if candidate.samples = 0 ∨ control.samples = 0 then some .qualityRegression
  else do
    let gained ← within128 ((← within128 (10 * candidate.successes)) * control.samples)
    let kept ← within128 ((← within128 (10 * control.successes)) * candidate.samples)
    let bound ← within128 (kept + (← within128 (candidate.samples * control.samples)))
    if gained < bound then some .qualityRegression
    else
      let slower ← regressesWithin candidate.latencySum candidate.samples control.latencySum control.samples
      let worse ← if slower then some true
        else regressesWithin candidate.tokenSum candidate.samples control.tokenSum control.samples
      return if worse then .resourceRegression else .pass

/-- What the samples of a canary call for. -/
inductive CanaryVerdict where
  | hold (decision : EvaluationDecision)
  | promote
  | rollBack
  deriving DecidableEq

/-- Whether `expire` closes a case. -/
def CaseRecord.expires (now : Int) (case : CaseRecord) : Bool :=
  (case.state = .observing || case.state = .canary) && caseExpiryUs ≤ subTime now case.createdAtUs

namespace ImprovementEngine

variable (codec : Codec) (engine : ImprovementEngine) (input : ObservationInput) (case : CaseRecord) (caseId : String)
  (now : Int)

def new (policy : ImprovementPolicy) : ImprovementEngine where
  policy := policy
  observations := .empty
  cases := .empty
  candidates := .empty
  assignments := .empty
  activeConfigVersions := .empty
  cooldownUntil := .empty
  rollbackCounts := .empty
  nextConfigVersion := 1

def setEnabled (enabled : Bool) : ImprovementEngine := { engine with policy := { engine.policy with enabled } }

def activeConfigVersion (component : String) : Option Int :=
  (engine.activeConfigVersions.lookup component).map Prod.snd

/-- `expire`: close the cases that are too old, and let their components cool down. -/
def expire : ImprovementEngine :=
  { engine with
    cases := engine.cases.update (CaseRecord.expires now) (fun case => { case with state := .rolledBack })
      (fun _ => rfl)
    cooldownUntil := (engine.cases.rows.filter (CaseRecord.expires now)).foldl
      (fun cooldown case => cooldown.put (case.component, addTime now cooldownUs)) engine.cooldownUntil }

/-- `comparable_observations`: the latest reviews of the component under the same configuration. -/
def comparableObservations (component : String) (cohort : Cohort) : List ObservationInput :=
  ((engine.observations.rows.filter fun input => input.component = component && input.cohort = cohort).insertionSort
    fun left right => right.reviewedAtUs < left.reviewedAtUs ∨
      (right.reviewedAtUs = left.reviewedAtUs ∧ left.taskId ≤ right.taskId)).take eligibilityWindow

def eligibilityFor : ObservationDecision :=
  match input.failureSignature.bind (FailureSignature.normalizedKey codec) with
  | none => .recorded 1 0
  | some signature =>
    if engine.cases.rows.any fun case => case.component = input.component && case.state = .frozen then .frozen
    else
      match (engine.cases.rows.insertionSort fun left right => left.caseId ≤ right.caseId).find? fun case =>
          case.component = input.component && (case.state = .observing || case.state = .canary) with
      | some case => .activeCase case.caseId
      | none =>
        if (engine.cooldownUntil.lookup input.component).any fun entry => input.reviewedAtUs < entry.2 then .coolingDown
        else
          let comparable := engine.comparableObservations input.component input.cohort
          let matching := comparable.countP fun other =>
            other.failureSignature.bind (FailureSignature.normalizedKey codec) = some signature
          if matching < eligibilityOccurrences then .recorded comparable.length matching
          else
            .eligible (deterministicCaseId codec input.component input.cohort signature input.taskId) comparable.length
              matching

/-- Whether an observation disagrees with the assignment of its task. -/
def contradictsAssignment : Bool :=
  (engine.assignments.lookup input.taskId).any fun assignment =>
    match engine.cases.lookup assignment.caseId with
    | none => true
    | some case => input.component ≠ case.component ||
        input.cohort.adapterInstanceId ≠ case.cohort.adapterInstanceId ||
        input.cohort.adapterVersion ≠ case.cohort.adapterVersion ||
        input.cohort.configVersion ≠ assignment.configVersion ||
        input.cohort.configDigest ≠ assignment.configDigest

/-- `observe`: record a reviewed task once. -/
def observe : ObservationDecision × ImprovementEngine :=
  if !engine.policy.enabled then (.featureDisabled, engine)
  else if !input.validate codec then (.invalid, engine)
  else
    let engine := engine.expire input.reviewedAtUs
    match engine.observations.lookup input.taskId with
    | some existing =>
      if existing = input then (engine.eligibilityFor codec existing, engine) else (.conflictingReplay, engine)
    | none =>
      if engine.contradictsAssignment input then (.invalid, engine)
      else
        let engine := { engine with
          nextConfigVersion := max engine.nextConfigVersion input.cohort.configVersion
          observations := engine.observations.put input }
        (engine.eligibilityFor codec input, engine)

def openEligibleCase : ImprovementEngine :=
  if !engine.policy.enabled || !input.validate codec then engine
  else
    let engine := engine.expire now
    match engine.eligibilityFor codec input, input.failureSignature.bind (FailureSignature.normalizedKey codec) with
    | .eligible caseId _ _, some signature =>
      { engine with
        activeConfigVersions := (engine.activeConfigVersions.insert? (input.component, input.cohort.configVersion)).getD
          engine.activeConfigVersions
        cases := engine.cases.put
          { caseId, component := input.component, cohort := input.cohort, signature, createdAtUs := now,
            state := .observing, candidateId := none, parentConfigVersion := input.cohort.configVersion,
            canaryStartedAtUs := none,
            rollbackCount := ((engine.rollbackCounts.lookup input.component).map Prod.snd).getD 0 } }
    | _, _ => engine

/-- The closure of `record_review_observation`: observe, and open the case the observation makes eligible. -/
def observeReview : ImprovementEngine :=
  match engine.observe codec input with
  | (.eligible _ _ _, engine) => engine.openEligibleCase codec input input.reviewedAtUs
  | (_, engine) => engine

def candidateConfigVersion (caseId : String) : Option Int := do
  let case ← engine.cases.lookup caseId
  let candidate ← engine.candidates.lookup (← case.candidateId)
  return candidate.candidateConfigVersion

/-- What `propose_candidate` answers for a candidate. -/
def candidateDecision (validation : Bool × Bool) (version : Int) (digest : String) : CandidateDecision :=
  if validation.1 then .canary version digest else .fixtureRejected validation.2

def proposeCandidate (proposal : CandidateProposal) (now : Int) : Option (CandidateDecision × ImprovementEngine) :=
  if !engine.policy.enabled then some (.featureDisabled, engine)
  else do
    let case ← engine.cases.lookup proposal.caseId
    guard (case.state = .observing ∧ subTime now case.createdAtUs < caseExpiryUs)
    let validation ← proposal.validate engine.policy
    let candidateId := proposal.candidateId codec
    match engine.candidates.lookup candidateId with
    | some candidate =>
      return (candidateDecision validation candidate.candidateConfigVersion candidate.candidateConfigDigest, engine)
    | none =>
      let version := min (engine.nextConfigVersion + 1) 9223372036854775807
      let digest := candidateDigest codec case.parentConfigVersion case.component proposal.knob proposal.value
      let candidate : CandidateRecord :=
        { candidateId, caseId := proposal.caseId, component := case.component, knob := proposal.knob,
          value := proposal.value, parentConfigVersion := case.parentConfigVersion,
          rollbackConfigVersion := case.parentConfigVersion, candidateConfigVersion := version,
          candidateConfigDigest := digest, fixtureGatePassed := validation.1, fixtureHardFailure := validation.2 }
      let case := if validation.1 then
          { case with candidateId := some candidateId, state := .canary, canaryStartedAtUs := some now }
        else { case with candidateId := some candidateId, state := .rolledBack }
      let engine := { engine with
        nextConfigVersion := version
        candidates := engine.candidates.put candidate
        cases := engine.cases.put case
        cooldownUntil := if validation.1 then engine.cooldownUntil
          else engine.cooldownUntil.put (case.component, addTime now cooldownUs) }
      return (candidateDecision validation version digest, engine)

def rollbackCase : EvaluationDecision × ImprovementEngine :=
  let count := ((engine.rollbackCounts.lookup case.component).map Prod.snd).getD case.rollbackCount + 1
  let frozen : Bool := 2 ≤ count
  let engine := { engine with
    rollbackCounts := engine.rollbackCounts.put (case.component, count)
    cases := engine.cases.update (fun row => row.caseId = case.caseId)
      (fun row => { row with rollbackCount := count, state := if frozen then .frozen else .rolledBack }) (fun _ => rfl)
    activeConfigVersions := engine.activeConfigVersions.put (case.component, case.parentConfigVersion)
    cooldownUntil := engine.cooldownUntil.put (case.component, addTime now cooldownUs) }
  (if frozen then .frozen case.parentConfigVersion count else .rolledBack case.parentConfigVersion count, engine)

/-- `assign_canary`: a task joins one arm of one canary for good. -/
def assignCanary (admission : CanaryAdmission) : CanaryDecision × ImprovementEngine :=
  if !engine.policy.enabled then (.featureDisabled, engine)
  else
    match engine.assignments.lookup admission.taskId with
    | some existing => if existing.caseId = caseId then (.assigned existing true, engine) else (.notEligible, engine)
    | none =>
      match engine.cases.lookup caseId with
      | none => (.notEligible, engine)
      | some case =>
        if case.state ≠ .canary ∨ caseExpiryUs ≤ subTime admission.nowUs case.createdAtUs ∨ !admission.optedIn ∨
            !admission.readOnly ∨ !admission.isNew ∨ admission.cohort ≠ case.cohort then (.notEligible, engine)
        else
          match case.candidateId.bind fun candidateId => engine.candidates.lookup candidateId with
          | none => (.notEligible, engine)
          | some candidate =>
            let isCandidate : Bool := stableCanaryBucket codec caseId admission.taskId < canaryPercent
            let assignment : CanaryAssignment :=
              { taskId := admission.taskId, caseId, candidate := isCandidate
                configVersion := if isCandidate then candidate.candidateConfigVersion else candidate.rollbackConfigVersion
                configDigest := if isCandidate then candidate.candidateConfigDigest else case.cohort.configDigest }
            (.assigned assignment false, { engine with assignments := engine.assignments.put assignment })

/-- The observed tasks of one arm. -/
def armSamples (candidate : Bool) : List ObservationInput :=
  (engine.assignments.rows.filter fun row => row.caseId = caseId && row.candidate = candidate).filterMap fun row =>
    engine.observations.lookup row.taskId

def armMetrics (candidate : Bool) : ArmMetrics := (engine.armSamples caseId candidate).foldl ArmMetrics.sample .empty

/-- The decision part of `evaluate_canary`. -/
def canaryVerdict : CanaryVerdict :=
  let candidate := engine.armMetrics case.caseId true
  let control := engine.armMetrics case.caseId false
  if case.candidateId.isNone then .hold (.waitingForSamples 0 0)
  else if candidate.safetyViolations ≠ 0 then .rollBack
  else if candidate.samples < minCanarySamplesPerArm ∨ control.samples < minCanarySamplesPerArm then
    .hold (.waitingForSamples candidate.samples control.samples)
  else if candidate.missingMetrics || control.missingMetrics then .hold .missingMetrics
  else if case.canaryStartedAtUs.all fun started => subTime now started < minCanaryAgeUs then .hold .waitingForTime
  else
    match compareArms candidate control with
    | .pass => .promote
    | .missing => .hold .missingMetrics
    | .safetyViolation | .qualityRegression | .resourceRegression => .rollBack

/-- The sums of one arm in the integers of the source, unless one overflows. -/
def armMetricsWithin (candidate : Bool) : Option ArmMetrics :=
  (engine.armSamples caseId candidate).foldlM ArmMetrics.sampleWithin .empty

/-- The decision part of `evaluate_canary` in the integers of the source, unless an operation overflows. -/
def canaryVerdictWithin : Option CanaryVerdict :=
  if case.candidateId.isNone then some (.hold (.waitingForSamples 0 0))
  else do
    let candidate ← engine.armMetricsWithin case.caseId true
    let control ← engine.armMetricsWithin case.caseId false
    if candidate.safetyViolations ≠ 0 then some .rollBack
    else if candidate.samples < minCanarySamplesPerArm ∨ control.samples < minCanarySamplesPerArm then
      some (.hold (.waitingForSamples candidate.samples control.samples))
    else if candidate.missingMetrics || control.missingMetrics then some (.hold .missingMetrics)
    else if case.canaryStartedAtUs.all fun started => subTime now started < minCanaryAgeUs then
      some (.hold .waitingForTime)
    else
      return match ← compareArmsWithin candidate control with
        | .pass => .promote
        | .missing => .hold .missingMetrics
        | .safetyViolation | .qualityRegression | .resourceRegression => .rollBack

/-- The passing branch of `evaluate_canary`. -/
def promoteCase : EvaluationDecision × ImprovementEngine :=
  let version := (engine.candidateConfigVersion case.caseId).getD case.parentConfigVersion
  let engine := { engine with
    cases := engine.cases.update (fun row => row.caseId = case.caseId) (fun row => { row with state := .promoted })
      (fun _ => rfl)
    activeConfigVersions := engine.activeConfigVersions.put (case.component, version)
    cooldownUntil := engine.cooldownUntil.put (case.component, addTime now cooldownUs) }
  (.promoted version, engine)

def evaluateCanary : EvaluationDecision × ImprovementEngine :=
  match engine.canaryVerdict case now with
  | .hold decision => (decision, engine)
  | .promote => engine.promoteCase case now
  | .rollBack => engine.rollbackCase case now

def evaluate : EvaluationDecision × ImprovementEngine :=
  if !engine.policy.enabled then (.featureDisabled, engine)
  else
    let engine := engine.expire now
    match engine.cases.lookup caseId with
    | none => (.waitingForSamples 0 0, engine)
    | some case =>
      match case.state with
      | .promoted => (.promoted ((engine.candidateConfigVersion caseId).getD case.parentConfigVersion), engine)
      | .rolledBack => (.rolledBack case.parentConfigVersion case.rollbackCount, engine)
      | .frozen => (.frozen case.parentConfigVersion case.rollbackCount, engine)
      | .observing => (.waitingForSamples 0 0, engine)
      | .canary => engine.evaluateCanary case now

def requestRollback (targetConfigVersion now : Int) : EvaluationDecision × ImprovementEngine :=
  if !engine.policy.enabled then (.featureDisabled, engine)
  else
    let engine := engine.expire now
    match engine.cases.lookup caseId with
    | none => (.waitingForSamples 0 0, engine)
    | some case =>
      if targetConfigVersion ≠ case.parentConfigVersion then (.waitingForSamples 0 0, engine)
      else
        match case.state with
        | .canary | .promoted => engine.rollbackCase case now
        | .rolledBack => (.rolledBack case.parentConfigVersion case.rollbackCount, engine)
        | .frozen => (.frozen case.parentConfigVersion case.rollbackCount, engine)
        | .observing => (.waitingForSamples 0 0, engine)

end ImprovementEngine

/-- The answer to an improvement command, as it is stored for a repeated command. -/
inductive CommandResponse where
  | candidate (decision : CandidateDecision) (case : CaseRecord) (candidateConfigVersion : Option Int)
  | rollback (decision : EvaluationDecision) (case : CaseRecord) (candidateConfigVersion : Option Int)
  deriving DecidableEq

end AgentMesh.Daemon
