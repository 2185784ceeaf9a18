import AgentMesh.Daemon.Writer

/-! What an operation can do to the improvement engine. An operation closes overdue cases first and then makes at most
one change, and the changes are listed once for all results about runs of the engine. -/
namespace AgentMesh.Improvement
open Library Daemon ImprovementEngine CaseRecord Table

/-- The operations of the engine with their arguments. -/
inductive Operation where
  | setEnabled (enabled : Bool)
  | observe (input : ObservationInput)
  | openEligibleCase (input : ObservationInput) (now : Int)
  | proposeCandidate (proposal : CandidateProposal) (now : Int)
  | assignCanary (caseId : String) (admission : CanaryAdmission)
  | evaluate (caseId : String) (now : Int)
  | requestRollback (caseId : String) (targetConfigVersion now : Int)
  deriving DecidableEq

def Operation.apply (codec : Codec) (engine : ImprovementEngine) : Operation → ImprovementEngine
  | .setEnabled enabled => engine.setEnabled enabled
  | .observe input => (engine.observe codec input).2
  | .openEligibleCase input now => engine.openEligibleCase codec input now
  | .proposeCandidate proposal now => ((engine.proposeCandidate codec proposal now).map Prod.snd).getD engine
  | .assignCanary caseId admission => (engine.assignCanary codec caseId admission).2
  | .evaluate caseId now => (engine.evaluate caseId now).2
  | .requestRollback caseId target now => (engine.requestRollback caseId target now).2

/-- The engine in which an operation decides: overdue cases are closed where the operation closes them. -/
def Operation.settled (engine : ImprovementEngine) : Operation → ImprovementEngine
  | .observe input => engine.expire input.reviewedAtUs
  | .openEligibleCase _ now | .evaluate _ now | .requestRollback _ _ now => engine.expire now
  | .setEnabled _ | .proposeCandidate _ _ | .assignCanary _ _ => engine

/-- The case can still get a candidate or run one. -/
def isActive (case : CaseRecord) : Bool := case.state = .observing || case.state = .canary

section Changes

variable (codec : Codec) (engine : ImprovementEngine)

def withCase (input : ObservationInput) (caseId signature : String) (now : Int) : ImprovementEngine :=
  { engine with
    activeConfigVersions := (engine.activeConfigVersions.insert? (input.component, input.cohort.configVersion)).getD
      engine.activeConfigVersions
    cases := engine.cases.put
      { caseId, component := input.component, cohort := input.cohort, signature, createdAtUs := now,
        state := .observing, candidateId := none, parentConfigVersion := input.cohort.configVersion,
        canaryStartedAtUs := none,
        rollbackCount := ((engine.rollbackCounts.lookup input.component).map Prod.snd).getD 0 } }

def withObservation (input : ObservationInput) : ImprovementEngine :=
  { engine with
    nextConfigVersion := max engine.nextConfigVersion input.cohort.configVersion
    observations := engine.observations.put input }

def nextVersion : Int := min (engine.nextConfigVersion + 1) 9223372036854775807

def newCandidate (proposal : CandidateProposal) (case : CaseRecord) (validation : Bool × Bool) : CandidateRecord :=
  { candidateId := proposal.candidateId codec, caseId := proposal.caseId, component := case.component
    knob := proposal.knob, value := proposal.value, parentConfigVersion := case.parentConfigVersion
    rollbackConfigVersion := case.parentConfigVersion, candidateConfigVersion := nextVersion engine
    candidateConfigDigest := candidateDigest codec case.parentConfigVersion case.component proposal.knob proposal.value
    fixtureGatePassed := validation.1, fixtureHardFailure := validation.2 }

/-- The case after its fixtures let the candidate pass or not. -/
def gated (candidateId : String) (case : CaseRecord) (passed : Bool) (now : Int) : CaseRecord :=
  if passed then { case with candidateId := some candidateId, state := .canary, canaryStartedAtUs := some now }
  else { case with candidateId := some candidateId, state := .rolledBack }

def withCandidate (proposal : CandidateProposal) (case : CaseRecord) (validation : Bool × Bool) (now : Int) :
    ImprovementEngine :=
  let changed := gated (proposal.candidateId codec) case validation.1 now
  { engine with
    nextConfigVersion := nextVersion engine
    candidates := engine.candidates.put (newCandidate codec engine proposal case validation)
    cases := engine.cases.put changed
    cooldownUntil := if validation.1 then engine.cooldownUntil
      else engine.cooldownUntil.put (changed.component, addTime now cooldownUs) }

/-- The one change an operation makes. -/
inductive Change : Operation → ImprovementEngine → Prop
  | toggle (enabled : Bool) : Change (.setEnabled enabled) (engine.setEnabled enabled)
  | record (input : ObservationInput) : input.validate codec = true → engine.observations.lookup input.taskId = none →
      Change (.observe input) (withObservation engine input)
  | opens (input : ObservationInput) (now : Int) (signature : String) :
      (∀ case ∈ engine.cases.rows, case.component = input.component → isActive case = false ∧ case.state ≠ .frozen) →
      0 ≤ input.cohort.configVersion →
      input.failureSignature.bind (FailureSignature.normalizedKey codec) = some signature →
      Change (.openEligibleCase input now) (withCase engine input
        (deterministicCaseId codec input.component input.cohort signature input.taskId) signature now)
  | proposes (proposal : CandidateProposal) (now : Int) (case : CaseRecord) (validation : Bool × Bool) :
      engine.cases.lookup proposal.caseId = some case → case.state = .observing →
      engine.candidates.lookup (proposal.candidateId codec) = none →
      Change (.proposeCandidate proposal now) (withCandidate codec engine proposal case validation now)
  | assigns (caseId : String) (admission : CanaryAdmission) (case : CaseRecord) (assignment : CanaryAssignment) :
      assignment.caseId = caseId → engine.cases.lookup caseId = some case → case.state = .canary →
      engine.assignments.lookup assignment.taskId = none →
      (∃ candidate ∈ engine.candidates.rows, assignment.configVersion = candidate.candidateConfigVersion ∨
        assignment.configVersion = candidate.rollbackConfigVersion) →
      Change (.assignCanary caseId admission) { engine with assignments := engine.assignments.put assignment }
  | promotes (now : Int) (case : CaseRecord) : engine.policy.enabled = true →
      engine.cases.lookup case.caseId = some case → case.state = .canary → engine.canaryVerdict case now = .promote →
      Change (.evaluate case.caseId now) (engine.promoteCase case now).2
  | evaluatesBack (now : Int) (case : CaseRecord) : engine.cases.lookup case.caseId = some case →
      case.state = .canary → engine.canaryVerdict case now = .rollBack →
      Change (.evaluate case.caseId now) (engine.rollbackCase case now).2
  | rollsBack (now : Int) (case : CaseRecord) : engine.cases.lookup case.caseId = some case →
      case.state = .canary ∨ case.state = .promoted →
      Change (.requestRollback case.caseId case.parentConfigVersion now) (engine.rollbackCase case now).2

end Changes

variable {codec : Codec} {engine after : ImprovementEngine}

section Inversion

theorem eligible_cases {input : ObservationInput} {caseId : String} {comparable matching : Nat}
    (decided : engine.eligibilityFor codec input = .eligible caseId comparable matching) :
    ∃ signature, input.failureSignature.bind (FailureSignature.normalizedKey codec) = some signature ∧
      caseId = deterministicCaseId codec input.component input.cohort signature input.taskId ∧
      ∀ case ∈ engine.cases.rows, case.component = input.component → isActive case = false ∧ case.state ≠ .frozen := by
  unfold eligibilityFor at decided
  split at decided
  · cases decided
  · rename_i signature signed
    split at decided
    · cases decided
    · rename_i thawed
      split at decided
      · cases decided
      · rename_i idle
        split at decided
        · cases decided
        · dsimp only at decided
          split at decided
          · cases decided
          · cases decided
            refine ⟨signature, signed, rfl, fun case member own => ?_⟩
            have unfrozen : ¬case.state = .frozen := by
              intro frozen
              exact thawed (List.any_eq_true.mpr ⟨case, member, by simp [own, frozen]⟩)
            have inactive := List.find?_eq_none.mp idle case ((List.mem_insertionSort _).mpr member)
            exact ⟨by simpa [isActive, own] using inactive, unfrozen⟩

theorem open_cases (input : ObservationInput) (now : Int) :
    engine.openEligibleCase codec input now = engine ∨ engine.openEligibleCase codec input now = engine.expire now ∨
      Change codec (engine.expire now) (.openEligibleCase input now) (engine.openEligibleCase codec input now) := by
  unfold openEligibleCase
  split
  · exact .inl rfl
  · rename_i accepted
    dsimp only
    split
    · rename_i caseId _ _ signature decided signed
      obtain ⟨key, found, rfl, calm⟩ := eligible_cases decided
      obtain rfl : key = signature := Option.mem_unique found signed
      have valid : 0 ≤ input.cohort.configVersion := by
        simp [ObservationInput.validate, Cohort.validate] at accepted
        tauto
      exact .inr (.inr (.opens input now key calm valid found))
    · exact .inr (.inl rfl)

theorem observe_cases (input : ObservationInput) :
    (engine.observe codec input).2 = engine ∨ (engine.observe codec input).2 = engine.expire input.reviewedAtUs ∨
      Change codec (engine.expire input.reviewedAtUs) (.observe input) (engine.observe codec input).2 := by
  unfold observe
  split
  · exact .inl rfl
  · split
    · exact .inl rfl
    · rename_i accepted
      have valid : input.validate codec = true := by simpa using accepted
      dsimp only
      split
      · split <;> exact .inr (.inl rfl)
      · rename_i fresh
        split
        · exact .inr (.inl rfl)
        · exact .inr (.inr (.record input valid fresh))

theorem propose_cases (proposal : CandidateProposal) (now : Int) :
    Operation.apply codec engine (.proposeCandidate proposal now) = engine ∨
      Change codec engine (.proposeCandidate proposal now)
        (Operation.apply codec engine (.proposeCandidate proposal now)) := by
  simp only [Operation.apply, proposeCandidate]
  split
  · exact .inl rfl
  · cases found : engine.cases.lookup proposal.caseId with
    | none => exact .inl rfl
    | some case =>
      by_cases open' : case.state = .observing ∧ subTime now case.createdAtUs < caseExpiryUs
      · cases checked : proposal.validate engine.policy with
        | none => simp
        | some validation =>
          cases known : engine.candidates.lookup (proposal.candidateId codec) with
          | some candidate => simp [open']
          | none =>
            have change : Change codec engine (.proposeCandidate proposal now)
                (withCandidate codec engine proposal case validation now) :=
              .proposes proposal now case validation found open'.1 known
            right
            simpa [open', known, guard, withCandidate, gated, newCandidate, nextVersion] using change
      · simp [open', guard]

theorem assign_cases (caseId : String) (admission : CanaryAdmission) :
    (engine.assignCanary codec caseId admission).2 = engine ∨
      Change codec engine (.assignCanary caseId admission) (engine.assignCanary codec caseId admission).2 := by
  unfold assignCanary
  split
  · exact .inl rfl
  · split
    · split <;> exact .inl rfl
    · rename_i free
      split
      · exact .inl rfl
      · rename_i case found
        split
        · exact .inl rfl
        · rename_i accepted
          split
          · exact .inl rfl
          · rename_i candidate known
            have canary : case.state = .canary := by
              by_contra other
              exact accepted (.inl other)
            obtain ⟨_, _, stored⟩ := Option.bind_eq_some_iff.mp known
            refine .inr (.assigns caseId admission case _ rfl found canary free ⟨candidate, (of_lookup stored).1, ?_⟩)
            dsimp only
            split
            · exact .inl rfl
            · exact .inr rfl

theorem evaluate_cases (caseId : String) (now : Int) :
    (engine.evaluate caseId now).2 = engine ∨ (engine.evaluate caseId now).2 = engine.expire now ∨
      Change codec (engine.expire now) (.evaluate caseId now) (engine.evaluate caseId now).2 := by
  unfold evaluate
  split
  · exact .inl rfl
  · rename_i enabled
    have enabled : engine.policy.enabled = true := by simpa using enabled
    dsimp only
    split
    · exact .inr (.inl rfl)
    · rename_i case found
      obtain rfl : case.caseId = caseId := (of_lookup found).2
      split
      · exact .inr (.inl rfl)
      · exact .inr (.inl rfl)
      · exact .inr (.inl rfl)
      · exact .inr (.inl rfl)
      · rename_i canary
        unfold evaluateCanary
        split
        · exact .inr (.inl rfl)
        · rename_i verdict
          exact .inr (.inr (.promotes now case enabled found canary verdict))
        · rename_i verdict
          exact .inr (.inr (.evaluatesBack now case found canary verdict))

theorem rollback_cases (caseId : String) (target now : Int) : (engine.requestRollback caseId target now).2 = engine ∨
      (engine.requestRollback caseId target now).2 = engine.expire now ∨
      Change codec (engine.expire now) (.requestRollback caseId target now)
        (engine.requestRollback caseId target now).2 := by
  unfold requestRollback
  split
  · exact .inl rfl
  · dsimp only
    split
    · exact .inr (.inl rfl)
    · rename_i case found
      obtain rfl : case.caseId = caseId := (of_lookup found).2
      split
      · exact .inr (.inl rfl)
      · rename_i same
        obtain rfl : target = case.parentConfigVersion := not_not.mp same
        split
        · rename_i state
          exact .inr (.inr (.rollsBack now case found (.inl state)))
        · rename_i state
          exact .inr (.inr (.rollsBack now case found (.inr state)))
        · exact .inr (.inl rfl)
        · exact .inr (.inl rfl)
        · exact .inr (.inl rfl)

/-- An operation does nothing, closes overdue cases, or makes its change after it has closed them. -/
theorem apply_cases (operation : Operation) :
    operation.apply codec engine = engine ∨ operation.apply codec engine = operation.settled engine ∨
      Change codec (operation.settled engine) operation (operation.apply codec engine) := by
  cases operation with
  | setEnabled enabled => exact .inr (.inr (.toggle enabled))
  | observe input => exact observe_cases input
  | openEligibleCase input now => exact open_cases input now
  | proposeCandidate proposal now => exact (propose_cases proposal now).imp_right .inr
  | assignCanary caseId admission => exact (assign_cases caseId admission).imp_right .inr
  | evaluate caseId now => exact evaluate_cases caseId now
  | requestRollback caseId target now => exact rollback_cases caseId target now

end Inversion

section Lookups

variable (case : CaseRecord) (now : Int) (caseId : String)

theorem expire_lookup : (engine.expire now).cases.lookup caseId = (engine.cases.lookup caseId).map fun row =>
    if row.expires now then { row with state := .rolledBack } else row :=
  lookup_update engine.cases (expires now) (fun row => { row with state := .rolledBack }) (fun _ => rfl) caseId

theorem lookup_of_expire (found : (engine.expire now).cases.lookup caseId = some case) (kept : case.state ≠ .rolledBack) :
    engine.cases.lookup caseId = some case := by
  rw [expire_lookup] at found
  obtain ⟨row, stored, same⟩ := Option.map_eq_some_iff.mp found
  split at same
  · exact absurd (same ▸ rfl) kept
  · rw [stored, same]

theorem promoteCase_lookup : (engine.promoteCase case now).2.cases.lookup caseId =
    (engine.cases.lookup caseId).map fun row =>
      if row.caseId = case.caseId then { row with state := .promoted } else row := by
  simpa [promoteCase] using
    lookup_update engine.cases (fun row => row.caseId = case.caseId) (fun row => { row with state := .promoted })
      (fun _ => rfl) caseId

def rollbackCount (engine : ImprovementEngine) (component : String) : Nat :=
  ((engine.rollbackCounts.lookup component).map Prod.snd).getD 0

def nextCount (engine : ImprovementEngine) (case : CaseRecord) : Nat :=
  ((engine.rollbackCounts.lookup case.component).map Prod.snd).getD case.rollbackCount + 1

theorem rollbackCase_lookup : (engine.rollbackCase case now).2.cases.lookup caseId =
    (engine.cases.lookup caseId).map fun row =>
      if row.caseId = case.caseId then
        { row with
          rollbackCount := nextCount engine case
          state := if 2 ≤ nextCount engine case then .frozen else .rolledBack }
      else row := by
  simpa [rollbackCase, nextCount] using
    lookup_update engine.cases (fun row => row.caseId = case.caseId) (fun row => { row with
      rollbackCount := nextCount engine case
      state := if 2 ≤ nextCount engine case then .frozen else .rolledBack }) (fun _ => rfl) caseId

theorem rollbackCase_count (component : String) : rollbackCount (engine.rollbackCase case now).2 component =
    if case.component = component then nextCount engine case else rollbackCount engine component := by
  simp only [rollbackCount, rollbackCase, nextCount, lookup_put]
  split <;> simp

end Lookups

def Steps (codec : Codec) (permitted : ImprovementEngine → Operation → Prop) (before after : ImprovementEngine) : Prop :=
  ∃ operation, permitted before operation ∧ after = operation.apply codec before

/-- The engines that permitted operations lead to. -/
def Leads (codec : Codec) (permitted : ImprovementEngine → Operation → Prop) :
    ImprovementEngine → ImprovementEngine → Prop :=
  Relation.ReflTransGen (Steps codec permitted)

def play (codec : Codec) (permitted : ImprovementEngine → Operation → Prop)
    [∀ engine operation, Decidable (permitted engine operation)] :
    List Operation → ImprovementEngine → Option ImprovementEngine
  | [], engine => some engine
  | operation :: operations, engine =>
    if permitted engine operation then play codec permitted operations (operation.apply codec engine) else none

theorem leads_of_play {permitted : ImprovementEngine → Operation → Prop}
    [∀ engine operation, Decidable (permitted engine operation)] {operations : List Operation}
    (done : play codec permitted operations engine = some after) : Leads codec permitted engine after := by
  induction operations generalizing engine with
  | nil =>
    cases done
    exact .refl
  | cons operation operations ih =>
    unfold play at done
    split at done
    · rename_i allowed
      exact .head ⟨operation, allowed, rfl⟩ (ih done)
    · cases done

/-- Operations that end in an engine with a property show that the engine leads to such an engine. -/
theorem exists_of_play {permitted : ImprovementEngine → Operation → Prop}
    [∀ engine operation, Decidable (permitted engine operation)] (operations : List Operation)
    {property : ImprovementEngine → Prop} [DecidablePred property]
    (holds : ((play codec permitted operations engine).any fun after => property after) = true) :
    ∃ after, Leads codec permitted engine after ∧ property after := by
  cases done : play codec permitted operations engine with
  | none => simp [done] at holds
  | some after => exact ⟨after, leads_of_play done, by simpa [done] using holds⟩

/-- Record reviewed tasks in order, as long as each is new and fits its assignment and no case is overdue. -/
def sample : List ObservationInput → ImprovementEngine → Option ImprovementEngine
  | [], engine => some engine
  | input :: inputs, engine =>
    if engine.policy.enabled && !engine.cases.rows.any (CaseRecord.expires input.reviewedAtUs) &&
        (engine.observations.lookup input.taskId).isNone && !engine.contradictsAssignment input then
      sample inputs (withObservation engine input)
    else none

theorem expire_of_none {now : Int} (fresh : engine.cases.rows.any (expires now) = false) :
    engine.expire now = engine := by
  have none : ∀ case ∈ engine.cases.rows, expires now case = false := by simpa using fresh
  have kept : engine.cases.update (expires now) (fun case => { case with state := .rolledBack })
      (fun _ => rfl) = engine.cases :=
    ext_rows (updateWhere_of_none _ _ _ none)
  have idle : engine.cases.rows.filter (expires now) = [] := by simpa using none
  simp only [expire, kept, idle, List.foldl_nil]

theorem leads_of_sample {inputs : List ObservationInput} (valid : ∀ input ∈ inputs, input.validate codec = true)
    (done : sample inputs engine = some after) : Leads codec (fun _ _ => True) engine after := by
  induction inputs generalizing engine with
  | nil =>
    cases done
    exact .refl
  | cons input inputs ih =>
    unfold sample at done
    split at done
    · rename_i allowed
      simp only [Bool.and_eq_true, Bool.not_eq_true', Option.isNone_iff_eq_none] at allowed
      obtain ⟨⟨⟨enabled, timely⟩, fresh⟩, agrees⟩ := allowed
      have recorded : withObservation engine input = Operation.apply codec engine (.observe input) := by
        simp [Operation.apply, observe, enabled, valid input (by simp), expire_of_none timely, fresh,
          agrees, withObservation]
      exact .head ⟨.observe input, trivial, recorded⟩ (ih (fun input member => valid input (by simp [member])) done)
    · cases done

theorem validate_renamed {input : ObservationInput} (taskId : String) (token : validToken taskId = true)
    (valid : input.validate codec = true) : ({ input with taskId } : ObservationInput).validate codec = true := by
  simp only [ObservationInput.validate, Bool.and_eq_true] at valid ⊢
  tauto

/-! Arguments of scripted runs: one component whose tasks fail in one way. -/
namespace Script

/-- A codec whose digests are the names that tell the records of a script apart. -/
def plain : Codec where
  sha256Hex bytes :=
    if bytes = utf8 "config" then Daemon.Script.digest else String.ofList (bytes.map fun byte => Char.ofNat byte.toNat)
  toText record :=
    if (record.i64? "parent_version").isSome then "config"
    else (((record.str? "trigger_task_id").or (record.str? "value")).or (record.str? "task_id")).getD ""
  fromSlice _ := none
  decodeV1 _ := true

def policy : ImprovementPolicy := { ImprovementPolicy.default with enabled := true }

def day : Int := 86400000000

def cohort (configVersion : Int) (configDigest : String) : Cohort where
  adapterInstanceId := "adapter"
  adapterVersion := "1"
  configVersion := configVersion
  configDigest := configDigest

def failure (taskId : String) (now configVersion : Int) : ObservationInput where
  taskId := taskId
  component := "component"
  cohort := cohort configVersion Daemon.Script.digest
  reviewedAtUs := now
  success := false
  failureSignature := some ⟨"spawn", "timeout", "1", "E1"⟩
  latencyUs := some 1
  tokenCost := some 1
  safetyViolations := 0

def caseId (input : ObservationInput) : String :=
  deterministicCaseId plain input.component input.cohort
    ((input.failureSignature.bind (FailureSignature.normalizedKey plain)).getD "") input.taskId

def proposal (caseId value : String) (passed : Bool) : CandidateProposal where
  caseId := caseId
  knob := .quality
  value := value
  hypothesis := "hypothesis"
  fixtures := (List.range 10).map fun number => ⟨toString number, passed, 0⟩

def opening (input : ObservationInput) : List Operation :=
  [.observe input, .openEligibleCase input input.reviewedAtUs]

def firstCase : List Operation :=
  [.observe (failure "f1" 1 1), .observe (failure "f2" 2 1)] ++ opening (failure "f3" 3 1)

def first : String := caseId (failure "f3" 3 1)

def second : String := caseId (failure "gg" (8 * day) 1)

def third : String := caseId (failure "hh" (23 * day) 1)

def candidates : List String :=
  ["0", "1", "2", "3", "4", "5", "6", "7", "8", "9", "a", "b", "c", "d", "e", "f", "g", "h", "i", "j"]

def controls : List String :=
  ["k", "l", "m", "n", "o", "p", "q", "r", "s", "t", "u", "v", "w", "x", "y", "z", "20", "21", "22", "23"]

def joining (taskId : String) : Operation :=
  .assignCanary second ⟨taskId, cohort 1 Daemon.Script.digest, true, true, true, 8 * day⟩

def success (taskId : String) : ObservationInput :=
  { failure taskId (9 * day) 3 with success := true, failureSignature := none }

/-- The tasks that run the candidate succeed, and those that run the old configuration fail. -/
def samples : List ObservationInput :=
  candidates.map success ++ controls.map fun taskId => failure taskId (9 * day) 1

/-- The first case is rolled back, and tasks join the canary of the second one. -/
def joined : List Operation :=
  firstCase ++ [.proposeCandidate (proposal first "low" true) 4, .requestRollback first 1 5] ++
    opening (failure "gg" (8 * day) 1) ++ [.proposeCandidate (proposal second "high" true) (8 * day)] ++
    candidates.map joining ++ controls.map joining

/-- The second case is promoted, and the third one starts a canary. -/
def promoted : List Operation :=
  [.evaluate second (15 * day)] ++ opening (failure "hh" (23 * day) 1) ++
    [.proposeCandidate (proposal third "standard" true) (23 * day)]

def rollout : Option ImprovementEngine :=
  ((play plain (fun _ _ => True) joined (.new policy)).bind (sample samples)).bind
    (play plain (fun _ _ => True) promoted)

theorem valid_samples : ∀ input ∈ samples, input.validate plain = true := by
  have tokens : ∀ taskId ∈ candidates ++ controls, validToken taskId = true := by decide +kernel
  have succeeded : (success "f1").validate plain = true := by decide +kernel
  have failed : (failure "f1" (9 * day) 1).validate plain = true := by decide +kernel
  intro input member
  simp only [samples, List.mem_append, List.mem_map] at member
  rcases member with ⟨taskId, listed, rfl⟩ | ⟨taskId, listed, rfl⟩
  · have named : success taskId = { success "f1" with taskId } := rfl
    rw [named]
    exact validate_renamed taskId (tokens taskId (by simp [listed])) succeeded
  · have named : failure taskId (9 * day) 1 = { failure "f1" (9 * day) 1 with taskId } := rfl
    rw [named]
    exact validate_renamed taskId (tokens taskId (by simp [listed])) failed

theorem rollout_leads {engine : ImprovementEngine} (done : rollout = some engine) :
    Leads plain (fun _ _ => True) (.new policy) engine := by
  obtain ⟨sampled, before, last⟩ := Option.bind_eq_some_iff.mp done
  obtain ⟨joined, first, middle⟩ := Option.bind_eq_some_iff.mp before
  exact ((leads_of_play first).trans (leads_of_sample valid_samples middle)).trans (leads_of_play last)

def rollbackSecond : Operation := .requestRollback second 1 (24 * day)

def rollbackThird : Operation := .requestRollback third 1 (24 * day)

def lateTask : Operation :=
  .assignCanary third ⟨"zz", cohort 1 Daemon.Script.digest, true, true, true, 25 * day⟩

/-- The rollback of the second case freezes the component, and the late task still joins the third case. -/
def outlives (engine : ImprovementEngine) : Bool :=
  let frozen := rollbackSecond.apply plain engine
  let later := lateTask.apply plain frozen
  ((frozen.cases.lookup second).any fun case => case.component = "component" && case.state = .frozen) &&
    (frozen.assignments.lookup "zz").isNone && (later.assignments.lookup "zz").any fun assignment =>
      (later.cases.lookup assignment.caseId).any fun case => case.component = "component"

/-- The rollback of the third case takes back the promotion of the second. -/
def reverts (engine : ImprovementEngine) : Bool :=
  ((engine.expire (24 * day)).cases.lookup third).any (fun case => case.component = "component" &&
      case.state = .canary && case.parentConfigVersion = 1) &&
    engine.activeConfigVersion "component" = some 3 && engine.policy.enabled

theorem exists_rollout : ∃ engine, Leads plain (fun _ _ => True) (.new policy) engine ∧ outlives engine = true ∧
    reverts engine = true := by
  have check : (rollout.any fun engine => outlives engine && reverts engine) = true := by decide +kernel
  obtain ⟨engine, reached, both⟩ := Option.any_eq_true _ _ |>.mp check
  rw [Bool.and_eq_true] at both
  exact ⟨engine, rollout_leads reached, both⟩

end Script

end AgentMesh.Improvement
