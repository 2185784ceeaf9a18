import AgentMesh.Improvement.Engine

/-! What a rollback restores. A rollback makes the version its case was opened under active, which is the version that
was active before the case was promoted only if the case was opened under the active version. -/
namespace AgentMesh.Improvement
open Library Daemon ImprovementEngine Option

variable {codec : Codec} {engine before after : ImprovementEngine} {operation : Operation} {case : CaseRecord}

def promotes (engine : ImprovementEngine) : Operation → Option CaseRecord
  | .evaluate caseId now =>
    if engine.policy.enabled then
      ((engine.expire now).cases.lookup caseId).filter fun case =>
        case.state = .canary ∧ (engine.expire now).canaryVerdict case now = .promote
    else none
  | _ => none

def rollsBack (engine : ImprovementEngine) : Operation → Option CaseRecord
  | .evaluate caseId now =>
    if engine.policy.enabled then
      ((engine.expire now).cases.lookup caseId).filter fun case =>
        case.state = .canary ∧ (engine.expire now).canaryVerdict case now = .rollBack
    else none
  | .requestRollback caseId target now =>
    if engine.policy.enabled then
      ((engine.expire now).cases.lookup caseId).filter fun case =>
        target = case.parentConfigVersion ∧ (case.state = .canary ∨ case.state = .promoted)
    else none
  | _ => none

theorem promotes_cases (codec : Codec) (promoted : promotes engine operation = some case) :
    ∃ now, operation = .evaluate case.caseId now ∧ (engine.expire now).cases.lookup case.caseId = some case ∧
      operation.apply codec engine = ((engine.expire now).promoteCase case now).2 := by
  unfold promotes at promoted
  split at promoted
  · rename_i caseId now
    split at promoted
    · rename_i enabled
      obtain ⟨found, chosen⟩ := filter_eq_some_iff.mp promoted
      simp only [decide_eq_true_eq] at chosen
      obtain rfl : case.caseId = caseId := (Table.of_lookup found).2
      refine ⟨now, rfl, found, ?_⟩
      simp [Operation.apply, evaluate, evaluateCanary, enabled, found, chosen]
    · cases promoted
  · cases promoted

theorem rollsBack_cases (codec : Codec) (rolled : rollsBack engine operation = some case) :
    ∃ now, (engine.expire now).cases.lookup case.caseId = some case ∧
      (case.state = .canary ∨ case.state = .promoted) ∧
      operation.apply codec engine = ((engine.expire now).rollbackCase case now).2 := by
  unfold rollsBack at rolled
  split at rolled
  · rename_i caseId now
    split at rolled
    · rename_i enabled
      obtain ⟨found, chosen⟩ := filter_eq_some_iff.mp rolled
      simp only [decide_eq_true_eq] at chosen
      obtain rfl : case.caseId = caseId := (Table.of_lookup found).2
      refine ⟨now, found, .inl chosen.1, ?_⟩
      simp [Operation.apply, evaluate, evaluateCanary, enabled, found, chosen]
    · cases rolled
  · rename_i caseId target now
    split at rolled
    · rename_i enabled
      obtain ⟨found, chosen⟩ := filter_eq_some_iff.mp rolled
      simp only [decide_eq_true_eq] at chosen
      obtain ⟨rfl, state⟩ := chosen
      obtain rfl : case.caseId = caseId := (Table.of_lookup found).2
      refine ⟨now, found, state, ?_⟩
      rcases state with state | state <;>
        simp [Operation.apply, requestRollback, enabled, found, state]
    · cases rolled
  · cases rolled

theorem rollback_active (rolled : rollsBack engine operation = some case) :
    (operation.apply codec engine).activeConfigVersion case.component = some case.parentConfigVersion := by
  obtain ⟨now, _, _, same⟩ := rollsBack_cases codec rolled
  rw [same]
  simp [activeConfigVersion, rollbackCase, Table.lookup_put]

/-- The operation promotes no case of the component. -/
def Retains (component : String) (engine : ImprovementEngine) (operation : Operation) : Prop :=
  ∀ case, promotes engine operation = some case → case.component ≠ component

/-- The case of the component under an identifier, once promoted, was opened under a version. -/
def OpenedUnder (component caseId : String) (version : Int) (engine : ImprovementEngine) : Prop :=
  ∀ case, engine.cases.lookup caseId = some case → case.component = component → case.state = .promoted →
    case.parentConfigVersion = version

section Runs

variable {component caseId : String} {version : Int}

theorem OpenedUnder.expire (opened : OpenedUnder component caseId version engine) (now : Int) :
    OpenedUnder component caseId version (engine.expire now) := by
  intro case found own promoted
  exact opened case (lookup_of_expire case now caseId found (by simp [promoted])) own promoted

theorem OpenedUnder.settled (opened : OpenedUnder component caseId version engine) (operation : Operation) :
    OpenedUnder component caseId version (operation.settled engine) := by
  cases operation with
  | setEnabled | proposeCandidate | assignCanary => exact opened
  | observe | openEligibleCase | evaluate | requestRollback => exact opened.expire _

theorem promoted_changed (change : Change codec engine operation after)
    (found : after.cases.lookup caseId = some case) (state : case.state = .promoted) :
    engine.cases.lookup caseId = some case ∨ ∃ now earlier, operation = .evaluate caseId now ∧
      engine.policy.enabled = true ∧ engine.cases.lookup caseId = some earlier ∧ earlier.state = .canary ∧
      engine.canaryVerdict earlier now = .promote ∧ case.component = earlier.component := by
  cases change with
  | toggle | record | assigns => exact .inl found
  | opens input now signature =>
    simp only [withCase, Table.lookup_put] at found
    split at found
    · obtain rfl := some.inj found
      cases state
    · exact .inl found
  | proposes proposal now earlier validation =>
    simp only [withCandidate, Table.lookup_put] at found
    split at found
    · obtain rfl := some.inj found
      unfold gated at state
      split at state <;> cases state
    · exact .inl found
  | promotes now earlier enabled stored canary verdict =>
    rw [promoteCase_lookup] at found
    obtain ⟨row, old, same⟩ := map_eq_some_iff.mp found
    have named : row.caseId = caseId := (Table.of_lookup old).2
    split at same
    · rename_i own
      obtain rfl : caseId = earlier.caseId := named.symm.trans own
      obtain rfl : earlier = row := mem_unique stored old
      exact .inr ⟨now, earlier, rfl, enabled, stored, canary, verdict, same ▸ rfl⟩
    · exact .inl (by rw [old, same])
  | evaluatesBack now earlier stored | rollsBack now earlier stored =>
    rw [rollbackCase_lookup] at found
    obtain ⟨row, old, same⟩ := map_eq_some_iff.mp found
    split at same
    · rw [← same] at state
      dsimp only at state
      split at state <;> cases state
    · exact .inl (by rw [old, same])

theorem OpenedUnder.step (opened : OpenedUnder component caseId version engine)
    (retains : Retains component engine operation) :
    OpenedUnder component caseId version (operation.apply codec engine) := by
  rcases apply_cases operation with same | settled | change
  · rw [same]
    exact opened
  · rw [settled]
    exact opened.settled operation
  · intro case found own promoted
    rcases promoted_changed change found promoted with stored | ⟨now, earlier, rfl, enabled, stored, canary, verdict, same⟩
    · exact opened.settled operation case stored own promoted
    · have enabled' : engine.policy.enabled = true := enabled
      have promotion : promotes engine (.evaluate caseId now) = some earlier := by
        have chosen : (engine.expire now).cases.lookup caseId = some earlier := stored
        have verdict' : (engine.expire now).canaryVerdict earlier now = .promote := verdict
        simp [promotes, enabled', chosen, canary, verdict']
      exact absurd (same.symm.trans own) (retains earlier promotion)

theorem OpenedUnder.leads (opened : OpenedUnder component caseId version before)
    (run : Leads codec (Retains component) before after) : OpenedUnder component caseId version after := by
  induction run with
  | refl => exact opened
  | tail _ last ih =>
    obtain ⟨operation, retains, rfl⟩ := last
    exact ih.step retains

theorem openedUnder_of_promotes (promoted : promotes engine operation = some case) :
    OpenedUnder case.component case.caseId case.parentConfigVersion (operation.apply codec engine) := by
  obtain ⟨now, _, found, same⟩ := promotes_cases codec promoted
  rw [same]
  intro row stored _ _
  rw [promoteCase_lookup, found, map_some, if_pos rfl] at stored
  rw [← some.inj stored]

end Runs

/-- The rollback of a case that was not promoted leaves the active version as it is, exactly when the case was opened
under that version. The rollback of the latest promotion restores the version that was active before it, exactly when the
promoted case was opened under that version. Overdue cases and rejected candidates are closed without a rollback, which
leaves every active version as it is. -/
theorem rollback_restores_iff (codec : Codec) (engine : ImprovementEngine) :
    (∀ operation case, rollsBack engine operation = some case →
      (case.state = .canary → ((operation.apply codec engine).activeConfigVersion case.component =
        engine.activeConfigVersion case.component ↔
          engine.activeConfigVersion case.component = some case.parentConfigVersion)) ∧
      (case.state = .promoted → ∀ before promotion promoted, promotes before promotion = some promoted →
        promoted.caseId = case.caseId → promoted.component = case.component →
        Leads codec (Retains case.component) (promotion.apply codec before) engine →
        ((operation.apply codec engine).activeConfigVersion case.component =
          before.activeConfigVersion case.component ↔
            before.activeConfigVersion case.component = some promoted.parentConfigVersion))) ∧
    (∀ now, (engine.expire now).activeConfigVersion = engine.activeConfigVersion) ∧
    ∀ proposal now, (Operation.apply codec engine (.proposeCandidate proposal now)).activeConfigVersion =
      engine.activeConfigVersion := by
  refine ⟨fun operation case rolled => ?_, fun now => rfl, fun proposal now => ?_⟩
  · rw [rollback_active rolled]
    refine ⟨fun _ => eq_comm, fun state before promotion promoted first sameCase sameComponent run => ?_⟩
    have opened : OpenedUnder case.component case.caseId promoted.parentConfigVersion engine := by
      rw [← sameCase, ← sameComponent] at *
      exact (openedUnder_of_promotes first).leads run
    obtain ⟨now, found, _⟩ := rollsBack_cases codec rolled
    rw [opened case (lookup_of_expire case now case.caseId found (by simp [state])) rfl state, eq_comm]
  · rcases propose_cases proposal now with same | change
    · rw [same]
    · generalize Operation.apply codec engine (.proposeCandidate proposal now) = after at change
      cases change
      rfl

/-- The case that the script opens first runs a canary under the active version. -/
def firstCanary (engine : ImprovementEngine) : Bool :=
  (rollsBack engine (.requestRollback Script.first 1 5)).any fun case =>
    case.state = .canary && engine.activeConfigVersion case.component = some case.parentConfigVersion

/-- The rollback of a canary under the active version leaves that version active. -/
theorem rollback_of_first_canary : ∃ engine case, Leads Script.plain (fun _ _ => True) (.new Script.policy) engine ∧
    rollsBack engine (.requestRollback Script.first 1 5) = some case ∧
    (Operation.apply Script.plain engine (.requestRollback Script.first 1 5)).activeConfigVersion case.component =
      engine.activeConfigVersion case.component := by
  obtain ⟨engine, run, canary⟩ : ∃ engine, Leads Script.plain (fun _ _ => True) (.new Script.policy) engine ∧
      firstCanary engine = true :=
    exists_of_play (Script.firstCase ++ [.proposeCandidate (Script.proposal Script.first "low" true) 4])
      (by decide +kernel)
  simp only [firstCanary, Option.any_eq_true, Bool.and_eq_true, decide_eq_true_eq] at canary
  obtain ⟨case, rolled, state, active⟩ := canary
  exact ⟨engine, case, run, rolled,
    (((rollback_restores_iff Script.plain engine).1 _ case rolled).1 state).mpr active⟩

/-- The third case was opened under the first configuration after the second case had been promoted. The rollback of its
canary takes the promotion back. -/
theorem rollback_of_late_canary : ∃ engine case, Leads Script.plain (fun _ _ => True) (.new Script.policy) engine ∧
    rollsBack engine Script.rollbackThird = some case ∧ case.state = .canary ∧
    engine.activeConfigVersion case.component = some 3 ∧
    (Script.rollbackThird.apply Script.plain engine).activeConfigVersion case.component = some 1 := by
  obtain ⟨engine, run, _, reverted⟩ := Script.exists_rollout
  simp only [Script.reverts, Bool.and_eq_true, Option.any_eq_true, decide_eq_true_eq] at reverted
  obtain ⟨⟨⟨case, found, ⟨own, canary⟩, parent⟩, active⟩, enabled⟩ := reverted
  have rolled : rollsBack engine Script.rollbackThird = some case := by
    simp [rollsBack, Script.rollbackThird, enabled, found, parent, canary]
  refine ⟨engine, case, run, rolled, canary, own ▸ active, ?_⟩
  rw [rollback_active rolled, parent]

end AgentMesh.Improvement
