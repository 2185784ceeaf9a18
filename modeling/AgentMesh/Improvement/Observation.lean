import AgentMesh.Improvement.Persistence

/-! The observation of a review. It is one mutation of the engine made of two operations, so it is written exactly when
the engine it leads to is persistable; a case that would be reopened under other immutable columns is refused by the
comparison of the tables with the engine, and never by the database. -/
namespace AgentMesh.Improvement
open Library Daemon Table ImprovementEngine CaseRecord Store

variable {codec : Codec} {engine after : ImprovementEngine} {input : ObservationInput} {store : Store}
  {reached : Option ImprovementEngine} {tables : ImprovementTables} {assignments : Table CanaryAssignmentRow.taskId}

section Observation

/-- The two operations an observation is made of. -/
theorem observeReview_cases (engine : ImprovementEngine) (input : ObservationInput) :
    engine.observeReview codec input = Operation.apply codec engine (.observe input) ∨
      engine.observeReview codec input = Operation.apply codec (Operation.apply codec engine (.observe input))
        (.openEligibleCase input input.reviewedAtUs) := by
  unfold observeReview
  split
  · rename_i observed
    exact .inr (by simp only [Operation.apply, observed])
  · rename_i observed
    exact .inl (by simp only [Operation.apply, observed])

/-- An operation of an observation. -/
def Operation.observes : Operation → Bool
  | .observe _ | .openEligibleCase _ _ => true
  | _ => false

theorem Operation.kept {operation : Operation} (observes : operation.observes = true) :
    (operation.apply codec engine).candidates = engine.candidates ∧
      (operation.apply codec engine).assignments = engine.assignments := by
  have settled : (operation.settled engine).candidates = engine.candidates ∧
      (operation.settled engine).assignments = engine.assignments := by cases operation <;> exact ⟨rfl, rfl⟩
  rcases apply_cases operation with same | same | change
  · rw [same]
    exact ⟨rfl, rfl⟩
  · rwa [same]
  · revert change
    generalize operation.apply codec engine = after
    intro change
    cases change with
    | record | opens => exact settled
    | _ => cases observes

/-- An observation adds neither a candidate nor an assignment, and keeps the cases in their places. -/
structure Observes (before after : ImprovementEngine) : Prop where
  evolves : Evolves before after
  candidates : after.candidates = before.candidates
  assignments : after.assignments = before.assignments

theorem observes_apply {operation : Operation} (observes : operation.observes = true) :
    Observes engine (operation.apply codec engine) :=
  ⟨evolves_apply operation, (Operation.kept observes).1, (Operation.kept observes).2⟩

theorem Observes.trans {first second third : ImprovementEngine} (left : Observes first second)
    (right : Observes second third) : Observes first third := by
  have candidates := right.candidates.trans left.candidates
  have assignments := right.assignments.trans left.assignments
  refine ⟨⟨?_, .inl (by rw [candidates]), .inl (by rw [assignments]), ?_⟩, candidates, assignments⟩
  · exact left.evolves.cases.trans (fun older newer => newer.trans older) right.evolves.cases
  · exact left.evolves.active.trans (fun older newer => older.trans newer) right.evolves.active

/-- A case of the later engine is one of the earlier engine, or the one that the input opens. -/
def Descends (codec : Codec) (input : ObservationInput) (before after : ImprovementEngine) : Prop :=
  ∀ case ∈ after.cases.rows,
    (∃ old ∈ before.cases.rows, old.caseId = case.caseId ∧ old.component = case.component) ∨
      ∃ signature, case.caseId = deterministicCaseId codec input.component input.cohort signature input.taskId ∧
        case.component = input.component

theorem Descends.refl (codec : Codec) (input : ObservationInput) (engine : ImprovementEngine) :
    Descends codec input engine engine := fun case member => .inl ⟨case, member, rfl, rfl⟩

section Descends

variable {middle : ImprovementEngine} (descends : Descends codec input engine middle)

include descends

theorem Descends.expired (now : Int) : Descends codec input engine (middle.expire now) := by
  intro case member
  obtain ⟨old, stored, rfl⟩ := mem_updateWhere.mp member
  split <;> exact descends old stored

theorem Descends.observed : Descends codec input engine (Operation.apply codec middle (.observe input)) := by
  rcases @observe_cases codec middle input with same | same | change
  · simpa only [Operation.apply, same] using descends
  · simpa only [Operation.apply, same] using descends.expired _
  · revert change
    show _ → Descends codec input engine (middle.observe codec input).2
    generalize (middle.observe codec input).2 = after
    rintro ⟨⟩
    exact descends.expired _

theorem Descends.opened (now : Int) :
    Descends codec input engine (Operation.apply codec middle (.openEligibleCase input now)) := by
  rcases @open_cases codec middle input now with same | same | change
  · simpa only [Operation.apply, same] using descends
  · simpa only [Operation.apply, same] using descends.expired now
  · revert change
    show _ → Descends codec input engine (middle.openEligibleCase codec input now)
    generalize middle.openEligibleCase codec input now = after
    rintro ⟨⟩ case member
    rcases mem_put _ _ member with rfl | stored
    · exact .inr ⟨_, rfl, rfl⟩
    · exact descends.expired now case stored

end Descends

/-- What an observation makes of a well-formed engine. -/
theorem observed (hex : ∀ bytes, (codec.sha256Hex bytes).length = 64) (good : WellFormed engine)
    (input : ObservationInput) :
    Observes engine (engine.observeReview codec input) ∧ WellFormed (engine.observeReview codec input) ∧
      Descends codec input engine (engine.observeReview codec input) := by
  have first : Observes engine (Operation.apply codec engine (.observe input)) := observes_apply rfl
  have kept := (Descends.refl codec input engine).observed
  rcases @observeReview_cases codec engine input with same | same
  · rw [same]
    exact ⟨first, good.step hex _, kept⟩
  · rw [same]
    exact ⟨first.trans (observes_apply rfl), (good.step hex _).step hex _, kept.opened _⟩

section Quarantine

variable {α β : Type}

/-- Whatever goes wrong is reported as an inconsistency. -/
def Quarantines (outcome : Checked α) : Prop := ∀ error, outcome = .error error → ∃ reason, error = .quarantined reason

theorem Quarantines.bind {first : Checked α} {next : α → Checked β} (head : Quarantines first)
    (tail : ∀ value, first = .ok value → Quarantines (next value)) : Quarantines (first >>= next) := by
  intro error failed
  cases outcome : first with
  | error cause =>
    rw [outcome] at failed
    exact Except.error.inj failed ▸ head cause outcome
  | ok value =>
    rw [outcome] at failed
    exact tail value outcome error failed

theorem quarantines_ok_bind {first : Checked α} {value : α} {next : α → Checked β} (done : first = .ok value)
    (rest : Quarantines (next value)) : Quarantines (first >>= next) := by
  rw [done]
  exact rest

theorem quarantines_ensure (condition : Prop) [Decidable condition] (reason : String) :
    Quarantines (ensure condition (.quarantined reason)) := by
  intro error failed
  unfold ensure at failed
  split at failed
  · cases failed
  · cases failed
    exact ⟨reason, rfl⟩

theorem quarantines_verify : Quarantines (verifyImprovementProjection tables assignments engine) := by
  iterate 5 refine (quarantines_ensure _ _).bind fun _ _ => ?_
  exact quarantines_ensure _ _

end Quarantine

theorem upsertedRow_caseId (case : CaseRecord) (stored : Table ImprovementCaseRow.caseId) :
    (upsertedRow case stored).caseId = case.caseId := by
  unfold upsertedRow
  split
  · rfl
  · rename_i found
    exact (of_lookup found).2

section Writing

variable (agrees : Agrees tables assignments engine) (good : WellFormed engine) (observes : Observes engine after)
  (components : ∀ case ∈ after.cases.rows, ∀ old, engine.cases.lookup case.caseId = some old →
    case.component = old.component)

include agrees good observes components

theorem Agrees.rewritable : Continues Rewritable (clearActive tables.cases).rows after.cases.rows := by
  refine agrees.continues observes.evolves fun new inside old found state same inactive => ?_
  exact ⟨same.symm, (components new inside old found).symm, good.parents old (of_lookup found).1, inactive⟩

/-- An observed engine that cannot be written is refused, and not by the database. -/
theorem Agrees.refused (better : WellFormed after) (drift : ¬Persistable tables.revision engine after) :
    ∃ reason, persistProjection tables assignments after = .error (.quarantined reason) := by
  have refuses : Quarantines (persistProjection tables assignments after) := by
    obtain ⟨cases, upserted, rows⟩ := foldlM_upsertCase_rewrites (clearActive tables.cases) better.single
      better.parents (agrees.rewritable good observes components)
    have stored := agrees.candidates_stored cases
    have joined : syncAssignments engine.assignments.rows assignments = .ok assignments :=
      syncAssignments_stored fun _ member => agrees.assignment_lookup member
    rw [← observes.candidates] at stored
    rw [← observes.assignments] at joined
    have held : ∀ caseId, (after.cases.lookup caseId).isSome = true → (cases.lookup caseId).isSome = true := by
      intro caseId found
      obtain ⟨case, listed⟩ := Option.isSome_iff_exists.mp found
      obtain ⟨member, named⟩ := of_lookup listed
      have row : cases.lookup caseId = some (upsertedRow case (clearActive tables.cases)) := by
        rw [lookup_eq_some, rows]
        exact ⟨List.mem_map_of_mem member, (upsertedRow_caseId case _).trans named⟩
      rw [row]
      rfl
    have referenced : (∀ candidate ∈ tables.candidates.rows, (cases.lookup candidate.caseId).isSome = true) ∧
        ∀ assignment ∈ assignments.rows, (cases.lookup assignment.caseId).isSome = true := by
      constructor
      · rw [agrees.candidates, ← observes.candidates]
        exact fun candidate member => held _ (better.candidates candidate member).1
      · rw [agrees.assignments, ← observes.assignments, List.forall_mem_map]
        exact fun assignment member => held _ (better.assignments assignment member).1
    have unused : tables.revision + 1 ∉ tables.audit := by
      intro member
      have bound := agrees.bounded _ member
      omega
    refine (quarantines_ensure _ _).bind fun _ _ => quarantines_ok_bind upserted (quarantines_ok_bind stored ?_)
    refine quarantines_ok_bind joined (quarantines_ok_bind (if_pos referenced) ?_)
    refine quarantines_ok_bind (foldlM_upsertActive better.active tables.activeConfigs) ?_
    refine quarantines_ok_bind (if_pos unused) (quarantines_verify.bind fun _ _ => ?_)
    intro error failed
    cases failed
  cases outcome : persistProjection tables assignments after with
  | error error =>
    obtain ⟨reason, rfl⟩ := refuses error outcome
    exact ⟨reason, rfl⟩
  | ok written =>
    obtain ⟨room, writable⟩ := agrees.writable observes.evolves outcome
    exact absurd ⟨room, writable⟩ drift

end Writing

/-- The engine and the input of the observation that a review leads to: the feature is enabled, and the task has an
attempt to observe. -/
def observing (codec : Codec) (store : Store) (taskId : String) (verdict : ReviewVerdict) (diagnosis : Option String)
    (now : Int) : Option (ImprovementEngine × ObservationInput) :=
  match store.improvementEngine, store.reviewObservation codec taskId verdict diagnosis now with
  | some engine, some input => if engine.policy.enabled then some (engine, input) else none
  | _, _ => none

/-- The observation leaves the engine as it is, or leads to one that can be written. -/
def Recordable (codec : Codec) (store : Store) (engine : ImprovementEngine) (input : ObservationInput) : Prop :=
  engine.observeReview codec input = engine ∨
    Persistable store.improvementTables.revision engine (engine.observeReview codec input)

/-- The identifier of the case that the input would open, a digest, is not the one of a case of another component. -/
def Apart (codec : Codec) (engine : ImprovementEngine) (input : ObservationInput) : Prop :=
  ∀ case ∈ engine.cases.rows, ∀ signature,
    case.caseId = deterministicCaseId codec input.component input.cohort signature input.taskId →
      case.component = input.component

/-- What can come of the observation of a review. -/
inductive Outcome (codec : Codec) (ambient : Ambient) (store : Store) (taskId : String) (verdict : ReviewVerdict)
    (diagnosis : Option String) (now : Int) : Checked Store → Prop
  | idle : observing codec store taskId verdict diagnosis now = none →
      Outcome codec ambient store taskId verdict diagnosis now (.ok store)
  | untimely (engine : ImprovementEngine) (input : ObservationInput) :
      observing codec store taskId verdict diagnosis now = some (engine, input) → ¬(0 ≤ now ∧ now ≤ maxSafeTimeUs) →
      Outcome codec ambient store taskId verdict diagnosis now (.error .invalidRequest)
  | fenced (engine : ImprovementEngine) (input : ObservationInput) (error : StorageError) :
      observing codec store taskId verdict diagnosis now = some (engine, input) → 0 ≤ now ∧ now ≤ maxSafeTimeUs →
      ensureMutationAllowed ambient false = .error error →
      Outcome codec ambient store taskId verdict diagnosis now (.error error)
  | recorded (engine : ImprovementEngine) (input : ObservationInput) (after : Store) :
      observing codec store taskId verdict diagnosis now = some (engine, input) → 0 ≤ now ∧ now ≤ maxSafeTimeUs →
      ensureMutationAllowed ambient false = .ok () → Recordable codec store engine input →
      Outcome codec ambient store taskId verdict diagnosis now (.ok after)
  | drifts (engine : ImprovementEngine) (input : ObservationInput) (reason : String) :
      observing codec store taskId verdict diagnosis now = some (engine, input) → 0 ≤ now ∧ now ≤ maxSafeTimeUs →
      ensureMutationAllowed ambient false = .ok () → ¬Recordable codec store engine input →
      Outcome codec ambient store taskId verdict diagnosis now (.error (.quarantined reason))

section Outcome

variable {ambient : Ambient} {taskId : String} {verdict : ReviewVerdict} {diagnosis : Option String} {now : Int}

theorem recordReviewObservation_of_none (loaded : store.loadImprovementEngine = .ok store.improvementEngine)
    (idle : observing codec store taskId verdict diagnosis now = none) :
    store.recordReviewObservation codec ambient taskId verdict diagnosis now = .ok store := by
  unfold observing at idle
  simp only [recordReviewObservation, loaded]
  split at idle
  · rename_i engine input held observed
    have disabled : engine.policy.enabled = false := by
      by_contra enabled
      simp [enabled] at idle
    simp only [held, observed, bind, Except.bind, disabled]
    rfl
  · rename_i missing
    show (match store.improvementEngine, store.reviewObservation codec taskId verdict diagnosis now with
      | some engine, some input => if engine.policy.enabled then store.mutateImprovement ambient
          (fun engine => engine.observeReview codec input) now else pure store
      | _, _ => pure store) = _
    split
    · rename_i engine input held observed
      exact (missing engine input held observed).elim
    · rfl

theorem recordReviewObservation_of_some (loaded : store.loadImprovementEngine = .ok store.improvementEngine)
    (found : observing codec store taskId verdict diagnosis now = some (engine, input)) :
    store.improvementEngine = some engine ∧
      store.recordReviewObservation codec ambient taskId verdict diagnosis now = (do
        ensure (0 ≤ now ∧ now ≤ maxSafeTimeUs) StorageError.invalidRequest
        ensureMutationAllowed ambient false
        if engine.observeReview codec input = engine then return store
        else
          let store ← store.withEngine (engine.observeReview codec input)
          return store.bumpMutationEpoch) := by
  unfold observing at found
  split at found
  · rename_i held observed
    split at found
    · rename_i enabled
      cases found
      refine ⟨held, ?_⟩
      simp only [recordReviewObservation, mutateImprovement, loaded, held, observed, bind, Except.bind, enabled, required,
        if_true]
    · cases found
  · cases found

/-- In every store the storage layer reaches, an observation is refused at an invalid time, when the storage takes no
mutations, and as an inconsistency when it is not recordable. -/
theorem recordReviewObservation_outcome (hex : ∀ bytes, (codec.sha256Hex bytes).length = 64)
    (run : Relation.ReflTransGen (Improves codec) (Store.initial, none) (store, reached))
    (apart : ∀ engine input, observing codec store taskId verdict diagnosis now = some (engine, input) →
      Apart codec engine input) :
    Outcome codec ambient store taskId verdict diagnosis now
      (store.recordReviewObservation codec ambient taskId verdict diagnosis now) := by
  have consistent : Consistent store reached := consistent_of_run hex run
  have snapshot : store.improvementEngine = reached := by cases reached <;> exact consistent.1
  have loaded : store.loadImprovementEngine = .ok store.improvementEngine := snapshot ▸ consistent.loaded
  cases found : observing codec store taskId verdict diagnosis now with
  | none => exact recordReviewObservation_of_none loaded found ▸ .idle found
  | some pair =>
    obtain ⟨engine, input⟩ := pair
    obtain ⟨held, observes⟩ := @recordReviewObservation_of_some codec engine input store ambient taskId verdict diagnosis
      now loaded found
    rw [observes]
    obtain rfl : reached = some engine := snapshot.symm.trans held
    by_cases time : 0 ≤ now ∧ now ≤ maxSafeTimeUs
    · rw [ensure, if_pos time]
      cases allowed : ensureMutationAllowed ambient false with
      | error error => exact .fenced engine input error found time allowed
      | ok done =>
        by_cases same : engine.observeReview codec input = engine
        · exact (if_pos same).symm ▸ .recorded engine input store found time allowed (.inl same)
        · obtain ⟨_, good, agrees, _, _⟩ := consistent
          obtain ⟨step, better, descends⟩ := observed hex good input
          by_cases persistable : Persistable store.improvementTables.revision engine (engine.observeReview codec input)
          · obtain ⟨written, stored⟩ := (withEngine_iff agrees better step.evolves).1.mpr persistable
            simp only [if_neg same, stored]
            exact .recorded engine input _ found time allowed (.inr persistable)
          · have components : ∀ case ∈ (engine.observeReview codec input).cases.rows, ∀ old,
                engine.cases.lookup case.caseId = some old → case.component = old.component := by
              intro case member old stored
              obtain ⟨inside, same⟩ := of_lookup stored
              rcases descends case member with ⟨other, listed, again, component⟩ | ⟨signature, opened, component⟩
              · have only : other = old := List.inj_on_of_nodup_map engine.cases.keyed listed inside (again.trans same.symm)
                rw [← component, only]
              · rw [component, apart engine input found old inside signature (same.trans opened)]
            obtain ⟨reason, refused⟩ := agrees.refused good step components better persistable
            simp only [if_neg same, withEngine, refused]
            exact .drifts engine input reason found time allowed fun recordable => recordable.elim same persistable
    · rw [ensure, if_neg time]
      exact .untimely engine input found time

end Outcome

end Observation

end AgentMesh.Improvement
