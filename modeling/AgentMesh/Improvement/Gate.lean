import AgentMesh.Improvement.Freeze
import AgentMesh.Improvement.Rollback

/-! The promotion gate. A case is promoted on the samples of its own tasks, compared as exact rates, and the integers of
the source hold every number of the comparison as long as the engine has observed less than three quarters of 2³² tasks. -/
namespace AgentMesh.Improvement
open Library Daemon ImprovementEngine Script List Table Nat

variable {codec : Codec} {engine after : ImprovementEngine} {now : Int} {taskId : String}
  {control : List ObservationInput} {input : ObservationInput} {measure : ObservationInput → Nat}
  {assignment : CanaryAssignment} {permitted : ImprovementEngine → Operation → Prop} {factor others sum value : Nat}

section Metrics

def successes (inputs : List ObservationInput) : Nat := inputs.countP ObservationInput.success

def total (measure : ObservationInput → Nat) (inputs : List ObservationInput) : Nat := (inputs.map measure).sum

def latency (input : ObservationInput) : Nat := input.latencyUs.getD 0

def tokens (input : ObservationInput) : Nat := input.tokenCost.getD 0

def Measured (input : ObservationInput) : Prop := input.latencyUs.isSome = true ∧ input.tokenCost.isSome = true

/-- What the accumulators of an arm hold after some reviews. -/
structure Sums (inputs : List ObservationInput) (arm : ArmMetrics) : Prop where
  samples : arm.samples = inputs.length
  successes : arm.successes = successes inputs
  latency : arm.latencySum = total latency inputs
  tokens : arm.tokenSum = total tokens inputs
  missing : arm.missingMetrics = false ↔ ∀ input ∈ inputs, Measured input
  safety : arm.safetyViolations = total ObservationInput.safetyViolations inputs

theorem Sums.sample {inputs : List ObservationInput} {arm : ArmMetrics} (sums : Sums inputs arm)
    (input : ObservationInput) : Sums (inputs ++ [input]) (arm.sample input) where
  samples := by simp [ArmMetrics.sample, sums.samples]
  successes := by
    rw [Improvement.successes, countP_append, countP_singleton]
    exact congrArg (· + _) sums.successes
  latency := by simp [ArmMetrics.sample, sums.latency, total, Improvement.latency]
  tokens := by simp [ArmMetrics.sample, sums.tokens, total, Improvement.tokens]
  missing := by
    rw [forall_mem_append, forall_mem_singleton, ← sums.missing]
    simp only [ArmMetrics.sample, Bool.or_eq_false_iff, Measured, Option.isNone_eq_false_iff, and_assoc]
  safety := by simp [ArmMetrics.sample, sums.safety, total]

theorem sums_empty : Sums [] .empty :=
  ⟨rfl, rfl, rfl, rfl, by simp [ArmMetrics.empty], rfl⟩

theorem sums_foldl (inputs : List ObservationInput) : Sums inputs (inputs.foldl ArmMetrics.sample .empty) := by
  induction inputs using reverseRecOn with
  | nil => exact sums_empty
  | append_singleton before input ih =>
    rw [foldl_append]
    exact ih.sample input

theorem sums_armMetrics (engine : ImprovementEngine) (caseId : String) (candidate : Bool) :
    Sums (engine.armSamples caseId candidate) (engine.armMetrics caseId candidate) :=
  sums_foldl _

end Metrics

section Rates

def successRate (inputs : List ObservationInput) : ℚ := successes inputs / inputs.length

def mean (measure : ObservationInput → Nat) (inputs : List ObservationInput) : ℚ := total measure inputs / inputs.length

/-- The samples of two arms that let a candidate pass. -/
structure Passes (candidate control : List ObservationInput) : Prop where
  candidates : minCanarySamplesPerArm ≤ candidate.length
  controls : minCanarySamplesPerArm ≤ control.length
  measured : ∀ input ∈ candidate ++ control, Measured input
  safe : ∀ input ∈ candidate, input.safetyViolations = 0
  success : successRate control + 1 / 10 ≤ successRate candidate
  latency : mean latency candidate ≤ 11 / 10 * mean latency control
  tokens : mean tokens candidate ≤ 11 / 10 * mean tokens control

theorem successRate_of_products {candidate : List ObservationInput} (many : 0 < candidate.length)
    (others : 0 < control.length)
    (products : 10 * successes control * candidate.length + candidate.length * control.length ≤ 10 * successes candidate
      * control.length) : successRate control + 1 / 10 ≤ successRate candidate := by
  have manyRat : (0 : ℚ) < candidate.length := by exact_mod_cast many
  have othersRat : (0 : ℚ) < control.length := by exact_mod_cast others
  have scaled : (10 * successes control * candidate.length + candidate.length * control.length : ℚ) ≤
      10 * successes candidate * control.length := by exact_mod_cast products
  have common : successRate control + 1 / 10 = (10 * successes control + control.length) / (10 * control.length) := by
    unfold successRate
    field_simp
  rw [common, successRate, div_le_div_iff₀ (by positivity) manyRat]
  linarith

theorem mean_of_products {candidate : List ObservationInput} (many : 0 < candidate.length) (others : 0 < control.length)
    (products : regressesOverTenPercent (total measure candidate) candidate.length (total measure control)
      control.length = false) : mean measure candidate ≤ 11 / 10 * mean measure control := by
  have manyRat : (0 : ℚ) < candidate.length := by exact_mod_cast many
  have othersRat : (0 : ℚ) < control.length := by exact_mod_cast others
  simp only [regressesOverTenPercent, decide_eq_false_iff_not, not_lt] at products
  have scaled : (10 * total measure candidate * control.length : ℚ) ≤
      11 * total measure control * candidate.length := by exact_mod_cast products
  have common : 11 / 10 * mean measure control = 11 * total measure control / (10 * control.length) := by
    unfold mean
    field_simp
  rw [common, mean, div_le_div_iff₀ manyRat (by positivity)]
  linarith

theorem passes_of_gate {candidate : List ObservationInput} {arm other : ArmMetrics} (sums : Sums candidate arm)
    (others : Sums control other) (enough : minCanarySamplesPerArm ≤ arm.samples)
    (enoughOthers : minCanarySamplesPerArm ≤ other.samples) (pass : compareArms arm other = .pass) :
    Passes candidate control := by
  unfold compareArms at pass
  split_ifs at pass with violating missing empty worse costly
  rw [not_not] at violating
  rw [Bool.not_eq_true, Bool.or_eq_false_iff] at missing costly
  rw [not_lt] at worse
  rw [sums.samples] at enough worse costly
  rw [others.samples] at enoughOthers worse costly
  rw [sums.successes, others.successes] at worse
  rw [sums.latency, others.latency, sums.tokens, others.tokens] at costly
  have many : 0 < candidate.length := lt_of_lt_of_le (by decide) enough
  have manyOthers : 0 < control.length := lt_of_lt_of_le (by decide) enoughOthers
  refine ⟨enough, enoughOthers, ?_, ?_, successRate_of_products many manyOthers worse,
    mean_of_products many manyOthers costly.1, mean_of_products many manyOthers costly.2⟩
  · rw [forall_mem_append]
    exact ⟨sums.missing.mp missing.1, others.missing.mp missing.2⟩
  · intro input member
    rw [sums.safety, total, sum_eq_zero_iff] at violating
    exact violating _ (mem_map_of_mem member)

end Rates

section Widths

variable {inputs : List ObservationInput} {arm other : ArmMetrics}

/-- The numbers of a review are in the ranges of their types, and its metrics in those that a review is checked for. -/
structure Representable (input : ObservationInput) : Prop where
  latency : latency input ≤ 2 ^ 63
  tokens : tokens input ≤ 2 ^ 63
  safety : input.safetyViolations < 2 ^ 32

theorem representable_of_valid (valid : input.validate codec = true) (safety : input.safetyViolations < 2 ^ 32) :
    Representable input := by
  have bounded : ∀ metric : Option Nat, metric.all fitsI64 = true → metric.getD 0 ≤ 2 ^ 63 := by
    intro metric fits
    cases metric with
    | none => exact zero_le _
    | some value => exact le_of_lt (of_decide_eq_true fits)
  simp only [ObservationInput.validate, Bool.and_eq_true] at valid
  exact ⟨bounded _ valid.1.2, bounded _ valid.2, safety⟩

theorem total_le {bound : Nat} (each : ∀ input ∈ inputs, measure input ≤ bound) :
    total measure inputs ≤ inputs.length * bound := by
  have le := sum_le_card_nsmul (inputs.map measure) bound (by simpa using each)
  rwa [length_map] at le

theorem fits_of_sums (sums : Sums inputs arm) (few : inputs.length < 2 ^ 32)
    (representable : ∀ input ∈ inputs, Representable input) : arm.fits = true := by
  have successful : successes inputs ≤ inputs.length := countP_le_length
  have slow := total_le fun input member => (representable input member).latency
  have costly := total_le fun input member => (representable input member).tokens
  have violating := total_le fun input member => le_of_lt_succ (representable input member).safety
  simp only [ArmMetrics.fits, sums.samples, sums.successes, sums.latency, sums.tokens, sums.safety, Bool.and_eq_true,
    decide_eq_true_eq]
  omega

theorem foldlM_sampleWithin (few : inputs.length < 2 ^ 32) (representable : ∀ input ∈ inputs, Representable input) :
    inputs.foldlM ArmMetrics.sampleWithin .empty = some (inputs.foldl ArmMetrics.sample .empty) := by
  induction inputs using reverseRecOn with
  | nil => rfl
  | append_singleton before input ih =>
    have fits := fits_of_sums (sums_foldl (before ++ [input])) few representable
    rw [length_append] at few
    rw [forall_mem_append] at representable
    rw [foldl_append, foldl_cons, foldl_nil] at fits ⊢
    rw [foldlM_append, ih (by omega) representable.1]
    simp [ArmMetrics.sampleWithin, fits]

theorem within128_of_lt (small : value < 2 ^ 128) : within128 value = some value := if_pos small

theorem within128_product {first second : Nat} (positive : 0 < second) (small : factor * first * second < 2 ^ 128) :
    (within128 (factor * first)).bind (fun product => within128 (product * second)) =
      some (factor * first * second) := by
  have smaller := Nat.le_mul_of_pos_right (factor * first) positive
  rw [within128_of_lt (by omega), Option.bind_some, within128_of_lt small]

/-- A sum of at most 2⁶³ per sample is small enough for the comparison with the other arm. -/
theorem product_lt {samples : Nat} (few : samples * others ≤ 9 * 2 ^ 58) (bounded : sum ≤ samples * 2 ^ 63) :
    11 * sum * others < 2 ^ 128 := by
  have scaled : sum * others ≤ 9 * 2 ^ 58 * 2 ^ 63 :=
    calc sum * others ≤ samples * 2 ^ 63 * others := mul_le_mul_right others bounded
      _ = samples * others * 2 ^ 63 := by ring
      _ ≤ 9 * 2 ^ 58 * 2 ^ 63 := mul_le_mul_right _ few
  rw [mul_assoc]
  omega

theorem regressesWithin_eq {samples otherSum : Nat} (positive : 0 < samples) (otherPositive : 0 < others)
    (few : samples * others ≤ 9 * 2 ^ 58) (bounded : sum ≤ samples * 2 ^ 63)
    (otherBounded : otherSum ≤ others * 2 ^ 63) :
    regressesWithin sum samples otherSum others = some (regressesOverTenPercent sum samples otherSum others) := by
  have cost : 10 * sum * others < 2 ^ 128 := by
    have larger := product_lt few bounded
    rw [mul_assoc] at larger ⊢
    omega
  have bound : 11 * otherSum * samples < 2 ^ 128 := product_lt (by rwa [mul_comm]) otherBounded
  have costWithin := within128_product otherPositive cost
  have boundWithin := within128_product positive bound
  simp only [regressesWithin, bind, pure]
  rw [← Option.bind_assoc, costWithin, Option.bind_some, ← Option.bind_assoc, boundWithin]
  rfl

/-- The accumulators of arms with few samples. -/
structure Small (arm other : ArmMetrics) : Prop where
  few : arm.samples * other.samples ≤ 9 * 2 ^ 58
  successes : arm.successes ≤ arm.samples
  latency : arm.latencySum ≤ arm.samples * 2 ^ 63
  tokens : arm.tokenSum ≤ arm.samples * 2 ^ 63

theorem compareArmsWithin_eq (small : Small arm other) (others : Small other arm) :
    compareArmsWithin arm other = some (compareArms arm other) := by
  unfold compareArmsWithin compareArms
  split
  · rfl
  split
  · rfl
  split
  · rfl
  rename_i nonempty
  have positive : 0 < arm.samples := by omega
  have otherPositive : 0 < other.samples := by omega
  have few := small.few
  have products : ∀ {first second count : Nat}, first * second ≤ 9 * 2 ^ 58 → count ≤ first →
      10 * count * second ≤ 10 * (9 * 2 ^ 58) := by
    intro first second count bound successful
    rw [mul_assoc]
    exact mul_le_mul_left 10 ((mul_le_mul_right second successful).trans bound)
  have gained := products few small.successes
  have kept := products others.few others.successes
  have gainedWithin := within128_product otherPositive (lt_of_le_of_lt gained (by decide))
  have keptWithin := within128_product positive (lt_of_le_of_lt kept (by decide))
  simp only [bind, pure]
  rw [← Option.bind_assoc, gainedWithin, Option.bind_some, ← Option.bind_assoc, keptWithin, Option.bind_some,
    within128_of_lt (by omega), Option.bind_some, within128_of_lt (by omega), Option.bind_some,
    regressesWithin_eq positive otherPositive few small.latency others.latency,
    regressesWithin_eq positive otherPositive few small.tokens others.tokens]
  split
  · rfl
  · cases regressesOverTenPercent arm.latencySum arm.samples other.latencySum other.samples
    · rfl
    · rfl

end Widths

section Arms

variable {caseId : String}

theorem armSamples_mem {candidate : Bool} (member : input ∈ engine.armSamples caseId candidate) :
    input ∈ engine.observations.rows := by
  obtain ⟨row, _, found⟩ := mem_filterMap.mp member
  exact (of_lookup found).1

theorem filterMap_lookup_sublist (observations : Table ObservationInput.taskId) (rows : List CanaryAssignment) :
    ((rows.filterMap fun row => observations.lookup row.taskId).map ObservationInput.taskId).Sublist
      (rows.map CanaryAssignment.taskId) := by
  induction rows with
  | nil => exact .slnil
  | cons row rows ih =>
    cases found : observations.lookup row.taskId with
    | none =>
      simp only [filterMap_cons, found, map_cons]
      exact ih.cons _
    | some input =>
      have same : input.taskId = row.taskId := (of_lookup found).2
      simp only [filterMap_cons, found, map_cons, same]
      exact ih.cons_cons _

theorem arms_length (engine : ImprovementEngine) (caseId : String) :
    (engine.armSamples caseId true).length + (engine.armSamples caseId false).length ≤
      engine.observations.rows.length := by
  let mine := engine.assignments.rows.filter fun row => decide (row.caseId = caseId)
  have halves : ∀ candidate : Bool, (engine.assignments.rows.filter fun row =>
      decide (row.caseId = caseId) && decide (row.candidate = candidate)) =
        mine.filter fun row => decide (row.candidate = candidate) := by
    intro candidate
    rw [filter_filter]
    exact filter_congr fun row _ => Bool.and_comm _ _
  have whole : (mine.filter (fun row => decide (row.candidate = true)) ++
      mine.filter fun row => decide (row.candidate = false)).Perm mine := by
    have other : (mine.filter fun row => decide (row.candidate = false)) =
        mine.filter fun row => !decide (row.candidate = true) :=
      filter_congr fun row _ => by cases row.candidate <;> rfl
    rw [other]
    exact filter_append_perm _ _
  have joined : engine.armSamples caseId true ++ engine.armSamples caseId false =
      (mine.filter (fun row => decide (row.candidate = true)) ++
        mine.filter fun row => decide (row.candidate = false)).filterMap fun row =>
          engine.observations.lookup row.taskId := by
    rw [filterMap_append, ← halves, ← halves]
    rfl
  have distinct : ((engine.armSamples caseId true ++ engine.armSamples caseId false).map
      ObservationInput.taskId).Nodup := by
    rw [joined]
    refine (filterMap_lookup_sublist engine.observations _).nodup ?_
    rw [(whole.map _).nodup_iff]
    exact (filter_sublist.map _).nodup engine.assignments.keyed
  have inside : engine.armSamples caseId true ++ engine.armSamples caseId false ⊆ engine.observations.rows :=
    append_subset.mpr ⟨fun _ => armSamples_mem, fun _ => armSamples_mem⟩
  rw [← length_append]
  exact (subperm_of_subset distinct.of_map inside).length_le

theorem small_of_sums {inputs controls : List ObservationInput} {arm other : ArmMetrics} (sums : Sums inputs arm)
    (others : Sums controls other) (few : inputs.length + controls.length < 3 * 2 ^ 30)
    (representable : ∀ input ∈ inputs, Representable input) : Small arm other where
  few := by
    rw [sums.samples, others.samples]
    have square := four_mul_le_sq_add inputs.length controls.length
    rw [mul_assoc] at square
    have bound : (inputs.length + controls.length) ^ 2 ≤ (3 * 2 ^ 30) ^ 2 := Nat.pow_le_pow_left few.le 2
    omega
  successes := by
    rw [sums.successes, sums.samples]
    exact countP_le_length
  latency := by
    rw [sums.latency, sums.samples]
    exact total_le fun input member => (representable input member).latency
  tokens := by
    rw [sums.tokens, sums.samples]
    exact total_le fun input member => (representable input member).tokens

/-- With few representable reviews, the integers of the source hold every number of the comparison. -/
theorem canaryVerdictWithin_eq (few : engine.observations.rows.length < 3 * 2 ^ 30)
    (representable : ∀ input ∈ engine.observations.rows, Representable input) (case : CaseRecord) (now : Int) :
    engine.canaryVerdictWithin case now = some (engine.canaryVerdict case now) := by
  have total := arms_length engine case.caseId
  have typed : ∀ candidate, ∀ input ∈ engine.armSamples case.caseId candidate, Representable input :=
    fun _ input member => representable input (armSamples_mem member)
  have candidates : engine.armMetricsWithin case.caseId true = some (engine.armMetrics case.caseId true) :=
    @foldlM_sampleWithin (engine.armSamples case.caseId true) (by omega) (typed true)
  have controls : engine.armMetricsWithin case.caseId false = some (engine.armMetrics case.caseId false) :=
    @foldlM_sampleWithin (engine.armSamples case.caseId false) (by omega) (typed false)
  have compared : compareArmsWithin (engine.armMetrics case.caseId true) (engine.armMetrics case.caseId false) =
      some (compareArms (engine.armMetrics case.caseId true) (engine.armMetrics case.caseId false)) :=
    compareArmsWithin_eq (small_of_sums (sums_armMetrics engine case.caseId true) (sums_armMetrics engine case.caseId false)
      (by omega) (typed true)) (small_of_sums (sums_armMetrics engine case.caseId false)
        (sums_armMetrics engine case.caseId true) (by omega) (typed false))
  unfold canaryVerdictWithin canaryVerdict
  rw [candidates, controls]
  dsimp only [bind, pure, Option.bind_some]
  rw [compared]
  repeat (split; · rfl)
  rfl

end Arms

section Runs

variable {before : ImprovementEngine} {operation : Operation}

/-- What holds of the cases, the assignments and the reviews in every run. -/
structure Sound (codec : Codec) (engine : ImprovementEngine) : Prop where
  single : Single engine
  assigned : ∀ row ∈ engine.assignments.rows, (engine.cases.lookup row.caseId).isSome = true
  valid : ∀ input ∈ engine.observations.rows, input.validate codec = true

theorem sound_new (policy : ImprovementPolicy) : Sound codec (.new policy) where
  single := (disciplined_new policy).single
  assigned := by simp [new, empty]
  valid := by simp [new, empty]

theorem Retouches.known (same : Retouches before after) {caseId : String}
    (known : (before.cases.lookup caseId).isSome = true) : (after.cases.lookup caseId).isSome = true := by
  obtain ⟨case, found⟩ := Option.isSome_iff_exists.mp known
  obtain ⟨later, stored, _⟩ := same.forth found
  exact Option.isSome_iff_exists.mpr ⟨later, stored⟩

section

variable (change : Change codec engine operation after)

include change

theorem known_changed {caseId : String} (known : (engine.cases.lookup caseId).isSome = true) :
    (after.cases.lookup caseId).isSome = true := by
  cases change with
  | toggle | record | assigns => exact known
  | opens =>
    rw [withCase_lookup]
    split
    · rfl
    · exact known
  | proposes proposal now case validation found observing => exact (retouches_candidate found observing).known known
  | promotes now case _ found canary => exact (retouches_promote found canary).known known
  | evaluatesBack | rollsBack =>
    rw [rollbackCase_lookup, Option.isSome_map]
    exact known

theorem observations_changed : after.observations = engine.observations ∨
    ∃ input, input.validate codec = true ∧ after.observations = engine.observations.put input := by
  cases change with
  | record input valid => exact .inr ⟨input, valid, rfl⟩
  | toggle | assigns | opens | proposes | promotes | evaluatesBack | rollsBack => exact .inl rfl

theorem assignments_changed : after.assignments = engine.assignments ∨
    ∃ assignment, (engine.cases.lookup assignment.caseId).isSome = true ∧
      engine.assignments.lookup assignment.taskId = none ∧ after.assignments = engine.assignments.put assignment := by
  cases change with
  | assigns caseId admission case assignment own found _ free =>
    subst own
    exact .inr ⟨assignment, Option.isSome_iff_exists.mpr ⟨case, found⟩, free, rfl⟩
  | toggle | record | opens | proposes | promotes | evaluatesBack | rollsBack => exact .inl rfl

end

theorem Single.changed (single : Single engine) (change : Change codec engine operation after) : Single after := by
  cases change with
  | toggle | record | assigns => exact single
  | opens input now signature calm => exact single.opened fun case member own => (calm case member own).1
  | proposes proposal now case validation found observing => exact single.retouched (retouches_candidate found observing)
  | promotes now case _ found canary => exact single.retouched (retouches_promote found canary)
  | evaluatesBack now case found | rollsBack now case found => exact single.rolledBack found

theorem settled_tables (operation : Operation) : (operation.settled engine).observations = engine.observations ∧
    (operation.settled engine).assignments = engine.assignments := by
  cases operation <;> exact ⟨rfl, rfl⟩

theorem Sound.settled (sound : Sound codec engine) (operation : Operation) : Sound codec (operation.settled engine) where
  single := sound.single.retouched (retouches_settled operation)
  assigned row member := by
    rw [(settled_tables operation).2] at member
    exact (retouches_settled operation).known (sound.assigned row member)
  valid := by
    rw [(settled_tables operation).1]
    exact sound.valid

theorem Sound.changed (sound : Sound codec engine) (change : Change codec engine operation after) :
    Sound codec after where
  single := sound.single.changed change
  assigned row member := by
    refine known_changed change ?_
    obtain same | ⟨assignment, known, _, same⟩ := assignments_changed change
    · rw [same] at member
      exact sound.assigned row member
    · rw [same] at member
      obtain rfl | old := mem_put _ _ member
      · exact known
      · exact sound.assigned row old
  valid input member := by
    obtain same | ⟨review, valid, same⟩ := observations_changed change
    · rw [same] at member
      exact sound.valid input member
    · rw [same] at member
      obtain rfl | old := mem_put _ _ member
      · exact valid
      · exact sound.valid input old

theorem Sound.step (sound : Sound codec engine) : Sound codec (operation.apply codec engine) := by
  rcases apply_cases operation with same | settled | change
  · rw [same]
    exact sound
  · rw [settled]
    exact sound.settled operation
  · exact (sound.settled operation).changed change

theorem sound_of_leads {policy : ImprovementPolicy} (run : Leads codec permitted (.new policy) engine) :
    Sound codec engine := by
  induction run with
  | refl => exact sound_new policy
  | tail _ last ih =>
    obtain ⟨operation, _, rfl⟩ := last
    exact ih.step

theorem assignment_step (made : engine.assignments.lookup taskId = some assignment) :
    (operation.apply codec engine).assignments.lookup taskId = some assignment := by
  have before : (operation.settled engine).assignments.lookup taskId = some assignment := by
    rw [(settled_tables operation).2]
    exact made
  rcases apply_cases operation with same | settled | change
  · rw [same]
    exact made
  · rw [settled]
    exact before
  · obtain same | ⟨added, _, free, same⟩ := assignments_changed change
    · rw [same]
      exact before
    · rw [same, lookup_put]
      split
      · rename_i own
        rw [own, before] at free
        cases free
      · exact before

theorem assignment_of_leads (run : Leads codec permitted before after)
    (made : before.assignments.lookup taskId = some assignment) :
    after.assignments.lookup taskId = some assignment := by
  induction run with
  | refl => exact made
  | tail _ last ih =>
    obtain ⟨operation, _, rfl⟩ := last
    exact assignment_step ih

end Runs

section Promotion

/-- What a case must show before it is promoted. -/
structure Earned (engine : ImprovementEngine) (case : CaseRecord) (now : Int) : Prop where
  passes : Passes (engine.armSamples case.caseId true) (engine.armSamples case.caseId false)
  aged : ∃ started, case.canaryStartedAtUs = some started ∧ minCanaryAgeUs ≤ now - started
  unexpired : now - case.createdAtUs < caseExpiryUs

theorem earned_of_verdict {case : CaseRecord} (fresh : case.expires now = false) (canary : case.state = .canary)
    (verdict : engine.canaryVerdict case now = .promote) : Earned engine case now := by
  unfold canaryVerdict at verdict
  dsimp only at verdict
  split_ifs at verdict with _ _ few missing early
  refine ⟨?_, ?_, ?_⟩
  · rw [not_or, not_lt, not_lt] at few
    refine passes_of_gate (sums_armMetrics engine case.caseId true) (sums_armMetrics engine case.caseId false) few.1 few.2
      ?_
    split at verdict
    · assumption
    · cases verdict
    · cases verdict
    · cases verdict
    · cases verdict
  · cases started : case.canaryStartedAtUs with
    | none => simp [started] at early
    | some time =>
      refine ⟨time, rfl, ?_⟩
      rw [started, Option.all_some, decide_eq_true_eq, Int.not_lt, subTime, le_max_iff] at early
      exact early.resolve_right (by decide)
  · have timely : subTime now case.createdAtUs < caseExpiryUs := by simpa [CaseRecord.expires, canary] using fresh
    exact (le_max_left _ _).trans_lt timely

theorem earned_of_evaluate (codec : Codec) {caseId moved : String} {case later : CaseRecord}
    (found : engine.cases.lookup moved = some case) (unpromoted : case.state ≠ .promoted)
    (stored : (engine.evaluate caseId now).2.cases.lookup moved = some later) (promoted : later.state = .promoted) :
    Earned engine case now := by
  have kept : (engine.expire now).cases.lookup moved ≠ some later := by
    intro listed
    have old := lookup_of_expire later now moved listed (by simp [promoted])
    rw [found, Option.some.injEq] at old
    exact unpromoted (old ▸ promoted)
  rcases @evaluate_cases codec engine caseId now with same | expired | change
  · rw [same, found, Option.some.injEq] at stored
    exact absurd (stored ▸ promoted) unpromoted
  · rw [expired] at stored
    exact absurd stored kept
  · obtain listed | ⟨time, earlier, own, _, listed, canary, verdict, _⟩ := promoted_changed change stored promoted
    · exact absurd listed kept
    · obtain ⟨rfl, rfl⟩ := Operation.evaluate.inj own
      have fresh : earlier.expires now = false := by
        rw [expire_lookup, found, Option.map_some, Option.some.injEq] at listed
        split at listed
        · rw [← listed] at canary
          cases canary
        · rename_i fresh
          rw [← listed]
          exact Bool.eq_false_iff.mpr fresh
      rw [lookup_of_expire earlier now caseId listed (by simp [canary]), Option.some.injEq] at found
      subst found
      have earned := earned_of_verdict fresh canary verdict
      exact ⟨earned.passes, earned.aged, earned.unexpired⟩

/-- In every engine that operations lead to, no component has two active cases; an assignment is to a case and stays as
it was made; an evaluation promotes only cases that have earned it; and with fewer than 3 · 2³⁰ reviews no number of an
evaluation overflows. -/
theorem promotion_gate_sound {permitted : ImprovementEngine → Operation → Prop} {policy : ImprovementPolicy}
    (run : Leads codec permitted (.new policy) engine) :
    (∀ case ∈ engine.cases.rows, ∀ other ∈ engine.cases.rows, case.component = other.component →
      isActive case = true → isActive other = true → case = other) ∧
    (∀ taskId assignment, engine.assignments.lookup taskId = some assignment →
      (∃ case, engine.cases.lookup assignment.caseId = some case) ∧
      ∀ later, Leads codec permitted engine later → later.assignments.lookup taskId = some assignment) ∧
    (∀ caseId now moved case later, engine.cases.lookup moved = some case → case.state ≠ .promoted →
      (engine.evaluate caseId now).2.cases.lookup moved = some later → later.state = .promoted →
      Earned engine case now) ∧
    (engine.observations.rows.length < 3 * 2 ^ 30 →
      (∀ input ∈ engine.observations.rows, input.safetyViolations < 2 ^ 32) →
      ∀ case now, engine.canaryVerdictWithin case now = some (engine.canaryVerdict case now)) := by
  have sound := sound_of_leads run
  refine ⟨?_, ?_, ?_, ?_⟩
  · intro case member other otherMember component active otherActive
    have found := (engine.cases.lookup_eq_some case.caseId case).mpr ⟨member, rfl⟩
    have otherFound := (engine.cases.lookup_eq_some other.caseId other).mpr ⟨otherMember, rfl⟩
    have same := sound.single _ _ _ _ found otherFound component active otherActive
    rw [same, otherFound, Option.some.injEq] at found
    exact found.symm
  · intro taskId assignment made
    have member := (Table.of_lookup made).1
    exact ⟨Option.isSome_iff_exists.mp (sound.assigned assignment member), fun later leads =>
      assignment_of_leads leads made⟩
  · exact fun caseId now moved case later found unpromoted stored promoted =>
      earned_of_evaluate codec found unpromoted stored promoted
  · intro few typed case now
    refine canaryVerdictWithin_eq few (fun input member => ?_) case now
    exact representable_of_valid (sound.valid input member) (typed input member)

end Promotion

/-- A case with twenty tasks in each arm is promoted after a week. -/
theorem promotion_gate_sound_rollout : ∃ engine case later, Leads plain (fun _ _ => True) (.new policy) engine ∧
    engine.cases.lookup second = some case ∧
    (engine.evaluate second (15 * day)).2.cases.lookup second = some later ∧
    later.state = .promoted ∧ Earned engine case (15 * day) := by
  have check : (((play plain (fun _ _ => True) joined (.new policy)).bind
      (sample samples)).any fun engine =>
        (engine.cases.lookup second).any (fun case => case.state = .canary) &&
          ((engine.evaluate second (15 * day)).2.cases.lookup second).any fun later =>
            later.state = .promoted) = true := by decide +kernel
  obtain ⟨engine, reached, both⟩ := Option.any_eq_true _ _ |>.mp check
  obtain ⟨joined, first, sampled⟩ := Option.bind_eq_some_iff.mp reached
  have run := (leads_of_play first).trans (leads_of_sample valid_samples sampled)
  simp only [Bool.and_eq_true, Option.any_eq_true, decide_eq_true_eq] at both
  obtain ⟨⟨case, found, canary⟩, later, stored, promoted⟩ := both
  refine ⟨engine, case, later, run, found, stored, promoted, ?_⟩
  exact (promotion_gate_sound run).2.2.1 _ _ _ case later found (by simp [canary]) stored promoted

section Crowd

variable {case : CaseRecord} {candidate : CandidateRecord} {time : Int}

/-- The case runs the candidate, and no case is overdue at the time. -/
structure Hosting (engine : ImprovementEngine) (case : CaseRecord) (candidate : CandidateRecord) (time : Int) :
    Prop where
  enabled : engine.policy.enabled = true
  found : engine.cases.lookup case.caseId = some case
  canary : case.state = .canary
  chosen : (case.candidateId.bind fun candidateId => engine.candidates.lookup candidateId) = some candidate
  fresh : engine.cases.rows.any (CaseRecord.expires time) = false

def assignmentOf (codec : Codec) (case : CaseRecord) (candidate : CandidateRecord) (taskId : String) :
    CanaryAssignment :=
  let isCandidate : Bool := stableCanaryBucket codec case.caseId taskId < canaryPercent
  { taskId, caseId := case.caseId, candidate := isCandidate
    configVersion := if isCandidate then candidate.candidateConfigVersion else candidate.rollbackConfigVersion
    configDigest := if isCandidate then candidate.candidateConfigDigest else case.cohort.configDigest }

/-- A valid review of a task as its assignment demands it. -/
structure Obeys (codec : Codec) (case : CaseRecord) (candidate : CandidateRecord) (time : Int)
    (input : ObservationInput) : Prop where
  valid : input.validate codec = true
  component : input.component = case.component
  adapter : input.cohort.adapterInstanceId = case.cohort.adapterInstanceId
  adapterVersion : input.cohort.adapterVersion = case.cohort.adapterVersion
  configVersion : input.cohort.configVersion = (assignmentOf codec case candidate input.taskId).configVersion
  configDigest : input.cohort.configDigest = (assignmentOf codec case candidate input.taskId).configDigest
  reviewed : input.reviewedAtUs = time

def withTask (codec : Codec) (engine : ImprovementEngine) (case : CaseRecord) (candidate : CandidateRecord)
    (input : ObservationInput) : ImprovementEngine :=
  withObservation { engine with assignments := engine.assignments.put (assignmentOf codec case candidate input.taskId) }
    input

section

variable (hosting : Hosting engine case candidate time)

include hosting

theorem Hosting.withTask (input : ObservationInput) :
    Hosting (withTask codec engine case candidate input) case candidate time :=
  ⟨hosting.enabled, hosting.found, hosting.canary, hosting.chosen, hosting.fresh⟩

theorem leads_withTask (obeys : Obeys codec case candidate time input)
    (unassigned : engine.assignments.lookup input.taskId = none)
    (unseen : engine.observations.lookup input.taskId = none) :
    Leads codec (fun _ _ => True) engine (withTask codec engine case candidate input) := by
  have unexpired : ¬caseExpiryUs ≤ subTime time case.createdAtUs := by
    have fresh := any_eq_false.mp hosting.fresh case (of_lookup hosting.found).1
    simpa [CaseRecord.expires, hosting.canary] using fresh
  let assigned : ImprovementEngine :=
    { engine with assignments := engine.assignments.put (assignmentOf codec case candidate input.taskId) }
  have joins : assigned = Operation.apply codec engine
      (.assignCanary case.caseId ⟨input.taskId, case.cohort, true, true, true, time⟩) := by
    simp [Operation.apply, assignCanary, hosting.enabled, unassigned, hosting.found, hosting.canary,
      unexpired, hosting.chosen, assigned, assignmentOf]
  have agrees : assigned.contradictsAssignment input = false := by
    have made : assigned.assignments.lookup input.taskId = some (assignmentOf codec case candidate input.taskId) :=
      (lookup_put _ _ _).trans (if_pos rfl)
    have known : assigned.cases.lookup (assignmentOf codec case candidate input.taskId).caseId = some case :=
      hosting.found
    simp [contradictsAssignment, made, known, obeys.component, obeys.adapter, obeys.adapterVersion,
      obeys.configVersion, obeys.configDigest]
  have settled : assigned.expire time = assigned := expire_of_none hosting.fresh
  have reviews : Improvement.withTask codec engine case candidate input =
      Operation.apply codec assigned (.observe input) := by
    have enabled : assigned.policy.enabled = true := hosting.enabled
    have unseen' : assigned.observations.lookup input.taskId = none := unseen
    simp [Operation.apply, observe, enabled, obeys.valid, obeys.reviewed, settled, unseen', agrees]
    rfl
  exact .head ⟨_, trivial, joins⟩ (.single ⟨_, trivial, reviews⟩)

theorem leads_crowd {inputs : List ObservationInput} (obeys : ∀ input ∈ inputs, Obeys codec case candidate time input)
    (distinct : (inputs.map ObservationInput.taskId).Nodup)
    (unassigned : ∀ input ∈ inputs, engine.assignments.lookup input.taskId = none)
    (unseen : ∀ input ∈ inputs, engine.observations.lookup input.taskId = none) :
    ∃ later, Leads codec (fun _ _ => True) engine later ∧ Hosting later case candidate time ∧
      later.assignments.rows = engine.assignments.rows ++
        inputs.map (fun input => assignmentOf codec case candidate input.taskId) ∧
      later.observations.rows = engine.observations.rows ++ inputs := by
  induction inputs generalizing engine with
  | nil => exact ⟨engine, .refl, hosting, by simp, by simp⟩
  | cons input inputs ih =>
    rw [forall_mem_cons] at obeys unassigned unseen
    rw [map_cons, nodup_cons] at distinct
    have others : ∀ other ∈ inputs, input.taskId ≠ other.taskId := fun other member same =>
      distinct.1 (mem_map.mpr ⟨other, member, same.symm⟩)
    obtain ⟨later, run, hosts, assignments, observations⟩ := ih (hosting.withTask input) obeys.2 distinct.2
      (fun other member => (lookup_put _ _ _).trans ((if_neg (others other member)).trans (unassigned.2 other member)))
      (fun other member => (lookup_put _ _ _).trans ((if_neg (others other member)).trans (unseen.2 other member)))
    have assigned : (withTask codec engine case candidate input).assignments.rows =
        engine.assignments.rows ++ [assignmentOf codec case candidate input.taskId] :=
      putRow_of_absent _ (lookup_eq_none.mp unassigned.1)
    have reviewed : (withTask codec engine case candidate input).observations.rows =
        engine.observations.rows ++ [input] := putRow_of_absent _ (lookup_eq_none.mp unseen.1)
    refine ⟨later, (leads_withTask hosting obeys.1 unassigned.1 unseen.1).trans run, hosts, ?_, ?_⟩
    · rw [assignments, assigned, map_cons, append_assoc, singleton_append]
    · rw [observations, reviewed, append_assoc, singleton_append]

end

theorem armSamples_crowd {inputs : List ObservationInput} (assignments : engine.assignments.rows =
      inputs.map fun input => assignmentOf codec case candidate input.taskId)
    (reviewed : ∀ input ∈ inputs, input ∈ engine.observations.rows) (arm : Bool) :
    engine.armSamples case.caseId arm =
      inputs.filter fun input => (assignmentOf codec case candidate input.taskId).candidate = arm := by
  have own : ∀ input : ObservationInput, (assignmentOf codec case candidate input.taskId).caseId = case.caseId :=
    fun _ => rfl
  have looked : ∀ input ∈ inputs, engine.observations.lookup (assignmentOf codec case candidate input.taskId).taskId =
      some input := fun input member => (engine.observations.lookup_eq_some _ _).mpr ⟨reviewed input member, rfl⟩
  rw [ImprovementEngine.armSamples, assignments, filter_map, filterMap_map]
  simp only [Function.comp_def, own, decide_true, Bool.true_and]
  rw [filterMap_congr fun input member => looked input (mem_of_mem_filter member)]
  exact filterMap_some

end Crowd

namespace Script

/-- Names for the tasks of one arm. -/
abbrev Name : Type := Fin 31 → Bool

def taskName (won : Bool) (name : Name) : List Char :=
  (if won then 'c' else 'd') :: ofFn fun index => if name index then '1' else '0'

theorem taskName_injective {won : Bool} : Function.Injective (taskName won) := by
  intro name other same
  funext index
  have digits := congrFun (ofFn_injective (cons.inj same).2) index
  cases first : name index <;> cases second : other index <;> simp_all

theorem mem_taskName {won : Bool} {name : Name} {char : Char} (member : char ∈ taskName won name) :
    char.isAlphanum = true ∧ char.utf8Size = 1 := by
  rw [taskName, mem_cons, mem_ofFn] at member
  obtain rfl | ⟨index, rfl⟩ := member
  · cases won <;> decide
  · cases name index <;> decide

theorem validToken_taskName (won : Bool) (name : Name) : validToken (String.ofList (taskName won name)) = true := by
  have size : ∀ chars : List Char, (∀ char ∈ chars, char.utf8Size = 1) →
      (String.ofList chars).utf8ByteSize = chars.length := by
    intro chars narrow
    induction chars with
    | nil => rfl
    | cons char chars ih =>
      rw [forall_mem_cons] at narrow
      rw [String.ofList_cons, String.utf8ByteSize_append, String.utf8ByteSize_singleton, ih narrow.2, narrow.1,
        length_cons, add_comm]
  have whole : (String.ofList (taskName won name)).utf8ByteSize ≤ maxTokenLength := by
    rw [size _ fun char member => (mem_taskName member).2]
    simp [taskName, maxTokenLength]
  simp only [validToken, Bool.and_eq_true, decide_eq_true_eq, all_eq_true, String.toList_ofList, Bool.or_eq_true]
  refine ⟨⟨fun empty => ?_, whole⟩, fun char inside => .inl (mem_taskName inside).1⟩
  have chars := congrArg String.toList empty
  simp [taskName] at chars

/-- A codec that sorts tasks into the arms of a canary by the first letter of their names. -/
def sorting : Codec :=
  { plain with
    toText := fun record =>
      match record.str? "task_id" with
      | some name => if name.toList.head? = some 'c' then "0" else "30"
      | none => plain.toText record }

/-- The case that the first failures open, once it runs its candidate. -/
def hosted : CaseRecord where
  caseId := first
  component := "component"
  cohort := cohort 1 Daemon.Script.digest
  signature := ((failure "f3" 3 1).failureSignature.bind (FailureSignature.normalizedKey sorting)).getD ""
  createdAtUs := 3
  state := .canary
  candidateId := some ((proposal first "low" true).candidateId sorting)
  parentConfigVersion := 1
  canaryStartedAtUs := some 4
  rollbackCount := 0

def running : CandidateRecord where
  candidateId := (proposal first "low" true).candidateId sorting
  caseId := first
  component := "component"
  knob := .quality
  value := "low"
  parentConfigVersion := 1
  rollbackConfigVersion := 1
  candidateConfigVersion := 2
  candidateConfigDigest := Daemon.Script.digest
  fixtureGatePassed := true
  fixtureHardFailure := false

/-- A task that runs the candidate and succeeds, or one that runs the old configuration and fails. Both take as long as
a review can report. -/
def slow (won : Bool) (name : Name) : ObservationInput :=
  { failure (String.ofList (taskName won name)) 5 (if won then 2 else 1) with
    success := won
    failureSignature := if won then none else (failure "" 5 1).failureSignature
    latencyUs := some (2 ^ 63 - 1) }

theorem hosting_first : ∃ engine, Leads sorting (fun _ _ => True) (.new policy) engine ∧
    Hosting engine hosted running 5 ∧ engine.assignments.rows = [] ∧
    engine.observations.rows = [failure "f1" 1 1, failure "f2" 2 1, failure "f3" 3 1] := by
  obtain ⟨engine, run, enabled, found, chosen, fresh, assignments, observations⟩ :
      ∃ engine, Leads sorting (fun _ _ => True) (.new policy) engine ∧ engine.policy.enabled = true ∧
        engine.cases.lookup first = some hosted ∧
        (hosted.candidateId.bind fun candidateId => engine.candidates.lookup candidateId) = some running ∧
        engine.cases.rows.any (CaseRecord.expires 5) = false ∧ engine.assignments.rows = [] ∧
        engine.observations.rows = [failure "f1" 1 1, failure "f2" 2 1, failure "f3" 3 1] :=
    exists_of_play (firstCase ++ [.proposeCandidate (proposal first "low" true) 4]) (by decide +kernel)
  exact ⟨engine, run, ⟨enabled, found, rfl, chosen, fresh⟩, assignments, observations⟩

theorem assignmentOf_slow (won : Bool) (name : Name) : assignmentOf sorting hosted running (slow won name).taskId =
      ⟨(slow won name).taskId, first, won, if won then 2 else 1, Daemon.Script.digest⟩ := by
  have text : sorting.toText (.object [("case_id", .string first), ("task_id", .string (slow won name).taskId)]) =
      if won then "0" else "30" := by
    cases won <;> simp [sorting, Json.str?, Json.get?, Json.asStr?, slow, failure, taskName]
  have bucket : decide (stableCanaryBucket sorting hosted.caseId (slow won name).taskId < canaryPercent) = won := by
    unfold stableCanaryBucket
    rw [show hosted.caseId = first from rfl, text]
    cases won <;> decide +kernel
  simp only [assignmentOf, bucket]
  cases won <;> rfl

theorem obeys_slow (won : Bool) (name : Name) : Obeys sorting hosted running 5 (slow won name) := by
  have valid : (slow won fun _ => false).validate sorting = true := by cases won <;> decide +kernel
  have assigned := assignmentOf_slow won name
  refine ⟨validate_renamed _ (validToken_taskName won name) valid, rfl, rfl, rfl, ?_, ?_, rfl⟩
  · rw [assigned]
    rfl
  · rw [assigned]
    rfl

def crowd (names : List Name) : List ObservationInput := names.map (slow true) ++ names.map (slow false)

theorem mem_crowd {names : List Name} {input : ObservationInput} (member : input ∈ crowd names) :
    ∃ won name, slow won name = input := by
  simp only [crowd, mem_append, mem_map] at member
  obtain ⟨name, _, same⟩ | ⟨name, _, same⟩ := member
  · exact ⟨true, name, same⟩
  · exact ⟨false, name, same⟩

theorem distinct_crowd {names : List Name} (different : names.Nodup) :
    ((crowd names).map ObservationInput.taskId).Nodup := by
  have injective : ∀ won, Function.Injective fun name => (slow won name).taskId := fun won name other same =>
    taskName_injective (String.ofList_injective same)
  rw [crowd, map_append, map_map, map_map]
  refine List.Nodup.append (different.map (injective true)) (different.map (injective false)) ?_
  intro taskId won lost
  obtain ⟨name, _, rfl⟩ := mem_map.mp won
  obtain ⟨other, _, same⟩ := mem_map.mp lost
  exact absurd (cons.inj (String.ofList_injective same)).1 (by decide)

theorem filter_crowd (names : List Name) (arm : Bool) :
    ((crowd names).filter fun input => (assignmentOf sorting hosted running input.taskId).candidate = arm) =
      names.map (slow arm) := by
  rw [crowd, filter_append, filter_map, filter_map]
  simp only [Function.comp_def, assignmentOf_slow]
  cases arm <;> simp

end Script

section Overflow

theorem within128_product_none {first second : Nat} (large : 2 ^ 128 ≤ factor * first * second) :
    (within128 (factor * first)).bind (fun product => within128 (product * second)) = none := by
  unfold within128
  split_ifs with small
  · exact if_neg (not_lt.mpr large)
  · rfl

/-- The comparison of the latencies overflows for arms that pass the comparison of their successes. -/
theorem compareArmsWithin_overflows {arm other : ArmMetrics} (safe : arm.safetyViolations = 0)
    (measured : arm.missingMetrics = false) (otherMeasured : other.missingMetrics = false) (positive : 0 < arm.samples)
    (otherPositive : 0 < other.samples) (few : 10 * arm.samples * other.samples < 2 ^ 128)
    (succeeds : arm.successes = arm.samples) (fails : other.successes = 0)
    (large : 2 ^ 128 ≤ 10 * arm.latencySum * other.samples) : compareArmsWithin arm other = none := by
  have gained := within128_product otherPositive few
  have kept : (within128 (10 * 0)).bind (fun product => within128 (product * arm.samples)) = some (10 * 0 * arm.samples) :=
    within128_product positive (by omega)
  have slower : regressesWithin arm.latencySum arm.samples other.latencySum other.samples = none := by
    simp only [regressesWithin, bind, pure]
    rw [← Option.bind_assoc, within128_product_none large]
    rfl
  have fewer : arm.samples * other.samples ≤ 10 * arm.samples * other.samples := by
    rw [mul_assoc]
    omega
  have nonempty : ¬(arm.samples = 0 ∨ other.samples = 0) := by omega
  unfold compareArmsWithin
  rw [if_neg (not_not.mpr safe), measured, otherMeasured, Bool.or_false, if_neg Bool.false_ne_true, if_neg nonempty,
    succeeds, fails]
  simp only [bind, pure]
  rw [← Option.bind_assoc, gained, Option.bind_some, ← Option.bind_assoc, kept, Option.bind_some,
    within128_of_lt (by omega), Option.bind_some, within128_of_lt (by omega), Option.bind_some, slower,
    if_neg (by omega)]
  rfl

theorem arm_slow (won : Bool) {names : List Script.Name} (few : names.length < 2 ^ 32) :
    ∃ arm, (names.map (slow won)).foldlM ArmMetrics.sampleWithin .empty = some arm ∧ arm.samples = names.length ∧
      arm.successes = (if won then names.length else 0) ∧ arm.latencySum = names.length * (2 ^ 63 - 1) ∧
      arm.missingMetrics = false ∧ arm.safetyViolations = 0 := by
  have sums := sums_foldl (names.map (slow won))
  have all : ∀ {property : ObservationInput → Prop}, (∀ name, property (slow won name)) →
      ∀ input ∈ names.map (slow won), property input := fun each => forall_mem_map.mpr fun name _ => each name
  have constant : ∀ {measure : ObservationInput → Nat} {value : Nat}, (∀ name, measure (slow won name) = value) →
      total measure (names.map (slow won)) = names.length * value := by
    intro measure value same
    simp [total, Function.comp_def, same]
  have representable : ∀ input ∈ names.map (slow won), Representable input :=
    all fun _ => ⟨by simp [latency, Script.slow], by simp [tokens, Script.slow, Script.failure], Nat.two_pow_pos 32⟩
  refine ⟨_, foldlM_sampleWithin (by rwa [length_map]) representable, ?_, ?_, ?_, ?_, ?_⟩
  · rw [sums.samples, length_map]
  · rw [sums.successes, successes, countP_map]
    cases won with
    | true => exact countP_eq_length.mpr fun _ _ => rfl
    | false => exact countP_eq_zero.mpr fun _ _ => Bool.false_ne_true
  · rw [sums.latency, constant fun _ => rfl]
    rfl
  · exact sums.missing.mpr (all fun _ => ⟨rfl, rfl⟩)
  · rw [sums.safety, constant fun _ => rfl, Nat.mul_zero]

theorem canaryVerdictWithin_overflows {case : CaseRecord} {names : List Script.Name}
    (arms : ∀ arm, engine.armSamples case.caseId arm = names.map (slow arm))
    (chosen : case.candidateId.isSome = true)
    (aged : ∃ started, case.canaryStartedAtUs = some started ∧ minCanaryAgeUs ≤ subTime now started)
    (many : names.length = 2 ^ 31 - 2) : engine.canaryVerdictWithin case now = none := by
  have few : names.length < 2 ^ 32 := by omega
  obtain ⟨arm, added, samples, succeeds, slow, measured, safe⟩ := arm_slow true few
  obtain ⟨other, otherAdded, otherSamples, fails, _, otherMeasured, _⟩ := arm_slow false few
  rw [← arms] at added otherAdded
  have candidates : engine.armMetricsWithin case.caseId true = some arm := added
  have controls : engine.armMetricsWithin case.caseId false = some other := otherAdded
  rw [many] at samples otherSamples slow
  have overflow : compareArmsWithin arm other = none := by
    refine compareArmsWithin_overflows safe measured otherMeasured (by omega) (by omega) ?_
      (succeeds.trans (many.trans samples.symm)) fails ?_
    · rw [samples, otherSamples]
      norm_num
    · rw [slow, otherSamples]
      norm_num
  obtain ⟨started, start, old⟩ := aged
  have enough : ¬(arm.samples < minCanarySamplesPerArm ∨ other.samples < minCanarySamplesPerArm) := by
    unfold minCanarySamplesPerArm
    omega
  have named : ¬case.candidateId.isNone = true := by simp [Option.isSome_iff_ne_none.mp chosen]
  unfold canaryVerdictWithin
  rw [if_neg named, candidates, controls]
  simp only [bind, pure, Option.bind_some]
  rw [if_neg (not_not.mpr safe), if_neg enough, measured, otherMeasured, Bool.or_false, if_neg Bool.false_ne_true, start,
    Option.all_some, if_neg (by simpa using old), overflow]
  rfl

end Overflow

/-- With fewer than 2³² reviews, an evaluation can overflow: two arms of 2³¹ - 2 tasks whose latencies are the largest
that a review can report. -/
theorem evaluation_overflows : ∃ engine,
    Leads sorting (fun _ _ => True) (.new policy) engine ∧ engine.observations.rows.length < 2 ^ 32 ∧
    (∀ input ∈ engine.observations.rows, input.safetyViolations < 2 ^ 32) ∧
    engine.cases.lookup first = some hosted ∧ hosted.state = .canary ∧
    engine.canaryVerdictWithin hosted (4 + minCanaryAgeUs) = none := by
  obtain ⟨names, different, many⟩ : ∃ names : List Script.Name, names.Nodup ∧ names.length = 2 ^ 31 - 2 := by
    refine ⟨Finset.univ.toList.take (2 ^ 31 - 2), (take_sublist _ _).nodup (Finset.nodup_toList _), ?_⟩
    rw [length_take, Finset.length_toList, Finset.card_univ, Fintype.card_fun, Fintype.card_bool, Fintype.card_fin]
    omega
  obtain ⟨start, run, hosting, unassigned, seen⟩ := hosting_first
  have unseen : ∀ input ∈ Script.crowd names, start.observations.lookup input.taskId = none := by
    intro input member
    obtain ⟨won, name, rfl⟩ := mem_crowd member
    rw [Table.lookup_eq_none, seen]
    intro row listed same
    have letter := congrArg (fun taskId => taskId.toList.head?) same
    simp only [mem_cons, not_mem_nil, or_false] at listed
    obtain rfl | rfl | rfl := listed <;> cases won <;> simp [Script.slow, Script.failure, Script.taskName] at letter
  obtain ⟨engine, more, hosts, assignments, observations⟩ := leads_crowd hosting
    (fun input member => by
      obtain ⟨won, name, rfl⟩ := mem_crowd member
      exact obeys_slow won name)
    (distinct_crowd different) (fun _ _ => by simp [Table.lookup, unassigned]) unseen
  rw [unassigned, nil_append] at assignments
  have sampled := armSamples_crowd assignments fun input member => by
    rw [observations]
    exact mem_append_right _ member
  refine ⟨engine, run.trans more, ?_, ?_, hosts.found, rfl, ?_⟩
  · rw [observations, seen]
    simp only [crowd, length_append, length_map, many, length_cons, length_nil]
    omega
  · rw [observations, seen, forall_mem_append]
    refine ⟨by decide, fun input member => ?_⟩
    obtain ⟨won, name, rfl⟩ := mem_crowd member
    exact Nat.two_pow_pos 32
  · exact canaryVerdictWithin_overflows (fun arm => (sampled arm).trans (filter_crowd names arm)) rfl
      ⟨4, rfl, by decide⟩ many

end AgentMesh.Improvement
