import AgentMesh.Improvement.Engine

/-! A component that has been rolled back twice is frozen. Its cases then stay as they are, up to further rollbacks,
provided that no case of it was still active when it froze. -/
namespace AgentMesh.Improvement
open Library Daemon Table ImprovementEngine Script Option

variable {codec : Codec} {engine before after : ImprovementEngine} {component : String}

def Frozen (engine : ImprovementEngine) (component : String) : Prop :=
  ∃ caseId case, engine.cases.lookup caseId = some case ∧ case.component = component ∧ case.state = .frozen

/-- The operation keeps frozen components out of reach: a new case does not take the identifier of another component's
case, and the rollback of a promoted case that freezes its component finds no active case of it. -/
def Orderly (codec : Codec) (engine : ImprovementEngine) : Operation → Prop
  | .openEligibleCase input _ => ∀ signature ∈ input.failureSignature.bind (FailureSignature.normalizedKey codec),
      ∀ case ∈ engine.cases.lookup (deterministicCaseId codec input.component input.cohort signature input.taskId),
        case.component = input.component
  | .requestRollback caseId _ now => ∀ case ∈ (engine.expire now).cases.lookup caseId,
      case.state = .promoted → 1 ≤ rollbackCount engine case.component →
        ∀ other ∈ (engine.expire now).cases.rows, other.component = case.component → isActive other = false
  | _ => True

instance (engine : ImprovementEngine) (operation : Operation) : Decidable (Orderly codec engine operation) := by
  unfold Orderly
  split <;> infer_instance

/-- A component has at most one active case. -/
def Single (engine : ImprovementEngine) : Prop :=
  ∀ firstId first secondId second, engine.cases.lookup firstId = some first →
    engine.cases.lookup secondId = some second → first.component = second.component → isActive first = true →
    isActive second = true → firstId = secondId

/-- What holds of the cases and the counts in an orderly run. -/
structure Disciplined (engine : ImprovementEngine) : Prop where
  single : Single engine
  counted : ∀ component, 2 ≤ rollbackCount engine component ↔ Frozen engine component
  quiet : ∀ component, Frozen engine component → ∀ caseId case, engine.cases.lookup caseId = some case →
    case.component = component → isActive case = false
  uncounted : ∀ caseId case, engine.cases.lookup caseId = some case →
    engine.rollbackCounts.lookup case.component = none → case.rollbackCount = 0

theorem disciplined_new (policy : ImprovementPolicy) : Disciplined (.new policy) where
  single := by simp [Single, new, lookup]
  counted component := by simp [new, lookup, rollbackCount, Frozen]
  quiet := by simp [new, lookup]
  uncounted := by simp [new, lookup]

section Retouch

/-- A case that was changed without a rollback. -/
structure Retouched (before after : CaseRecord) : Prop where
  component : after.component = before.component
  createdAtUs : after.createdAtUs = before.createdAtUs
  rollbackCount : after.rollbackCount = before.rollbackCount
  active : isActive after = true → isActive before = true
  frozen : after.state = .frozen ↔ before.state = .frozen

theorem Retouched.refl (case : CaseRecord) : Retouched case case := ⟨rfl, rfl, rfl, id, .rfl⟩

/-- No case is added or rolled back. -/
structure Retouches (before after : ImprovementEngine) : Prop where
  counts : after.rollbackCounts = before.rollbackCounts
  cases : ∀ caseId, Option.Rel Retouched (before.cases.lookup caseId) (after.cases.lookup caseId)

theorem Retouches.back (same : Retouches before after) {caseId : String} {case : CaseRecord}
    (found : after.cases.lookup caseId = some case) :
    ∃ earlier, before.cases.lookup caseId = some earlier ∧ Retouched earlier case := by
  have related := same.cases caseId
  rw [found] at related
  generalize earlier : before.cases.lookup caseId = row at related
  cases related with
  | some retouched => exact ⟨_, rfl, retouched⟩

theorem Retouches.forth (same : Retouches before after) {caseId : String} {case : CaseRecord}
    (found : before.cases.lookup caseId = some case) :
    ∃ later, after.cases.lookup caseId = some later ∧ Retouched case later := by
  have related := same.cases caseId
  rw [found] at related
  generalize later : after.cases.lookup caseId = row at related
  cases related with
  | some retouched => exact ⟨_, rfl, retouched⟩

theorem retouches_of_cases (counts : after.rollbackCounts = before.rollbackCounts)
    (cases : after.cases = before.cases) : Retouches before after where
  counts := counts
  cases caseId := by
    rw [cases]
    cases before.cases.lookup caseId with
    | none => exact .none
    | some case => exact .some (.refl case)

theorem retouches_of_map (change : CaseRecord → CaseRecord) (counts : after.rollbackCounts = before.rollbackCounts)
    (cases : ∀ caseId, after.cases.lookup caseId = (before.cases.lookup caseId).map change)
    (gentle : ∀ caseId case, before.cases.lookup caseId = some case → Retouched case (change case)) :
    Retouches before after where
  counts := counts
  cases caseId := by
    rw [cases]
    cases found : before.cases.lookup caseId with
    | none => exact .none
    | some case => exact .some (gentle caseId case found)

theorem Retouches.refl (engine : ImprovementEngine) : Retouches engine engine := retouches_of_cases rfl rfl

theorem retouches_expire (now : Int) : Retouches engine (engine.expire now) := by
  refine retouches_of_map _ rfl (expire_lookup now) fun caseId case _ => ?_
  by_cases overdue : case.expires now
  · have active : isActive case = true := by
      simp only [CaseRecord.expires, Bool.and_eq_true] at overdue
      simpa [isActive] using overdue.1
    rw [if_pos overdue]
    refine ⟨rfl, rfl, rfl, fun _ => active, iff_of_false (by simp) ?_⟩
    intro frozen
    simp [isActive, frozen] at active
  · rw [if_neg overdue]
    exact .refl case

theorem retouches_settled (operation : Operation) : Retouches engine (operation.settled engine) := by
  cases operation with
  | setEnabled | proposeCandidate | assignCanary => exact .refl engine
  | observe | openEligibleCase | evaluate | requestRollback => exact retouches_expire _

theorem retouches_promote {case : CaseRecord} {now : Int} (found : engine.cases.lookup case.caseId = some case)
    (canary : case.state = .canary) : Retouches engine (engine.promoteCase case now).2 := by
  refine retouches_of_map _ rfl (promoteCase_lookup case now) fun caseId row stored => ?_
  by_cases own : row.caseId = case.caseId
  · obtain rfl : row.caseId = caseId := (of_lookup stored).2
    obtain rfl : case = row := some.inj (found.symm.trans (own ▸ stored))
    rw [if_pos own]
    exact ⟨rfl, rfl, rfl, by simp [isActive], by simp [canary]⟩
  · rw [if_neg own]
    exact .refl row

theorem retouches_candidate {proposal : CandidateProposal} {case : CaseRecord} {validation : Bool × Bool} {now : Int}
    (found : engine.cases.lookup proposal.caseId = some case) (observing : case.state = .observing) :
    Retouches engine (withCandidate codec engine proposal case validation now) where
  counts := rfl
  cases caseId := by
    have named : case.caseId = proposal.caseId := (of_lookup found).2
    have kept : (gated (proposal.candidateId codec) case validation.1 now).caseId = proposal.caseId := by
      unfold gated
      split <;> exact named
    simp only [withCandidate, lookup_put, kept]
    by_cases own : proposal.caseId = caseId
    · rw [if_pos own, ← own, found]
      refine .some ?_
      unfold gated
      split <;> exact ⟨rfl, rfl, rfl, by simp [isActive, observing], by simp [observing]⟩
    · rw [if_neg own]
      cases engine.cases.lookup caseId with
      | none => exact .none
      | some row => exact .some (.refl row)

theorem Retouches.frozen_iff (same : Retouches before after) (component : String) :
    Frozen after component ↔ Frozen before component := by
  constructor
  · rintro ⟨caseId, case, found, own, frozen⟩
    obtain ⟨earlier, stored, retouched⟩ := same.back found
    exact ⟨caseId, earlier, stored, retouched.component.symm.trans own, retouched.frozen.mp frozen⟩
  · rintro ⟨caseId, case, found, own, frozen⟩
    obtain ⟨later, stored, retouched⟩ := same.forth found
    exact ⟨caseId, later, stored, retouched.component.trans own, retouched.frozen.mpr frozen⟩

theorem Single.retouched (single : Single before) (same : Retouches before after) : Single after := by
  intro firstId first secondId second foundFirst foundSecond component activeFirst activeSecond
  obtain ⟨first', storedFirst, retouchedFirst⟩ := same.back foundFirst
  obtain ⟨second', storedSecond, retouchedSecond⟩ := same.back foundSecond
  have component' : first'.component = second'.component := by
    rw [← retouchedFirst.component, ← retouchedSecond.component, component]
  exact single firstId first' secondId second' storedFirst storedSecond component'
    (retouchedFirst.active activeFirst) (retouchedSecond.active activeSecond)

theorem Disciplined.retouched (good : Disciplined before) (same : Retouches before after) : Disciplined after where
  single := good.single.retouched same
  counted component := by
    rw [same.frozen_iff, ← good.counted, rollbackCount, same.counts]
    rfl
  quiet component frozen caseId case found own := by
    obtain ⟨earlier, stored, retouched⟩ := same.back found
    have inactive := good.quiet component ((same.frozen_iff component).mp frozen) caseId earlier stored
      (retouched.component.symm.trans own)
    exact Bool.eq_false_iff.mpr fun active => Bool.eq_false_iff.mp inactive (retouched.active active)
  uncounted caseId case found none := by
    obtain ⟨earlier, stored, retouched⟩ := same.back found
    rw [same.counts, retouched.component] at none
    rw [retouched.rollbackCount, good.uncounted caseId earlier stored none]

end Retouch

section Opening

variable {input : ObservationInput} {caseId signature : String} {now : Int}

theorem withCase_lookup (wanted : String) : (withCase engine input caseId signature now).cases.lookup wanted =
    if caseId = wanted then
      some { caseId, component := input.component, cohort := input.cohort, signature, createdAtUs := now,
             state := .observing, candidateId := none, parentConfigVersion := input.cohort.configVersion,
             canaryStartedAtUs := none, rollbackCount := rollbackCount engine input.component }
    else engine.cases.lookup wanted :=
  lookup_put _ _ _

theorem withCase_cases {wanted : String} {case : CaseRecord}
    (found : (withCase engine input caseId signature now).cases.lookup wanted = some case) :
    (wanted = caseId ∧ case.component = input.component ∧ case.state = .observing ∧
      case.rollbackCount = rollbackCount engine input.component) ∨
    (wanted ≠ caseId ∧ engine.cases.lookup wanted = some case) := by
  rw [withCase_lookup] at found
  split at found
  · rename_i own
    obtain rfl := some.inj found
    exact .inl ⟨own.symm, rfl, rfl, rfl⟩
  · rename_i other
    exact .inr ⟨fun own => other own.symm, found⟩

theorem Single.opened (single : Single engine)
    (calm : ∀ case ∈ engine.cases.rows, case.component = input.component → isActive case = false) :
    Single (withCase engine input caseId signature now) := by
  have idle : ∀ wanted case, engine.cases.lookup wanted = some case → case.component = input.component →
      isActive case = false :=
    fun wanted case found => calm case (of_lookup found).1
  intro firstId first secondId second foundFirst foundSecond component activeFirst activeSecond
  rcases withCase_cases foundFirst with ⟨rfl, own, _⟩ | ⟨_, first'⟩ <;>
    rcases withCase_cases foundSecond with ⟨rfl, own', _⟩ | ⟨_, second'⟩
  · rfl
  · simp [idle secondId second second' (component.symm.trans own)] at activeSecond
  · simp [idle firstId first first' (component.trans own')] at activeFirst
  · exact single firstId first secondId second first' second' component activeFirst activeSecond

theorem Disciplined.opened (good : Disciplined engine)
    (calm : ∀ case ∈ engine.cases.rows, case.component = input.component → isActive case = false ∧ case.state ≠ .frozen)
    (own : ∀ case, engine.cases.lookup caseId = some case → case.component = input.component) :
    Disciplined (withCase engine input caseId signature now) := by
  have idle : ∀ wanted case, engine.cases.lookup wanted = some case → case.component = input.component →
      isActive case = false ∧ case.state ≠ .frozen :=
    fun wanted case found => calm case (of_lookup found).1
  have frozen_iff : ∀ component, Frozen (withCase engine input caseId signature now) component ↔
      Frozen engine component := by
    intro component
    constructor
    · rintro ⟨wanted, case, found, same, frozen⟩
      rcases withCase_cases found with ⟨_, _, observing, _⟩ | ⟨_, stored⟩
      · simp [observing] at frozen
      · exact ⟨wanted, case, stored, same, frozen⟩
    · rintro ⟨wanted, case, stored, same, frozen⟩
      have other : caseId ≠ wanted := by
        rintro rfl
        exact (idle caseId case stored (own case stored)).2 frozen
      exact ⟨wanted, case, by rw [withCase_lookup, if_neg other, stored], same, frozen⟩
  constructor
  case single => exact good.single.opened fun case member own => (calm case member own).1
  case counted =>
    intro component
    rw [frozen_iff]
    exact good.counted component
  case quiet =>
    intro component frozen wanted case found same
    rw [frozen_iff] at frozen
    rcases withCase_cases found with ⟨_, component', _⟩ | ⟨_, stored⟩
    · obtain ⟨iceId, ice, storedIce, sameIce, iced⟩ := frozen
      exact absurd iced (idle iceId ice storedIce (by rw [sameIce, ← same, component'])).2
    · exact good.quiet component frozen wanted case stored same
  case uncounted =>
    intro wanted case found none
    rcases withCase_cases found with ⟨_, component', _, count⟩ | ⟨_, stored⟩
    · rw [component'] at none
      have none' : engine.rollbackCounts.lookup input.component = .none := none
      simp [count, rollbackCount, none']
    · exact good.uncounted wanted case stored none

end Opening

section Rollback

variable {case : CaseRecord} {now : Int}

theorem rollbackCase_cases {wanted : String} {row : CaseRecord} (found : engine.cases.lookup case.caseId = some case)
    (stored : (engine.rollbackCase case now).2.cases.lookup wanted = some row) :
    (wanted = case.caseId ∧ row = { case with
      rollbackCount := nextCount engine case
      state := if 2 ≤ nextCount engine case then .frozen else .rolledBack }) ∨
    (wanted ≠ case.caseId ∧ engine.cases.lookup wanted = some row) := by
  rw [rollbackCase_lookup] at stored
  obtain ⟨old, earlier, same⟩ := map_eq_some_iff.mp stored
  have named : old.caseId = wanted := (of_lookup earlier).2
  split at same
  · rename_i own
    obtain rfl : wanted = case.caseId := named.symm.trans own
    obtain rfl : case = old := mem_unique found earlier
    exact .inl ⟨rfl, same.symm⟩
  · rename_i other
    exact .inr ⟨named ▸ other, by rw [earlier, same]⟩

theorem nextCount_eq (good : Disciplined engine) (found : engine.cases.lookup case.caseId = some case) :
    nextCount engine case = rollbackCount engine case.component + 1 := by
  unfold nextCount rollbackCount
  cases counts : engine.rollbackCounts.lookup case.component with
  | none => simp [good.uncounted case.caseId case found counts]
  | some entry => rfl

theorem Single.rolledBack (single : Single engine) (found : engine.cases.lookup case.caseId = some case) :
    Single (engine.rollbackCase case now).2 := by
  intro firstId first secondId second foundFirst foundSecond component activeFirst activeSecond
  have inactive : isActive { case with
      rollbackCount := nextCount engine case
      state := if 2 ≤ nextCount engine case then .frozen else .rolledBack } = false := by
    unfold isActive
    split <;> simp
  rcases rollbackCase_cases found foundFirst with ⟨_, rfl⟩ | ⟨_, first'⟩
  · simp [inactive] at activeFirst
  · rcases rollbackCase_cases found foundSecond with ⟨_, rfl⟩ | ⟨_, second'⟩
    · simp [inactive] at activeSecond
    · exact single firstId first secondId second first' second' component activeFirst activeSecond

theorem Disciplined.rolledBack (good : Disciplined engine) (found : engine.cases.lookup case.caseId = some case)
    (thawed : case.state ≠ .frozen)
    (alone : 1 ≤ rollbackCount engine case.component → ∀ otherId other, engine.cases.lookup otherId = some other →
      other.component = case.component → otherId ≠ case.caseId → isActive other = false) :
    Disciplined (engine.rollbackCase case now).2 := by
  have next := nextCount_eq good found
  have kept : ∀ wanted row, engine.cases.lookup wanted = some row → wanted ≠ case.caseId →
      (engine.rollbackCase case now).2.cases.lookup wanted = some row := by
    intro wanted row stored other
    have named : row.caseId = wanted := (of_lookup stored).2
    rw [rollbackCase_lookup, stored, map_some, if_neg (named ▸ other)]
  have rolled : (engine.rollbackCase case now).2.cases.lookup case.caseId = some { case with
      rollbackCount := nextCount engine case
      state := if 2 ≤ nextCount engine case then .frozen else .rolledBack } := by
    rw [rollbackCase_lookup, found, map_some, if_pos rfl]
  have frozen_iff : ∀ component, Frozen (engine.rollbackCase case now).2 component ↔
      Frozen engine component ∨ (component = case.component ∧ 2 ≤ nextCount engine case) := by
    intro component
    constructor
    · rintro ⟨wanted, row, stored, own, frozen⟩
      rcases rollbackCase_cases found stored with ⟨_, rfl⟩ | ⟨_, earlier⟩
      · right
        refine ⟨own.symm, ?_⟩
        by_contra few
        simp [few] at frozen
      · exact .inl ⟨wanted, row, earlier, own, frozen⟩
    · rintro (⟨wanted, row, stored, own, frozen⟩ | ⟨rfl, many⟩)
      · have other : wanted ≠ case.caseId := by
          rintro rfl
          obtain rfl : case = row := mem_unique found stored
          exact thawed frozen
        exact ⟨wanted, row, kept wanted row stored other, own, frozen⟩
      · exact ⟨case.caseId, _, rolled, rfl, by simp [many]⟩
  constructor
  case single => exact good.single.rolledBack found
  case counted =>
    intro component
    rw [frozen_iff, rollbackCase_count, ← good.counted]
    split
    · rename_i own
      subst own
      rw [next]
      simp only [true_and]
      omega
    · rename_i other
      have differs : component ≠ case.component := Ne.symm other
      simp [differs]
  case quiet =>
    intro component frozen wanted row stored own
    rcases rollbackCase_cases found stored with ⟨_, rfl⟩ | ⟨other, earlier⟩
    · unfold isActive
      split <;> simp
    · rcases (frozen_iff component).mp frozen with icy | ⟨rfl, many⟩
      · exact good.quiet component icy wanted row earlier own
      · exact alone (by omega) wanted row earlier own other
  case uncounted =>
    intro wanted row stored none
    have other : case.component ≠ row.component := by
      intro same
      simp [rollbackCase, lookup_put, same] at none
    rcases rollbackCase_cases found stored with ⟨_, rfl⟩ | ⟨_, earlier⟩
    · exact absurd rfl other
    · refine good.uncounted wanted row earlier ?_
      simpa [rollbackCase, lookup_put, other] using none

end Rollback

section Runs

variable {operation : Operation}

/-- The only active case of its component can be rolled back in any orderly engine. -/
theorem alone_of_canary {case : CaseRecord} (good : Disciplined engine)
    (found : engine.cases.lookup case.caseId = some case) (canary : case.state = .canary) :
    1 ≤ rollbackCount engine case.component → ∀ otherId other, engine.cases.lookup otherId = some other →
      other.component = case.component → otherId ≠ case.caseId → isActive other = false := by
  intro _ otherId other stored same differs
  by_contra active
  rw [Bool.not_eq_false] at active
  exact differs (good.single otherId other case.caseId case stored found same active (by simp [isActive, canary]))

theorem Disciplined.changed (good : Disciplined engine) (orderly : Orderly codec engine operation)
    (change : Change codec (operation.settled engine) operation after) : Disciplined after := by
  have ready : Disciplined (operation.settled engine) := good.retouched (retouches_settled operation)
  cases change with
  | toggle | record | assigns => exact ready.retouched (retouches_of_cases rfl rfl)
  | opens input now signature calm _ signed =>
    refine ready.opened calm fun case found => ?_
    obtain ⟨earlier, stored, retouched⟩ := (retouches_expire now).back found
    exact retouched.component.trans (orderly signature signed earlier stored)
  | proposes proposal now case validation found observing =>
    exact ready.retouched (retouches_candidate found observing)
  | promotes now case _ found canary => exact ready.retouched (retouches_promote found canary)
  | evaluatesBack now case found canary =>
    exact ready.rolledBack found (by simp [canary]) (alone_of_canary ready found canary)
  | rollsBack now case found state =>
    rcases state with canary | promoted
    · exact ready.rolledBack found (by simp [canary]) (alone_of_canary ready found canary)
    · refine ready.rolledBack found (by simp [promoted]) fun many otherId other stored same _ => ?_
      exact orderly case found promoted many other (of_lookup stored).1 same

theorem Disciplined.step (good : Disciplined engine) (orderly : Orderly codec engine operation) :
    Disciplined (operation.apply codec engine) := by
  rcases apply_cases operation with same | settled | change
  · rw [same]
    exact good
  · rw [settled]
    exact good.retouched (retouches_settled operation)
  · exact good.changed orderly change

theorem Disciplined.leads (good : Disciplined before) (run : Leads codec (Orderly codec) before after) :
    Disciplined after := by
  induction run with
  | refl => exact good
  | tail _ last ih =>
    obtain ⟨operation, orderly, rfl⟩ := last
    exact ih.step orderly

/-- What cannot happen to a component any more: it has no new case, no new task in a canary and no new promotion. -/
structure Held (component : String) (before after : ImprovementEngine) : Prop where
  frozen : Frozen after component
  cases : ∀ caseId case, after.cases.lookup caseId = some case → case.component = component →
    ∃ earlier, before.cases.lookup caseId = some earlier ∧ earlier.component = component ∧
      earlier.createdAtUs = case.createdAtUs ∧ (case.state = .promoted → earlier.state = .promoted)
  assignments : ∀ assignment ∈ after.assignments.rows, (∃ case, after.cases.lookup assignment.caseId = some case ∧
    case.component = component) → assignment ∈ before.assignments.rows

theorem Held.refl (frozen : Frozen engine component) : Held component engine engine where
  frozen := frozen
  cases _ case found own := ⟨case, found, own, rfl, id⟩
  assignments _ member _ := member

theorem Held.trans {middle : ImprovementEngine} (first : Held component before middle)
    (second : Held component middle after) : Held component before after where
  frozen := second.frozen
  cases caseId case found own := by
    obtain ⟨middle, stored, own', created, promoted⟩ := second.cases caseId case found own
    obtain ⟨earlier, stored', own'', created', promoted'⟩ := first.cases caseId middle stored own'
    exact ⟨earlier, stored', own'', created'.trans created, fun state => promoted' (promoted state)⟩
  assignments assignment member owned := by
    obtain ⟨case, found, own⟩ := owned
    obtain ⟨middle, stored, own', _⟩ := second.cases assignment.caseId case found own
    exact first.assignments assignment (second.assignments assignment member ⟨case, found, own⟩) ⟨middle, stored, own'⟩

theorem held_of_retouches (frozen : Frozen before component) (same : Retouches before after)
    (promotes : ∀ caseId case earlier, after.cases.lookup caseId = some case → before.cases.lookup caseId = some earlier
      → case.component = component → case.state = .promoted → earlier.state = .promoted)
    (assignments : after.assignments = before.assignments) : Held component before after where
  frozen := (same.frozen_iff component).mpr frozen
  cases caseId case found own := by
    obtain ⟨earlier, stored, retouched⟩ := same.back found
    exact ⟨earlier, stored, retouched.component.symm.trans own, retouched.createdAtUs.symm,
      promotes caseId case earlier found stored own⟩
  assignments assignment member _ := assignments ▸ member

theorem held_settled (frozen : Frozen engine component) (operation : Operation) :
    Held component engine (operation.settled engine) := by
  have expired : ∀ now, Held component engine (engine.expire now) := by
    intro now
    refine held_of_retouches frozen (retouches_expire now) (fun caseId case earlier found stored _ promoted => ?_) rfl
    have same := lookup_of_expire case now caseId found (by simp [promoted])
    exact mem_unique stored same ▸ promoted
  cases operation with
  | setEnabled | proposeCandidate | assignCanary => exact .refl frozen
  | observe | openEligibleCase | evaluate | requestRollback => exact expired _

theorem held_rolledBack {case : CaseRecord} {now : Int} (found : engine.cases.lookup case.caseId = some case)
    (frozen : Frozen (engine.rollbackCase case now).2 component) :
    Held component engine (engine.rollbackCase case now).2 where
  frozen := frozen
  cases caseId row stored own := by
    rcases rollbackCase_cases found stored with ⟨rfl, rfl⟩ | ⟨_, earlier⟩
    · refine ⟨case, found, own, rfl, fun promoted => ?_⟩
      dsimp only at promoted
      split at promoted <;> cases promoted
    · exact ⟨row, earlier, own, rfl, id⟩
  assignments _ member _ := member

section

variable (good : Disciplined engine) (frozen : Frozen engine component) (orderly : Orderly codec engine operation)

include good frozen orderly

theorem held_changed (change : Change codec (operation.settled engine) operation after) :
    Held component (operation.settled engine) after := by
  have ready : Disciplined (operation.settled engine) := good.retouched (retouches_settled operation)
  have icy : Frozen (operation.settled engine) component := (held_settled frozen operation).frozen
  have still : Disciplined after := good.changed orderly change
  have counted : Frozen after component := by
    rw [← still.counted]
    refine ((ready.counted component).mpr icy).trans ?_
    cases change with
    | toggle | record | assigns | opens | proposes | promotes => exact le_rfl
    | evaluatesBack now case found | rollsBack now case found =>
      rw [rollbackCase_count]
      split
      · rename_i own
        rw [nextCount_eq ready found, own]
        omega
      · exact le_rfl
  have promoted_of : ∀ caseId case earlier, after.cases = (operation.settled engine).cases →
      after.cases.lookup caseId = some case → (operation.settled engine).cases.lookup caseId = some earlier →
      case.state = .promoted → earlier.state = .promoted := by
    intro caseId case earlier same found stored state
    rw [same, stored] at found
    exact some.inj found ▸ state
  cases change with
  | toggle | record =>
    exact held_of_retouches icy (retouches_of_cases rfl rfl)
      (fun caseId case earlier found stored _ => promoted_of caseId case earlier rfl found stored) rfl
  | opens input now signature calm =>
    have elsewhere : component ≠ input.component := by
      rintro rfl
      obtain ⟨iceId, ice, stored, own, iced⟩ := icy
      exact (calm ice (of_lookup stored).1 own).2 iced
    refine ⟨counted, fun caseId case found own => ?_, fun assignment member _ => member⟩
    rcases withCase_cases found with ⟨_, component', _⟩ | ⟨_, stored⟩
    · exact absurd (own.symm.trans component') elsewhere
    · exact ⟨case, stored, own, rfl, id⟩
  | proposes proposal now case validation found observing =>
    refine held_of_retouches icy (retouches_candidate found observing)
      (fun caseId row earlier after stored _ promoted => ?_) rfl
    have named : case.caseId = proposal.caseId := (of_lookup found).2
    simp only [withCandidate, lookup_put] at after
    split at after
    · obtain rfl := some.inj after
      unfold gated at promoted
      split at promoted <;> cases promoted
    · rw [stored] at after
      exact some.inj after ▸ promoted
  | assigns caseId admission case assignment own found canary =>
    refine ⟨counted, fun caseId case found own => ⟨case, found, own, rfl, id⟩, fun other member owned => ?_⟩
    by_cases same : other.taskId = assignment.taskId
    · have here : other = assignment := by
        have stored := ((lookup_eq_some _ _ _).mpr ⟨member, same⟩)
        simp only [lookup_put, if_true] at stored
        exact (some.inj stored).symm
      obtain ⟨row, stored, own'⟩ := owned
      rw [here, own] at stored
      obtain rfl : case = row := mem_unique found stored
      have inactive := ready.quiet component icy caseId case found own'
      simp [isActive, canary] at inactive
    · have stored := ((lookup_eq_some _ _ _).mpr ⟨member, rfl⟩)
      simp only [lookup_put, Ne.symm same, if_false] at stored
      exact (of_lookup stored).1
  | promotes now case _ found canary =>
    refine held_of_retouches icy (retouches_promote found canary)
      (fun caseId row earlier after stored own promoted => ?_) rfl
    have elsewhere : case.component ≠ component := by
      intro same
      have inactive := ready.quiet component icy case.caseId case found same
      simp [isActive, canary] at inactive
    have named : earlier.caseId = caseId := (of_lookup stored).2
    rw [promoteCase_lookup, stored, map_some] at after
    obtain rfl := some.inj after
    split at own
    · rename_i same
      obtain rfl : caseId = case.caseId := named.symm.trans same
      have here : case = earlier := mem_unique found stored
      exact absurd (here ▸ own) elsewhere
    · rename_i other
      rwa [if_neg other] at promoted
  | evaluatesBack now case found | rollsBack now case found => exact held_rolledBack found counted

theorem held_step : Held component engine (operation.apply codec engine) := by
  rcases apply_cases operation with same | settled | change
  · rw [same]
    exact .refl frozen
  · rw [settled]
    exact held_settled frozen operation
  · exact (held_settled frozen operation).trans (held_changed good frozen orderly change)

end

theorem held_leads (good : Disciplined before) (frozen : Frozen before component)
    (run : Leads codec (Orderly codec) before after) : Held component before after := by
  induction run with
  | refl => exact .refl frozen
  | tail run last ih =>
    obtain ⟨operation, orderly, rfl⟩ := last
    exact ih.trans (held_step (good.leads run) ih.frozen orderly)

/-- The active version of a frozen component changes only when a promoted case of it is rolled back. -/
theorem active_step (good : Disciplined engine) (frozen : Frozen engine component) :
    (operation.apply codec engine).activeConfigVersion component = engine.activeConfigVersion component ∨
      ∃ caseId case, engine.cases.lookup caseId = some case ∧ case.component = component ∧ case.state = .promoted ∧
        (operation.apply codec engine).activeConfigVersion component = some case.parentConfigVersion := by
  have ready : Disciplined (operation.settled engine) := good.retouched (retouches_settled operation)
  have icy : Frozen (operation.settled engine) component := (held_settled frozen operation).frozen
  have kept : (operation.settled engine).activeConfigVersion component = engine.activeConfigVersion component := by
    cases operation <;> rfl
  have elsewhere : ∀ case, (operation.settled engine).cases.lookup case.caseId = some case → case.state = .canary →
      case.component ≠ component := by
    intro case found canary same
    have inactive := ready.quiet component icy case.caseId case found same
    simp [isActive, canary] at inactive
  rcases apply_cases operation with same | settled | change
  · exact .inl (by rw [same])
  · exact .inl (by rw [settled, kept])
  · generalize reached : operation.apply codec engine = after at change ⊢
    cases change with
    | toggle | record | proposes | assigns => exact .inl kept
    | opens input now signature calm =>
      have other : input.component ≠ component := by
        rintro rfl
        obtain ⟨iceId, ice, stored, own, iced⟩ := icy
        exact (calm ice (of_lookup stored).1 own).2 iced
      left
      rw [← kept]
      simp only [activeConfigVersion, withCase, lookup_insert_or_ignore, other, if_false]
    | promotes now case _ found canary =>
      left
      rw [← kept]
      simp [activeConfigVersion, promoteCase, lookup_put,
        elsewhere case found canary]
    | evaluatesBack now case found canary =>
      left
      rw [← kept]
      simp [activeConfigVersion, rollbackCase, lookup_put,
        elsewhere case found canary]
    | rollsBack now case found state =>
      by_cases own : case.component = component
      · have promoted : case.state = .promoted := state.resolve_left fun canary => elsewhere case found canary own
        have stored := lookup_of_expire case now case.caseId found (by simp [promoted])
        right
        refine ⟨case.caseId, case, stored, own, promoted, ?_⟩
        simp [activeConfigVersion, rollbackCase, lookup_put, own]
      · left
        rw [← kept]
        simp [activeConfigVersion, rollbackCase, lookup_put, own]

/-- In an orderly run a component is frozen exactly when two rollbacks have been counted. From then on it gets no case,
no task in a canary and no promotion, and its active version changes only to the version from before the canary of a
promoted case. -/
theorem freeze_is_final (policy : ImprovementPolicy) (component : String)
    (run : Leads codec (Orderly codec) (.new policy) engine) :
    (2 ≤ rollbackCount engine component ↔ Frozen engine component) ∧
      ∀ later, Frozen engine component → Leads codec (Orderly codec) engine later →
        Held component engine later ∧ ∀ operation : Operation,
          (operation.apply codec later).activeConfigVersion component = later.activeConfigVersion component ∨
            ∃ caseId case, later.cases.lookup caseId = some case ∧ case.component = component ∧
              case.state = .promoted ∧
              (operation.apply codec later).activeConfigVersion component = some case.parentConfigVersion := by
  have good : Disciplined engine := (disciplined_new policy).leads run
  refine ⟨good.counted component, fun later frozen rest => ?_⟩
  have held := held_leads good frozen rest
  exact ⟨held, fun operation => active_step (good.leads rest) held.frozen⟩

/-- The component is frozen by the rollbacks of two canaries. -/
theorem freeze_after_two_canaries : ∃ engine, Leads plain (Orderly plain) (.new policy) engine ∧
    2 ≤ rollbackCount engine "component" ∧ Held "component" engine (Operation.apply plain engine
      (.observe (failure "hh" (23 * day) 1))) := by
  obtain ⟨engine, run, many⟩ : ∃ engine, Leads plain (Orderly plain) (.new policy) engine ∧
      2 ≤ rollbackCount engine "component" :=
    exists_of_play (firstCase ++ [.proposeCandidate (proposal first "low" true) 4,
      .requestRollback first 1 5] ++ opening (failure "gg" (8 * day) 1) ++
      [.proposeCandidate (proposal second "high" true) (8 * day),
        .requestRollback second 1 (9 * day)]) (by decide +kernel)
  obtain ⟨counted, held⟩ := freeze_is_final policy "component" run
  refine ⟨engine, run, many, (held _ (counted.mp many) (.single ⟨_, ?_, rfl⟩)).1⟩
  trivial

/-- The rollback of a promoted case freezes the component while a later case runs its canary, and the canary still
takes a task. -/
theorem canary_outlives_freeze : ∃ engine later, Leads plain (fun _ _ => True) (.new policy) engine ∧
    Frozen engine "component" ∧ Leads plain (fun _ _ => True) engine later ∧ ¬Held "component" engine later := by
  obtain ⟨engine, run, outlived, _⟩ := exists_rollout
  simp only [outlives, Bool.and_eq_true, Option.any_eq_true, Option.isNone_iff_eq_none,
    decide_eq_true_eq] at outlived
  obtain ⟨⟨⟨case, found, own, frozen⟩, free⟩, assignment, joined, owner, owned, same⟩ := outlived
  refine ⟨_, _, run.tail ⟨rollbackSecond, trivial, rfl⟩, ⟨_, case, found, own, frozen⟩,
    .single ⟨lateTask, trivial, rfl⟩, fun held => ?_⟩
  obtain ⟨member, named⟩ := of_lookup joined
  have earlier := held.assignments assignment member ⟨owner, owned, same⟩
  exact lookup_eq_none.mp free assignment earlier named

end Runs

end AgentMesh.Improvement
