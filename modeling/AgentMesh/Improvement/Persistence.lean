import AgentMesh.Improvement.Freeze

/-! The engine and the tables that storage keeps of it. A step of the engine can be written exactly when it adds no
candidate under a used version or digest and reopens no case under other immutable columns, and the tables then agree
with the engine again. -/
namespace AgentMesh.Improvement
open Library Daemon Table ImprovementEngine Script CaseRecord Store CanaryAssignmentRow

variable {codec : Codec} {engine before after : ImprovementEngine} {case : CaseRecord} {cases : List CaseRecord}
  {operation : Operation} {stored : Table ImprovementCaseRow.caseId} {assignment : CanaryAssignment}
  {candidate : CandidateRecord} {written : ImprovementTables} {later : Store × Option ImprovementEngine}

section WellFormed

/-- What the checks and references of the tables ask of an engine. -/
structure WellFormed (engine : ImprovementEngine) : Prop where
  single : Single engine
  parents : ∀ case ∈ engine.cases.rows, 0 ≤ case.parentConfigVersion
  candidates : ∀ candidate ∈ engine.candidates.rows, (engine.cases.lookup candidate.caseId).isSome = true ∧
    0 ≤ candidate.parentConfigVersion ∧ 0 ≤ candidate.rollbackConfigVersion ∧ 1 ≤ candidate.candidateConfigVersion ∧
    candidate.candidateConfigDigest.length = 64
  assignments : ∀ assignment ∈ engine.assignments.rows, (engine.cases.lookup assignment.caseId).isSome = true ∧
    0 ≤ assignment.configVersion
  active : ∀ entry ∈ engine.activeConfigVersions.rows, 0 ≤ entry.2
  next : 1 ≤ engine.nextConfigVersion

theorem wellFormed_new (policy : ImprovementPolicy) : WellFormed (.new policy) where
  single := (disciplined_new policy).single
  parents := by simp [new]
  candidates := by simp [new]
  assignments := by simp [new]
  active := by simp [new]
  next := by simp [new]

/-- The cases are changed one by one, and everything else that is checked stays or stays valid. -/
theorem WellFormed.updated (good : WellFormed before) (selects : CaseRecord → Bool) (change : CaseRecord → CaseRecord)
    (keeps : ∀ case, (change case).caseId = case.caseId)
    (gentle : ∀ case, (change case).parentConfigVersion = case.parentConfigVersion)
    (cases : after.cases = before.cases.update selects change keeps) (candidates : after.candidates = before.candidates)
    (assignments : after.assignments = before.assignments)
    (active : ∀ entry ∈ after.activeConfigVersions.rows, 0 ≤ entry.2)
    (next : after.nextConfigVersion = before.nextConfigVersion) (single : Single after) : WellFormed after := by
  have stays : ∀ caseId, (before.cases.lookup caseId).isSome = true → (after.cases.lookup caseId).isSome = true := by
    intro caseId found
    rw [cases, lookup_update, Option.isSome_map]
    exact found
  constructor
  case single => exact single
  case parents =>
    intro case member
    rw [cases, update_rows, mem_updateWhere] at member
    obtain ⟨old, stored, rfl⟩ := member
    by_cases picked : selects old = true
    · simp only [picked, if_true, gentle old]
      exact good.parents old stored
    · simp only [picked, Bool.false_eq_true, if_false]
      exact good.parents old stored
  case candidates =>
    intro candidate member
    rw [candidates] at member
    exact (good.candidates candidate member).imp_left (stays _)
  case assignments =>
    intro assignment member
    rw [assignments] at member
    exact (good.assignments assignment member).imp_left (stays _)
  case active => exact active
  case next => exact next ▸ good.next

theorem WellFormed.expired (good : WellFormed engine) (now : Int) : WellFormed (engine.expire now) :=
  good.updated (expires now) (fun case => { case with state := .rolledBack }) (fun _ => rfl)
    (fun _ => rfl) rfl rfl rfl good.active rfl (good.single.retouched (retouches_expire now))

theorem WellFormed.settled (good : WellFormed engine) (operation : Operation) : WellFormed (operation.settled engine) := by
  cases operation with
  | setEnabled | proposeCandidate | assignCanary => exact good
  | observe | openEligibleCase | evaluate | requestRollback => exact good.expired _

theorem active_put (good : WellFormed engine) (component : String) {version : Int} (valid : 0 ≤ version) :
    ∀ entry ∈ (engine.activeConfigVersions.put (component, version)).rows, 0 ≤ entry.2 := by
  intro entry member
  rcases mem_put _ _ member with rfl | stored
  · exact valid
  · exact good.active entry stored

theorem isSome_lookup_put {caseId : String} (row : CaseRecord) (found : (engine.cases.lookup caseId).isSome = true) :
    ((engine.cases.put row).lookup caseId).isSome = true := by
  rw [lookup_put]
  split
  · rfl
  · exact found

theorem WellFormed.opened (good : WellFormed engine) {input : ObservationInput} {caseId signature : String} {now : Int}
    (calm : ∀ case ∈ engine.cases.rows, case.component = input.component → isActive case = false ∧ case.state ≠ .frozen)
    (valid : 0 ≤ input.cohort.configVersion) : WellFormed (withCase engine input caseId signature now) := by
  constructor
  case single => exact good.single.opened fun case member own => (calm case member own).1
  case parents =>
    intro case member
    rcases mem_put _ _ member with rfl | stored
    · exact valid
    · exact good.parents case stored
  case candidates => exact fun candidate member => (good.candidates candidate member).imp_left (isSome_lookup_put _)
  case assignments => exact fun assignment member => (good.assignments assignment member).imp_left (isSome_lookup_put _)
  case active =>
    intro entry member
    simp only [withCase] at member
    cases inserted : engine.activeConfigVersions.insert? (input.component, input.cohort.configVersion) with
    | none =>
      rw [inserted, Option.getD_none] at member
      exact good.active entry member
    | some grown =>
      rw [inserted, Option.getD_some, (insert_eq_some.mp inserted).2, List.mem_append, List.mem_singleton] at member
      rcases member with stored | rfl
      · exact good.active entry stored
      · exact valid
  case next => exact good.next

theorem gated_keeps (candidateId : String) (case : CaseRecord) (passed : Bool) (now : Int) :
    (gated candidateId case passed now).caseId = case.caseId ∧
      (gated candidateId case passed now).component = case.component ∧
      (gated candidateId case passed now).createdAtUs = case.createdAtUs ∧
      (gated candidateId case passed now).parentConfigVersion = case.parentConfigVersion := by
  unfold gated
  split <;> exact ⟨rfl, rfl, rfl, rfl⟩

variable (hex : ∀ bytes, (codec.sha256Hex bytes).length = 64)

include hex

theorem WellFormed.proposed (good : WellFormed engine)
    {proposal : CandidateProposal} {validation : Bool × Bool} {now : Int}
    (found : engine.cases.lookup proposal.caseId = some case) (observing : case.state = .observing) :
    WellFormed (withCandidate codec engine proposal case validation now) := by
  obtain ⟨member, named⟩ := of_lookup found
  have sameParent := (gated_keeps (proposal.candidateId codec) case validation.1 now).2.2.2
  have upward : 1 ≤ nextVersion engine := by
    have start := good.next
    unfold nextVersion
    omega
  constructor
  case single => exact good.single.retouched (retouches_candidate found observing)
  case parents =>
    intro row stored
    rcases mem_put _ _ stored with rfl | stored
    · rw [sameParent]
      exact good.parents case member
    · exact good.parents row stored
  case candidates =>
    intro candidate stored
    rcases mem_put _ _ stored with rfl | stored
    · exact ⟨isSome_lookup_put _ (by simp [newCandidate, found]), good.parents case member, good.parents case member,
        upward, hex _⟩
    · exact (good.candidates candidate stored).imp_left (isSome_lookup_put _)
  case assignments => exact fun assignment stored => (good.assignments assignment stored).imp_left (isSome_lookup_put _)
  case active => exact good.active
  case next => exact upward

theorem WellFormed.changed (good : WellFormed engine)
    (change : Change codec engine operation after) : WellFormed after := by
  cases change with
  | toggle => exact ⟨good.single, good.parents, good.candidates, good.assignments, good.active, good.next⟩
  | record input =>
    exact ⟨good.single, good.parents, good.candidates, good.assignments, good.active,
      le_trans good.next (le_max_left _ _)⟩
  | opens input now signature calm valid => exact good.opened calm valid
  | proposes proposal now case validation found observing => exact good.proposed hex found observing
  | assigns caseId admission case assignment own found canary fresh versioned =>
    refine ⟨good.single, good.parents, good.candidates, fun other member => ?_, good.active, good.next⟩
    rcases mem_put _ _ member with rfl | stored
    · obtain ⟨candidate, inside, version⟩ := versioned
      obtain ⟨_, _, rollback, positive, _⟩ := good.candidates candidate inside
      exact ⟨by simp [own, found], by omega⟩
    · exact good.assignments other stored
  | promotes now case _ found canary =>
    have version : 0 ≤ (engine.candidateConfigVersion case.caseId).getD case.parentConfigVersion := by
      cases known : engine.candidateConfigVersion case.caseId with
      | none => exact good.parents case (of_lookup found).1
      | some version =>
        simp only [candidateConfigVersion, Option.bind_eq_bind, Option.bind_eq_some_iff,
          Option.pure_def, Option.some.injEq] at known
        obtain ⟨_, _, _, _, candidate, stored, rfl⟩ := known
        have checks := good.candidates candidate (of_lookup stored).1
        exact le_trans (by decide) checks.2.2.2.1
    exact good.updated (fun row => row.caseId = case.caseId) (fun row => { row with state := .promoted }) (fun _ => rfl)
      (fun _ => rfl) rfl rfl rfl (active_put good _ version) rfl (good.single.retouched (retouches_promote found canary))
  | evaluatesBack now case found | rollsBack now case found =>
    refine good.updated (fun row => row.caseId = case.caseId) (fun row => { row with
      rollbackCount := nextCount engine case
      state := if 2 ≤ nextCount engine case then .frozen else .rolledBack }) (fun _ => rfl) (fun row => rfl) ?_ rfl rfl
      (active_put good _ (good.parents case (of_lookup found).1)) rfl (good.single.rolledBack found)
    simp [rollbackCase, nextCount]

theorem WellFormed.step (good : WellFormed engine)
    (operation : Operation) : WellFormed (operation.apply codec engine) := by
  rcases apply_cases operation with same | settled | change
  · rw [same]
    exact good
  · rw [settled]
    exact good.settled operation
  · exact (good.settled operation).changed hex change

end WellFormed

section Evolution

/-- How the tables of an engine grow in one step: cases and active versions keep their places, and at most one candidate
and one assignment are added. -/
structure Evolves (before after : ImprovementEngine) : Prop where
  cases : Continues (fun old new => new.caseId = old.caseId) before.cases.rows after.cases.rows
  candidates : after.candidates.rows = before.candidates.rows ∨ ∃ candidate,
    before.candidates.lookup candidate.candidateId = none ∧
    after.candidates.rows = before.candidates.rows ++ [candidate]
  assignments : after.assignments.rows = before.assignments.rows ∨ ∃ assignment,
    before.assignments.lookup assignment.taskId = none ∧
    after.assignments.rows = before.assignments.rows ++ [assignment]
  active : Continues (fun old new => old.1 = new.1) before.activeConfigVersions.rows after.activeConfigVersions.rows

theorem continues_update (table : Table CaseRecord.caseId) (selects : CaseRecord → Bool)
    (change : CaseRecord → CaseRecord) (keeps : ∀ case, (change case).caseId = case.caseId) :
    Continues (fun old new => new.caseId = old.caseId) table.rows (table.update selects change keeps).rows := by
  refine .map _ fun case _ => ?_
  split
  · exact keeps case
  · rfl

theorem continues_cases (engine : ImprovementEngine) :
    Continues (fun old new => new.caseId = old.caseId) engine.cases.rows engine.cases.rows := by
  refine .refl ?_ _
  intro case
  rfl

theorem continues_active (engine : ImprovementEngine) :
    Continues (fun old new => old.1 = new.1) engine.activeConfigVersions.rows engine.activeConfigVersions.rows := by
  refine .refl ?_ _
  intro entry
  rfl

theorem evolves_refl (engine : ImprovementEngine) : Evolves engine engine :=
  ⟨continues_cases engine, .inl rfl, .inl rfl, continues_active engine⟩

theorem evolves_settled (engine : ImprovementEngine) (operation : Operation) :
    Evolves engine (operation.settled engine) := by
  cases operation with
  | setEnabled | proposeCandidate | assignCanary => exact evolves_refl engine
  | observe | openEligibleCase | evaluate | requestRollback =>
    refine ⟨continues_update _ _ _ ?_, .inl rfl, .inl rfl, continues_active engine⟩
    intro case
    rfl

theorem continues_put_active (engine : ImprovementEngine) (entry : String × Int) :
    Continues (fun old new => old.1 = new.1) engine.activeConfigVersions.rows
      (engine.activeConfigVersions.put entry).rows :=
  continues_put _ _ (fun _ => rfl) fun _ found => (of_lookup found).2

theorem evolves_changed (change : Change codec engine operation after) : Evolves engine after := by
  cases change with
  | toggle | record => exact ⟨continues_cases engine, .inl rfl, .inl rfl, continues_active engine⟩
  | opens input now signature =>
    refine ⟨continues_put _ _ (fun _ => rfl) fun old found => ?_, .inl rfl, .inl rfl, ?_⟩
    · exact (of_lookup found).2.symm
    · simp only [withCase]
      cases inserted : engine.activeConfigVersions.insert? (input.component, input.cohort.configVersion) with
      | none => exact continues_active engine
      | some grown =>
        rw [Option.getD_some, (insert_eq_some.mp inserted).2]
        refine .append ?_ _ _
        intro entry
        rfl
  | proposes proposal now case validation found observing fresh =>
    refine ⟨continues_put _ _ (fun _ => rfl) fun old found => ?_,
      .inr ⟨newCandidate codec engine proposal case validation, fresh, ?_⟩, .inl rfl, continues_active engine⟩
    · exact (of_lookup found).2.symm
    · exact putRow_of_absent _ (lookup_eq_none.mp fresh)
  | assigns caseId admission case assignment own found canary fresh =>
    refine ⟨continues_cases engine, .inl rfl, .inr ⟨assignment, fresh, ?_⟩, continues_active engine⟩
    exact putRow_of_absent _ (lookup_eq_none.mp fresh)
  | promotes | evaluatesBack | rollsBack =>
    refine ⟨continues_update _ _ _ ?_, .inl rfl, .inl rfl, continues_put_active engine _⟩
    intro case
    rfl

/-- Closing overdue cases keeps the candidates, the assignments and the active versions. -/
theorem evolves_apply (operation : Operation) : Evolves engine (operation.apply codec engine) := by
  have settled := evolves_settled engine operation
  have candidates : (operation.settled engine).candidates = engine.candidates := by cases operation <;> rfl
  have assignments : (operation.settled engine).assignments = engine.assignments := by cases operation <;> rfl
  have active : (operation.settled engine).activeConfigVersions = engine.activeConfigVersions := by
    cases operation <;> rfl
  rcases apply_cases operation with same | same | change
  · rw [same]
    exact evolves_refl engine
  · rw [same]
    exact settled
  · obtain ⟨cases, grown, joined, activated⟩ := evolves_changed change
    rw [candidates] at grown
    rw [assignments] at joined
    rw [active] at activated
    exact ⟨settled.cases.trans (fun first second => second.trans first) cases, grown, joined, activated⟩

end Evolution

section Stages

/-- The columns of a case that storage never rewrites. -/
structure SameOrigin (old new : CaseRecord) : Prop where
  component : new.component = old.component
  createdAtUs : new.createdAtUs = old.createdAtUs
  parentConfigVersion : new.parentConfigVersion = old.parentConfigVersion

/-- A stored row that a case can be written over: of its component, and not active any more. -/
structure Rewritable (row : ImprovementCaseRow) (case : CaseRecord) : Prop where
  caseId : row.caseId = case.caseId
  component : row.component = case.component
  parent : 0 ≤ row.parentConfigVersion
  inactive : row.isActive = false

/-- A stored row that becomes the row of a case when the case is written. -/
structure Fits (row : ImprovementCaseRow) (case : CaseRecord) : Prop where
  caseId : row.caseId = case.caseId
  component : row.component = case.component
  createdAt : row.createdAt = case.createdAtUs
  parentConfigVersion : row.parentConfigVersion = case.parentConfigVersion
  inactive : row.isActive = false

theorem upsertedRow_of_fits {row : ImprovementCaseRow} (found : stored.lookup case.caseId = some row)
    (fits : Fits row case) : upsertedRow case stored = case.row := by
  simp only [upsertedRow, found, CaseRecord.row, fits.caseId, fits.component, fits.createdAt, fits.parentConfigVersion]

/-- What the row of a case written over a table has of the case. -/
structure Written (row : ImprovementCaseRow) (case : CaseRecord) : Prop where
  caseId : row.caseId = case.caseId
  component : row.component = case.component
  active : row.isActive = isActive case
  parent : 0 ≤ row.parentConfigVersion

theorem written_upsertedRow (parent : 0 ≤ case.parentConfigVersion)
    (rewritable : ∀ row, stored.lookup case.caseId = some row → Rewritable row case) :
    Written (upsertedRow case stored) case := by
  unfold upsertedRow
  split
  · exact ⟨rfl, rfl, rfl, parent⟩
  · rename_i old found
    obtain ⟨caseId, component, parent, _⟩ := rewritable old found
    exact ⟨caseId, component, rfl, parent⟩

/-- Writing the cases of an engine over their rows leaves exactly the rows of the upserts. -/
theorem foldlM_upsertCase_rewrites (stored : Table ImprovementCaseRow.caseId)
    (single : Single engine) (parents : ∀ case ∈ engine.cases.rows, 0 ≤ case.parentConfigVersion)
    (continues : Continues Rewritable stored.rows engine.cases.rows) :
    ∃ written, engine.cases.rows.foldlM upsertCase stored = .ok written ∧
      written.rows = engine.cases.rows.map fun case => upsertedRow case stored := by
  have distinct := engine.cases.keyed
  let row (case : CaseRecord) : ImprovementCaseRow := upsertedRow case stored
  have writes : ∀ case ∈ engine.cases.rows, Written (row case) case := by
    intro case member
    refine written_upsertedRow (parents case member) fun old found => ?_
    obtain ⟨inside, named⟩ := of_lookup found
    obtain ⟨new, listed, rewritable⟩ := continues.mem old inside
    have same : new = case :=
      List.inj_on_of_nodup_map distinct listed member (rewritable.caseId.symm.trans named)
    exact same ▸ rewritable
  -- What is written is the row of a case before `todo`; everything else is as it was stored.
  have general : ∀ (todo done : List CaseRecord) (current : Table ImprovementCaseRow.caseId),
      engine.cases.rows = done ++ todo →
      (∀ case ∈ todo, current.lookup case.caseId = stored.lookup case.caseId) →
      (∀ other ∈ current.rows, (∃ case ∈ done, row case = other) ∨ other ∈ stored.rows) →
      todo.foldlM upsertCase current = .ok ((todo.map row).foldl put current) := by
    intro todo
    induction todo with
    | nil => exact fun _ _ _ _ _ => rfl
    | cons case todo ih =>
      intro done current split lookups rows
      have member : case ∈ engine.cases.rows := by simp [split]
      have writesCase := writes case member
      have free : (row case).isActive = true → ∀ other ∈ current.rows, other.caseId ≠ (row case).caseId →
          other.component = (row case).component → other.isActive = false := by
        intro active other inside differs component
        rcases rows other inside with ⟨earlier, before, rfl⟩ | inside
        · have listed : earlier ∈ engine.cases.rows := by simp [split, before]
          have writesEarlier := writes earlier listed
          by_contra busy
          rw [writesEarlier.component, writesCase.component] at component
          refine differs ?_
          rw [writesEarlier.caseId, writesCase.caseId]
          refine single _ _ _ _ ((lookup_eq_some _ _ _).mpr ⟨listed, rfl⟩) ((lookup_eq_some _ _ _).mpr ⟨member, rfl⟩)
            component ?_ (writesCase.active.symm.trans active)
          rw [← writesEarlier.active]
          simpa using busy
        · obtain ⟨_, _, rewritable⟩ := continues.mem other inside
          exact rewritable.inactive
      have same : upsertedRow case current = row case := by
        simp only [row, upsertedRow, lookups case (List.mem_cons_self ..)]
      have first : upsertCase current case = .ok (current.put (row case)) := by
        simp only [upsertCase, same, ensure, if_pos (show _ ∧ _ from ⟨writesCase.parent, free⟩)]
        rfl
      rw [List.foldlM_cons, first]
      refine ih (done ++ [case]) _ (by simp [split]) (fun other later => ?_) fun other inside => ?_
      · have differs : case.caseId ≠ other.caseId := by
          rw [split, List.map_append, List.map_cons, List.nodup_append, List.nodup_cons] at distinct
          exact fun same => distinct.2.1.1 (same ▸ List.mem_map_of_mem later)
        rw [lookup_put, writesCase.caseId, if_neg differs]
        exact lookups other (List.mem_cons_of_mem _ later)
      · rcases mem_put _ _ inside with rfl | inside
        · exact .inl ⟨case, by simp, rfl⟩
        · refine (rows other inside).imp_left ?_
          rintro ⟨earlier, before, same⟩
          exact ⟨earlier, by simp [before], same⟩
  have keys : (engine.cases.rows.map row).map ImprovementCaseRow.caseId = engine.cases.rows.map CaseRecord.caseId := by
    rw [List.map_map]
    exact List.map_congr_left fun case member => (writes case member).caseId
  refine ⟨_, general engine.cases.rows [] stored rfl (fun _ _ => rfl) fun _ => .inr, foldl_put _ (keys ▸ distinct) ?_⟩
  exact continues.trans (fun rewritable same => rewritable.caseId.trans same)
    (.map row fun case member => (writes case member).caseId.symm)

/-- Writing the cases of an engine leaves exactly their rows. -/
theorem foldlM_upsertCase (stored : Table ImprovementCaseRow.caseId) (single : Single engine)
    (parents : ∀ case ∈ engine.cases.rows, 0 ≤ case.parentConfigVersion)
    (continues : Continues Fits stored.rows engine.cases.rows) :
    ∃ written, engine.cases.rows.foldlM upsertCase stored = .ok written ∧ written.rows = engine.cases.rows.map row := by
  obtain ⟨written, done, rows⟩ := foldlM_upsertCase_rewrites stored single parents
    (continues.imp fun old _ new member fits => ⟨fits.caseId, fits.component,
      fits.parentConfigVersion ▸ parents new member, fits.inactive⟩)
  refine ⟨written, done, rows.trans (List.map_congr_left fun case member => ?_)⟩
  cases found : stored.lookup case.caseId with
  | none => simp only [upsertedRow, found]
  | some old =>
    obtain ⟨inside, named⟩ := of_lookup found
    obtain ⟨new, listed, fits⟩ := continues.mem old inside
    obtain rfl : new = case := List.inj_on_of_nodup_map engine.cases.keyed listed member (fits.caseId.symm.trans named)
    exact upsertedRow_of_fits found fits

theorem foldlM_upsertCase_keeps {written : Table ImprovementCaseRow.caseId}
    (done : cases.foldlM upsertCase stored = .ok written) {caseId : String} {old : ImprovementCaseRow}
    (found : stored.lookup caseId = some old) :
    ∃ row, written.lookup caseId = some row ∧ row.component = old.component ∧ row.createdAt = old.createdAt ∧
      row.parentConfigVersion = old.parentConfigVersion := by
  induction cases generalizing stored old with
  | nil =>
    cases done
    exact ⟨old, found, rfl, rfl, rfl⟩
  | cons case cases ih =>
    rw [List.foldlM_cons, bind_eq_ok] at done
    obtain ⟨middle, first, rest⟩ := done
    simp only [upsertCase, eq_ok_iff] at first
    obtain ⟨_, _, rfl⟩ := first
    obtain ⟨row, kept, component, created, parent⟩ : ∃ row,
        (stored.put (upsertedRow case stored)).lookup caseId = some row ∧
        row.component = old.component ∧ row.createdAt = old.createdAt ∧
        row.parentConfigVersion = old.parentConfigVersion := by
      rw [lookup_put]
      by_cases own : case.caseId = caseId
      · have named : (upsertedRow case stored).caseId = caseId := by
          simp only [upsertedRow, own, found, (of_lookup found).2]
        rw [if_pos named]
        exact ⟨_, rfl, by simp only [upsertedRow, own, found, and_self]⟩
      · have named : (upsertedRow case stored).caseId ≠ caseId := by
          unfold upsertedRow
          split
          · exact own
          · rename_i other stored
            exact fun same => own ((of_lookup stored).2.symm.trans same)
        rw [if_neg named]
        exact ⟨old, found, rfl, rfl, rfl⟩
    obtain ⟨final, held, same⟩ := ih rest kept
    exact ⟨final, held, by rwa [← component, ← created, ← parent]⟩

theorem candidateFits_iff (candidates : Table CandidateRecord.candidateId) (candidate : CandidateRecord) :
    candidateFits candidates candidate = true ↔ 0 ≤ candidate.parentConfigVersion ∧
      0 ≤ candidate.rollbackConfigVersion ∧ 1 ≤ candidate.candidateConfigVersion ∧
      candidate.candidateConfigDigest.length = 64 ∧ ∀ other ∈ candidates.rows,
        other.candidateId ≠ candidate.candidateId ∧ other.candidateConfigVersion ≠ candidate.candidateConfigVersion ∧
          other.candidateConfigDigest ≠ candidate.candidateConfigDigest := by
  simp [candidateFits, and_assoc]

theorem configFits_iff (configs : Table ConfigVersionRow.version) (row : ConfigVersionRow) :
    configFits configs row = true ↔ 1 ≤ row.version ∧ 0 ≤ row.parentVersion ∧ 0 ≤ row.rollbackVersion ∧
      row.digest.length = 64 ∧ ∀ other ∈ configs.rows,
        other.version ≠ row.version ∧ other.digest ≠ row.digest ∧ other.candidateId ≠ row.candidateId := by
  simp [configFits, and_assoc]

theorem insertCandidate_stored {tables : ImprovementTables}
    (held : tables.candidates.lookup candidate.candidateId = some candidate)
    (config : tables.configVersions.lookup candidate.candidateConfigVersion = some candidate.configRow) :
    insertCandidate tables candidate = .ok tables := by
  have taken : candidateFits tables.candidates candidate = false := by
    rw [Bool.eq_false_iff]
    intro fits
    obtain ⟨_, _, _, _, others⟩ := (candidateFits_iff _ _).mp fits
    exact (others candidate (of_lookup held).1).1 rfl
  have known : configFits tables.configVersions candidate.configRow = false := by
    rw [Bool.eq_false_iff]
    intro fits
    obtain ⟨_, _, _, _, others⟩ := (configFits_iff _ _).mp fits
    exact (others candidate.configRow (of_lookup config).1).1 rfl
  have configured : tables.configVersions.lookup candidate.configRow.version = some candidate.configRow := config
  simp only [insertCandidate, taken, known, Bool.false_eq_true, if_false, ensure, held, configured, if_true]
  rfl

theorem foldlM_insertCandidate_stored {tables : ImprovementTables} {candidates : List CandidateRecord}
    (held : ∀ candidate ∈ candidates, tables.candidates.lookup candidate.candidateId = some candidate ∧
      tables.configVersions.lookup candidate.candidateConfigVersion = some candidate.configRow) :
    candidates.foldlM insertCandidate tables = .ok tables := by
  induction candidates with
  | nil => rfl
  | cons candidate candidates ih =>
    obtain ⟨own, config⟩ := held candidate (by simp)
    rw [List.foldlM_cons, insertCandidate_stored own config]
    exact ih fun other member => held other (by simp [member])

theorem foldlM_insertCandidate_cases {candidates : List CandidateRecord} {tables : ImprovementTables}
    (done : candidates.foldlM insertCandidate tables = .ok written) : written.cases = tables.cases := by
  induction candidates generalizing tables with
  | nil =>
    cases done
    rfl
  | cons candidate candidates ih =>
    rw [List.foldlM_cons, bind_eq_ok] at done
    obtain ⟨middle, first, rest⟩ := done
    have same : middle.cases = tables.cases := by
      simp only [insertCandidate, eq_ok_iff] at first
      obtain ⟨_, _, _, _, rfl⟩ := first
      rfl
    rw [ih rest, same]

/-- A new candidate is written exactly when it meets the checks and shares no unique column with a stored one. -/
theorem insertCandidate_new (tables : ImprovementTables) {stored : List CandidateRecord}
    (candidates : tables.candidates.rows = stored)
    (configs : tables.configVersions.rows = stored.map CandidateRecord.configRow)
    (fresh : tables.candidates.lookup candidate.candidateId = none) :
    insertCandidate tables candidate = .ok written ↔ candidateFits tables.candidates candidate = true ∧
      written = { tables with
        candidates := tables.candidates.put candidate
        configVersions := tables.configVersions.put candidate.configRow } := by
  have agree : configFits tables.configVersions candidate.configRow = candidateFits tables.candidates candidate := by
    rw [Bool.eq_iff_iff, configFits_iff, candidateFits_iff, candidates, configs]
    simp only [List.forall_mem_map, CandidateRecord.configRow]
    constructor
    · rintro ⟨version, parent, rollback, digest, others⟩
      exact ⟨parent, rollback, version, digest, fun other member => by have := others other member; tauto⟩
    · rintro ⟨parent, rollback, version, digest, others⟩
      exact ⟨version, parent, rollback, digest, fun other member => by have := others other member; tauto⟩
  simp only [insertCandidate, agree]
  cases fits : candidateFits tables.candidates candidate with
  | false => simp [fresh]
  | true =>
    simp only [if_true, eq_ok_iff, lookup_put, true_and, exists_const]
    exact eq_comm

theorem syncAssignments_append (front back : List CanaryAssignment) (stored : Table taskId) :
    syncAssignments (front ++ back) stored = syncAssignments front stored >>= syncAssignments back := by
  induction front generalizing stored with
  | nil => rfl
  | cons assignment front ih =>
    simp only [List.cons_append, syncAssignments, bind_assoc]
    congr 1
    funext _
    exact ih _

theorem syncAssignments_stored {stored : Table taskId} {assignments : List CanaryAssignment}
    (held : ∀ assignment ∈ assignments, stored.lookup assignment.taskId = some assignment.row) :
    syncAssignments assignments stored = .ok stored := by
  induction assignments with
  | nil => rfl
  | cons assignment assignments ih =>
    have own := held assignment (by simp)
    have ignored : insertAssignment assignment stored = stored := by
      unfold insertAssignment
      cases inserted : stored.insert? assignment.row with
      | none => simp
      | some grown =>
        have free : stored.lookup assignment.taskId = none := (insert_eq_some.mp inserted).1
        rw [own] at free
        cases free
    simp only [syncAssignments, ignored, ensure, own, if_true]
    exact ih fun other member => held other (by simp [member])

theorem syncAssignments_new {stored : Table taskId} (free : stored.lookup assignment.taskId = none)
    (valid : 0 ≤ assignment.configVersion) :
    ∃ written, syncAssignments [assignment] stored = .ok written ∧ written.rows = stored.rows ++ [assignment.row] := by
  obtain ⟨grown, inserted⟩ := stored.insert_of_free assignment.row free
  have found : grown.lookup assignment.taskId = some assignment.row := by
    rw [lookup_insert inserted]
    exact if_pos rfl
  refine ⟨grown, ?_, (insert_eq_some.mp inserted).2⟩
  simp only [syncAssignments, insertAssignment, if_pos valid, inserted, Option.getD_some, ensure, found, if_true]
  rfl

theorem foldlM_upsertActive {entries : List (String × Int)} (valid : ∀ entry ∈ entries, 0 ≤ entry.2)
    (stored : Table fun entry : String × Int => entry.1) :
    entries.foldlM upsertActive stored = .ok (entries.foldl put stored) := by
  induction entries generalizing stored with
  | nil => rfl
  | cons entry entries ih =>
    have first : upsertActive stored entry = .ok (stored.put entry) := by
      simp only [upsertActive, ensure, if_pos (valid entry (by simp))]
      rfl
    rw [List.foldlM_cons, first]
    exact ih (fun other member => valid other (by simp [member])) _

end Stages

section Agreement

variable {tables : ImprovementTables} {assignments : Table CanaryAssignmentRow.taskId}

/-- The tables hold exactly the rows of the engine, under a revision that the audit counts. -/
structure Agrees (tables : ImprovementTables) (assignments : Table CanaryAssignmentRow.taskId)
    (engine : ImprovementEngine) : Prop where
  cases : tables.cases.rows = engine.cases.rows.map CaseRecord.row
  candidates : tables.candidates.rows = engine.candidates.rows
  configs : tables.configVersions.rows = engine.candidates.rows.map CandidateRecord.configRow
  assignments : assignments.rows = engine.assignments.rows.map CanaryAssignment.row
  active : tables.activeConfigs.rows = engine.activeConfigVersions.rows
  counted : (tables.audit.length : Int) = tables.revision
  bounded : ∀ revision ∈ tables.audit, revision ≤ tables.revision

section

variable (agrees : Agrees tables assignments engine)

include agrees

theorem Agrees.case_lookup (caseId : String) : tables.cases.lookup caseId = (engine.cases.lookup caseId).map row := by
  cases found : engine.cases.lookup caseId with
  | none =>
    rw [lookup_eq_none] at found
    rw [Option.map_none, lookup_eq_none, agrees.cases]
    intro row member
    obtain ⟨case, inside, rfl⟩ := List.mem_map.mp member
    exact found case inside
  | some case =>
    obtain ⟨member, named⟩ := of_lookup found
    rw [Option.map_some, lookup_eq_some, agrees.cases]
    exact ⟨List.mem_map_of_mem member, named⟩

theorem Agrees.candidate_lookup (candidateId : String) :
    tables.candidates.lookup candidateId = engine.candidates.lookup candidateId := by
  simp only [lookup, agrees.candidates]

theorem Agrees.config_lookup (member : candidate ∈ engine.candidates.rows) :
    tables.configVersions.lookup candidate.candidateConfigVersion = some candidate.configRow := by
  rw [lookup_eq_some, agrees.configs]
  exact ⟨List.mem_map_of_mem member, rfl⟩

theorem Agrees.assignment_lookup (member : assignment ∈ engine.assignments.rows) :
    assignments.lookup assignment.taskId = some assignment.row := by
  rw [lookup_eq_some, agrees.assignments]
  exact ⟨List.mem_map_of_mem member, rfl⟩

theorem Agrees.verified (latest : tables.revision ∈ tables.audit) :
    verifyImprovementProjection tables assignments engine = .ok () := by
  have revision : tables.audit.max? = some tables.revision :=
    List.max?_eq_some_iff.mpr ⟨latest, agrees.bounded⟩
  have cases : ∀ case ∈ engine.cases.rows, tables.cases.lookup case.caseId = some case.row := by
    intro case member
    rw [agrees.case_lookup, (lookup_eq_some _ _ _).mpr ⟨member, rfl⟩]
    rfl
  have candidates : ∀ candidate ∈ engine.candidates.rows,
      tables.candidates.lookup candidate.candidateId = some candidate := by
    intro candidate member
    rw [agrees.candidate_lookup, (lookup_eq_some _ _ _).mpr ⟨member, rfl⟩]
  have active : ∀ entry ∈ engine.activeConfigVersions.rows, tables.activeConfigs.lookup entry.1 = some entry := by
    intro entry member
    rw [lookup_eq_some, agrees.active]
    exact ⟨member, rfl⟩
  simp only [verifyImprovementProjection, eq_ok_iff, agrees.cases, agrees.candidates, agrees.configs,
    agrees.assignments, agrees.active, List.length_map, true_and, exists_const]
  exact ⟨⟨revision, agrees.counted⟩, cases, candidates, fun _ member => agrees.config_lookup member,
    fun _ member => agrees.assignment_lookup member, active⟩

end

/-- The step reopens no case under other immutable columns, and adds no candidate under a used version or digest. -/
structure Writable (before after : ImprovementEngine) : Prop where
  cases : ∀ case ∈ after.cases.rows, ∀ old, before.cases.lookup case.caseId = some old → SameOrigin old case
  candidates : ∀ candidate ∈ after.candidates.rows, candidate ∉ before.candidates.rows →
    ∀ old ∈ before.candidates.rows, old.candidateConfigVersion ≠ candidate.candidateConfigVersion ∧
      old.candidateConfigDigest ≠ candidate.candidateConfigDigest

theorem clearActive_row (case : CaseRecord) : ∃ state, (if case.row.isActive then { case.row with state := .rolledBack }
    else case.row) = { case.row with state } ∧ ({ case.row with state } : ImprovementCaseRow).isActive = false := by
  by_cases active : case.row.isActive = true
  · exact ⟨.rolledBack, by rw [if_pos active], rfl⟩
  · exact ⟨case.row.state, by rw [if_neg active], by simpa using active⟩

section

variable (agrees : Agrees tables assignments engine)

include agrees

/-- The cases of a later engine against the stored rows, none of them active any more. -/
theorem Agrees.continues (evolves : Evolves engine after) {relation : ImprovementCaseRow → CaseRecord → Prop}
    (related : ∀ new ∈ after.cases.rows, ∀ old, engine.cases.lookup new.caseId = some old → ∀ state,
      new.caseId = old.caseId → ({ old.row with state } : ImprovementCaseRow).isActive = false →
        relation { old.row with state } new) :
    Continues relation (clearActive tables.cases).rows after.cases.rows := by
  have cleared : (clearActive tables.cases).rows = engine.cases.rows.map fun case =>
      if case.row.isActive then { case.row with state := .rolledBack } else case.row := by
    rw [clearActive, update_rows, agrees.cases, updateWhere, List.map_map]
    rfl
  rw [cleared]
  refine .map_left _ (evolves.cases.imp fun old member new inside same => ?_)
  obtain ⟨state, row, inactive⟩ := clearActive_row old
  rw [row]
  exact related new inside old (same ▸ (lookup_eq_some _ _ _).mpr ⟨member, rfl⟩) state same inactive

theorem Agrees.fits (evolves : Evolves engine after)
    (origins : ∀ case ∈ after.cases.rows, ∀ old, engine.cases.lookup case.caseId = some old → SameOrigin old case) :
    Continues Fits (clearActive tables.cases).rows after.cases.rows := by
  refine agrees.continues evolves fun new inside old found state same inactive => ?_
  have origin := origins new inside old found
  exact ⟨same.symm, origin.component.symm, origin.createdAtUs.symm, origin.parentConfigVersion.symm, inactive⟩

theorem Agrees.candidates_stored (cases : Table ImprovementCaseRow.caseId) :
    engine.candidates.rows.foldlM insertCandidate { tables with cases } = .ok { tables with cases } := by
  refine foldlM_insertCandidate_stored fun candidate member => ⟨?_, agrees.config_lookup member⟩
  exact (agrees.candidate_lookup _).trans ((lookup_eq_some _ _ _).mpr ⟨member, rfl⟩)

section

variable (good : WellFormed after) (evolves : Evolves engine after)

include good evolves

/-- The candidates of the new engine are written exactly when the new one among them uses no version or digest of
another. -/
theorem Agrees.candidates_written (cases : Table ImprovementCaseRow.caseId)
    (fresh : ∀ candidate ∈ after.candidates.rows, candidate ∉ engine.candidates.rows → ∀ old ∈ engine.candidates.rows,
      old.candidateConfigVersion ≠ candidate.candidateConfigVersion ∧ old.candidateConfigDigest ≠
      candidate.candidateConfigDigest) :
    ∃ candidates configVersions, after.candidates.rows.foldlM insertCandidate { tables with cases } =
        .ok { tables with cases, candidates, configVersions } ∧ candidates.rows = after.candidates.rows ∧
      configVersions.rows = after.candidates.rows.map CandidateRecord.configRow := by
  have stored := agrees.candidates_stored cases
  rcases evolves.candidates with same | ⟨candidate, absent, grown⟩
  · exact ⟨tables.candidates, tables.configVersions, by rw [same, stored], by rw [agrees.candidates, same],
      by rw [agrees.configs, same]⟩
  · have missing := lookup_eq_none.mp absent
    have isNew : candidate ∉ engine.candidates.rows := fun member => missing candidate member rfl
    obtain ⟨_, parent, rollback, version, digest⟩ := good.candidates candidate (by simp [grown])
    have fits : candidateFits tables.candidates candidate = true := by
      rw [candidateFits_iff, agrees.candidates]
      refine ⟨parent, rollback, version, digest, fun other member => ⟨missing other member, ?_⟩⟩
      exact fresh candidate (by simp [grown]) isNew other member
    have free : ∀ row ∈ tables.configVersions.rows, row.version ≠ candidate.configRow.version := by
      rw [agrees.configs, List.forall_mem_map]
      exact fun other member => (fresh candidate (by simp [grown]) isNew other member).1
    refine ⟨tables.candidates.put candidate, tables.configVersions.put candidate.configRow, ?_, ?_, ?_⟩
    · have absent' : tables.candidates.lookup candidate.candidateId = none :=
        (agrees.candidate_lookup _).trans absent
      rw [grown, List.foldlM_append, stored]
      change [candidate].foldlM insertCandidate _ = _
      rw [List.foldlM_cons,
        (insertCandidate_new { tables with cases } agrees.candidates agrees.configs absent').mpr ⟨fits, rfl⟩]
      rfl
    · rw [← agrees.candidates] at missing
      have rows : (tables.candidates.put candidate).rows = tables.candidates.rows ++ [candidate] :=
        putRow_of_absent _ missing
      rw [rows, agrees.candidates, grown]
    · have rows : (tables.configVersions.put candidate.configRow).rows =
          tables.configVersions.rows ++ [candidate.configRow] := putRow_of_absent _ free
      rw [rows, agrees.configs, grown, List.map_append]
      rfl

theorem Agrees.assignments_written : ∃ joined, syncAssignments after.assignments.rows assignments = .ok joined ∧
      joined.rows = after.assignments.rows.map CanaryAssignment.row := by
  have stored : syncAssignments engine.assignments.rows assignments = .ok assignments :=
    syncAssignments_stored fun _ member => agrees.assignment_lookup member
  rcases evolves.assignments with same | ⟨assignment, absent, grown⟩
  · exact ⟨assignments, by rw [same, stored], by rw [agrees.assignments, same]⟩
  · have free : assignments.lookup assignment.taskId = none := by
      rw [lookup_eq_none] at absent ⊢
      rw [agrees.assignments, List.forall_mem_map]
      exact absent
    obtain ⟨joined, added, rows⟩ := syncAssignments_new free (good.assignments assignment (by simp [grown])).2
    refine ⟨joined, ?_, by rw [rows, agrees.assignments, grown, List.map_append]; rfl⟩
    rw [grown, syncAssignments_append, stored]
    exact added

/-- An engine that evolved by a writable step can be written, and the tables then agree with it. -/
theorem Agrees.persisted (writable : Writable engine after) (room : tables.revision < 9223372036854775807) :
    ∃ written joined, persistProjection tables assignments after = .ok (written, joined) ∧
      Agrees written joined after ∧ 1 ≤ written.revision ∧ written.revision ∈ written.audit := by
  obtain ⟨cases, upserted, caseRows⟩ := foldlM_upsertCase (clearActive tables.cases) good.single good.parents
    (agrees.fits evolves writable.cases)
  obtain ⟨candidates, configs, inserted, candidateRows, configRows⟩ :=
    agrees.candidates_written good evolves cases writable.candidates
  obtain ⟨joined, synced, joinedRows⟩ := agrees.assignments_written good evolves
  have held : ∀ caseId, (after.cases.lookup caseId).isSome = true → (cases.lookup caseId).isSome = true := by
    intro caseId found
    obtain ⟨case, stored⟩ := Option.isSome_iff_exists.mp found
    obtain ⟨member, named⟩ := of_lookup stored
    have row : cases.lookup caseId = some case.row := by
      rw [lookup_eq_some, caseRows]
      exact ⟨List.mem_map_of_mem member, named⟩
    rw [row]
    rfl
  have referenced : (∀ candidate ∈ candidates.rows, (cases.lookup candidate.caseId).isSome = true) ∧
      ∀ assignment ∈ joined.rows, (cases.lookup assignment.caseId).isSome = true := by
    constructor
    · intro candidate member
      rw [candidateRows] at member
      exact held _ (good.candidates candidate member).1
    · rw [joinedRows, List.forall_mem_map]
      exact fun assignment member => held _ (good.assignments assignment member).1
  have active := foldlM_upsertActive good.active tables.activeConfigs
  have activeRows : (after.activeConfigVersions.rows.foldl put tables.activeConfigs).rows =
      after.activeConfigVersions.rows :=
    foldl_put _ after.activeConfigVersions.keyed (by rw [agrees.active]; exact evolves.active)
  have unused : tables.revision + 1 ∉ tables.audit := by
    intro member
    have bound := agrees.bounded _ member
    omega
  have counted := agrees.counted
  let written : ImprovementTables :=
    { cases, candidates, configVersions := configs
      activeConfigs := after.activeConfigVersions.rows.foldl put tables.activeConfigs
      revision := tables.revision + 1, audit := tables.audit ++ [tables.revision + 1] }
  have agreed : Agrees written joined after := by
    refine ⟨caseRows, candidateRows, configRows, joinedRows, activeRows, ?_, ?_⟩
    · simp only [written, List.length_append, List.length_singleton]
      omega
    · intro revision member
      rcases List.mem_append.mp member with older | latest
      · have bound := agrees.bounded revision older
        change revision ≤ tables.revision + 1
        omega
      · exact le_of_eq (by simpa [written] using latest)
  have latest : written.revision ∈ written.audit := by simp [written]
  have positive : 1 ≤ tables.revision + 1 := by omega
  refine ⟨written, joined, ?_, agreed, positive, latest⟩
  simp only [persistProjection, bind_eq_ok, ensure_eq_ok, pure_eq_ok]
  exact ⟨(), by omega, cases, upserted, _, inserted, joined, synced, (), referenced, _, active, (), unused, (),
    agreed.verified latest, rfl⟩

end

theorem Agrees.writable (evolves : Evolves engine after) {written : ImprovementTables × Table taskId}
    (done : persistProjection tables assignments after = .ok written) :
    tables.revision < 9223372036854775807 ∧ Writable engine after := by
  simp only [persistProjection, eq_ok_iff] at done
  obtain ⟨_, room, cases, upserted, grown, inserted, joined, _, _, _, activeConfigs, _, _, _, _, verified, rfl⟩ := done
  refine ⟨by omega, fun case member old found => ?_, fun candidate member isNew => ?_⟩
  · have stored : (clearActive tables.cases).lookup case.caseId = some (if old.row.isActive then
        { old.row with state := .rolledBack } else old.row) := by
      rw [clearActive, lookup_update, agrees.case_lookup, found]
      rfl
    obtain ⟨state, cleared, _⟩ := clearActive_row old
    rw [cleared] at stored
    obtain ⟨row, kept, component, created, parent⟩ := foldlM_upsertCase_keeps upserted stored
    have sameCases : grown.cases = cases := foldlM_insertCandidate_cases inserted
    simp only [verifyImprovementProjection, eq_ok_iff] at verified
    obtain ⟨_, _, _, ⟨_, cases'⟩, _⟩ := verified
    have final := cases' case member
    rw [sameCases, kept] at final
    obtain rfl := Option.some.inj final
    exact ⟨component, created, parent⟩
  · rcases evolves.candidates with same | ⟨other, absent, more⟩
    · exact absurd (same ▸ member) isNew
    · rw [more, List.foldlM_append, bind_eq_ok] at inserted
      obtain ⟨middle, stored, last⟩ := inserted
      rw [agrees.candidates_stored] at stored
      cases stored
      rw [List.foldlM_cons, bind_eq_ok] at last
      obtain ⟨_, own, _⟩ := last
      have absent' : tables.candidates.lookup other.candidateId = none := (agrees.candidate_lookup _).trans absent
      obtain ⟨fits, _⟩ := (insertCandidate_new { tables with cases } agrees.candidates agrees.configs absent').mp own
      have named : candidate = other := by
        rw [more, List.mem_append, List.mem_singleton] at member
        exact member.resolve_left isNew
      obtain ⟨_, _, _, _, others⟩ := (candidateFits_iff _ _).mp fits
      rw [agrees.candidates] at others
      exact named ▸ fun old inside => (others old inside).2

end

end Agreement

section Runs

variable {store after : Store} {reached : Option ImprovementEngine} {next : ImprovementEngine}

/-- An engine can be written after another one under a revision: the revision can still grow, no case is reopened under
other immutable columns, and no candidate is added under a used version or digest. -/
structure Persistable (revision : Int) (before after : ImprovementEngine) : Prop where
  room : revision < 9223372036854775807
  writable : Writable before after

/-- One step of the storage layer, beside the step of the pure engine on the same input. A repeated command is not a step
of the engine. -/
inductive Improves (codec : Codec) : Store × Option ImprovementEngine → Store × Option ImprovementEngine → Prop
  | begins (ambient : Ambient) (policy : ImprovementPolicy) (now : Int) (store after : Store) :
      store.ensureImprovementEngine ambient policy now = .ok after →
      Improves codec (store, none) (after, some (.new policy))
  | mutate (ambient : Ambient) (operation : Operation) (now : Int) (store after : Store) (engine : ImprovementEngine) :
      store.mutateImprovement ambient (operation.apply codec) now = .ok after →
      Improves codec (store, some engine) (after, some (operation.apply codec engine))
  | command (ambient : Ambient) (consumerId commandKey : String) (canonicalCommand : Bytes)
      (command : ImprovementCommand) (now : Int) (response : CommandResponse) (store after : Store)
      (engine next : ImprovementEngine) :
      store.commands.lookup (consumerId, command.method, commandKey) = none →
      store.improvementCommand codec ambient consumerId commandKey canonicalCommand command now =
        .ok (response, after) →
      command.apply codec now engine = .ok (response, next) → Improves codec (store, some engine) (after, some next)
  | elsewhere (store after : Store) (engine : Option ImprovementEngine) :
      after.improvementEngine = store.improvementEngine → after.improvementTables = store.improvementTables →
      after.canaryAssignments = store.canaryAssignments → Improves codec (store, engine) (after, engine)

/-- The store holds the pure engine in its snapshot and in its tables. -/
def Consistent (store : Store) : Option ImprovementEngine → Prop
  | none => store.improvementEngine = none ∧ store.improvementTables.revision = 0 ∧
      ∀ policy, Agrees store.improvementTables store.canaryAssignments (.new policy)
  | some engine => store.improvementEngine = some engine ∧ WellFormed engine ∧
      Agrees store.improvementTables store.canaryAssignments engine ∧ 1 ≤ store.improvementTables.revision ∧
      store.improvementTables.revision ∈ store.improvementTables.audit

theorem Consistent.loaded (consistent : Consistent store reached) : store.loadImprovementEngine = .ok reached := by
  cases reached with
  | none => simp only [loadImprovementEngine, consistent.1, pure_eq_ok]
  | some engine =>
    obtain ⟨held, _, agrees, positive, latest⟩ := consistent
    simp only [loadImprovementEngine, held, eq_ok_iff]
    exact ⟨(), positive, (), agrees.verified latest, trivial⟩

theorem Consistent.elsewhere (consistent : Consistent store reached)
    (snapshot : after.improvementEngine = store.improvementEngine)
    (tables : after.improvementTables = store.improvementTables)
    (assignments : after.canaryAssignments = store.canaryAssignments) : Consistent after reached := by
  cases reached with
  | none | some engine => simpa only [Consistent, snapshot, tables, assignments] using consistent

/-- The engine is written exactly when it is persistable, and the store then holds it. -/
theorem withEngine_iff (agrees : Agrees store.improvementTables store.canaryAssignments engine) (good : WellFormed next)
    (evolves : Evolves engine next) :
    ((∃ after, store.withEngine next = .ok after) ↔ Persistable store.improvementTables.revision engine next) ∧
      ∀ after, store.withEngine next = .ok after → Consistent after (some next) := by
  have written : ∀ after, store.withEngine next = .ok after →
      Persistable store.improvementTables.revision engine next ∧ Consistent after (some next) := by
    intro after done
    simp only [withEngine, eq_ok_iff, Prod.exists] at done
    obtain ⟨tables, assignments, persisted, rfl⟩ := done
    obtain ⟨room, writable⟩ := agrees.writable evolves persisted
    obtain ⟨_, _, again, agreed, positive, latest⟩ := agrees.persisted good evolves writable room
    rw [persisted] at again
    cases again
    exact ⟨⟨room, writable⟩, rfl, good, agreed, positive, latest⟩
  refine ⟨⟨fun stored => (written _ stored.choose_spec).1, fun persistable => ?_⟩, fun after done => (written after done).2⟩
  obtain ⟨tables, assignments, persisted, _⟩ := agrees.persisted good evolves persistable.writable persistable.room
  exact ⟨_, by simp only [withEngine, persisted]; rfl⟩

theorem command_operation {command : ImprovementCommand} {now : Int} {response : CommandResponse}
    (applied : command.apply codec now engine = .ok (response, next)) :
    ∃ operation : Operation, next = operation.apply codec engine := by
  cases command with
  | propose proposal =>
    simp only [ImprovementCommand.apply, eq_ok_iff, Prod.exists] at applied
    obtain ⟨decision, proposed, decided, _, _, _, rfl⟩ := applied
    exact ⟨.proposeCandidate proposal now, by simp [Operation.apply, decided]⟩
  | rollback caseId target =>
    simp only [ImprovementCommand.apply] at applied
    split at applied
    · cases applied
    · simp only [eq_ok_iff] at applied
      obtain ⟨_, _, _, rfl⟩ := applied
      exact ⟨.requestRollback caseId target now, rfl⟩

variable {ambient : Ambient} {now : Int}

/-- The store after the engine was written, unless it stays as it was. -/
def settle (store : Store) (engine next : ImprovementEngine) : Checked Store :=
  if next = engine then .ok store else store.withEngine next

theorem Consistent.mutate_eq_ok (consistent : Consistent store (some engine)) (operation : Operation) :
    store.mutateImprovement ambient (operation.apply codec) now = .ok after ↔
      (0 ≤ now ∧ now ≤ maxSafeTimeUs) ∧ ensureMutationAllowed ambient false = .ok () ∧
      ∃ written, settle store engine (operation.apply codec engine) = .ok written ∧
        after = if operation.apply codec engine = engine then written else written.bumpMutationEpoch := by
  simp only [mutateImprovement, eq_ok_iff, consistent.loaded, settle, Except.ok.injEq]
  constructor
  · rintro ⟨_, time, _, calm, _, rfl, _, ⟨⟩, outcome⟩
    refine ⟨time, calm, ?_⟩
    split at outcome
    · rename_i same
      rw [if_pos same]
      exact ⟨store, rfl, by rw [if_pos same, pure_eq_ok.mp outcome]⟩
    · rename_i differs
      obtain ⟨written, stored, counted⟩ := bind_eq_ok.mp outcome
      rw [if_neg differs]
      exact ⟨written, stored, by rw [if_neg differs, pure_eq_ok.mp counted]⟩
  · rintro ⟨time, calm, written, stored, rfl⟩
    refine ⟨(), time, (), calm, some engine, rfl, engine, rfl, ?_⟩
    by_cases same : operation.apply codec engine = engine
    · rw [if_pos same] at stored ⊢
      cases stored
      rw [if_pos same]
      rfl
    · rw [if_neg same] at stored ⊢
      rw [if_neg same, stored]
      rfl

variable {consumerId commandKey : String} {canonicalCommand : Bytes} {command : ImprovementCommand}
  {response : CommandResponse}

theorem Consistent.command_eq_ok (consistent : Consistent store (some engine))
    (fresh : store.commands.lookup (consumerId, command.method, commandKey) = none) :
    store.improvementCommand codec ambient consumerId commandKey canonicalCommand command now = .ok (response, after) ↔
      canonicalize codec (command.wire commandKey) = some canonicalCommand ∧ (0 ≤ now ∧ now ≤ maxSafeTimeUs) ∧
      (canonicalCommand ≠ [] ∧ canonicalCommand.length ≤ maxCanonicalTaskRequestBytes) ∧
      ensureMutationAllowed ambient false = .ok () ∧ ∃ next, command.apply codec now engine = .ok (response, next) ∧
      ∃ written, settle store engine next = .ok written ∧ ∃ commands, written.commands.insert?
        { consumerId, method := command.method, commandKey, requestDigest := hashBytes codec canonicalCommand,
          responseLocator := command.caseId, response := some response, committedAt := now } = some commands ∧
        after = { written with commands }.bumpMutationEpoch := by
  have unseen : store.improvementCommandReplay consumerId commandKey (hashBytes codec canonicalCommand) command =
      .ok none := by simp [improvementCommandReplay, fresh]
  simp only [improvementCommand, unseen, eq_ok_iff, consistent.loaded, insertRow, Except.ok.injEq, exists_eq_left']
  constructor
  · rintro ⟨_, canonical, _, time, _, sized, _, calm, outcome⟩
    simp only [exists_eq_left', Option.some.injEq, Prod.exists] at outcome
    obtain ⟨answer, next, applied, outcome⟩ := outcome
    refine ⟨canonical, time, sized, calm, next, ?_⟩
    split at outcome
    · rename_i same
      simp only [eq_ok_iff] at outcome
      obtain ⟨_, rfl, commands, inserted, rfl, rfl⟩ := outcome
      exact ⟨applied, store, by rw [settle, if_pos same], commands, inserted, rfl⟩
    · rename_i differs
      simp only [eq_ok_iff] at outcome
      obtain ⟨written, stored, commands, inserted, rfl, rfl⟩ := outcome
      exact ⟨applied, written, by rw [settle, if_neg differs, stored], commands, inserted, rfl⟩
  · rintro ⟨canonical, time, sized, calm, next, applied, written, stored, commands, inserted, rfl⟩
    refine ⟨(), canonical, (), time, (), sized, (), calm, ?_⟩
    simp only [exists_eq_left', Option.some.injEq, Prod.exists]
    refine ⟨response, next, applied, ?_⟩
    unfold settle at stored
    split
    · rename_i same
      rw [if_pos same] at stored
      simp only [eq_ok_iff]
      exact ⟨written, Except.ok.inj stored, commands, inserted, trivial, rfl⟩
    · rename_i differs
      rw [if_neg differs] at stored
      simp only [eq_ok_iff]
      exact ⟨written, stored, commands, inserted, trivial, rfl⟩

theorem Consistent.begun (consistent : Consistent store none) (policy : ImprovementPolicy)
    (time : 0 ≤ now ∧ now ≤ maxSafeTimeUs) (calm : ensureMutationAllowed ambient false = .ok ()) :
    ∃ after, store.ensureImprovementEngine ambient policy now = .ok after ∧ Consistent after (some (.new policy)) := by
  obtain ⟨writes, holds⟩ := withEngine_iff (consistent.2.2 policy) (wellFormed_new policy) (evolves_refl (.new policy))
  have persistable : Persistable store.improvementTables.revision (.new policy) (.new policy) := by
    refine ⟨by rw [consistent.2.1]; decide, ?_, ?_⟩
    · simp [new]
    · simp [new]
  obtain ⟨written, stored⟩ := writes.mpr persistable
  refine ⟨written.bumpMutationEpoch, ?_, (holds written stored).elsewhere rfl rfl rfl⟩
  simp only [ensureImprovementEngine, ensure, if_pos time, consistent.loaded, calm, stored]
  rfl

theorem consistent_initial : Consistent initial none :=
  ⟨rfl, rfl, fun _ => ⟨rfl, rfl, rfl, rfl, rfl, rfl, by simp [initial]⟩⟩

section Hex

variable (hex : ∀ bytes, (codec.sha256Hex bytes).length = 64)

include hex

section

variable (consistent : Consistent store (some engine))

include consistent

theorem Consistent.settled (operation : Operation)
    (done : settle store engine (operation.apply codec engine) = .ok after) :
    Consistent after (some (operation.apply codec engine)) ∧ after.commands = store.commands := by
  unfold settle at done
  split at done
  · rename_i same
    cases done
    rw [same]
    exact ⟨consistent, rfl⟩
  · obtain ⟨_, holds⟩ := withEngine_iff consistent.2.2.1 (consistent.2.1.step hex operation) (evolves_apply operation)
    obtain ⟨_, _, same⟩ := withEngine_eq_ok done
    exact ⟨holds after done, by rw [same]⟩

theorem Consistent.settle_iff (operation : Operation) :
    (∃ written, settle store engine (operation.apply codec engine) = .ok written) ↔
      operation.apply codec engine = engine ∨
        Persistable store.improvementTables.revision engine (operation.apply codec engine) := by
  obtain ⟨writes, _⟩ := withEngine_iff consistent.2.2.1 (consistent.2.1.step hex operation) (evolves_apply operation)
  rw [← writes]
  unfold settle
  split
  · rename_i same
    exact ⟨fun _ => .inl same, fun _ => ⟨store, rfl⟩⟩
  · rename_i differs
    exact ⟨.inr, fun written => written.resolve_left differs⟩

/-- A mutation commits and the store then holds the next engine, exactly when nothing has to be written or the engine is
persistable. -/
theorem Consistent.mutate_iff (operation : Operation) (time : 0 ≤ now ∧ now ≤ maxSafeTimeUs)
    (calm : ensureMutationAllowed ambient false = .ok ()) :
    (∃ after, store.mutateImprovement ambient (operation.apply codec) now = .ok after) ↔
      operation.apply codec engine = engine ∨
        Persistable store.improvementTables.revision engine (operation.apply codec engine) := by
  rw [← consistent.settle_iff hex operation]
  constructor
  · rintro ⟨after, done⟩
    obtain ⟨_, _, written, stored, _⟩ := (consistent.mutate_eq_ok operation).mp done
    exact ⟨written, stored⟩
  · rintro ⟨written, stored⟩
    exact ⟨_, (consistent.mutate_eq_ok operation).mpr ⟨time, calm, written, stored, rfl⟩⟩

theorem Consistent.mutated (done : store.mutateImprovement ambient (operation.apply codec) now = .ok after) :
    Consistent after (some (operation.apply codec engine)) := by
  obtain ⟨_, _, written, stored, rfl⟩ := (consistent.mutate_eq_ok operation).mp done
  have holds := (consistent.settled hex operation stored).1
  split
  · exact holds
  · exact holds.elsewhere rfl rfl rfl

theorem Consistent.command_iff (canonical : canonicalize codec (command.wire commandKey) = some canonicalCommand)
    (sized : canonicalCommand ≠ [] ∧ canonicalCommand.length ≤ maxCanonicalTaskRequestBytes)
    (fresh : store.commands.lookup (consumerId, command.method, commandKey) = none)
    (time : 0 ≤ now ∧ now ≤ maxSafeTimeUs) (calm : ensureMutationAllowed ambient false = .ok ())
    (applied : command.apply codec now engine = .ok (response, next)) :
    (∃ after, store.improvementCommand codec ambient consumerId commandKey canonicalCommand command now =
        .ok (response, after)) ↔
      next = engine ∨ Persistable store.improvementTables.revision engine next := by
  obtain ⟨operation, rfl⟩ := command_operation applied
  rw [← consistent.settle_iff hex operation]
  constructor
  · rintro ⟨after, done⟩
    obtain ⟨_, _, _, _, _, again, written, stored, _⟩ := (consistent.command_eq_ok fresh).mp done
    rw [applied] at again
    cases again
    exact ⟨written, stored⟩
  · rintro ⟨written, stored⟩
    have same := (consistent.settled hex operation stored).2
    obtain ⟨commands, inserted⟩ := written.commands.insert_of_free
      { consumerId, method := command.method, commandKey, requestDigest := hashBytes codec canonicalCommand,
        responseLocator := command.caseId, response := some response, committedAt := now } (same ▸ fresh)
    exact ⟨_, (consistent.command_eq_ok fresh).mpr
      ⟨canonical, time, sized, calm, _, applied, written, stored, commands, inserted, rfl⟩⟩

theorem Consistent.commanded (fresh : store.commands.lookup (consumerId, command.method, commandKey) = none)
    (done : store.improvementCommand codec ambient consumerId commandKey canonicalCommand command now = .ok (response,
      after)) (applied : command.apply codec now engine = .ok (response, next)) : Consistent after (some next) := by
  obtain ⟨operation, rfl⟩ := command_operation applied
  obtain ⟨_, _, _, _, _, again, written, stored, _, _, rfl⟩ := (consistent.command_eq_ok fresh).mp done
  rw [applied] at again
  cases again
  exact (consistent.settled hex operation stored).1.elsewhere rfl rfl rfl

end

theorem Consistent.step {before : Store × Option ImprovementEngine}
    (step : Improves codec before later) (consistent : Consistent before.1 before.2) : Consistent later.1 later.2 := by
  cases step with
  | begins ambient policy now store after done =>
    have checked := done
    simp only [ensureImprovementEngine, consistent.loaded, eq_ok_iff, Except.ok.injEq, exists_eq_left'] at checked
    obtain ⟨_, time, _, calm, _⟩ := checked
    obtain ⟨_, again, holds⟩ := consistent.begun policy time calm
    rw [done] at again
    cases again
    exact holds
  | mutate ambient operation now store after engine done => exact consistent.mutated hex done
  | command ambient consumerId commandKey canonicalCommand command now response store after engine next fresh done applied =>
    exact consistent.commanded hex fresh done applied
  | elsewhere store after engine snapshot tables assignments => exact consistent.elsewhere snapshot tables assignments

theorem consistent_of_run (run : Relation.ReflTransGen (Improves codec) (initial, none) later) :
    Consistent later.1 later.2 := by
  induction run with
  | refl => exact consistent_initial
  | tail _ step ih => exact ih.step hex step

end Hex

/-- In every store that the storage layer reaches, the snapshot loads as the engine that the pure operations reach on the
same inputs. The next operation, or the next command that was not seen before and that the engine answers, commits
exactly when it changes nothing or when the engine it leads to is persistable; the store then loads as that engine. -/
theorem improvement_persists_iff (codec : Codec) (hex : ∀ bytes, (codec.sha256Hex bytes).length = 64) (store : Store)
    (reached : Option ImprovementEngine)
    (run : Relation.ReflTransGen (Improves codec) (Store.initial, none) (store, reached)) (ambient : Ambient) (now : Int)
    (time : 0 ≤ now ∧ now ≤ maxSafeTimeUs) (calm : ensureMutationAllowed ambient false = .ok ()) :
    store.loadImprovementEngine = .ok reached ∧
    (reached = none → ∀ policy, ∃ after, store.ensureImprovementEngine ambient policy now = .ok after ∧
      after.loadImprovementEngine = .ok (some (.new policy))) ∧
    ∀ engine, reached = some engine →
      (∀ operation : Operation,
        (∃ after, store.mutateImprovement ambient (operation.apply codec) now = .ok after ∧
          after.loadImprovementEngine = .ok (some (operation.apply codec engine))) ↔
        operation.apply codec engine = engine ∨
          Persistable store.improvementTables.revision engine (operation.apply codec engine)) ∧
      ∀ consumerId commandKey canonicalCommand command response next,
        canonicalize codec (command.wire commandKey) = some canonicalCommand →
        canonicalCommand ≠ [] ∧ canonicalCommand.length ≤ maxCanonicalTaskRequestBytes →
        store.commands.lookup (consumerId, command.method, commandKey) = none →
        command.apply codec now engine = .ok (response, next) →
        ((∃ after, store.improvementCommand codec ambient consumerId commandKey canonicalCommand command now =
            .ok (response, after) ∧ after.loadImprovementEngine = .ok (some next)) ↔
          next = engine ∨ Persistable store.improvementTables.revision engine next) := by
  have consistent : Consistent store reached := consistent_of_run hex run
  refine ⟨consistent.loaded, ?_, ?_⟩
  · rintro rfl policy
    obtain ⟨after, done, holds⟩ := consistent.begun policy time calm
    exact ⟨after, done, holds.loaded⟩
  · rintro engine rfl
    constructor
    · intro operation
      rw [← consistent.mutate_iff hex operation time calm]
      exact exists_congr fun after => and_iff_left_of_imp fun done => (consistent.mutated hex done).loaded
    · intro consumerId commandKey canonicalCommand command response next canonical sized fresh applied
      rw [← consistent.command_iff hex canonical sized fresh time calm applied]
      exact exists_congr fun after => and_iff_left_of_imp fun done =>
        (consistent.commanded hex fresh done applied).loaded

end Runs

namespace Script

/-- A codec that writes the scalar fields of a record and digests bytes by a checksum. -/
def scalars : Codec where
  sha256Hex := Daemon.Script.checksum
  toText
    | .object fields => String.join (fields.map fun field =>
        match field.2 with
        | .string text => text ++ ";"
        | .number number => toString number ++ ";"
        | _ => ";")
    | _ => ""
  fromSlice _ := none
  decodeV1 _ := true

theorem scalars_hex (bytes : Bytes) : (scalars.sha256Hex bytes).length = 64 := by
  simp [scalars, Daemon.Script.checksum]

/-- Operations of the storage layer in order, beside those of the engine. -/
def record : List (Operation × Int) → Store → ImprovementEngine → Checked (Store × ImprovementEngine)
  | [], store, engine => return (store, engine)
  | (operation, now) :: operations, store, engine => do
    let after ← store.mutateImprovement Daemon.Script.ambient (operation.apply scalars) now
    record operations after (operation.apply scalars engine)

theorem improves_of_record {operations : List (Operation × Int)} {store final : Store} {last : ImprovementEngine}
    (done : record operations store engine = .ok (final, last)) :
    Relation.ReflTransGen (Improves scalars) (store, some engine) (final, some last) := by
  induction operations generalizing store engine with
  | nil =>
    cases done
    exact .refl
  | cons first operations ih =>
    obtain ⟨operation, now⟩ := first
    simp only [record, bind_eq_ok] at done
    obtain ⟨after, mutated, rest⟩ := done
    exact .head (.mutate _ operation now store after engine mutated) (ih rest)

def scalarCase (input : ObservationInput) : String :=
  deterministicCaseId scalars input.component input.cohort
    ((input.failureSignature.bind (FailureSignature.normalizedKey scalars)).getD "") input.taskId

/-- The fixtures reject a candidate, and a week later the component fails again. -/
def recurring : List (Operation × Int) :=
  [(.observe (failure "f1" 1 1), 1), (.observe (failure "f2" 2 1), 2), (.observe (failure "f3" 3 1), 3),
    (.openEligibleCase (failure "f3" 3 1) 3, 3),
    (.proposeCandidate (proposal (scalarCase (failure "f3" 3 1)) "low" false) 4, 4),
    (.observe (failure "gg" (8 * day) 1), 8 * day),
    (.openEligibleCase (failure "gg" (8 * day) 1) (8 * day), 8 * day)]

/-- The value that was rejected is proposed for the new case. -/
def repeated : CandidateProposal := proposal (scalarCase (failure "gg" (8 * day) 1)) "low" false

def reopened : Checked (Store × ImprovementEngine) := do
  let store ← Store.initial.ensureImprovementEngine Daemon.Script.ambient policy 0
  record recurring store (.new policy)

/-- The engine decides the repeated proposal, and the store refuses to write it. -/
def drifts (store : Store) (engine : ImprovementEngine) : Bool :=
  (engine.proposeCandidate scalars repeated (8 * day)).isSome &&
    match store.mutateImprovement Daemon.Script.ambient
      ((Operation.proposeCandidate repeated (8 * day)).apply scalars) (8 * day) with
    | .error error => error = .quarantined "immutable improvement candidate drift"
    | .ok _ => false

end Script

/-- A value that was proposed for an earlier case of the component has the digest of the stored candidate, and the
second candidate is not written. -/
theorem repeated_proposal_drifts : ∃ store engine,
    Relation.ReflTransGen (Improves Script.scalars) (Store.initial, none) (store, some engine) ∧
      (engine.proposeCandidate Script.scalars Script.repeated (8 * Script.day)).isSome = true ∧
      store.mutateImprovement Daemon.Script.ambient
        ((Operation.proposeCandidate Script.repeated (8 * Script.day)).apply Script.scalars) (8 * Script.day) =
          .error (.quarantined "immutable improvement candidate drift") := by
  obtain ⟨⟨store, engine⟩, opened, drifts⟩ : ∃ reached, Script.reopened = .ok reached ∧
      Script.drifts reached.1 reached.2 = true := by decide +kernel
  obtain ⟨first, begun, recorded⟩ := bind_eq_ok.mp opened
  simp only [Script.drifts, Bool.and_eq_true] at drifts
  refine ⟨store, engine, .head (.begins _ Script.policy 0 _ first begun) (Script.improves_of_record recorded),
    drifts.1, ?_⟩
  cases refused : store.mutateImprovement Daemon.Script.ambient
      ((Operation.proposeCandidate Script.repeated (8 * Script.day)).apply Script.scalars) (8 * Script.day) with
  | error => simpa [refused] using drifts.2
  | ok => simp [refused] at drifts

/-- The first observation after the engine was set up is written and loads. -/
theorem first_observation_persists : ∃ store after,
    Store.initial.ensureImprovementEngine Daemon.Script.ambient policy 0 = .ok store ∧
      store.mutateImprovement Daemon.Script.ambient
        ((Operation.observe (failure "f1" 1 1)).apply scalars) 1 = .ok after ∧
      after.loadImprovementEngine =
        .ok (some ((Operation.observe (failure "f1" 1 1)).apply scalars (.new policy))) := by
  obtain ⟨store, begun, revision⟩ : ∃ store, Store.initial.ensureImprovementEngine Daemon.Script.ambient policy 0 =
      .ok store ∧ store.improvementTables.revision = 1 := by decide +kernel
  have bare : ((Operation.observe (failure "f1" 1 1)).apply scalars (.new policy)).cases.rows = []
      ∧ ((Operation.observe (failure "f1" 1 1)).apply scalars
        (.new policy)).candidates.rows = [] := by decide +kernel
  obtain ⟨_, _, persists⟩ := improvement_persists_iff scalars scalars_hex store (some (.new policy))
    (.single (.begins _ policy 0 _ store begun)) Daemon.Script.ambient 1 (by decide) (by decide)
  obtain ⟨after, done, loaded⟩ := ((persists _ rfl).1 (.observe (failure "f1" 1 1))).mpr
    (.inr ⟨by rw [revision]; decide, by simp [bare.1], by simp [bare.2]⟩)
  exact ⟨store, after, begun, done, loaded⟩

end AgentMesh.Improvement
