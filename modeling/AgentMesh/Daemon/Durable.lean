import AgentMesh.Daemon.Transaction

/-! The normalized tables of the improvement engine: `persist_improvement_engine` writes them beside the snapshot, and
`verify_improvement_projection` compares them with the engine. -/
namespace AgentMesh.Daemon
open Library StorageError

variable (case : CaseRecord) (cases : Table ImprovementCaseRow.caseId) (tables : ImprovementTables)
  (candidate : CandidateRecord)

def CaseRecord.row : ImprovementCaseRow where
  caseId := case.caseId
  component := case.component
  state := case.state
  createdAt := case.createdAtUs
  candidateId := case.candidateId
  parentConfigVersion := case.parentConfigVersion
  canaryStartedAt := case.canaryStartedAtUs
  rollbackCount := case.rollbackCount

def CandidateRecord.configRow : ConfigVersionRow where
  version := candidate.candidateConfigVersion
  digest := candidate.candidateConfigDigest
  component := candidate.component
  parentVersion := candidate.parentConfigVersion
  rollbackVersion := candidate.rollbackConfigVersion
  candidateId := candidate.candidateId

def CanaryAssignment.row (assignment : CanaryAssignment) : CanaryAssignmentRow where
  taskId := assignment.taskId
  caseId := assignment.caseId
  candidate := assignment.candidate
  configVersion := assignment.configVersion
  configDigest := assignment.configDigest

def ImprovementCaseRow.isActive (row : ImprovementCaseRow) : Bool := row.state = .observing || row.state = .canary

/-- The first statement of the transaction: no active case is left to collide with a new one. -/
def clearActive : Table ImprovementCaseRow.caseId :=
  cases.update ImprovementCaseRow.isActive (fun row => { row with state := .rolledBack }) (fun _ => rfl)

/-- The row an upsert of a case leaves: the component, the creation time and the parent version are kept. -/
def upsertedRow : ImprovementCaseRow :=
  match cases.lookup case.caseId with
  | none => case.row
  | some old =>
    { old with
      state := case.state
      candidateId := case.candidateId
      canaryStartedAt := case.canaryStartedAtUs
      rollbackCount := case.rollbackCount }

/-- The upsert of a case, under the unique index on active components. -/
def upsertCase (case : CaseRecord) : Checked (Table ImprovementCaseRow.caseId) := do
  let row := upsertedRow case cases
  ensure (0 ≤ row.parentConfigVersion ∧ (row.isActive = true → ∀ other ∈ cases.rows, other.caseId ≠ row.caseId →
    other.component = row.component → other.isActive = false)) (sql .constraintViolation)
  return cases.put row

/-- A candidate meets the checks of its table and shares no unique column with a stored one. -/
def candidateFits (candidates : Table CandidateRecord.candidateId) (candidate : CandidateRecord) : Bool :=
  0 ≤ candidate.parentConfigVersion && 0 ≤ candidate.rollbackConfigVersion && 1 ≤ candidate.candidateConfigVersion &&
    candidate.candidateConfigDigest.length = 64 && candidates.rows.all fun other =>
      other.candidateId ≠ candidate.candidateId && other.candidateConfigVersion ≠ candidate.candidateConfigVersion &&
        other.candidateConfigDigest ≠ candidate.candidateConfigDigest

/-- The same for the row of a candidate's configuration. -/
def configFits (configs : Table ConfigVersionRow.version) (row : ConfigVersionRow) : Bool :=
  1 ≤ row.version && 0 ≤ row.parentVersion && 0 ≤ row.rollbackVersion && row.digest.length = 64 &&
    configs.rows.all fun other =>
      other.version ≠ row.version && other.digest ≠ row.digest && other.candidateId ≠ row.candidateId

/-- `INSERT OR IGNORE` of a candidate and of its configuration; both rows must then be stored as they are. -/
def insertCandidate : Checked ImprovementTables := do
  let candidates := if candidateFits tables.candidates candidate then tables.candidates.put candidate
    else tables.candidates
  ensure (candidates.lookup candidate.candidateId = some candidate)
    (quarantined "immutable improvement candidate drift")
  let row := candidate.configRow
  let configVersions := if configFits tables.configVersions row then tables.configVersions.put row
    else tables.configVersions
  ensure (configVersions.lookup row.version = some row)
    (quarantined "immutable improvement config drift")
  return { tables with candidates, configVersions }

/-- `INSERT OR IGNORE INTO canary_assignments`: a row that fails the check on versions is ignored as well. -/
def insertAssignment (assignment : CanaryAssignment) (stored : Table CanaryAssignmentRow.taskId) :
    Table CanaryAssignmentRow.taskId :=
  if 0 ≤ assignment.configVersion then (stored.insert? assignment.row).getD stored else stored

/-- The assignments of the engine are inserted one after another; a stored one never changes. -/
def syncAssignments : List CanaryAssignment → Table CanaryAssignmentRow.taskId → Checked (Table CanaryAssignmentRow.taskId)
  | [], stored => return stored
  | assignment :: assignments, stored => do
    let stored := insertAssignment assignment stored
    ensure (stored.lookup assignment.taskId = some assignment.row)
      (quarantined "immutable canary assignment drift")
    syncAssignments assignments stored

def upsertActive (configs : Table fun entry : String × Int => entry.1) (entry : String × Int) :
    Checked (Table fun entry : String × Int => entry.1) := do
  ensure (0 ≤ entry.2) (sql .constraintViolation)
  return configs.put entry

/-- `verify_improvement_projection`, apart from the digest of the snapshot, which both rows that carry it get from the
same value. -/
def verifyImprovementProjection (assignments : Table CanaryAssignmentRow.taskId) (engine : ImprovementEngine) :
    Checked Unit := do
  ensure (tables.audit.max? = some tables.revision ∧ tables.audit.length = tables.revision)
    (quarantined "improvement audit revision drift")
  ensure (tables.cases.rows.length = engine.cases.rows.length ∧
      ∀ case ∈ engine.cases.rows, tables.cases.lookup case.caseId = some case.row)
    (quarantined "improvement case projection drift")
  ensure (tables.candidates.rows.length = engine.candidates.rows.length ∧
      tables.configVersions.rows.length = tables.candidates.rows.length ∧
      ∀ candidate ∈ engine.candidates.rows, tables.candidates.lookup candidate.candidateId = some candidate)
    (quarantined "improvement candidate projection drift")
  ensure (∀ candidate ∈ engine.candidates.rows,
      tables.configVersions.lookup candidate.candidateConfigVersion = some candidate.configRow)
    (quarantined "improvement config projection drift")
  ensure (assignments.rows.length = engine.assignments.rows.length ∧
      ∀ assignment ∈ engine.assignments.rows, assignments.lookup assignment.taskId = some assignment.row)
    (quarantined "canary assignment projection drift")
  ensure (tables.activeConfigs.rows.length = engine.activeConfigVersions.rows.length ∧
      ∀ entry ∈ engine.activeConfigVersions.rows, tables.activeConfigs.lookup entry.1 = some entry)
    (quarantined "active improvement config projection drift")

/-- The normalized rows that `persist_improvement_engine` writes for an engine. -/
def persistProjection (assignments : Table CanaryAssignmentRow.taskId) (engine : ImprovementEngine) :
    Checked (ImprovementTables × Table CanaryAssignmentRow.taskId) := do
  let revision := tables.revision + 1
  ensure (revision ≤ 9223372036854775807) (quarantined "improvement revision overflow")
  let cases ← engine.cases.rows.foldlM upsertCase (clearActive tables.cases)
  let tables ← engine.candidates.rows.foldlM insertCandidate { tables with cases }
  let assignments ← syncAssignments engine.assignments.rows assignments
  -- Candidates and assignments reference a stored case.
  ensure ((∀ candidate ∈ tables.candidates.rows, (cases.lookup candidate.caseId).isSome = true) ∧
    ∀ assignment ∈ assignments.rows, (cases.lookup assignment.caseId).isSome = true)
    (sql .constraintViolation)
  let activeConfigs ← engine.activeConfigVersions.rows.foldlM upsertActive tables.activeConfigs
  ensure (revision ∉ tables.audit) (sql .constraintViolation)
  let tables := { tables with activeConfigs, revision, audit := tables.audit ++ [revision] }
  verifyImprovementProjection tables assignments engine
  return (tables, assignments)

namespace Store

/-- The rows `persist_improvement_engine` writes for an engine. -/
def withEngine (engine : ImprovementEngine) (store : Store) : Checked Store := do
  let (improvementTables, canaryAssignments) ←
    persistProjection store.improvementTables store.canaryAssignments engine
  return { store with improvementEngine := some engine, improvementTables, canaryAssignments }

/-- `load_improvement_engine`, apart from the digest of the snapshot. -/
def loadImprovementEngine (store : Store) : Checked (Option ImprovementEngine) :=
  match store.improvementEngine with
  | none => return none
  | some engine => do
    ensure (1 ≤ store.improvementTables.revision)
      (quarantined "improvement snapshot integrity mismatch")
    verifyImprovementProjection store.improvementTables store.canaryAssignments engine
    return some engine

end Store

end AgentMesh.Daemon
