import AgentMesh.Install.Lineage
import AgentMesh.Library.Program

/-! The setup of an installation (`install_control.rs`). Each turn of its loop makes the next effect and publishes its
evidence. It may be cut short between any two requests and started again from the record that was published last. -/
namespace AgentMesh.Install
open Library

inductive InstallControlError where
  | removing
  | drifted
  | accessDenied
  | busy
  | storageUnavailable
  | invalidClock
  | unavailable
  | concurrentChange
  deriving DecidableEq, Repr

def mapStoreError : InstallStoreError → InstallControlError
  | .compareAndSwapConflict => .concurrentChange
  | .invalidRecord | .integrity | .purgePrecondition | .purgeStageDrift => .drifted
  | .storage => .storageUnavailable

namespace Setup

/-- What the setup asks of the record store and of the platform. -/
inductive Request where
  | acquireSetupGuard
  | loadRecord
  | compareAndSwapRecord (expectedRevision : UInt64) (next : InstallRecord)
  | nowUs
  | initialRecord
  | verifyActive (record : InstallRecord)
  | verifyRetained (record : InstallRecord)
  | verifyInstallingPrefix (record : InstallRecord)
  | ensureKey (record : InstallRecord)
  | ensureRuntime (record : InstallRecord)
  | ensureData (record : InstallRecord)
  | ensureTask (record : InstallRecord)
  | completeInstalling (record : InstallRecord)

@[reducible]
def Payload : Request → Type
  | .acquireSetupGuard | .compareAndSwapRecord _ _ | .verifyActive _ | .verifyRetained _ | .verifyInstallingPrefix _
  | .completeInstalling _ => Unit
  | .loadRecord => Option InstallRecord
  | .nowUs => Int64
  | .initialRecord => InstallRecord
  | .ensureKey _ => ProtectedKeyArtifact
  | .ensureRuntime _ => RuntimeArtifact
  | .ensureData _ => RelativeWindowsPath × UInt32
  | .ensureTask _ => ScheduledTaskEvidence

abbrev Program (α : Type) := Library.Program InstallControlError Request Payload α

abbrev Entry := Program.Entry InstallControlError Request Payload

abbrev perform (request : Request) : Program (Payload request) := Program.perform request

def maxConvergenceSteps : Nat := 64

/-- `map_record_error`: any failure of a record is drift. -/
def ofRecord {α : Type} : Except InstallRecordError α → Program α
  | .ok value => .done value
  | .error _ => .fail .drifted

def checkedNow (record : InstallRecord) (now : Int64) : Program Int64 := do
  .check (0 ≤ now ∧ record.updatedAtUs ≤ now) .invalidClock
  return now

def transition (record : InstallRecord) (state : InstallState) (now : Int64) : Program InstallRecord := do
  let now ← checkedNow record now
  ofRecord (record.transition record.revision state now)

/-- `persist_guarded`. A conflict under the held lock is drift. -/
def persistGuarded (expectedRevision : UInt64) (next : InstallRecord) : Program Unit := do
  match ← Program.attempt (.compareAndSwapRecord expectedRevision next) with
  | .ok _ => return ()
  | .error .concurrentChange => .fail .drifted
  | .error error => .fail error

/-- The first effect whose evidence the record lacks. -/
def nextCheckpoint (record : InstallRecord) : Program (Option InstallCheckpoint) := do
  if record.protectedKey.isNone then
    let key : ProtectedKeyArtifact ← perform (.ensureKey record)
    return some { InstallCheckpoint.default with protectedKey := some key }
  else if record.runtime.isNone then
    let runtime : RuntimeArtifact ← perform (.ensureRuntime record)
    return some { InstallCheckpoint.default with runtime := some runtime }
  else if record.dataRelativePath.isNone then
    let data : RelativeWindowsPath × UInt32 ← perform (.ensureData record)
    return some
      { InstallCheckpoint.default with dataRelativePath := some data.1, dataSchemaVersion := some data.2 }
  else if record.scheduledTask.isNone then
    let task : ScheduledTaskEvidence ← perform (.ensureTask record)
    return some { InstallCheckpoint.default with scheduledTask := some task }
  else
    return none

/-- The step of the setup from an INSTALLING record: a checkpoint, or ACTIVE when nothing is missing. -/
def installingStep (record : InstallRecord) : Program InstallRecord := do
  let _ : Unit ← perform (.verifyInstallingPrefix record)
  match ← nextCheckpoint record with
  | some checkpoint =>
    let now : Int64 ← perform .nowUs
    let now ← checkedNow record now
    ofRecord (record.checkpoint record.revision checkpoint now)
  | none =>
    let _ : Unit ← perform (.completeInstalling record)
    let now : Int64 ← perform .nowUs
    transition record .active now

def retainedStep (record : InstallRecord) : Program InstallRecord := do
  let _ : Unit ← perform (.verifyRetained record)
  let now : Int64 ← perform .nowUs
  transition record .installing now

/-- A turn of the loop of `converge_setup_guarded` that finds a record, and what comes after it. -/
def turn (rest : Program InstallRecord) (record : InstallRecord) : Program InstallRecord := do
  .check (record.validate = .ok ()) .drifted
  let now : Int64 ← perform .nowUs
  let _ ← checkedNow record now
  match record.state with
  | .active =>
    let _ : Unit ← perform (.verifyActive record)
    return record
  | .removing | .purging => .fail .removing
  | .broken => .fail .drifted
  | .retained =>
    let next ← retainedStep record
    persistGuarded record.revision next
    rest
  | .installing =>
    let next ← installingStep record
    persistGuarded record.revision next
    rest

/-- `converge_setup_guarded` with the number of turns that are left. -/
def convergeSetupGuarded : Nat → Program InstallRecord
  | 0 => .fail .busy
  | steps + 1 => do
    let current : Option InstallRecord ← perform .loadRecord
    match current with
    | none =>
      let initial : InstallRecord ← perform .initialRecord
      persistGuarded 0 initial
      convergeSetupGuarded steps
    | some record => turn (convergeSetupGuarded steps) record

def convergeSetup : Program InstallRecord := do
  let _ : Unit ← perform .acquireSetupGuard
  convergeSetupGuarded maxConvergenceSteps

end Setup

end AgentMesh.Install
