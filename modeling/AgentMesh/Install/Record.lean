import AgentMesh.Library.Checked
import AgentMesh.Library.Unicode

/-! The installation record (`install_record.rs`): its identities and evidence, the checks of a record, and the two ways
in which a record gets a successor. -/
namespace AgentMesh.Install
open Library Library.Unicode

def isLowerHex (length : Nat) (value : String) : Bool :=
  value.utf8ByteSize == length && value.toList.all fun char => char.isDigit || ('a' ≤ char && char ≤ 'f')

/-- Names that Windows reserves for devices, with or without an extension. -/
def isReservedName (basename : List Char) : Bool :=
  ["CON", "PRN", "AUX", "NUL", "CLOCK$", "CONIN$", "CONOUT$"].contains (String.ofList basename) ||
    match basename with
    | first :: second :: third :: [number] =>
      ["COM", "LPT"].contains (String.ofList [first, second, third]) &&
        (('1' ≤ number && number ≤ '9') || [Char.ofNat 0xb9, Char.ofNat 0xb2, Char.ofNat 0xb3].contains number)
    | _ => false

def isSafeWindowsComponent (component : List Char) : Bool :=
  component ≠ [] && (utf16 component).length ≤ 255 && component ≠ ['.'] && component ≠ ['.', '.'] &&
    component.getLast? ≠ some '.' && component.getLast? ≠ some ' ' &&
    component.all (fun char => 0x1f < char.toNat && !(['<', '>', '"', ':', '|', '?', '*'].contains char)) &&
    !isReservedName (((component.takeWhile (· ≠ '.')).rdropWhile (· = ' ')).map Char.toUpper)

/-- The check of `RelativeWindowsPath::new`. -/
def isRelativeWindowsPath (value : String) : Bool :=
  value ≠ "" && value.utf8ByteSize ≤ 512 && !value.toList.contains '/' && value.toList.head? ≠ some '\\' &&
    !value.toList.contains ':' && (value.toList.splitOn '\\').all isSafeWindowsComponent

/-- The check of `ScheduledTaskPath::new`. -/
def isScheduledTaskPath (value : String) : Bool :=
  match value.toList with
  | '\\' :: rest =>
    rest ≠ [] && value.utf8ByteSize ≤ 512 && rest.head? ≠ some '\\' && !rest.contains '/' &&
      !rest.contains (Char.ofNat 0) && !rest.contains ':' && (rest.splitOn '\\').all isSafeWindowsComponent
  | _ => false

structure StableId where
  value : String
  valid : isLowerHex 32 value = true
  deriving DecidableEq

structure Sha256Digest where
  value : String
  valid : isLowerHex 64 value = true
  deriving DecidableEq

structure RelativeWindowsPath where
  value : String
  valid : isRelativeWindowsPath value = true
  deriving DecidableEq

structure ScheduledTaskPath where
  value : String
  valid : isScheduledTaskPath value = true
  deriving DecidableEq

inductive InstallState where
  | installing
  | active
  | removing
  | retained
  | purging
  | broken
  deriving DecidableEq, Repr

inductive SignerStatus where
  | signed
  | unsignedDevelopment
  deriving DecidableEq, Repr

inductive RuntimeArtifactFormat where
  | meshDaemonExeV1
  deriving DecidableEq, Repr

structure RuntimeArtifact where
  relativePath : RelativeWindowsPath
  sha256 : Sha256Digest
  version : String
  signerStatus : SignerStatus
  artifactFormat : RuntimeArtifactFormat
  deriving DecidableEq

structure ProtectedKeyArtifact where
  relativePath : RelativeWindowsPath
  sha256 : Sha256Digest
  deriving DecidableEq

structure ScheduledTaskEvidence where
  taskPath : ScheduledTaskPath
  definitionSha256 : Sha256Digest
  deriving DecidableEq

structure InstallRecord where
  formatVersion : UInt16
  installId : StableId
  consumerId : StableId
  state : InstallState
  revision : UInt64
  productRelativePath : Option RelativeWindowsPath
  dataRelativePath : Option RelativeWindowsPath
  dataSchemaVersion : Option UInt32
  protectedKey : Option ProtectedKeyArtifact
  runtime : Option RuntimeArtifact
  scheduledTask : Option ScheduledTaskEvidence
  createdAtUs : Int64
  updatedAtUs : Int64
  deriving DecidableEq

structure InstallCheckpoint where
  productRelativePath : Option RelativeWindowsPath
  dataRelativePath : Option RelativeWindowsPath
  dataSchemaVersion : Option UInt32
  protectedKey : Option ProtectedKeyArtifact
  runtime : Option RuntimeArtifact
  scheduledTask : Option ScheduledTaskEvidence
  deriving DecidableEq

def InstallCheckpoint.default : InstallCheckpoint := ⟨none, none, none, none, none, none⟩

inductive InstallRecordError where
  | unsupportedFormat
  | invalidTimestampOrRevision
  | invalidInitialRecord
  | revisionExhausted
  | invalidVersion
  | activeRecordIncomplete
  | staleRevision
  | timestampRegressed
  | illegalTransition
  | checkpointRequiresInstalling
  | invalidEvidenceOrder
  | invalidCheckpointStep
  | evidenceConflict
  | evidencePathMismatch
  deriving DecidableEq, Repr

open InstallRecordError

/-- `validate_version`. -/
def isVersion (version : String) : Bool :=
  version ≠ "" && version.utf8ByteSize ≤ 128 && !version.toList.contains (Char.ofNat 0)

def isLegalTransition : InstallState → InstallState → Bool
  | .installing, .active | .installing, .broken => true
  | .active, .removing => true
  | .removing, .retained | .removing, .broken => true
  | .retained, .installing | .retained, .purging => true
  | _, _ => false

/-- `checked_add(1)` on a revision. -/
def nextRevision (revision : UInt64) : Except InstallRecordError UInt64 :=
  if revision.toNat + 1 < 2 ^ 64 then .ok (revision + 1) else .error .revisionExhausted

/-- `changed`: the new value of a field that differs. -/
def changed {α : Type} [DecidableEq α] (current next : Option α) : Option α := if current ≠ next then next else none

namespace InstallRecord

variable (record : InstallRecord)

def installRoot : String := "installs\\" ++ record.installId.value

def isActiveComplete : Bool :=
  record.productRelativePath.isSome && record.dataRelativePath.isSome && record.dataSchemaVersion.isSome &&
    record.protectedKey.isSome && record.runtime.isSome && record.scheduledTask.isSome

/-- The states whose records must carry complete evidence. -/
def mustBeComplete : InstallState → Bool
  | .active | .removing | .retained | .purging => true
  | .installing | .broken => false

/-- `validate_evidence_order`. -/
def evidenceInOrder : Bool :=
  record.productRelativePath.isSome && record.dataRelativePath.isSome == record.dataSchemaVersion.isSome &&
    (record.protectedKey.isSome ||
      !(record.runtime.isSome || record.dataRelativePath.isSome || record.scheduledTask.isSome)) &&
    (record.runtime.isSome || !(record.dataRelativePath.isSome || record.scheduledTask.isSome)) &&
    (record.dataRelativePath.isSome || !record.scheduledTask.isSome)

/-- `validate_evidence_paths`. -/
def evidencePathsMatch : Bool :=
  record.productRelativePath.all (fun path => path.value = record.installRoot) &&
    record.dataRelativePath.all (fun path => path.value = record.installRoot ++ "\\data") &&
    record.protectedKey.all (fun key =>
      key.relativePath.value = record.installRoot ++ "\\secrets\\endpoint-key.dpapi") &&
    record.runtime.all fun runtime =>
      runtime.relativePath.value = record.installRoot ++ "\\bin\\" ++ runtime.sha256.value ++ "\\mesh-daemon.exe"

def validate : Except InstallRecordError Unit := do
  ensure (record.formatVersion = 1) unsupportedFormat
  ensure (record.revision ≠ 0 ∧ 0 ≤ record.createdAtUs ∧ record.createdAtUs ≤ record.updatedAtUs)
    invalidTimestampOrRevision
  ensure (record.dataSchemaVersion ≠ some 0) invalidVersion
  ensure (record.runtime.all fun runtime => isVersion runtime.version) invalidVersion
  ensure (record.evidencePathsMatch = true) evidencePathMismatch
  ensure (record.evidenceInOrder = true) invalidEvidenceOrder
  ensure (mustBeComplete record.state = true → record.isActiveComplete = true)
    activeRecordIncomplete

def validateInitial : Except InstallRecordError Unit := do
  record.validate
  ensure (record.state = .installing ∧ record.revision = 1 ∧ record.createdAtUs = record.updatedAtUs ∧
    record.productRelativePath.isSome ∧ record.dataRelativePath = none ∧ record.dataSchemaVersion = none ∧
    record.protectedKey = none ∧ record.runtime = none ∧ record.scheduledTask = none)
    invalidInitialRecord

def ensureCas (expectedRevision : UInt64) (updatedAtUs : Int64) : Except InstallRecordError Unit := do
  record.validate
  ensure (record.revision = expectedRevision) staleRevision
  ensure (record.updatedAtUs ≤ updatedAtUs) timestampRegressed

/-- The record with the evidence of the next step of the setup, if the checkpoint holds exactly that. -/
def withEvidence (checkpoint : InstallCheckpoint) : Option InstallRecord :=
  match checkpoint with
  | ⟨none, none, none, some key, none, none⟩ =>
    if record.protectedKey.isNone then some { record with protectedKey := some key } else none
  | ⟨none, none, none, none, some runtime, none⟩ =>
    if record.protectedKey.isSome && record.runtime.isNone then some { record with runtime := some runtime } else none
  | ⟨none, some path, some version, none, none, none⟩ =>
    if record.runtime.isSome && record.dataRelativePath.isNone && record.dataSchemaVersion.isNone then
      some { record with dataRelativePath := some path, dataSchemaVersion := some version }
    else none
  | ⟨none, none, none, none, none, some task⟩ =>
    if record.dataRelativePath.isSome && record.dataSchemaVersion.isSome && record.scheduledTask.isNone then
      some { record with scheduledTask := some task }
    else none
  | _ => none

def checkpoint (expectedRevision : UInt64) (checkpoint : InstallCheckpoint) (updatedAtUs : Int64) :
    Except InstallRecordError InstallRecord := do
  record.ensureCas expectedRevision updatedAtUs
  ensure (record.state = .installing) checkpointRequiresInstalling
  let revision ← nextRevision record.revision
  let next ← required invalidCheckpointStep (record.withEvidence checkpoint)
  let next := { next with revision, updatedAtUs }
  next.validate
  return next

def transition (expectedRevision : UInt64) (nextState : InstallState) (updatedAtUs : Int64) :
    Except InstallRecordError InstallRecord := do
  record.ensureCas expectedRevision updatedAtUs
  ensure (isLegalTransition record.state nextState = true) illegalTransition
  let revision ← nextRevision record.revision
  let next := { record with state := nextState, revision, updatedAtUs }
  next.validate
  return next

/-- The checkpoint that the difference to a next record amounts to. -/
def difference (next : InstallRecord) : InstallCheckpoint where
  productRelativePath := changed record.productRelativePath next.productRelativePath
  dataRelativePath := changed record.dataRelativePath next.dataRelativePath
  dataSchemaVersion := changed record.dataSchemaVersion next.dataSchemaVersion
  protectedKey := changed record.protectedKey next.protectedKey
  runtime := changed record.runtime next.runtime
  scheduledTask := changed record.scheduledTask next.scheduledTask

def validateSuccessor (next : InstallRecord) : Except InstallRecordError Unit := do
  record.validate
  next.validate
  let derived ←
    if record.state = next.state then
      record.checkpoint record.revision (record.difference next) next.updatedAtUs
    else record.transition record.revision next.state next.updatedAtUs
  ensure (derived = next) evidenceConflict

end InstallRecord

end AgentMesh.Install
