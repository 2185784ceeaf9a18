import AgentMesh.Install.Text

/-! The stable slot of `install_store.rs`: the record file, the staging files beside it, the compare-and-swap that
publishes a record, and the deletion that ends a purge. Names of files are those under `slots\stable`. -/
namespace AgentMesh.Install
open Library Library.Literal Daemon

def maxControlFileBytes : Nat := 1024 * 1024

def maxControlDirectoryEntries : Nat := 4096

def maxControlDirectoryTotalBytes : Nat := 16 * 1024 * 1024

def stageAttempts : Nat := 8

inductive InstallStoreError where
  | compareAndSwapConflict
  | invalidRecord
  | storage
  | integrity
  | purgePrecondition
  | purgeStageDrift
  deriving DecidableEq, Repr

open InstallStoreError

def recordPath : String := "install.json"

def lockPath : String := "install.lock"

def hexDigits (nonce : UInt64) : List Char :=
  (List.range 16).map fun place => hexDigit (nonce.toNat / 16 ^ (15 - place) % 16)

/-- `stage_path` with the random number that it draws. -/
def stagePath (nonce : UInt64) : String := "install." ++ String.ofList (hexDigits nonce) ++ ".new"

def isInstallRecordStagePath (path : String) : Bool :=
  let name := path.toList
  let rest := name.drop 8
  name.take 8 = "install.".toList && rest.drop (rest.length - 4) = ".new".toList &&
    isLowerHex 16 (String.ofList (rest.take (rest.length - 4)))

def decodeRecord (bytes : Bytes) : Except InstallStoreError InstallRecord := do
  ensure (bytes.length ≤ maxControlFileBytes) integrity
  required integrity (InstallRecord.fromSlice bytes)

/-- The files of the slot. The lock file is always there. -/
structure Slot where
  record : Option Bytes
  stages : List (String × Bytes)
  deriving DecidableEq

/-- What an enumeration of the directory reports of one file. -/
structure PurgeSlotEntry where
  relativePath : String
  isRegularFile : Bool
  bytes : Option Bytes
  deriving DecidableEq

/-- What the scan of the directory has seen. -/
structure PurgeScan where
  seen : List String
  sawRecord : Bool
  sawLock : Bool
  stages : List (String × Bytes)

namespace Slot

variable (slot : Slot)

def readCurrent : Except InstallStoreError (Option (InstallRecord × Bytes)) :=
  match slot.record with
  | none => .ok none
  | some bytes => do
    let record ← decodeRecord bytes
    return some (record, bytes)

/-- The checks of `compare_and_swap_locked` before anything is written, and the bytes it will write. -/
def checkSwap (expectedRevision : UInt64) (next : InstallRecord) : Except InstallStoreError Bytes := do
  ensure (next.validate = .ok ()) invalidRecord
  match ← slot.readCurrent with
  | none =>
    ensure (expectedRevision = 0) compareAndSwapConflict
    ensure (next.validateInitial = .ok ()) invalidRecord
  | some (record, _) =>
    ensure (record.revision = expectedRevision) compareAndSwapConflict
    ensure (record.revision.toNat + 1 < 2 ^ 64) invalidRecord
    ensure (next.revision = record.revision + 1) compareAndSwapConflict
    ensure (record.validateSuccessor next = .ok ()) invalidRecord
  ensure (next.toVec.length ≤ maxControlFileBytes ∧ (decodeRecord next.toVec).toOption.isSome = true)
    invalidRecord
  return next.toVec

def withStage (path : String) (bytes : Bytes) : Slot := { slot with stages := (path, bytes) :: slot.stages }

def freePath (draws : Nat → UInt64) : Option String :=
  ((List.range stageAttempts).map fun attempt => stagePath (draws attempt)).find?
    fun path => (slot.stages.lookup path).isNone

def createVerifiedStage (bytes : Bytes) (draws : Nat → UInt64) : Except InstallStoreError (String × Slot) := do
  let path ← required storage (slot.freePath draws)
  let staged := slot.withStage path bytes
  ensure (staged.stages.lookup path = some bytes ∧ (decodeRecord bytes).toOption.isSome = true)
    integrity
  return (path, staged)

/-- `atomic_replace` and `publish_no_replace`: the stage becomes the record. -/
def publish (path : String) : Slot where
  record := slot.stages.lookup path
  stages := slot.stages.filter fun stage => stage.1 ≠ path

def compareAndSwapLocked (expectedRevision : UInt64) (next : InstallRecord) (draws : Nat → UInt64) :
    Except InstallStoreError Slot := do
  let bytes ← slot.checkSwap expectedRevision next
  let (path, staged) ← slot.createVerifiedStage bytes draws
  let published := staged.publish path
  ensure (published.readCurrent = .ok (some (next, bytes))) integrity
  return published

def entries : List PurgeSlotEntry :=
  (slot.record.toList.map fun bytes => ⟨recordPath, true, some bytes⟩) ++ ⟨lockPath, true, some []⟩ ::
    slot.stages.map fun stage => ⟨stage.1, true, some stage.2⟩

/-- `remove_regular_file`: whether the file was there. -/
def removeStage (path : String) : Bool × Slot :=
  ((slot.stages.lookup path).isSome, { slot with stages := slot.stages.filter fun stage => stage.1 ≠ path })

end Slot

/-- `enumerate_stable_control_directory`, which is bounded in the number and the bytes of the files. -/
def enumerateStableControlDirectory (listing : List PurgeSlotEntry) : Except InstallStoreError (List PurgeSlotEntry) := do
  ensure (listing.length ≤ maxControlDirectoryEntries) integrity
  ensure (∀ entry ∈ listing, ∀ bytes ∈ entry.bytes, bytes.length ≤ maxControlFileBytes) integrity
  ensure ((listing.map fun entry => (entry.bytes.getD []).length).sum ≤ maxControlDirectoryTotalBytes)
    integrity
  return listing

/-- One turn of the scan: the record, the lock and stages, each once and each a regular file. -/
def PurgeScan.add (expected : Bytes) (scan : PurgeScan) (entry : PurgeSlotEntry) :
    Except InstallStoreError PurgeScan := do
  ensure (entry.relativePath ∉ scan.seen) purgeStageDrift
  let scan := { scan with seen := entry.relativePath :: scan.seen }
  if entry.relativePath = recordPath then
    ensure (entry.isRegularFile = true ∧ entry.bytes = some expected) purgeStageDrift
    return { scan with sawRecord := true }
  else if entry.relativePath = lockPath then
    ensure (entry.isRegularFile = true) purgeStageDrift
    return { scan with sawLock := true }
  else if isInstallRecordStagePath entry.relativePath then
    ensure (entry.isRegularFile = true) purgeStageDrift
    let bytes ← required purgeStageDrift entry.bytes
    return { scan with stages := scan.stages ++ [(entry.relativePath, bytes)] }
  else throw .purgeStageDrift

def validatePurgeStage (purging : InstallRecord) (expected : Bytes) (stage : String × Bytes) :
    Except InstallStoreError Unit := do
  ensure (isInstallRecordStagePath stage.1 = true) purgeStageDrift
  let staged ← required purgeStageDrift (decodeRecord stage.2).toOption
  ensure (staged.installId = purging.installId ∧ staged.consumerId = purging.consumerId ∧
    staged.createdAtUs = purging.createdAtUs ∧ staged.revision ≤ purging.revision ∧
    staged.updatedAtUs ≤ purging.updatedAtUs ∧ staged.productRelativePath = purging.productRelativePath ∧
    staged.dataRelativePath = purging.dataRelativePath ∧ staged.dataSchemaVersion = purging.dataSchemaVersion ∧
    staged.protectedKey = purging.protectedKey ∧ staged.runtime = purging.runtime ∧
    staged.scheduledTask = purging.scheduledTask) purgeStageDrift
  ensure (staged.revision = purging.revision → stage.2 = expected) purgeStageDrift

def removeStages (slot : Slot) : List (String × Bytes) → Except InstallStoreError Slot
  | [] => .ok slot
  | stage :: stages =>
    if (slot.removeStage stage.1).1 then removeStages (slot.removeStage stage.1).2 stages
    else .error .purgeStageDrift

/-- `compare_and_delete_purging_locked` with what the directory listed. -/
def Slot.compareAndDeletePurgingLocked (slot : Slot) (expectedRevision : UInt64) (expected : Bytes)
    (listing : List PurgeSlotEntry) : Except InstallStoreError Slot := do
  let (record, current) ← required purgePrecondition (← slot.readCurrent)
  ensure (record.state = .purging ∧ record.revision = expectedRevision ∧ current = expected)
    purgePrecondition
  let entries ← enumerateStableControlDirectory listing
  let scan ← entries.foldlM (PurgeScan.add expected) ⟨[], false, false, []⟩
  ensure (scan.sawRecord = true ∧ scan.sawLock = true) purgeStageDrift
  scan.stages.forM (validatePurgeStage record expected)
  let cleaned ← removeStages slot scan.stages
  let (rechecked, bytes) ← required purgePrecondition (← cleaned.readCurrent)
  ensure (rechecked = record ∧ bytes = expected) purgePrecondition
  return { cleaned with record := none }

end AgentMesh.Install
