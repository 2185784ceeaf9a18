import AgentMesh.Daemon.Retention

/-! Backups of the database: `create_backup` and `verify_restore_allowed`. File names are relative to the backup
directory. -/
namespace AgentMesh.Daemon
open Library

structure BackupManifest where
  backupId : String
  snapshotFile : String
  sourceSchema : Int
  databaseSha256 : String
  binaryVersion : String
  installId : String
  mutationEpoch : Int
  deriving DecidableEq, Repr

structure MigrationBackupRow where
  backupId : String
  manifestPath : String
  sourceSchema : Int
  databaseSha256 : String
  mutationEpoch : Int
  createdAt : Int

structure SnapshotFile where
  name : String
  bytes : Bytes

/-- A published manifest; a file that does not parse has no contents. -/
structure ManifestFile where
  name : String
  contents : Option BackupManifest

/-- A vault with the identity of its installation and its backups. -/
structure Installation where
  vault : Vault
  installId : String
  migrationBackups : Table MigrationBackupRow.backupId
  snapshotFiles : Table SnapshotFile.name
  manifestFiles : Table ManifestFile.name

def schemaVersion : Int := 7

def snapshotName (backupId : String) : String := backupId ++ ".sqlite3"

def manifestName (backupId : String) : String := backupId ++ ".manifest.json"

/-- Whether a file name is one normal path component. -/
def isNormalComponent (name : String) : Bool :=
  name ≠ "" && name ≠ "." && name ≠ ".." && name.toList.all fun char => char ≠ '/' && char ≠ '\\'

namespace Installation

/-- `create_backup`. The bytes of the snapshot are what SQLite's online backup writes for the database, and
`quickCheck` is its answer about the copy. -/
def createBackup (codec : Codec) (ambient : Ambient) (image : Installation → Bytes) (quickCheck : Bool)
    (backupId binaryVersion : String) (now : Int) (installation : Installation) :
    Checked (BackupManifest × Installation) := do
  ensureMutationAllowed ambient false
  let bytes := image installation
  ensure (quickCheck = true) (StorageError.quarantined "backup quick_check failed")
  let manifest : BackupManifest :=
    { backupId, snapshotFile := snapshotName backupId, sourceSchema := schemaVersion,
      databaseSha256 := codec.sha256Hex bytes, binaryVersion, installId := installation.installId,
      mutationEpoch := installation.vault.store.mutationEpoch }
  let migrationBackups ← insertRow installation.migrationBackups
    { backupId, manifestPath := manifestName backupId, sourceSchema := schemaVersion,
      databaseSha256 := manifest.databaseSha256, mutationEpoch := manifest.mutationEpoch, createdAt := now }
  return (manifest, { installation with
    migrationBackups
    snapshotFiles := installation.snapshotFiles.put ⟨manifest.snapshotFile, bytes⟩
    manifestFiles := installation.manifestFiles.put ⟨manifestName backupId, some manifest⟩ })

def verifyRestoreAllowed (codec : Codec) (manifest : BackupManifest) (installation : Installation) : Checked Unit := do
  ensure (isNormalComponent manifest.snapshotFile = true) StorageError.restoreRefused
  ensure (manifest.installId = installation.installId ∧
    manifest.mutationEpoch = installation.vault.store.mutationEpoch ∧ manifest.sourceSchema = schemaVersion)
    StorageError.restoreRefused
  let snapshot ← required .restoreRefused (installation.snapshotFiles.lookup manifest.snapshotFile)
  ensure (codec.sha256Hex snapshot.bytes = manifest.databaseSha256) StorageError.restoreRefused
  let stored ← required .restoreRefused (installation.migrationBackups.lookup manifest.backupId)
  let published ← required .io (installation.manifestFiles.lookup (manifestName manifest.backupId))
  let contents ← required (.migrationMismatch "manifest") published.contents
  ensure (stored.databaseSha256 = manifest.databaseSha256 ∧ stored.sourceSchema = manifest.sourceSchema ∧
    stored.manifestPath = manifestName manifest.backupId ∧ contents = manifest) StorageError.restoreRefused

end Installation

/-- One operation on the vault of an installation, or one more backup of it. -/
inductive Serves (codec : Codec) (image : Installation → Bytes) (permitted : Operation → Vault → Prop) :
    Installation → Installation → Prop where
  | operated {before : Installation} {vault : Vault} (operation : Operation)
      (admissible : operation.admissible before.vault) (allowed : permitted operation before.vault)
      (done : operate codec operation before.vault = .ok vault) : Serves codec image permitted before
        { before with vault }
  | backedUp {before after : Installation} {ambient : Ambient} {quickCheck : Bool} {backupId binaryVersion : String}
      {now : Int} {manifest : BackupManifest}
      (done : before.createBackup codec ambient image quickCheck backupId binaryVersion now = .ok (manifest, after)) :
      Serves codec image permitted before after

end AgentMesh.Daemon
