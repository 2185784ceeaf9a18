import AgentMesh.Daemon.Writer

/-! What the store keeps besides tasks: blobs and the references to them, reader leases, worktrees and the intents of
the garbage collector, with the operations that publish, reference, lease, mark and delete. -/
namespace AgentMesh.Daemon
open Library

structure BlobObjectRow where
  hash : String
  byteLength : Nat
  publishedAt : Int

structure BlobRefRow where
  ownerKind : String
  ownerId : String
  field : String
  hash : String
  eligibleAt : Option Int

structure BlobStagingRow where
  stagingId : String
  expectedHash : String
  byteLength : Nat
  createdAt : Int

/-- The name of the file a staging row stands for. -/
def stagedName (stagingId : String) : String := stagingId ++ ".part"

structure LeaseRow where
  leaseId : String
  leaseEpoch : Int
  heartbeatAt : Int
  expiresAt : Int

structure LeaseItemRow where
  leaseId : String
  resourceKind : String
  resourceId : String

inductive IntentState where
  | marked
  | deleted
  | failed
  deriving DecidableEq, Repr

/-- A random token of thirty-two bytes in hexadecimal. -/
def FenceToken : Type := { text : String // text.length = 64 }

instance : DecidableEq FenceToken := inferInstanceAs (DecidableEq { text : String // text.length = 64 })

structure GcIntentRow where
  resourceKind : String
  resourceId : String
  state : IntentState
  byteLength : Nat
  fenceToken : FenceToken
  attempts : Nat
  markedAt : Int
  finishedAt : Option Int
  errorDigest : Option String

inductive WorktreeState where
  | active
  | retained
  | gcMarked
  | deleted
  deriving DecidableEq, Repr

structure WorktreeRow where
  worktreeId : String
  taskId : String
  path : String
  terminalState : Option TaskState
  terminalAt : Option Int
  ackedAt : Option Int
  state : WorktreeState

/-- A file under the blob directory; its path is its digest. -/
structure BlobFile where
  digest : String
  bytes : Bytes

/-- A file under the staging directory. -/
structure StagedFile where
  name : String
  bytes : Bytes

/-- The database with the blob files it describes. -/
structure Vault where
  store : Store
  blobObjects : Table BlobObjectRow.hash
  blobRefs : Table fun row : BlobRefRow => (row.ownerKind, row.ownerId, row.field)
  blobStaging : Table BlobStagingRow.stagingId
  leases : Table LeaseRow.leaseId
  leaseItems : Table fun row : LeaseItemRow => (row.leaseId, row.resourceKind, row.resourceId)
  intents : Table fun row : GcIntentRow => (row.resourceKind, row.resourceId)
  worktrees : Table WorktreeRow.worktreeId
  leaseEpoch : Int
  blobFiles : Table BlobFile.digest
  stagedFiles : Table StagedFile.name

def Vault.initial : Vault where
  store := .initial
  blobObjects := .empty
  blobRefs := .empty
  blobStaging := .empty
  leases := .empty
  leaseItems := .empty
  intents := .empty
  worktrees := .empty
  leaseEpoch := 0
  blobFiles := .empty
  stagedFiles := .empty

structure GcCandidate where
  resourceKind : String
  resourceId : String
  byteLength : Nat
  fenceToken : FenceToken

structure GcDeletionPlan where
  candidate : GcCandidate
  exactPath : String

/-- How far a call of `publish_blob` for new content got before it was cut off: to no write at all, to the staging row,
to some of the staged bytes, to the rename, or to its end. -/
inductive PublishCut where
  | begun
  | rowStaged
  | partlyWritten (count : Nat)
  | renamed
  | completed
  deriving DecidableEq, Repr

def leaseTtlUs : Int := 60000000
def leaseHeartbeatUs : Int := 20000000
def gcBatchRows : Nat := 100
def gcBatchBytes : Nat := 64 * 1024 * 1024

/-- Whether a worktree's retention is over at a time. -/
def WorktreeRow.expired (row : WorktreeRow) (now : Int) : Bool :=
  row.state = .retained && row.terminalAt.any fun terminalAt =>
    (row.terminalState = some .succeeded && row.ackedAt.any fun ackedAt => ackedAt ≤ subTime now (7 * dayUs)) ||
    ((row.terminalState = some .failed || row.terminalState = some .cancelled ||
      row.terminalState = some .needsAttention) && terminalAt ≤ subTime now (30 * dayUs))

namespace Vault

variable (codec : Codec) (vault : Vault) (ambient : Ambient) (candidate : GcCandidate)

def bumpMutationEpoch (vault : Vault) : Vault := { vault with store := vault.store.bumpMutationEpoch }

/-- `register_worktree`; `inside` says whether the canonical path lies under the data root. -/
def registerWorktree (worktreeId taskId path : String) (inside : Bool) (vault : Vault) : Checked Vault := do
  ensureMutationAllowed ambient false
  ensure (inside = true) (StorageError.invalidRoot path)
  ensure ((vault.store.tasks.lookup taskId).isSome = true ∧ ∀ row ∈ vault.worktrees.rows, row.path ≠ path)
    (StorageError.sql .constraintViolation)
  let worktrees ← insertRow vault.worktrees
    { worktreeId, taskId, path, terminalState := none, terminalAt := none, ackedAt := none, state := .active }
  return { vault with worktrees }.bumpMutationEpoch

/-- `verify_blob`: a file has the length and the digest it should have. -/
def verifyBlob (bytes : Bytes) (digest : String) (length : Nat) : Checked Unit :=
  ensure (bytes.length = length ∧ codec.sha256Hex bytes = digest) (StorageError.blobCorruption digest)

/-- `INSERT OR IGNORE INTO blob_objects`. -/
def recordObject (hash : String) (byteLength : Nat) (now : Int) : Vault :=
  { vault with
    blobObjects := (vault.blobObjects.insert? { hash, byteLength, publishedAt := now }).getD vault.blobObjects }

def writeStaged (name : String) (bytes : Bytes) : Vault :=
  let rest := vault.stagedFiles.delete fun file => file.name = name
  { vault with stagedFiles := (rest.insert? ⟨name, bytes⟩).getD rest }

/-- `atomic_publish`: rename a staged file to its digest path. -/
def publishFile (name digest : String) (bytes : Bytes) : Vault :=
  let rest := vault.blobFiles.delete fun file => file.digest = digest
  { vault with
    stagedFiles := vault.stagedFiles.delete fun file => file.name = name
    blobFiles := (rest.insert? ⟨digest, bytes⟩).getD rest }

def unstage (stagingId : String) : Vault :=
  { vault with blobStaging := vault.blobStaging.delete fun row => row.stagingId = stagingId }

/-- `publish_blob`, up to the point where it is cut off. -/
def publishBlob (stagingId : String) (bytes : Bytes) (cut : PublishCut) (now : Int) (vault : Vault) :
    Checked Vault := do
  ensureMutationAllowed ambient false
  ensureCapacity ambient bytes.length
  let digest := codec.sha256Hex bytes
  match vault.blobFiles.lookup digest with
  | some file =>
    verifyBlob codec file.bytes digest bytes.length
    -- The content is there: a single transaction records it.
    match cut with
    | .completed => return (vault.recordObject digest bytes.length now).bumpMutationEpoch
    | _ => return vault
  | none =>
    let blobStaging ← insertRow vault.blobStaging
      { stagingId, expectedHash := digest, byteLength := bytes.length, createdAt := now }
    let staged := { vault with blobStaging }
    match cut with
    | .begun => return vault
    | .rowStaged => return staged
    | .partlyWritten count => return staged.writeStaged (stagedName stagingId) (bytes.take count)
    | .renamed => return staged.publishFile (stagedName stagingId) digest bytes
    | .completed =>
      return (((staged.publishFile (stagedName stagingId) digest bytes).recordObject digest bytes.length now).unstage
        stagingId).bumpMutationEpoch

/-- `reference_blob`. A reference that is redirected keeps its eligibility. -/
def referenceBlob (ownerKind ownerId field digest : String) (vault : Vault) : Checked Vault := do
  ensureMutationAllowed ambient false
  ensure (isLowerSha256 digest = true) (StorageError.blobCorruption "invalid digest")
  let file ← required .io (vault.blobFiles.lookup digest)
  verifyBlob codec file.bytes digest file.bytes.length
  ensure ((vault.blobObjects.lookup digest).isSome = true) (StorageError.sql .constraintViolation)
  let blobRefs := (vault.blobRefs.insert? { ownerKind, ownerId, field, hash := digest, eligibleAt := none }).getD
    (vault.blobRefs.update (fun row => row.ownerKind = ownerKind ∧ row.ownerId = ownerId ∧ row.field = field)
      (fun row => { row with hash := digest }) (fun _ => rfl))
  let blobObjects := vault.blobObjects.update (fun row => row.hash = digest)
    (fun row => { row with byteLength := file.bytes.length }) (fun _ => rfl)
  return { vault with blobRefs, blobObjects }.bumpMutationEpoch

def isMarked (resourceKind resourceId : String) : Bool :=
  (vault.intents.lookup (resourceKind, resourceId)).any fun row => row.state = .marked

/-- `acquire_lease`: take or renew a lease of the current epoch and add a resource to it. -/
def acquireLease (leaseId resourceKind resourceId : String) (epoch now : Int) (vault : Vault) : Checked Vault := do
  ensureMutationAllowed ambient true
  ensure (epoch = vault.leaseEpoch ∧ 0 ≤ now) StorageError.staleGeneration
  ensure (((vault.leases.lookup leaseId).all fun prior => prior.leaseEpoch ≠ epoch ||
    (now ≤ prior.expiresAt && now ≤ addTime prior.heartbeatAt leaseHeartbeatUs)) = true) StorageError.staleGeneration
  ensure (vault.isMarked resourceKind resourceId = false) (StorageError.quarantined "resource is fenced for GC")
  let leases := (vault.leases.insert?
      { leaseId, leaseEpoch := epoch, heartbeatAt := now, expiresAt := addTime now leaseTtlUs }).getD
    (vault.leases.update (fun row => row.leaseId = leaseId)
      (fun row => { row with leaseEpoch := epoch, heartbeatAt := now, expiresAt := addTime now leaseTtlUs })
      (fun _ => rfl))
  let leaseItems := (vault.leaseItems.insert? { leaseId, resourceKind, resourceId }).getD vault.leaseItems
  return { vault with leases, leaseItems }

def dropLeases (selects : LeaseRow → Bool) : Vault :=
  { vault with
    leases := vault.leases.delete selects
    leaseItems := vault.leaseItems.delete fun item => (vault.leases.lookup item.leaseId).any selects }

/-- `release_lease`; the answer says whether there was such a lease. -/
def releaseLease (leaseId : String) (epoch : Int) (vault : Vault) : Checked (Bool × Vault) := do
  ensureMutationAllowed ambient true
  let selects (row : LeaseRow) : Bool := row.leaseId = leaseId && row.leaseEpoch = epoch
  return (vault.leases.rows.any selects, vault.dropLeases selects)

def leased (resourceKind resourceId : String) (now : Int) : Bool :=
  vault.leaseItems.rows.any fun item => item.resourceKind = resourceKind && item.resourceId = resourceId &&
    (vault.leases.lookup item.leaseId).any fun lease => now < lease.expiresAt

/-- The rows of `finalize` outside the task tables: the task's worktrees. -/
def retainWorktrees (taskId : String) (terminal : TaskState) (now : Int) : Vault :=
  { vault with
    worktrees := vault.worktrees.update (fun row => row.taskId = taskId)
      (fun row => { row with terminalState := some terminal, terminalAt := some now, state := .retained })
      (fun _ => rfl) }

/-- When a reference of a task that ended and was acknowledged may be dropped. -/
def eligibleFrom (terminalAt ackedAt : Int) : Int :=
  max (addTime terminalAt (14 * dayUs)) (addTime ackedAt (7 * dayUs))

/-- The rows of `review_and_ack` outside the task tables: the references of the task and of its result, and the task's
worktrees. -/
def releaseEvidence (taskId resultId : String) (terminalAt now : Int) : Vault :=
  { vault with
    blobRefs := vault.blobRefs.update (fun row => row.ownerId = taskId ∨ row.ownerId = resultId)
      (fun row => { row with eligibleAt := some (eligibleFrom terminalAt now) }) (fun _ => rfl)
    worktrees := vault.worktrees.update (fun row => row.taskId = taskId)
      (fun row => { row with
        ackedAt := some now, state := if row.state = .active then .retained else row.state }) (fun _ => rfl) }

/-- What a committed request writes outside the task tables. Only a terminal commit and a first acknowledgement
write there; a repeated command writes nothing. -/
def withEvidence (before : Store) (request : Request) (vault : Vault) : Checked Vault :=
  match request with
  | .finalize _ _ _ consumerId commandKey _ taskId _ terminal _ now =>
    if (before.commands.lookup (consumerId, "finalize", commandKey)).isSome then return vault
    else return vault.retainWorktrees taskId terminal now
  | .reviewAndAck _ _ consumerId commandKey _ delivery _ _ now =>
    match before.commands.lookup (consumerId, "review_ack", commandKey), before.ackRow consumerId delivery with
    | none, some (entry, task, _) =>
      if entry.ackedAt.isSome then return vault
      else do
        let terminalAt ← queryRow task.terminalAt
        return vault.releaseEvidence delivery.taskId delivery.resultId terminalAt now
    | _, _ => return vault
  | _ => return vault

def commit (request : Request) (vault : Vault) : Checked Vault := do
  let store ← execute codec request vault.store
  { vault with store }.withEvidence vault.store request

/-- Whether a blob may be collected: it is unreferenced for a day or every reference is eligible, and it is neither
leased nor already marked. -/
def blobCollectable (now : Int) (blob : BlobObjectRow) : Bool :=
  let refs := vault.blobRefs.slice BlobRefRow.hash blob.hash
  (if refs.isEmpty then blob.publishedAt ≤ now - dayUs
    else refs.all fun ref => ref.eligibleAt.any fun eligibleAt => eligibleAt ≤ now) &&
  !vault.leased "blob" blob.hash now && !vault.isMarked "blob" blob.hash

def worktreeCollectable (now : Int) (row : WorktreeRow) : Bool :=
  row.expired now && !vault.leased "worktree" row.worktreeId now &&
    !vault.isMarked "worktree" row.worktreeId

/-- The blobs that fit into a batch with `bytes` in it already. -/
def fitBytes (bytes : Nat) : List BlobObjectRow → List BlobObjectRow
  | [] => []
  | blob :: blobs =>
    if gcBatchBytes < bytes + blob.byteLength then []
    else blob :: fitBytes (bytes + blob.byteLength) blobs

/-- The blobs one call marks: the oldest ones, and always at least one of them. -/
def blobBatch (now : Int) : List BlobObjectRow :=
  match ((vault.blobObjects.rows.filter (vault.blobCollectable now)).insertionSort
      fun first second => first.publishedAt ≤ second.publishedAt).take gcBatchRows with
  | [] => []
  | blob :: blobs => blob :: fitBytes blob.byteLength blobs

/-- The worktrees one call marks, as many as there is room for. -/
def worktreeBatch (room : Nat) (now : Int) : List WorktreeRow :=
  ((vault.worktrees.rows.filter (vault.worktreeCollectable now)).insertionSort
    fun first second => first.terminalAt.getD 0 ≤ second.terminalAt.getD 0).take room

/-- The candidates of one call, each with the token drawn for it. -/
def gcCandidates (draw : String × String → FenceToken) (now : Int) : List GcCandidate :=
  let blobs := (vault.blobBatch now).map fun blob =>
    { resourceKind := "blob", resourceId := blob.hash, byteLength := blob.byteLength,
      fenceToken := draw ("blob", blob.hash) }
  let worktrees := (vault.worktreeBatch (gcBatchRows - blobs.length) now).map fun row =>
    { resourceKind := "worktree", resourceId := row.worktreeId, byteLength := 0,
      fenceToken := draw ("worktree", row.worktreeId) }
  blobs ++ worktrees

/-- What keeps a task from being compacted: an unexpired lease or a worktree that still exists. -/
def pinned (taskId : String) (now : Int) : Bool :=
  vault.leased "task" taskId now || vault.worktrees.rows.any fun row => row.taskId = taskId && row.state ≠ .deleted

/-- The tasks one call compacts, the oldest ones first. -/
def compactableTasks (now : Int) : List TaskRow :=
  ((vault.store.tasks.rows.filter fun task => vault.store.compactable (vault.pinned task.taskId now) task now)
    |>.insertionSort fun first second => first.terminalAt.getD 0 ≤ second.terminalAt.getD 0).take 100

/-- Whether a reference belongs to a task or to its result. -/
def ownedBy (store : Store) (taskId : String) (ref : BlobRefRow) : Bool :=
  ref.ownerId = taskId || (store.results.lookup (taskId, 1)).any fun result => ref.ownerId = result.resultId

/-- One iteration of `compact_eligible_tasks`. -/
def compactTask (taskId : String) (now : Int) (vault : Vault) : Checked Vault := do
  let store ← vault.store.compactTask (vault.pinned taskId now) taskId now
  return { vault with
    store
    blobRefs := vault.blobRefs.delete (ownedBy vault.store taskId)
    worktrees := vault.worktrees.delete fun row => row.taskId = taskId && row.state = .deleted }

/-- The loop of `compact_eligible_tasks`. -/
def compactTasks (now : Int) : List String → Vault → Checked Vault
  | [], vault => return vault
  | taskId :: taskIds, vault => do
    let vault ← vault.compactTask taskId now
    vault.compactTasks now taskIds

def fence (now : Int) (vault : Vault) : Checked Vault := do
  let intents ← insertRow vault.intents
    { resourceKind := candidate.resourceKind, resourceId := candidate.resourceId, state := .marked,
      byteLength := candidate.byteLength, fenceToken := candidate.fenceToken, attempts := 0, markedAt := now,
      finishedAt := none, errorDigest := none }
  let worktrees := vault.worktrees.update
    (fun row => candidate.resourceKind = "worktree" ∧ row.worktreeId = candidate.resourceId)
    (fun row => { row with state := .gcMarked }) (fun _ => rfl)
  return { vault with intents, worktrees }

def fenceAll (now : Int) : List GcCandidate → Vault → Checked Vault
  | [], vault => return vault
  | candidate :: candidates, vault => do
    let vault ← vault.fence candidate now
    vault.fenceAll now candidates

def markRetentionGc (draw : String × String → FenceToken) (now : Int) (vault : Vault) :
    Checked (List GcCandidate × Vault) := do
  ensureMutationAllowed ambient false
  let vault := vault.dropLeases fun lease => lease.expiresAt ≤ now
  let vault ← vault.compactTasks now ((vault.compactableTasks now).map TaskRow.taskId)
  let candidates := vault.gcCandidates draw now
  let vault ← vault.fenceAll now candidates
  return (candidates, vault.bumpMutationEpoch)

/-- `prepare_gc_deletion`; `inside` says whether a worktree's path lies under the data root. -/
def prepareGcDeletion (inside : String → Bool) (resourceKind resourceId : String) (vault : Vault) :
    Checked GcDeletionPlan := do
  let intent ← queryRow ((vault.intents.lookup (resourceKind, resourceId)).filter fun row => row.state = .marked)
  let exactPath ←
    if resourceKind = "blob" ∧ isLowerSha256 resourceId = true then pure resourceId
    else if resourceKind = "worktree" then do
      let row ← queryRow ((vault.worktrees.lookup resourceId).filter fun row => row.state = WorktreeState.gcMarked)
      ensure (inside row.path = true) (StorageError.quarantined "GC path escaped data root")
      pure row.path
    else throw (.quarantined "unknown GC resource")
  return { candidate := { resourceKind, resourceId, byteLength := intent.byteLength, fenceToken := intent.fenceToken },
           exactPath }

/-- The deletion of a planned blob file, which the collector makes between the plan and its end. -/
def unlinkBlob (digest : String) (vault : Vault) : Checked Vault := do
  let plan ← vault.prepareGcDeletion (fun _ => true) "blob" digest
  return { vault with blobFiles := vault.blobFiles.delete fun file => file.digest = plan.exactPath }

def closeIntent (state : IntentState) (errorDigest : Option String) (now : Int) : Vault :=
  { vault with
    intents := vault.intents.update
      (fun row => row.resourceKind = candidate.resourceKind ∧ row.resourceId = candidate.resourceId ∧
        row.fenceToken = candidate.fenceToken)
      (fun row => { row with state, attempts := row.attempts + 1, finishedAt := some now, errorDigest })
      (fun _ => rfl) }

def finishGcDeletion (success : Bool) (errorDigest : Option String) (now : Int) (vault : Vault) : Checked Vault := do
  ensureMutationAllowed ambient false
  ensure (((vault.intents.lookup (candidate.resourceKind, candidate.resourceId)).any fun row =>
    row.state = .marked && row.fenceToken = candidate.fenceToken) = true) StorageError.staleGeneration
  if success then
    if candidate.resourceKind = "blob" then
      return ({ vault with
        blobRefs := vault.blobRefs.delete fun row => row.hash = candidate.resourceId
        blobObjects := vault.blobObjects.delete fun row => row.hash = candidate.resourceId }.closeIntent candidate
          .deleted none now).bumpMutationEpoch
    else if candidate.resourceKind = "worktree" then
      return ({ vault with
        worktrees := vault.worktrees.update
          (fun row => row.worktreeId = candidate.resourceId ∧ row.state = WorktreeState.gcMarked)
          (fun row => { row with state := .deleted }) (fun _ => rfl) }.closeIntent candidate
            .deleted none now).bumpMutationEpoch
    else throw (.quarantined "unknown GC resource")
  else return (vault.closeIntent candidate .failed (some (errorDigest.getD "unknown")) now).bumpMutationEpoch

/-- One iteration of `recover_staged_blobs`. -/
def recoverStagedBlob (row : BlobStagingRow) (now : Int) (vault : Vault) : Checked Vault :=
  match vault.blobFiles.lookup row.expectedHash, vault.stagedFiles.lookup (stagedName row.stagingId) with
  | some file, _ => do
    verifyBlob codec file.bytes row.expectedHash row.byteLength
    return (vault.recordObject row.expectedHash row.byteLength now).unstage row.stagingId
  | none, some file => do
    verifyBlob codec file.bytes row.expectedHash row.byteLength
    return ((vault.publishFile (stagedName row.stagingId) row.expectedHash file.bytes).recordObject row.expectedHash
      row.byteLength now).unstage row.stagingId
  | none, none => return vault.unstage row.stagingId

/-- The loop of `recover_staged_blobs`. Every row commits on its own, so an error keeps the earlier ones. -/
def recoverStagedRows (codec : Codec) (now : Int) : List BlobStagingRow → Vault → Checked Unit × Vault
  | [], vault => (.ok (), vault)
  | row :: rows, vault =>
    match vault.recoverStagedBlob codec row now with
    | .error error => (.error error, vault)
    | .ok vault => vault.recoverStagedRows codec now rows

def recoverStagedBlobs (now : Int) (vault : Vault) : Checked Unit × Vault :=
  vault.recoverStagedRows codec now
    (vault.blobStaging.rows.insertionSort fun first second => first.createdAt ≤ second.createdAt)

/-- `verify_mandatory_blob_refs` for a list of references. -/
def verifyRefs (codec : Codec) (vault : Vault) : List BlobRefRow → Checked Unit
  | [] => return ()
  | ref :: refs => do
    match vault.blobObjects.lookup ref.hash with
    | none => vault.verifyRefs codec refs
    | some blob =>
      let file ← required .io (vault.blobFiles.lookup blob.hash)
      verifyBlob codec file.bytes blob.hash blob.byteLength
      vault.verifyRefs codec refs

def verifyMandatoryBlobRefs : Checked Unit :=
  vault.verifyRefs codec vault.blobRefs.rows

/-- The checks of `startup_integrity_check` after the staged blobs are settled. `verifyEvidence` stands for the
read-only checks of requests, answers, reviews and the improvement engine. -/
def verifyAndReplay (verifyEvidence : Store → Checked Unit) (now : Int) (vault : Vault) : Checked Unit × Vault :=
  match vault.verifyMandatoryBlobRefs codec, verifyEvidence vault.store with
  | .error error, _ => (.error error, vault)
  | .ok _, .error error => (.error error, vault)
  | .ok _, .ok _ =>
    let (answer, store) := vault.store.replayProjections now
    (answer, { vault with store })

/-- Opening the store: a new lease epoch, then `startup_integrity_check`. -/
def reopen (verifyEvidence : Store → Checked Unit) (now : Int) (vault : Vault) : Checked Unit × Vault :=
  let vault := { vault with leaseEpoch := vault.leaseEpoch + 1 }
  match vault.store.integrityCheck with
  | .error error => (.error error, vault)
  | .ok _ =>
    match vault.recoverStagedBlobs codec now with
    | (.error error, vault) => (.error error, vault)
    | (.ok _, vault) => vault.verifyAndReplay codec verifyEvidence now

end Vault

/-- One call of the storage, or one opening of it. -/
inductive Operation where
  | commit (request : Request)
  | registerWorktree (ambient : Ambient) (worktreeId taskId path : String) (inside : Bool)
  | publishBlob (ambient : Ambient) (stagingId : String) (bytes : Bytes) (cut : PublishCut) (now : Int)
  | referenceBlob (ambient : Ambient) (ownerKind ownerId field digest : String) (now : Int)
  | acquireLease (ambient : Ambient) (leaseId resourceKind resourceId : String) (epoch now : Int)
  | releaseLease (ambient : Ambient) (leaseId : String) (epoch : Int)
  | markRetentionGc (ambient : Ambient) (draw : String × String → FenceToken) (now : Int)
  | unlinkBlob (digest : String)
  | finishGcDeletion (ambient : Ambient) (candidate : GcCandidate) (success : Bool) (errorDigest : Option String)
      (now : Int)
  | reopen (verifyEvidence : Store → Checked Unit) (now : Int)

/-- The vault an operation leaves, or the error that left it as it was. A failed opening leaves what it repaired. -/
def operate (codec : Codec) (operation : Operation) (vault : Vault) : Checked Vault :=
  match operation with
  | .commit request => vault.commit codec request
  | .registerWorktree ambient worktreeId taskId path inside =>
    vault.registerWorktree ambient worktreeId taskId path inside
  | .publishBlob ambient stagingId bytes cut now => vault.publishBlob codec ambient stagingId bytes cut now
  | .referenceBlob ambient ownerKind ownerId field digest _ =>
    vault.referenceBlob codec ambient ownerKind ownerId field digest
  | .acquireLease ambient leaseId resourceKind resourceId epoch now =>
    vault.acquireLease ambient leaseId resourceKind resourceId epoch now
  | .releaseLease ambient leaseId epoch => Prod.snd <$> vault.releaseLease ambient leaseId epoch
  | .markRetentionGc ambient draw now => Prod.snd <$> vault.markRetentionGc ambient draw now
  | .unlinkBlob digest => vault.unlinkBlob digest
  | .finishGcDeletion ambient candidate success errorDigest now =>
    vault.finishGcDeletion ambient candidate success errorDigest now
  | .reopen verifyEvidence now => pure (vault.reopen codec verifyEvidence now).2

/-- The identifiers the writer draws are fresh UUIDs: no task takes the identifier of a compacted task or of a result,
no result that of a task, no staged file that of another. Tasks are compacted by the collector only. -/
def Operation.admissible (vault : Vault) : Operation → Prop
  | .commit (.submit _ _ _ _ _ taskId _ _ _ _) =>
    vault.store.tombstones.lookup taskId = none ∧ ∀ result ∈ vault.store.results.rows, result.resultId ≠ taskId
  | .commit (.finalize _ resultId _ _ _ _ _ _ _ _ _) => vault.store.tasks.lookup resultId = none
  | .commit (.compactTask _ _ _) => False
  | .publishBlob _ stagingId _ _ _ => vault.stagedFiles.lookup (stagedName stagingId) = none
  | _ => True

def Performed (codec : Codec) (permitted : Operation → Vault → Prop) (before after : Vault) : Prop :=
  ∃ operation : Operation, operation.admissible before ∧ permitted operation before ∧
    operate codec operation before = .ok after

/-- The vaults a daemon can leave behind when it performs permitted operations only. -/
def VaultReachable (codec : Codec) (permitted : Operation → Vault → Prop) (vault : Vault) : Prop :=
  Relation.ReflTransGen (Performed codec permitted) Vault.initial vault

instance (vault : Vault) (operation : Operation) : Decidable (operation.admissible vault) := by
  unfold Operation.admissible
  split <;> infer_instance

/-- Perform operations in order, as long as each is permitted and succeeds. -/
def Vault.script (codec : Codec) (permitted : Operation → Vault → Prop)
    [∀ operation vault, Decidable (permitted operation vault)] : List Operation → Vault → Option Vault
  | [], vault => some vault
  | operation :: operations, vault =>
    if operation.admissible vault ∧ permitted operation vault then
      match operate codec operation vault with
      | .ok next => next.script codec permitted operations
      | .error _ => none
    else none

theorem performed_of_script {codec : Codec} {permitted : Operation → Vault → Prop}
    [∀ operation vault, Decidable (permitted operation vault)] {operations : List Operation} {vault last : Vault}
    (done : vault.script codec permitted operations = some last) :
    Relation.ReflTransGen (Performed codec permitted) vault last := by
  induction operations generalizing vault with
  | nil =>
    cases done
    exact .refl
  | cons operation operations ih =>
    unfold Vault.script at done
    split at done
    · rename_i allowed
      split at done
      · rename_i next performed
        exact .head ⟨operation, allowed.1, allowed.2, performed⟩ (ih done)
      · cases done
    · cases done

/-- A script that ends in a vault with a property shows that such a vault is reachable. -/
theorem exists_of_vault_script {codec : Codec} {permitted : Operation → Vault → Prop}
    [∀ operation vault, Decidable (permitted operation vault)] (operations : List Operation) {property : Vault → Prop}
    [DecidablePred property]
    (holds : ((Vault.initial.script codec permitted operations).any fun vault => property vault) = true) :
    ∃ vault, VaultReachable codec permitted vault ∧ property vault := by
  cases done : Vault.initial.script codec permitted operations with
  | none => simp [done] at holds
  | some vault => exact ⟨vault, performed_of_script done, by simpa [done] using holds⟩

/-! Arguments of scripted runs on the vault. -/
namespace Script

def token (_ : String × String) : FenceToken := ⟨digest, by decide⟩

def publish (text : String) (now : Int) : Operation := .publishBlob ambient s!"staging:{text}" (utf8 text) .completed now

def mark (now : Int) : Operation := .markRetentionGc ambient token now

end Script

end AgentMesh.Daemon
