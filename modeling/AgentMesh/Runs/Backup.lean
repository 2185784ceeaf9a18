import AgentMesh.Daemon.Backup
import AgentMesh.Storage.Effects
import AgentMesh.Task.Ledger

/-! When a backup may be restored. A restore is refused as soon as the mutation epoch has moved on from the one in the
manifest, so everything depends on whether each change of a durable row advances the epoch. Four changes do not: the
last transaction of an expiry, the request to resume a session, the repair of a task row, and the recovery of a staged
blob. -/
namespace AgentMesh.Runs
open Library Daemon AgentMesh.Task AgentMesh.Storage Vault Store

variable {codec : Codec} {store : Store} {vault before after : Vault} {now : Int}

/-- The rows of tasks, evidence, commands, blobs and the improvement engine are the same. -/
structure SameRows (before after : Vault) : Prop where
  tasks : after.store.tasks = before.store.tasks
  events : after.store.events = before.store.events
  attempts : after.store.attempts = before.store.attempts
  interactions : after.store.interactions = before.store.interactions
  responses : after.store.responses = before.store.responses
  results : after.store.results = before.store.results
  outbox : after.store.outbox = before.store.outbox
  reviews : after.store.reviews = before.store.reviews
  commands : after.store.commands = before.store.commands
  operations : after.store.operations = before.store.operations
  canaryAssignments : after.store.canaryAssignments = before.store.canaryAssignments
  improvementTables : after.store.improvementTables = before.store.improvementTables
  improvementEngine : after.store.improvementEngine = before.store.improvementEngine
  blobRefs : after.blobRefs = before.blobRefs
  blobObjects : after.blobObjects = before.blobObjects

theorem SameRows.of_store (same : after.store = before.store) (refs : after.blobRefs = before.blobRefs)
    (objects : after.blobObjects = before.blobObjects) : SameRows before after := by
  constructor <;> first | exact refs | exact objects | rw [same]

/-- `replay_projections` has nothing to repair in a task row. -/
def Projected (store : Store) (task : TaskRow) : Prop :=
  task.evictedThroughSeq = 0 → ∀ state generation last,
    deriveProjection (store.events.slice EventRow.taskId task.taskId) = .ok (state, generation, last) →
      task.state = state ∧ task.projectionEventSeq = task.lastEventSeq

/-- `recover_staged_blobs` has nothing to record for a staging row: its object is known, or there is no file. -/
def Recorded (vault : Vault) (row : BlobStagingRow) : Prop :=
  (vault.blobObjects.lookup row.expectedHash).isSome = true ∨
    (vault.blobFiles.lookup row.expectedHash = none ∧ vault.stagedFiles.lookup (stagedName row.stagingId) = none)

/-- The operation changes no row that it does not count: no expiry is left to settle, no resumption to record, no task
row to repair and no staged blob to recover. -/
def Announced (operation : Operation) (vault : Vault) : Prop :=
  match operation with
  | .commit (.settleExpiry operationId _) =>
    ∀ row ∈ vault.store.operations.lookup operationId, row.responseLocator ≠ .text "pending-result"
  | .commit (.recordResume taskId _) => ∀ task ∈ vault.store.tasks.lookup taskId,
      (vault.store.operations.lookup s!"recovery-resume:{taskId}:{task.generation}").isSome = true
  | .commit (.replayTask taskId _) => ∀ task ∈ vault.store.tasks.lookup taskId, Projected vault.store task
  | .reopen _ _ =>
    (∀ task ∈ vault.store.tasks.rows, vault.store.replayable task = true → Projected vault.store task) ∧
      ∀ row ∈ vault.blobStaging.rows, Recorded vault row
  | _ => True

section Uncounted

theorem settleExpiry_unchanged {operationId resultId : String}
    (settled : ∀ row ∈ store.operations.lookup operationId, row.responseLocator ≠ .text "pending-result") :
    store.settleExpiry operationId resultId = store := by
  have same : store.operations.update
      (fun row => row.operationId = operationId ∧ row.responseLocator = .text "pending-result")
      (fun row => { row with responseLocator := .text resultId }) (fun _ => rfl) = store.operations := by
    apply Table.ext_rows
    apply updateWhere_of_none
    intro row member
    have pending : ¬(row.operationId = operationId ∧ row.responseLocator = .text "pending-result") := by
      rintro ⟨named, pending⟩
      exact settled row ((store.operations.lookup_eq_some _ _).mpr ⟨member, named⟩) pending
    simpa using pending
  rw [settleExpiry, same]

theorem resumeTask_unchanged {taskId : String} {last : Store}
    (asked : ∀ task ∈ store.tasks.lookup taskId,
      (store.operations.lookup s!"recovery-resume:{taskId}:{task.generation}").isSome = true)
    (done : store.resumeTask codec taskId now = .ok last) : last = store := by
  simp only [resumeTask, recordResume, eq_ok_iff, replayingOperation_eq_ok] at done
  obtain ⟨task, stored, _, _, replay | fresh⟩ := done
  · obtain ⟨_, _, _, rfl⟩ := replay
    rfl
  · have known := asked task stored
    rw [← row_taskId stored, fresh.1] at known
    cases known

theorem replayTask_unchanged {task : TaskRow} {last : Store} (projected : Projected store task)
    (done : store.replayTask task now = .ok last) : last = store := by
  unfold replayTask at done
  split at done
  · simp only [eq_ok_iff] at done
    obtain ⟨_, _, rfl⟩ := done
    rfl
  · rename_i evicted
    simp only [bind_eq_ok, Prod.exists] at done
    obtain ⟨state, generation, seq, derived, _, _, outcome⟩ := done
    rw [if_pos (projected (not_not.mp evicted) state generation seq derived)] at outcome
    exact (pure_eq_ok.mp outcome).symm

theorem replayTasks_unchanged (tasks : List TaskRow) (projected : ∀ task ∈ tasks, Projected store task) :
    (replayTasks now tasks store).2 = store := by
  induction tasks with
  | nil => rfl
  | cons task tasks ih =>
    unfold replayTasks
    cases replayed : store.replayTask task now with
    | error => rfl
    | ok last =>
      obtain rfl := replayTask_unchanged (projected task List.mem_cons_self) replayed
      exact ih fun other member => projected other (List.mem_cons_of_mem _ member)

theorem recordObject_known {hash : String} (known : (vault.blobObjects.lookup hash).isSome = true) (length : Nat) :
    vault.recordObject hash length now = vault := by
  have taken : vault.blobObjects.insert? { hash, byteLength := length, publishedAt := now } = none := by
    rw [Option.eq_none_iff_forall_not_mem]
    intro grown inserted
    have free := (Table.insert_eq_some.mp inserted).1
    rw [free] at known
    cases known
  rw [recordObject, taken, Option.getD_none]

/-- Recovering a settled staging row records nothing, and leaves the other rows settled. -/
theorem recoverStagedBlob_recorded {row : BlobStagingRow} (recorded : Recorded before row)
    (done : before.recoverStagedBlob codec row now = .ok after) :
    SameRows before after ∧ ∀ other, Recorded before other → Recorded after other := by
  unfold recoverStagedBlob at done
  split at done
  · rename_i file _ held
    obtain ⟨_, _, done⟩ := bind_eq_ok.mp done
    obtain rfl := pure_eq_ok.mp done
    have known : (before.blobObjects.lookup row.expectedHash).isSome = true := by
      rcases recorded with known | ⟨absent, _⟩
      · exact known
      · rw [absent] at held
        cases held
    rw [recordObject_known known]
    exact ⟨.of_store rfl rfl rfl, fun other kept => kept⟩
  · rename_i file absent staged
    obtain ⟨_, _, done⟩ := bind_eq_ok.mp done
    obtain rfl := pure_eq_ok.mp done
    have known : (before.blobObjects.lookup row.expectedHash).isSome = true := by
      rcases recorded with known | ⟨_, missing⟩
      · exact known
      · rw [missing] at staged
        cases staged
    have published : ((before.publishFile (stagedName row.stagingId) row.expectedHash file.bytes).blobObjects.lookup
        row.expectedHash).isSome = true := known
    rw [recordObject_known published]
    refine ⟨.of_store rfl rfl rfl, fun other kept => ?_⟩
    rcases kept with held | ⟨noFile, noStage⟩
    · exact .inl held
    · by_cases same : row.expectedHash = other.expectedHash
      · exact .inl (same ▸ known)
      · refine .inr ⟨?_, ?_⟩
        · exact (Table.lookup_replace before.blobFiles ⟨row.expectedHash, file.bytes⟩ other.expectedHash).trans
            ((if_neg same).trans noFile)
        · simp only [unstage, publishFile, Table.lookup_delete, noStage, Option.filter_none]
  · obtain rfl := pure_eq_ok.mp done
    exact ⟨.of_store rfl rfl rfl, fun other kept => kept⟩

theorem SameRows.refl (vault : Vault) : SameRows vault vault := .of_store rfl rfl rfl

theorem SameRows.trans {first second third : Vault} (left : SameRows first second) (right : SameRows second third) :
    SameRows first third where
  tasks := right.tasks.trans left.tasks
  events := right.events.trans left.events
  attempts := right.attempts.trans left.attempts
  interactions := right.interactions.trans left.interactions
  responses := right.responses.trans left.responses
  results := right.results.trans left.results
  outbox := right.outbox.trans left.outbox
  reviews := right.reviews.trans left.reviews
  commands := right.commands.trans left.commands
  operations := right.operations.trans left.operations
  canaryAssignments := right.canaryAssignments.trans left.canaryAssignments
  improvementTables := right.improvementTables.trans left.improvementTables
  improvementEngine := right.improvementEngine.trans left.improvementEngine
  blobRefs := right.blobRefs.trans left.blobRefs
  blobObjects := right.blobObjects.trans left.blobObjects

theorem recoverStagedRows_recorded (rows : List BlobStagingRow) {vault : Vault}
    (recorded : ∀ row ∈ rows, Recorded vault row) : SameRows vault (vault.recoverStagedRows codec now rows).2 := by
  induction rows generalizing vault with
  | nil => exact .refl vault
  | cons row rows ih =>
    unfold recoverStagedRows
    cases recovered : vault.recoverStagedBlob codec row now with
    | error => exact .refl vault
    | ok next =>
      obtain ⟨same, kept⟩ := recoverStagedBlob_recorded (recorded row List.mem_cons_self) recovered
      exact same.trans (ih fun other member => kept other (recorded other (List.mem_cons_of_mem _ member)))

theorem recoverStagedRows_store (rows : List BlobStagingRow) (vault : Vault) :
    (vault.recoverStagedRows codec now rows).2.store = vault.store := by
  induction rows generalizing vault with
  | nil => rfl
  | cons row rows ih =>
    unfold recoverStagedRows
    cases recovered : vault.recoverStagedBlob codec row now with
    | error => rfl
    | ok next =>
      rw [ih]
      unfold recoverStagedBlob at recovered
      split at recovered
      · obtain ⟨_, _, recovered⟩ := bind_eq_ok.mp recovered
        exact (pure_eq_ok.mp recovered) ▸ rfl
      · obtain ⟨_, _, recovered⟩ := bind_eq_ok.mp recovered
        exact (pure_eq_ok.mp recovered) ▸ rfl
      · exact (pure_eq_ok.mp recovered) ▸ rfl

theorem reopen_unchanged {verifyEvidence : Store → Checked Unit}
    (projected : ∀ task ∈ vault.store.tasks.rows, vault.store.replayable task = true → Projected vault.store task)
    (recorded : ∀ row ∈ vault.blobStaging.rows, Recorded vault row) :
    SameRows vault (vault.reopen codec verifyEvidence now).2 := by
  have raised : SameRows vault { vault with leaseEpoch := vault.leaseEpoch + 1 } := .of_store rfl rfl rfl
  have staged : ∀ row ∈ vault.blobStaging.rows.insertionSort fun first second => first.createdAt ≤ second.createdAt,
      Recorded { vault with leaseEpoch := vault.leaseEpoch + 1 } row :=
    fun row member => recorded row ((List.mem_insertionSort _).mp member)
  have recovered := @recoverStagedRows_recorded codec now _ _ staged
  have kept := @recoverStagedRows_store codec now
    (vault.blobStaging.rows.insertionSort fun first second => first.createdAt ≤ second.createdAt)
    { vault with leaseEpoch := vault.leaseEpoch + 1 }
  unfold reopen
  simp only [recoverStagedBlobs]
  split
  · exact raised
  · split
    · rename_i failed
      rw [failed] at recovered
      exact raised.trans recovered
    · rename_i settled
      rw [settled] at recovered kept
      refine raised.trans (recovered.trans ?_)
      unfold verifyAndReplay
      split
      · exact .refl _
      · exact .refl _
      · refine .of_store ?_ rfl rfl
        simp only [replayProjections]
        apply replayTasks_unchanged
        intro task member
        rw [kept] at member ⊢
        obtain ⟨stored, looked⟩ := List.mem_filter.mp member
        exact projected task stored looked

end Uncounted

section Counted

/-- Committed transactions never lower the epoch. -/
theorem epoch_of_committed {first last : Store} (run : Committed codec first last) :
    first.mutationEpoch ≤ last.mutationEpoch := by
  induction run with
  | refl => exact le_rfl
  | tail _ committed reached =>
    obtain ⟨_, _, _, executed⟩ := committed
    exact reached.trans (execute_epoch executed)

theorem createBackup_ok {ambient : Ambient} {image : Installation → Bytes} {quickCheck : Bool}
    {backupId binaryVersion : String} {manifest : BackupManifest} {first last : Installation}
    (done : first.createBackup codec ambient image quickCheck backupId binaryVersion now = .ok (manifest, last)) :
    manifest.mutationEpoch = first.vault.store.mutationEpoch ∧ last.vault = first.vault := by
  simp only [Installation.createBackup, eq_ok_iff] at done
  obtain ⟨_, _, _, _, _, _, rfl, rfl⟩ := done
  exact ⟨rfl, rfl⟩

/-- A first acknowledgement counts itself, so the references it releases are counted. -/
theorem withEvidence_refs {request : Request} (done : before.commit codec request = .ok after)
    (same : after.store = before.store) : after.blobRefs = before.blobRefs := by
  have executed := (commit_executes done).1
  simp only [commit, bind_eq_ok] at done
  obtain ⟨store, _, done⟩ := done
  cases request with
  | finalize =>
    simp only [withEvidence] at done
    split at done
    all_goals
      obtain rfl := pure_eq_ok.mp done
      rfl
  | reviewAndAck =>
    simp only [withEvidence] at done
    split at done
    · rename_i new _
      obtain ⟨⟨_, final⟩, reviewed, last⟩ := map_eq_ok.mp executed
      rcases reviewAndAck_effect reviewed with ⟨known, _⟩ | ⟨raised, _⟩
      · rw [new] at known
        cases known
      · have unmoved : final = before.store := last.trans same
        rw [unmoved] at raised
        exact absurd raised (lt_irrefl _)
    · obtain rfl := pure_eq_ok.mp done
      rfl
  | _ =>
    obtain rfl := pure_eq_ok.mp done
    rfl

theorem commit_counted {request : Request} (admissible : (Operation.commit request).admissible before)
    (announced : Announced (.commit request) before) (done : before.commit codec request = .ok after) :
    SameRows before after ∨ before.store.mutationEpoch < after.store.mutationEpoch := by
  obtain ⟨executed, objects⟩ := commit_executes done
  have unchanged (same : after.store = before.store) : SameRows before after :=
    .of_store same (withEvidence_refs done same) objects
  rcases execute_entry executed with counted | ⟨uncounted, _⟩
  · exact counted.counted.imp unchanged id
  · cases request with
    | settleExpiry operationId resultId =>
      obtain settled := pure_eq_ok.mp executed
      exact .inl (unchanged (settled.symm.trans (settleExpiry_unchanged announced)))
    | recordResume taskId now => exact .inl (unchanged (resumeTask_unchanged announced executed))
    | replayTask taskId now =>
      obtain ⟨task, stored, replayed⟩ := bind_eq_ok.mp executed
      exact .inl (unchanged (replayTask_unchanged (announced task (required_eq_ok.mp stored)) replayed))
    | compactTask => cases admissible
    | _ => cases uncounted

theorem operate_counted {operation : Operation} (admissible : operation.admissible before)
    (announced : Announced operation before) (done : operate codec operation before = .ok after) :
    SameRows before after ∨ before.store.mutationEpoch < after.store.mutationEpoch := by
  have raised : before.store.mutationEpoch < before.store.bumpMutationEpoch.mutationEpoch := Int.lt_succ _
  cases operation with
  | commit request => exact commit_counted admissible announced done
  | registerWorktree =>
    obtain ⟨_, _, _, rfl⟩ := registerWorktree_ok done
    exact .inr raised
  | publishBlob ambient stagingId bytes cut now =>
    have published : before.publishBlob codec ambient stagingId bytes cut now = .ok after := done
    simp only [publishBlob, bind_eq_ok] at published
    obtain ⟨_, _, _, _, outcome⟩ := published
    split at outcome
    · obtain ⟨_, _, outcome⟩ := bind_eq_ok.mp outcome
      split at outcome
      · obtain rfl := pure_eq_ok.mp outcome
        exact .inr raised
      · obtain rfl := pure_eq_ok.mp outcome
        exact .inl (.refl _)
    · obtain ⟨_, _, outcome⟩ := bind_eq_ok.mp outcome
      cases cut with
      | completed =>
        obtain rfl := pure_eq_ok.mp outcome
        exact .inr raised
      | _ =>
        obtain rfl := pure_eq_ok.mp outcome
        exact .inl (.of_store rfl rfl rfl)
  | referenceBlob =>
    obtain ⟨_, rfl⟩ := referenceBlob_ok done
    exact .inr raised
  | acquireLease =>
    obtain ⟨_, _, _, rfl⟩ := acquireLease_ok done
    exact .inl (.of_store rfl rfl rfl)
  | releaseLease =>
    obtain ⟨_, released⟩ := snd_eq_ok done
    obtain ⟨_, rfl⟩ := releaseLease_ok released
    exact .inl (.of_store rfl rfl rfl)
  | markRetentionGc =>
    obtain ⟨_, collected⟩ := snd_eq_ok done
    obtain ⟨middle, fenced, compacted, _, marked, rfl⟩ := markRetentionGc_ok collected
    have kept := epoch_of_committed (ReachableWhen.weaken ((compactTasks_compacted _ compacted).store codec))
    have same := congrArg mutationEpoch (fenceAll_fenced _ marked).store
    exact .inr (lt_of_le_of_lt (kept.trans same.ge) (Int.lt_succ _))
  | unlinkBlob =>
    obtain ⟨_, _, rfl⟩ := unlinkBlob_ok done
    exact .inl (.of_store rfl rfl rfl)
  | finishGcDeletion =>
    obtain ⟨_, finished⟩ := finishGcDeletion_ok done
    cases finished with
    | blob _ _ same | worktree _ _ same | failed _ _ same =>
      rw [same]
      exact .inr raised
  | reopen verifyEvidence now =>
    obtain rfl := pure_eq_ok.mp done
    exact .inl (reopen_unchanged announced.1 announced.2)

end Counted

variable {image : Installation → Bytes} {permitted : Operation → Vault → Prop} {first last : Installation}

theorem epoch_of_serves (step : Serves codec image permitted first last) :
    first.vault.store.mutationEpoch ≤ last.vault.store.mutationEpoch := by
  cases step with
  | operated operation admissible allowed done => exact epoch_of_committed (operate_committed admissible done)
  | backedUp done => rw [(createBackup_ok done).2]

theorem epoch_of_run (run : Relation.ReflTransGen (Serves codec image permitted) first last) :
    first.vault.store.mutationEpoch ≤ last.vault.store.mutationEpoch := by
  induction run with
  | refl => exact le_rfl
  | tail _ step reached => exact reached.trans (epoch_of_serves step)

theorem raises_of_serves (step : Serves codec image Announced first last)
    (changed : ¬ SameRows first.vault last.vault) :
    first.vault.store.mutationEpoch < last.vault.store.mutationEpoch := by
  cases step with
  | operated operation admissible announced done =>
    exact (operate_counted admissible announced done).resolve_left changed
  | backedUp done =>
    rw [(createBackup_ok done).2] at changed
    exact absurd (.refl _) changed

theorem restore_refused {manifest : BackupManifest} (stale : manifest.mutationEpoch ≠ last.vault.store.mutationEpoch) :
    last.verifyRestoreAllowed codec manifest = .error .restoreRefused := by
  unfold Installation.verifyRestoreAllowed
  by_cases normal : isNormalComponent manifest.snapshotFile = true
  · simp [ensure, normal, stale, bind, Except.bind]
  · simp [ensure, normal, bind, Except.bind]

/-- A backup is refused as soon as a row changed after it was made, as long as every operation announces the rows it
changes. -/
theorem stale_backup_refused {ambient : Ambient} {quickCheck : Bool} {backupId binaryVersion : String} {now : Int}
    {manifest : BackupManifest} {before saved first second last : Installation}
    (made : before.createBackup codec ambient image quickCheck backupId binaryVersion now = .ok (manifest, saved))
    (earlier : Relation.ReflTransGen (Serves codec image Announced) saved first)
    (step : Serves codec image Announced first second) (changed : ¬ SameRows first.vault second.vault)
    (later : Relation.ReflTransGen (Serves codec image Announced) second last) :
    last.verifyRestoreAllowed codec manifest = .error .restoreRefused := by
  obtain ⟨epoch, same⟩ := createBackup_ok made
  have atFirst := epoch_of_run earlier
  have atSecond := raises_of_serves step changed
  have atLast := epoch_of_run later
  rw [same] at atFirst
  apply restore_refused
  rw [epoch]
  exact ne_of_lt (lt_of_le_of_lt atFirst (lt_of_lt_of_le atSecond atLast))

def installed (vault : Vault) : Installation where
  vault := vault
  installId := "install"
  migrationBackups := .empty
  snapshotFiles := .empty
  manifestFiles := .empty

def epochImage (installation : Installation) : Bytes := utf8 (toString installation.vault.store.mutationEpoch)

def backup (vault : Vault) : Checked (BackupManifest × Installation) :=
  (installed vault).createBackup (Script.codec []) Script.ambient epochImage true "backup" "1" 4

theorem stale_backup_refused_submission :
    ∃ manifest saved vault, backup Vault.initial = .ok (manifest, saved) ∧
      operate (Script.codec []) (.commit (Script.submit "task" "key")) saved.vault = .ok vault ∧
      ({ saved with vault } : Installation).verifyRestoreAllowed (Script.codec []) manifest = .error .restoreRefused := by
  obtain ⟨⟨manifest, saved⟩, made, vault, done, none, one, admissible⟩ : ∃ made, backup Vault.initial = .ok made ∧
      ∃ vault, operate (Script.codec []) (.commit (Script.submit "task" "key")) made.2.vault = .ok vault ∧
        made.2.vault.store.tasks.rows.length = 0 ∧ vault.store.tasks.rows.length = 1 ∧
          Operation.admissible made.2.vault (.commit (Script.submit "task" "key")) := by decide +kernel
  refine ⟨manifest, saved, vault, made, done, ?_⟩
  have step : Serves (Script.codec []) epochImage Announced saved { saved with vault } :=
    .operated _ admissible trivial done
  refine stale_backup_refused made .refl step (fun same => ?_) .refl
  rw [same.tasks, none] at one
  cases one

/-- An attempt that has only prepared its spawn, a backup, and a restart that repairs the task row: the backup is
accepted although the row has changed. -/
theorem repair_escapes_backup :
    ∃ vault manifest saved last, VaultReachable (Script.codec []) (fun _ _ => True) vault ∧
      backup vault = .ok (manifest, saved) ∧
      Serves (Script.codec []) epochImage (fun _ _ => True) saved last ∧ ¬ SameRows saved.vault last.vault ∧
      last.verifyRestoreAllowed (Script.codec []) manifest = .ok () := by
  obtain ⟨vault, reached, ⟨manifest, saved⟩, made, later, done, moved, allowed⟩ : ∃ vault,
      VaultReachable (Script.codec []) (fun _ _ => True) vault ∧ ∃ made, backup vault = .ok made ∧
        ∃ later, operate (Script.codec []) (.reopen (fun _ => .ok ()) 5) made.2.vault = .ok later ∧
          made.2.vault.store.tasks.rows.map TaskRow.state ≠ later.store.tasks.rows.map TaskRow.state ∧
          ({ made.2 with vault := later } : Installation).verifyRestoreAllowed (Script.codec []) made.1 = .ok () :=
    exists_of_vault_script [.commit (Script.submit "task" "key"), .commit (Script.claim "task" 0),
      .commit (Script.phase "task" 0 .spawnPrepared)] (by decide +kernel)
  have admissible : Operation.admissible saved.vault (.reopen (fun _ => .ok ()) 5) := trivial
  refine ⟨vault, manifest, saved, { saved with vault := later }, reached, made, .operated _ admissible trivial done,
    fun same => moved ?_, allowed⟩
  rw [same.tasks]

end AgentMesh.Runs
