import AgentMesh.Daemon.Retention
import AgentMesh.Runs.Terminal

/-! What each operation on the vault changes. -/
namespace AgentMesh.Storage
open Library Daemon AgentMesh.Task AgentMesh.Runs Vault List Table

variable {codec : Codec} {vault before middle after : Vault} {ambient : Ambient} {now : Int} {request : Request}
  {last store : Store} {taskId : String} {candidate : GcCandidate} {epoch : Int}
  {commandKey consumerId leaseId other : String} {draw : String × String → FenceToken} {first second third : Vault}

/-- The references, leases, intents and worktrees are the same. -/
structure SameShelf (before after : Vault) : Prop where
  refs : after.blobRefs = before.blobRefs
  leases : after.leases = before.leases
  items : after.leaseItems = before.leaseItems
  intents : after.intents = before.intents
  worktrees : after.worktrees = before.worktrees

theorem SameShelf.refl (vault : Vault) : SameShelf vault vault := ⟨rfl, rfl, rfl, rfl, rfl⟩

theorem SameShelf.trans (left : SameShelf first second) (right : SameShelf second third) : SameShelf first third :=
  ⟨right.refs.trans left.refs, right.leases.trans left.leases, right.items.trans left.items,
    right.intents.trans left.intents, right.worktrees.trans left.worktrees⟩

/-- Any number of committed transactions, none of which compacts a task. -/
def Uncompacted (codec : Codec) (before after : Store) : Prop :=
  CommittedWhen codec (fun request _ => compacts request = none) before after

/-- Any number of committed transactions that neither introduce an identifier nor compact a task. -/
def Quietly (codec : Codec) (before after : Store) : Prop :=
  CommittedWhen codec (fun request _ => Nameless request ∧ compacts request = none) before after

theorem Quietly.uncompacted {before after : Store} (run : Quietly codec before after) :
    Uncompacted codec before after :=
  Relation.ReflTransGen.mono
    (fun _ _ ⟨request, admissible, allowed, committed⟩ => ⟨request, admissible, allowed.2, committed⟩) _ _ run

theorem Quietly.nameless {before after : Store} (run : Quietly codec before after) :
    CommittedWhen codec (fun request _ => Nameless request) before after :=
  Relation.ReflTransGen.mono
    (fun _ _ ⟨request, admissible, allowed, committed⟩ => ⟨request, admissible, allowed.1, committed⟩) _ _ run

/-- A transaction outside the task tables is to them one that rewrites nothing and advances the mutation epoch. -/
theorem bump_quietly (codec : Codec) (store : Store) : Quietly codec store store.bumpMutationEpoch :=
  CommittedWhen.single (.assignCanary store.canaryAssignments store.improvementTables store.improvementEngine) trivial
    ⟨⟨rfl, rfl⟩, rfl⟩ rfl

/-- New content was recorded under some of the given digests, and nothing else on the shelf changed. -/
structure Records (codec : Codec) (digest : String → Prop) (before after : Vault) : Prop where
  shelf : SameShelf before after
  store : Quietly codec before.store after.store
  kept : ∀ blob ∈ before.blobObjects.rows, blob ∈ after.blobObjects.rows
  fresh : ∀ blob ∈ after.blobObjects.rows, blob ∈ before.blobObjects.rows ∨ digest blob.hash

namespace Records

variable {digest : String → Prop}

theorem refl (codec : Codec) (digest : String → Prop) (vault : Vault) : Records codec digest vault vault :=
  ⟨.refl vault, .refl, fun _ => id, fun _ member => .inl member⟩

theorem trans (left : Records codec digest first second) (right : Records codec digest second third) :
    Records codec digest first third where
  shelf := left.shelf.trans right.shelf
  store := .trans left.store right.store
  kept blob member := right.kept blob (left.kept blob member)
  fresh blob member := (right.fresh blob member).elim (left.fresh blob) .inr

theorem of_same (shelf : SameShelf before after) (objects : after.blobObjects = before.blobObjects)
    (store : after.store = before.store) : Records codec digest before after where
  shelf := shelf
  store := by rw [store]; exact .refl
  kept blob member := by rw [objects]; exact member
  fresh blob member := by rw [objects] at member; exact .inl member

theorem bump (vault : Vault) : Records codec digest vault vault.bumpMutationEpoch :=
  ⟨⟨rfl, rfl, rfl, rfl, rfl⟩, bump_quietly codec vault.store, fun _ => id, fun _ member => .inl member⟩

theorem recordObject {hash : String} (own : digest hash) (vault : Vault) (length : Nat) (now : Int) :
    Records codec digest vault (vault.recordObject hash length now) where
  shelf := ⟨rfl, rfl, rfl, rfl, rfl⟩
  store := .refl
  kept := (vault.blobObjects.insert_or_ignore _).1
  fresh blob member := by
    simp only [Vault.recordObject] at member
    cases inserted : vault.blobObjects.insert? { hash, byteLength := length, publishedAt := now } with
    | none =>
      rw [inserted] at member
      exact .inl member
    | some objects =>
      obtain ⟨_, rows⟩ := insert_eq_some.mp inserted
      rw [inserted, Option.getD_some, rows, mem_append, mem_singleton] at member
      rcases member with old | rfl
      · exact .inl old
      · exact .inr own

theorem publishFile (vault : Vault) (name hash : String) (bytes : Bytes) :
    Records codec digest vault (vault.publishFile name hash bytes) :=
  of_same ⟨rfl, rfl, rfl, rfl, rfl⟩ rfl rfl

theorem unstage (vault : Vault) (stagingId : String) : Records codec digest vault (vault.unstage stagingId) :=
  of_same ⟨rfl, rfl, rfl, rfl, rfl⟩ rfl rfl

end Records

open Records

theorem publishBlob_records {stagingId : String} {bytes : Bytes} {cut : PublishCut}
    (done : vault.publishBlob codec ambient stagingId bytes cut now = .ok after) :
    Records codec (fun digest => codec.sha256Hex bytes = digest) vault after := by
  simp only [publishBlob, bind_eq_ok] at done
  obtain ⟨_, _, _, _, done⟩ := done
  have recorded (vault : Vault) : Records codec (fun digest => codec.sha256Hex bytes = digest) vault
      (vault.recordObject (codec.sha256Hex bytes) bytes.length now) := recordObject rfl vault bytes.length now
  split at done
  · simp only [bind_eq_ok] at done
    obtain ⟨_, _, done⟩ := done
    cases cut with
    | completed =>
      obtain rfl := pure_eq_ok.mp done
      exact (recorded vault).trans (bump _)
    | begun | rowStaged | partlyWritten | renamed =>
      obtain rfl := pure_eq_ok.mp done
      exact refl _ _ _
  · simp only [bind_eq_ok] at done
    obtain ⟨blobStaging, _, done⟩ := done
    have staged : Records codec (fun digest => codec.sha256Hex bytes = digest) vault { vault with blobStaging } :=
      of_same ⟨rfl, rfl, rfl, rfl, rfl⟩ rfl rfl
    cases cut with
    | begun =>
      obtain rfl := pure_eq_ok.mp done
      exact refl _ _ _
    | rowStaged =>
      obtain rfl := pure_eq_ok.mp done
      exact staged
    | partlyWritten =>
      obtain rfl := pure_eq_ok.mp done
      exact of_same ⟨rfl, rfl, rfl, rfl, rfl⟩ rfl rfl
    | renamed =>
      obtain rfl := pure_eq_ok.mp done
      exact staged.trans (publishFile _ _ _ _)
    | completed =>
      obtain rfl := pure_eq_ok.mp done
      exact staged.trans ((Records.publishFile _ _ _ _).trans
        ((recorded _).trans ((Records.unstage _ _).trans (Records.bump _))))

theorem recoverStagedBlob_records {row : BlobStagingRow} {digest : String → Prop} (own : digest row.expectedHash)
    (done : vault.recoverStagedBlob codec row now = .ok after) : Records codec digest vault after := by
  unfold recoverStagedBlob at done
  split at done
  · simp only [eq_ok_iff] at done
    obtain ⟨_, _, rfl⟩ := done
    exact (recordObject own _ _ now).trans (unstage _ _)
  · simp only [eq_ok_iff] at done
    obtain ⟨_, _, rfl⟩ := done
    exact (Records.publishFile _ _ _ _).trans ((Records.recordObject own _ _ now).trans (Records.unstage _ _))
  · obtain rfl := pure_eq_ok.mp done
    exact unstage _ _

theorem recoverStagedRows_records {digest : String → Prop} (rows : List BlobStagingRow)
    (own : ∀ row ∈ rows, digest row.expectedHash) (vault : Vault) :
    Records codec digest vault (vault.recoverStagedRows codec now rows).2 := by
  induction rows generalizing vault with
  | nil => exact refl _ _ _
  | cons row rows ih =>
    rw [recoverStagedRows]
    split
    · exact refl _ _ _
    · rename_i recovered
      exact (recoverStagedBlob_records (own row (by simp)) recovered).trans
        (ih (fun row member => own row (mem_cons_of_mem _ member)) _)

theorem recoverStagedBlobs_records (vault : Vault) :
    Records codec (fun digest => ∃ row ∈ vault.blobStaging.rows, row.expectedHash = digest) vault
      (vault.recoverStagedBlobs codec now).2 := by
  apply recoverStagedRows_records
  intro row member
  exact ⟨row, (mem_insertionSort _).mp member, rfl⟩

theorem verifyAndReplay_records {digest : String → Prop} (verifyEvidence : Store → Checked Unit) (vault : Vault) :
    Records codec digest vault (vault.verifyAndReplay codec verifyEvidence now).2 := by
  unfold verifyAndReplay
  split
  · exact refl _ _ _
  · exact refl _ _ _
  · refine ⟨⟨rfl, rfl, rfl, rfl, rfl⟩, ?_, fun _ => id, fun _ member => .inl member⟩
    exact replayProjections_committed (fun _ _ _ => ⟨⟨rfl, rfl⟩, rfl⟩) now

theorem reopen_records (verifyEvidence : Store → Checked Unit) (vault : Vault) :
    Records codec (fun digest => ∃ row ∈ vault.blobStaging.rows, row.expectedHash = digest) vault
      (vault.reopen codec verifyEvidence now).2 := by
  have raised : Records codec (fun digest => ∃ row ∈ vault.blobStaging.rows, row.expectedHash = digest) vault
      { vault with leaseEpoch := vault.leaseEpoch + 1 } := of_same ⟨rfl, rfl, rfl, rfl, rfl⟩ rfl rfl
  have recovered : Records codec _ { vault with leaseEpoch := vault.leaseEpoch + 1 }
      (recoverStagedBlobs codec now { vault with leaseEpoch := vault.leaseEpoch + 1 }).2 :=
    recoverStagedBlobs_records _
  unfold reopen
  dsimp only
  split
  · exact raised
  · split
    · rename_i failed
      rw [failed] at recovered
      exact raised.trans recovered
    · rename_i settled
      rw [settled] at recovered
      exact raised.trans (recovered.trans (verifyAndReplay_records verifyEvidence _))

/-- What a committed request did outside the task tables: nothing, or it retained the worktrees of a task it ended, or
it released the references of a task it acknowledged. -/
inductive Evidence (vault after : Vault) : Prop where
  | untouched (shelf : SameShelf vault after)
  | retained (taskId : String) (terminal : TaskState) (now : Int) (task row : TaskRow)
      (found : vault.store.tasks.lookup taskId = some task) (live : task.state.isTerminal = false)
      (stored : after.store.tasks.lookup taskId = some row) (ended : row.state.isTerminal = true)
      (same : after = { vault with store := after.store }.retainWorktrees taskId terminal now)
  | released (entry later : OutboxRow) (task : TaskRow) (terminalAt now : Int)
      (listed : entry ∈ vault.store.outbox.rows) (unacked : entry.ackedAt = none)
      (found : vault.store.tasks.lookup entry.taskId = some task) (dated : task.terminalAt = some terminalAt)
      (stored : later ∈ after.store.outbox.rows) (owner : later.taskId = entry.taskId)
      (acked : later.ackedAt = some now)
      (same : after = { vault with store := after.store }.releaseEvidence entry.taskId entry.resultId terminalAt now)

theorem commit_executes (done : vault.commit codec request = .ok after) :
    execute codec request vault.store = .ok after.store ∧ after.blobObjects = vault.blobObjects := by
  simp only [commit, bind_eq_ok] at done
  obtain ⟨store, executed, done⟩ := done
  have same : after.store = store ∧ after.blobObjects = vault.blobObjects := by
    unfold withEvidence at done
    repeat' split at done
    all_goals first
      | (obtain rfl := pure_eq_ok.mp done
         exact ⟨rfl, rfl⟩)
      | (obtain ⟨_, _, done⟩ := bind_eq_ok.mp done
         obtain rfl := pure_eq_ok.mp done
         exact ⟨rfl, rfl⟩)
  exact ⟨same.1 ▸ executed, same.2⟩

theorem finalize_ends {resultId ackToken requestDigest : String} {generation : Int} {terminal : TaskState}
    {resultDigest : String} (new : store.commands.lookup (consumerId, "finalize", commandKey) = none)
    (executed : execute codec (.finalize ambient resultId ackToken consumerId commandKey requestDigest taskId generation
      terminal resultDigest now) store = .ok last) :
    ∃ task row, store.tasks.lookup taskId = some task ∧ task.state.isTerminal = false ∧
      last.tasks.lookup taskId = some row ∧ row.state.isTerminal = true := by
  obtain ⟨⟨delivery, last⟩, done, rfl⟩ := map_eq_ok.mp executed
  have outcome : _ ∨ (_ ∧ Booked (fun _ _ => True) _ _ taskId store last (.finalized terminal) ∧ _) :=
    finalize_changed done
  rcases outcome with ⟨known, _⟩ | ⟨_, changed, _⟩
  · rw [new] at known
    cases known
  · obtain ⟨current, next, found, step, stored⟩ := changed.step
    cases step with
    | finalized _ _ _ _ _ _ state isTerminal _ =>
      exact ⟨current.row, _, (view_eq_some found).1, by rw [state]; rfl, (view_eq_some stored).1, isTerminal⟩

theorem reviewAndAck_acks {reviewId : String} {command : Bytes} {delivery : ResultDelivery} {verdict : ReviewVerdict}
    {diagnosis : Option String} {entry : OutboxRow} {task : TaskRow} {review : Option ReviewRow}
    (new : store.commands.lookup (consumerId, "review_ack", commandKey) = none)
    (joined : store.ackRow consumerId delivery = some (entry, task, review)) (unacked : entry.ackedAt = none)
    (executed : execute codec (.reviewAndAck ambient reviewId consumerId commandKey command delivery verdict diagnosis
      now) store = .ok last) :
    entry ∈ store.outbox.rows ∧ entry.taskId = delivery.taskId ∧ entry.resultId = delivery.resultId ∧
      store.tasks.lookup entry.taskId = some task ∧
      ∃ later ∈ last.outbox.rows, later.taskId = entry.taskId ∧ later.ackedAt = some now := by
  obtain ⟨⟨replayed, last⟩, done, rfl⟩ := map_eq_ok.mp executed
  simp only [Store.reviewAndAck, eq_ok_iff, Store.replayingCommand_eq_ok, new, joined] at done
  obtain ⟨_, _, _, _, _, _, ⟨_, known, _⟩ | ⟨_, _, same, _, matching, done⟩⟩ := done
  · cases known
  obtain rfl := Option.some.inj same
  simp only [unacked, Option.isSome_none, Bool.false_eq_true, if_false, eq_ok_iff, insertRow,
    Store.storeCommand] at done
  obtain ⟨reviews, _, _, rfl, _, ⟨commands, _, rfl⟩, _, rfl⟩ := done
  simp only [Store.ackRow, Option.bind_eq_bind, Option.bind_eq_some_iff, Option.pure_def] at joined
  obtain ⟨row, listed, held, found, same⟩ := joined
  obtain ⟨rfl, rfl, rfl⟩ : row = entry ∧ held = task ∧ _ = review := by simpa using same
  obtain ⟨member, key⟩ := of_lookup listed
  simp only [Prod.mk.injEq] at key
  refine ⟨member, key.2.1, matching.1, found, { row with ackedAt := some now, reviewId := some reviewId }, ?_, rfl, rfl⟩
  refine mem_updateWhere.mpr ⟨row, member, if_pos ?_⟩
  simp [key]

theorem commit_evidence (done : vault.commit codec request = .ok after) : Evidence vault after := by
  have executed := (commit_executes done).1
  simp only [commit, bind_eq_ok] at done
  obtain ⟨store, _, done⟩ := done
  cases request with
  | finalize _ _ _ consumerId commandKey _ taskId _ terminal _ now =>
    simp only [withEvidence] at done
    split at done
    · obtain rfl := pure_eq_ok.mp done
      exact .untouched ⟨rfl, rfl, rfl, rfl, rfl⟩
    · rename_i new
      obtain rfl := pure_eq_ok.mp done
      obtain ⟨task, row, found, live, stored, ended⟩ := finalize_ends (by simpa using new) executed
      exact .retained taskId terminal now task row found live stored ended rfl
  | reviewAndAck _ _ consumerId commandKey _ delivery _ _ now =>
    simp only [withEvidence] at done
    split at done
    · rename_i entry task review new joined
      split at done
      · obtain rfl := pure_eq_ok.mp done
        exact .untouched ⟨rfl, rfl, rfl, rfl, rfl⟩
      · rename_i open_
        have unacked : entry.ackedAt = none := by simpa using open_
        simp only [queryRow, eq_ok_iff] at done
        obtain ⟨terminalAt, dated, rfl⟩ := done
        obtain ⟨listed, owner, named, found, later, stored, same, acked⟩ :=
          reviewAndAck_acks new joined unacked executed
        refine .released entry later task terminalAt now listed unacked found dated stored same acked ?_
        rw [owner, named]
        rfl
    · obtain rfl := pure_eq_ok.mp done
      exact .untouched ⟨rfl, rfl, rfl, rfl, rfl⟩
  | _ =>
    obtain rfl := pure_eq_ok.mp done
    exact .untouched ⟨rfl, rfl, rfl, rfl, rfl⟩

theorem registerWorktree_ok {worktreeId path : String} {inside : Bool}
    (done : vault.registerWorktree ambient worktreeId taskId path inside = .ok after) :
    ∃ worktrees, (vault.store.tasks.lookup taskId).isSome = true ∧ vault.worktrees.insert?
        { worktreeId, taskId, path, terminalState := none, terminalAt := none, ackedAt := none, state := .active } =
          some worktrees ∧
      after = { vault with worktrees }.bumpMutationEpoch := by
  simp only [registerWorktree, insertRow, eq_ok_iff] at done
  obtain ⟨_, _, _, _, _, ⟨exists_, _⟩, worktrees, inserted, rfl⟩ := done
  exact ⟨worktrees, exists_, inserted, rfl⟩

theorem key_redirected (digest : String) (row : BlobRefRow) :
    (fun row : BlobRefRow => (row.ownerKind, row.ownerId, row.field)) { row with hash := digest } =
      (row.ownerKind, row.ownerId, row.field) := rfl

/-- The references after one was recorded: the redirected one keeps its eligibility, a new one has none. -/
def redirect (refs : Table fun row : BlobRefRow => (row.ownerKind, row.ownerId, row.field))
    (ownerKind ownerId field digest : String) : Table fun row : BlobRefRow => (row.ownerKind, row.ownerId, row.field) :=
  (refs.insert? { ownerKind, ownerId, field, hash := digest, eligibleAt := none }).getD
    (refs.update (fun row => row.ownerKind = ownerKind ∧ row.ownerId = ownerId ∧ row.field = field)
      (fun row => { row with hash := digest }) (key_redirected digest))

theorem referenceBlob_ok {ownerKind ownerId field digest : String}
    (done : vault.referenceBlob codec ambient ownerKind ownerId field digest = .ok after) :
    ∃ length, after = { vault with
      blobRefs := redirect vault.blobRefs ownerKind ownerId field digest
      blobObjects := vault.blobObjects.update (fun row => row.hash = digest)
        (fun row => { row with byteLength := length }) (fun _ => rfl) }.bumpMutationEpoch := by
  simp only [referenceBlob, eq_ok_iff] at done
  obtain ⟨_, _, _, _, file, _, _, _, _, _, rfl⟩ := done
  exact ⟨file.bytes.length, rfl⟩

theorem isMarked_iff (vault : Vault) (resourceKind resourceId : String) :
    vault.isMarked resourceKind resourceId = true ↔ ∃ intent ∈ vault.intents.rows,
      intent.resourceKind = resourceKind ∧ intent.resourceId = resourceId ∧ intent.state = .marked := by
  simp only [isMarked, Option.any_eq_true, lookup_eq_some, Prod.mk.injEq, decide_eq_true_eq]
  constructor
  · rintro ⟨intent, ⟨listed, kind, id⟩, marked⟩
    exact ⟨intent, listed, kind, id, marked⟩
  · rintro ⟨intent, listed, kind, id, marked⟩
    exact ⟨intent, ⟨listed, kind, id⟩, marked⟩

theorem acquireLease_ok {resourceKind resourceId : String}
    (done : vault.acquireLease ambient leaseId resourceKind resourceId epoch now = .ok after) :
    vault.isMarked resourceKind resourceId = false ∧ ∃ leases : Table LeaseRow.leaseId,
      ((∃ lease ∈ leases.rows, lease.leaseId = leaseId) ∧
        ∀ lease ∈ vault.leases.rows, ∃ later ∈ leases.rows, later.leaseId = lease.leaseId) ∧
      after = { vault with
        leases
        leaseItems := (vault.leaseItems.insert? { leaseId, resourceKind, resourceId }).getD vault.leaseItems } := by
  simp only [acquireLease, eq_ok_iff] at done
  obtain ⟨_, _, _, _, _, _, _, unmarked, rfl⟩ := done
  refine ⟨unmarked, _, ?_, rfl⟩
  cases inserted : vault.leases.insert?
      { leaseId, leaseEpoch := epoch, heartbeatAt := now, expiresAt := addTime now leaseTtlUs } with
  | some leases =>
    obtain ⟨_, rows⟩ := insert_eq_some.mp inserted
    simp only [Option.getD_some, rows]
    exact ⟨⟨_, mem_append_right _ (mem_singleton_self _), rfl⟩,
      fun lease member => ⟨lease, mem_append_left _ member, rfl⟩⟩
  | none =>
    have kept : ∀ lease ∈ vault.leases.rows, ∃ later ∈ updateWhere (fun row => row.leaseId = leaseId)
        (fun row => { row with leaseEpoch := epoch, heartbeatAt := now, expiresAt := addTime now leaseTtlUs })
        vault.leases.rows, later.leaseId = lease.leaseId := by
      intro lease member
      refine ⟨_, mem_updateWhere.mpr ⟨lease, member, rfl⟩, ?_⟩
      split <;> rfl
    refine ⟨?_, kept⟩
    obtain ⟨_, old, member, same⟩ := vault.leases.insert_or_ignore
      { leaseId, leaseEpoch := epoch, heartbeatAt := now, expiresAt := addTime now leaseTtlUs }
    rw [inserted] at member
    obtain ⟨later, stored, named⟩ := kept old member
    exact ⟨later, stored, named.trans same⟩

theorem releaseLease_ok {released : Bool} (done : vault.releaseLease ambient leaseId epoch = .ok (released, after)) :
    ∃ selects, after = vault.dropLeases selects := by
  simp only [releaseLease, eq_ok_iff] at done
  obtain ⟨_, _, _, rfl⟩ := done
  exact ⟨_, rfl⟩

theorem unlinkBlob_ok {digest : String} (done : vault.unlinkBlob digest = .ok after) :
    vault.isMarked "blob" digest = true ∧ ∃ blobFiles, after = { vault with blobFiles } := by
  simp only [unlinkBlob, prepareGcDeletion, queryRow, eq_ok_iff] at done
  obtain ⟨plan, ⟨intent, found, _⟩, rfl⟩ := done
  obtain ⟨stored, marked⟩ := Option.filter_eq_some_iff.mp found
  exact ⟨by simpa [isMarked, stored] using marked, _, rfl⟩

/-- What the compaction inside one call of the collector leaves of the vault. -/
structure Compacted (vault after : Vault) : Prop where
  leases : after.leases = vault.leases
  items : after.leaseItems = vault.leaseItems
  intents : after.intents = vault.intents
  objects : after.blobObjects = vault.blobObjects
  store : ∀ codec, CommittedWhen codec (fun request _ => Nameless request) vault.store after.store
  refs : ∀ ref ∈ after.blobRefs.rows, ref ∈ vault.blobRefs.rows
  worktrees : after.worktrees.rows.Sublist vault.worktrees.rows
  existing : ∀ row ∈ vault.worktrees.rows, row.state ≠ .deleted → row ∈ after.worktrees.rows

theorem Compacted.refl (vault : Vault) : Compacted vault vault :=
  ⟨rfl, rfl, rfl, rfl, fun _ => .refl, fun _ => id, .refl _, fun _ member _ => member⟩

theorem Compacted.trans (left : Compacted first second) (right : Compacted second third) : Compacted first third where
  leases := right.leases.trans left.leases
  items := right.items.trans left.items
  intents := right.intents.trans left.intents
  objects := right.objects.trans left.objects
  store codec := .trans (left.store codec) (right.store codec)
  refs ref member := left.refs ref (right.refs ref member)
  worktrees := right.worktrees.trans left.worktrees
  existing row member exists_ := right.existing row (left.existing row member exists_) exists_

theorem compactTask_ok (done : vault.compactTask taskId now = .ok after) :
    vault.store.compactTask (vault.pinned taskId now) taskId now = .ok after.store ∧ after = { vault with
        store := after.store
        blobRefs := vault.blobRefs.delete (ownedBy vault.store taskId)
        worktrees := vault.worktrees.delete fun row => row.taskId = taskId && row.state = .deleted } := by
  simp only [compactTask, eq_ok_iff] at done
  obtain ⟨store, compacted, rfl⟩ := done
  exact ⟨compacted, rfl⟩

theorem compactTask_compacted (done : vault.compactTask taskId now = .ok after) : Compacted vault after := by
  obtain ⟨compacted, same⟩ := compactTask_ok done
  have committed : ∀ codec, CommittedWhen codec (fun request _ => Nameless request) vault.store after.store :=
    fun codec => .single (.compactTask (vault.pinned taskId now) taskId now) trivial ⟨rfl, rfl⟩ compacted
  rw [same]
  refine ⟨rfl, rfl, rfl, rfl, committed, fun _ member => mem_of_mem_filter member, filter_sublist,
    fun row member exists_ => ?_⟩
  simp [member, exists_]

theorem compactTasks_compacted (taskIds : List String) (done : vault.compactTasks now taskIds = .ok after) :
    Compacted vault after := by
  induction taskIds generalizing vault with
  | nil =>
    obtain rfl := pure_eq_ok.mp done
    exact .refl vault
  | cons taskId taskIds ih =>
    obtain ⟨middle, compacted, rest⟩ := bind_eq_ok.mp done
    exact (compactTask_compacted compacted).trans (ih rest)

theorem compactTask_others {pinned : Bool} (done : store.compactTask pinned taskId now = .ok last)
    (differs : other ≠ taskId) :
    SameAt other store last ∧ last.tombstones.lookup other = store.tombstones.lookup other := by
  constructor
  · have effect : Effect (Script.codec []) (.compactTask pinned taskId now) store last := compactTask_effect done
    cases effect.at_task other with
    | same same => exact same
    | created _ asked _ _ _ _ => cases asked
    | changed _ _ _ _ performs _ _ => cases performs
    | removed _ asked _ _ _ => exact absurd (Option.some.inj asked).symm differs
  · simp only [Store.compactTask, queryRow, eq_ok_iff] at done
    obtain ⟨task, _, _, _, rfl⟩ := done
    dsimp only
    cases inserted : store.tombstones.insert? _ with
    | none => rfl
    | some tombstones =>
      rw [Option.getD_some, lookup_insert inserted]
      exact if_neg fun same => differs same.symm

theorem compactTasks_others (taskIds : List String) (done : vault.compactTasks now taskIds = .ok after)
    (absent : other ∉ taskIds) :
    SameAt other vault.store after.store ∧
      after.store.tombstones.lookup other = vault.store.tombstones.lookup other := by
  induction taskIds generalizing vault with
  | nil =>
    obtain rfl := pure_eq_ok.mp done
    exact ⟨.refl other _, rfl⟩
  | cons taskId taskIds ih =>
    obtain ⟨middle, compacted, rest⟩ := bind_eq_ok.mp done
    rw [mem_cons, not_or] at absent
    have first := compactTask_others (compactTask_ok compacted).1 absent.1
    have later := ih rest absent.2
    exact ⟨first.1.trans later.1, later.2.trans first.2⟩

theorem compactableTasks_nodup (vault : Vault) (now : Int) :
    ((vault.compactableTasks now).map TaskRow.taskId).Nodup := by
  refine ((take_sublist _ _).map _).nodup ?_
  refine ((perm_insertionSort _ _).map _).nodup_iff.mpr ?_
  exact (filter_sublist.map _).nodup vault.store.tasks.keyed

def intentOf (now : Int) (candidate : GcCandidate) : GcIntentRow where
  resourceKind := candidate.resourceKind
  resourceId := candidate.resourceId
  state := .marked
  byteLength := candidate.byteLength
  fenceToken := candidate.fenceToken
  attempts := 0
  markedAt := now
  finishedAt := none
  errorDigest := none

/-- What the marking inside one call of the collector adds to the vault. -/
structure Fenced (now : Int) (candidates : List GcCandidate) (vault after : Vault) : Prop where
  leases : after.leases = vault.leases
  items : after.leaseItems = vault.leaseItems
  objects : after.blobObjects = vault.blobObjects
  refs : after.blobRefs = vault.blobRefs
  store : after.store = vault.store
  intents : after.intents.rows = vault.intents.rows ++ candidates.map (intentOf now)
  worktrees : after.worktrees.rows = updateWhere
    (fun row => candidates.any fun candidate =>
      candidate.resourceKind = "worktree" ∧ row.worktreeId = candidate.resourceId)
    (fun row => { row with state := .gcMarked }) vault.worktrees.rows

theorem fenceAll_fenced (candidates : List GcCandidate) (done : vault.fenceAll now candidates = .ok after) :
    Fenced now candidates vault after := by
  induction candidates generalizing vault with
  | nil =>
    obtain rfl := pure_eq_ok.mp done
    refine ⟨rfl, rfl, rfl, rfl, rfl, by simp, ?_⟩
    exact (updateWhere_of_none _ _ _ fun _ _ => rfl).symm
  | cons candidate candidates ih =>
    obtain ⟨middle, fenced, rest⟩ := bind_eq_ok.mp done
    simp only [fence, insertRow, eq_ok_iff] at fenced
    obtain ⟨intents, inserted, rfl⟩ := fenced
    have tail := ih rest
    have rows := (insert_eq_some.mp inserted).2
    refine ⟨tail.leases, tail.items, tail.objects, tail.refs, tail.store, ?_, ?_⟩
    · rw [tail.intents, rows, append_assoc]
      rfl
    · rw [tail.worktrees]
      simp only [update_rows, updateWhere, map_map]
      apply map_congr_left
      intro row _
      by_cases first : candidate.resourceKind = "worktree" ∧ row.worktreeId = candidate.resourceId
      · simp [first]
      · simp [first]

/-- One call of the collector: expired leases go, old tasks are compacted, and what is left is marked. -/
theorem markRetentionGc_ok {candidates : List GcCandidate}
    (done : vault.markRetentionGc ambient draw now = .ok (candidates, after)) :
    ∃ middle fenced, (vault.dropLeases fun lease => lease.expiresAt ≤ now).compactTasks now
        (((vault.dropLeases fun lease => lease.expiresAt ≤ now).compactableTasks now).map TaskRow.taskId) = .ok middle ∧
      candidates = middle.gcCandidates draw now ∧ middle.fenceAll now candidates = .ok fenced ∧
      after = fenced.bumpMutationEpoch := by
  simp only [markRetentionGc, eq_ok_iff] at done
  obtain ⟨_, _, middle, compacted, fenced, marked, rfl, rfl⟩ := done
  exact ⟨middle, fenced, compacted, rfl, marked, rfl⟩

theorem fitBytes_sublist (bytes : Nat) (blobs : List BlobObjectRow) : (fitBytes bytes blobs).Sublist blobs := by
  induction blobs generalizing bytes with
  | nil => exact .refl []
  | cons blob blobs ih =>
    unfold fitBytes
    split
    · exact nil_sublist _
    · exact (ih _).cons_cons blob

theorem blobBatch_sublist (vault : Vault) (now : Int) :
    (vault.blobBatch now).Sublist ((vault.blobObjects.rows.filter (vault.blobCollectable now)).insertionSort
      fun first second => first.publishedAt ≤ second.publishedAt) := by
  refine .trans ?_ (take_sublist gcBatchRows _)
  unfold blobBatch
  split
  · exact nil_sublist _
  · rename_i batch
    rw [batch]
    exact (fitBytes_sublist _ _).cons_cons _

theorem mem_blobBatch {blob : BlobObjectRow} (member : blob ∈ vault.blobBatch now) :
    blob ∈ vault.blobObjects.rows ∧ vault.blobCollectable now blob = true := by
  have sorted := (mem_insertionSort _).mp ((blobBatch_sublist vault now).subset member)
  exact mem_filter.mp sorted

theorem mem_worktreeBatch {row : WorktreeRow} {room : Nat} (member : row ∈ vault.worktreeBatch room now) :
    row ∈ vault.worktrees.rows ∧ vault.worktreeCollectable now row = true :=
  mem_filter.mp ((mem_insertionSort _).mp (mem_of_mem_take member))

theorem mem_gcCandidates (member : candidate ∈ vault.gcCandidates draw now) :
    (candidate.resourceKind = "blob" ∧ ∃ blob ∈ vault.blobObjects.rows, vault.blobCollectable now blob = true ∧
      candidate.resourceId = blob.hash) ∨
    (candidate.resourceKind = "worktree" ∧ ∃ row ∈ vault.worktrees.rows, vault.worktreeCollectable now row = true ∧
      candidate.resourceId = row.worktreeId) := by
  rcases mem_append.mp member with fromBlobs | fromWorktrees
  · obtain ⟨blob, batched, rfl⟩ := mem_map.mp fromBlobs
    obtain ⟨stored, collectable⟩ := mem_blobBatch batched
    exact .inl ⟨rfl, blob, stored, collectable, rfl⟩
  · obtain ⟨row, batched, rfl⟩ := mem_map.mp fromWorktrees
    obtain ⟨stored, collectable⟩ := mem_worktreeBatch batched
    exact .inr ⟨rfl, row, stored, collectable, rfl⟩

/-- How a deletion ends: a blob with its references and object, a worktree, or a failure. -/
inductive Finished (vault : Vault) (candidate : GcCandidate) (success : Bool) (now : Int) (after : Vault) : Prop where
  | blob (succeeded : success = true) (kind : candidate.resourceKind = "blob")
      (same : after = ({ vault with
        blobRefs := vault.blobRefs.delete fun row => row.hash = candidate.resourceId
        blobObjects := vault.blobObjects.delete fun row => row.hash = candidate.resourceId }.closeIntent candidate
          .deleted none now).bumpMutationEpoch)
  | worktree (succeeded : success = true) (kind : candidate.resourceKind = "worktree")
      (same : after = ({ vault with
        worktrees := vault.worktrees.update
          (fun row => row.worktreeId = candidate.resourceId ∧ row.state = WorktreeState.gcMarked)
          (fun row => { row with state := .deleted }) (fun _ => rfl) }.closeIntent candidate
            .deleted none now).bumpMutationEpoch)
  | failed (errorDigest : String) (unsuccessful : success = false)
      (same : after = (vault.closeIntent candidate .failed (some errorDigest) now).bumpMutationEpoch)

theorem finishGcDeletion_ok {success : Bool} {errorDigest : Option String}
    (done : vault.finishGcDeletion ambient candidate success errorDigest now = .ok after) :
    (∃ intent, vault.intents.lookup (candidate.resourceKind, candidate.resourceId) = some intent ∧
      intent.state = .marked ∧ intent.fenceToken = candidate.fenceToken) ∧
      Finished vault candidate success now after := by
  simp only [finishGcDeletion, eq_ok_iff, Option.any_eq_true, Bool.and_eq_true, decide_eq_true_eq] at done
  obtain ⟨_, _, _, intent, done⟩ := done
  refine ⟨intent, ?_⟩
  split at done
  · rename_i succeeded
    split at done
    · rename_i kind
      exact .blob succeeded kind (pure_eq_ok.mp done).symm
    · split at done
      · rename_i kind
        exact .worktree succeeded kind (pure_eq_ok.mp done).symm
      · exact absurd done (by simp)
  · rename_i failed
    exact .failed _ (by simpa using failed) (pure_eq_ok.mp done).symm

theorem admissible_request (admissible : (Operation.commit request).admissible vault) :
    request.admissible vault.store := by
  cases request <;> first | exact trivial | exact admissible.1

theorem commit_uncompacted (admissible : (Operation.commit request).admissible before)
    (done : before.commit codec request = .ok after) : Uncompacted codec before.store after.store := by
  refine .single request (admissible_request admissible) ?_ (commit_executes done).1
  cases request <;> first | rfl | cases admissible

/-- Only a transaction of the writer names a task or a result. -/
theorem operate_nameless {operation : Operation} (done : operate codec operation before = .ok after) :
    (∃ request, operation = .commit request) ∨
      CommittedWhen codec (fun request _ => Nameless request) before.store after.store := by
  have bump : ∀ store : Store, CommittedWhen codec (fun request _ => Nameless request) store store.bumpMutationEpoch :=
    fun store => (bump_quietly codec store).nameless
  cases operation with
  | commit request => exact .inl ⟨request, rfl⟩
  | registerWorktree =>
    obtain ⟨_, _, _, rfl⟩ := registerWorktree_ok done
    exact .inr (bump before.store)
  | publishBlob => exact .inr (publishBlob_records done).store.nameless
  | referenceBlob =>
    obtain ⟨_, rfl⟩ := referenceBlob_ok done
    exact .inr (bump before.store)
  | acquireLease =>
    obtain ⟨_, _, _, rfl⟩ := acquireLease_ok done
    exact .inr .refl
  | releaseLease =>
    obtain ⟨_, released⟩ := snd_eq_ok done
    obtain ⟨_, rfl⟩ := releaseLease_ok released
    exact .inr .refl
  | markRetentionGc =>
    obtain ⟨_, collected⟩ := snd_eq_ok done
    obtain ⟨middle, fenced, compacted, _, marked, rfl⟩ := markRetentionGc_ok collected
    have tail : CommittedWhen codec (fun request _ => Nameless request) middle.store fenced.store.bumpMutationEpoch := by
      rw [(fenceAll_fenced _ marked).store]
      exact bump middle.store
    exact .inr (.trans ((compactTasks_compacted _ compacted).store codec) tail)
  | unlinkBlob =>
    obtain ⟨_, _, rfl⟩ := unlinkBlob_ok done
    exact .inr .refl
  | finishGcDeletion =>
    obtain ⟨_, finished⟩ := finishGcDeletion_ok done
    cases finished with
    | blob _ _ same | worktree _ _ same | failed _ _ same =>
      rw [same]
      exact .inr (bump before.store)
  | reopen verifyEvidence now =>
    obtain rfl := pure_eq_ok.mp done
    exact .inr (reopen_records verifyEvidence before).store.nameless

theorem operate_committed {operation : Operation} (admissible : operation.admissible before)
    (done : operate codec operation before = .ok after) : Committed codec before.store after.store := by
  rcases operate_nameless done with ⟨request, rfl⟩ | run
  · exact .single request (admissible_request admissible) (commit_executes done).1
  · exact ReachableWhen.weaken run

theorem store_reachable {permitted : Operation → Vault → Prop} (run : VaultReachable codec permitted vault) :
    Reachable codec vault.store := by
  induction run with
  | refl => exact .refl
  | tail _ performed reached =>
    obtain ⟨operation, admissible, _, done⟩ := performed
    exact .trans reached (operate_committed admissible done)

end AgentMesh.Storage
