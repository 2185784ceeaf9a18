import AgentMesh.Storage.Effects

/-! Crashes inside `publish_blob`, and the recovery that follows. The recovery of one staging row reads and writes the
slot of its own digest only, so what becomes of a publication that was cut off is decided by its slot alone. -/
namespace AgentMesh.Runs
open Library Daemon AgentMesh.Task AgentMesh.Storage Vault Script List Store

variable {codec : Codec} {vault before after left right settled : Vault} {row : BlobStagingRow} {digest name : String}
  {now : Int} {file : BlobFile}

/-- What a vault holds for one publication: the file and the row under the digest, and the staged file. -/
@[ext]
structure Slot where
  file : Option BlobFile
  object : Option BlobObjectRow
  staged : Option StagedFile

def slot (vault : Vault) (digest name : String) : Slot where
  file := vault.blobFiles.lookup digest
  object := vault.blobObjects.lookup digest
  staged := vault.stagedFiles.lookup name

def recorded (object : Option BlobObjectRow) (hash : String) (byteLength : Nat) (now : Int) : Option BlobObjectRow :=
  object.or (some { hash, byteLength, publishedAt := now })

/-- One iteration of `recover_staged_blobs`, seen from the slot of its row. -/
def settle (codec : Codec) (row : BlobStagingRow) (now : Int) (slot : Slot) : Checked Slot :=
  match slot.file, slot.staged with
  | some file, _ => do
    verifyBlob codec file.bytes row.expectedHash row.byteLength
    return { slot with object := recorded slot.object row.expectedHash row.byteLength now }
  | none, some staged => do
    verifyBlob codec staged.bytes row.expectedHash row.byteLength
    return { file := some ⟨row.expectedHash, staged.bytes⟩
             object := recorded slot.object row.expectedHash row.byteLength now
             staged := none }
  | none, none => return slot

theorem lookup_recordObject (vault : Vault) (hash wanted : String) (length : Nat) (now : Int) :
    (vault.recordObject hash length now).blobObjects.lookup wanted =
      if hash = wanted then recorded (vault.blobObjects.lookup wanted) hash length now
      else vault.blobObjects.lookup wanted :=
  vault.blobObjects.lookup_insert_or_ignore _ wanted

theorem lookup_publishFile (vault : Vault) (name digest wanted : String) (bytes : Bytes) :
    (vault.publishFile name digest bytes).blobFiles.lookup wanted =
      if digest = wanted then some ⟨digest, bytes⟩ else vault.blobFiles.lookup wanted :=
  vault.blobFiles.lookup_replace ⟨digest, bytes⟩ wanted

theorem staged_publishFile (vault : Vault) (name digest wanted : String) (bytes : Bytes) :
    (vault.publishFile name digest bytes).stagedFiles.lookup wanted =
      if name = wanted then none else vault.stagedFiles.lookup wanted := by
  have kept := vault.stagedFiles.lookup_delete (fun file => file.name = name) wanted
  refine kept.trans ?_
  cases found : vault.stagedFiles.lookup wanted with
  | none => simp
  | some file =>
    obtain ⟨_, rfl⟩ := Table.of_lookup found
    by_cases same : file.name = name
    · simp [Option.filter, same]
    · simp [Option.filter, same, Ne.symm same]

theorem lookup_writeStaged (vault : Vault) (name wanted : String) (bytes : Bytes) :
    (vault.writeStaged name bytes).stagedFiles.lookup wanted =
      if name = wanted then some ⟨name, bytes⟩ else vault.stagedFiles.lookup wanted :=
  vault.stagedFiles.lookup_replace ⟨name, bytes⟩ wanted

/-- The recovery of one row: its own slot is settled, and everything else stays. -/
structure Recovered (codec : Codec) (row : BlobStagingRow) (now : Int) (before after : Vault) : Prop where
  own : settle codec row now (slot before row.expectedHash (stagedName row.stagingId)) =
    .ok (slot after row.expectedHash (stagedName row.stagingId))
  files : ∀ digest, digest ≠ row.expectedHash → after.blobFiles.lookup digest = before.blobFiles.lookup digest
  objects : ∀ digest, digest ≠ row.expectedHash → after.blobObjects.lookup digest = before.blobObjects.lookup digest
  staged : ∀ name, name ≠ stagedName row.stagingId → after.stagedFiles.lookup name = before.stagedFiles.lookup name
  rows : after.blobStaging.rows = before.blobStaging.rows.filter fun other => other.stagingId ≠ row.stagingId
  refs : after.blobRefs = before.blobRefs
  store : after.store = before.store

theorem recoverStagedBlob_ok (done : before.recoverStagedBlob codec row now = .ok after) :
    Recovered codec row now before after := by
  unfold recoverStagedBlob at done
  split at done
  · rename_i file held
    simp only [eq_ok_iff] at done
    obtain ⟨_, verified, rfl⟩ := done
    refine ⟨?_, fun _ _ => rfl, fun digest other => ?_, fun _ _ => rfl, ?_, rfl, rfl⟩
    · simp only [settle, slot, held, verified, unstage, lookup_recordObject, if_true]
      simp [recordObject, held, bind, Except.bind, pure, Except.pure]
    · simp only [unstage, lookup_recordObject, if_neg (Ne.symm other)]
    · simp [unstage, recordObject]
  · rename_i staged absent held
    simp only [eq_ok_iff] at done
    obtain ⟨_, verified, rfl⟩ := done
    refine ⟨?_, fun digest other => ?_, fun digest other => ?_, fun name other => ?_, ?_, rfl, rfl⟩
    · simp only [settle, slot, absent, held, verified, unstage, lookup_recordObject, if_true]
      simp [recordObject, lookup_publishFile, staged_publishFile, bind, Except.bind, pure, Except.pure]
      rfl
    · simp only [unstage, recordObject, lookup_publishFile, if_neg (Ne.symm other)]
    · simp only [unstage, lookup_recordObject, if_neg (Ne.symm other)]
      rfl
    · simp only [unstage, recordObject, staged_publishFile, if_neg (Ne.symm other)]
    · simp [unstage, recordObject, publishFile]
  · rename_i absent missing
    obtain rfl := pure_eq_ok.mp done
    refine ⟨?_, fun _ _ => rfl, fun _ _ => rfl, fun _ _ => rfl, ?_, rfl, rfl⟩
    · simp [settle, slot, absent, missing, unstage, pure, Except.pure]
    · simp [unstage]

/-- The recovery of a row goes through exactly when its slot can be settled. -/
theorem recoverStagedBlob_succeeds {last : Slot}
    (own : settle codec row now (slot before row.expectedHash (stagedName row.stagingId)) = .ok last) :
    ∃ after, before.recoverStagedBlob codec row now = .ok after := by
  unfold settle slot at own
  unfold recoverStagedBlob
  split
  · rename_i file held
    simp only [held, bind_eq_ok] at own
    obtain ⟨done, verified, _⟩ := own
    exact ⟨_, bind_eq_ok.mpr ⟨done, verified, rfl⟩⟩
  · rename_i staged absent held
    simp only [absent, held, bind_eq_ok] at own
    obtain ⟨done, verified, _⟩ := own
    exact ⟨_, bind_eq_ok.mpr ⟨done, verified, rfl⟩⟩
  · exact ⟨_, rfl⟩

/-- Two vaults that differ at one slot only. -/
structure Beside (digest name : String) (left right : Vault) : Prop where
  files : ∀ other, other ≠ digest → right.blobFiles.lookup other = left.blobFiles.lookup other
  objects : ∀ other, other ≠ digest → right.blobObjects.lookup other = left.blobObjects.lookup other
  staged : ∀ other, other ≠ name → right.stagedFiles.lookup other = left.stagedFiles.lookup other

def Elsewhere (digest name : String) (row : BlobStagingRow) : Prop :=
  row.expectedHash ≠ digest ∧ stagedName row.stagingId ≠ name

namespace Beside

theorem refl (digest name : String) (vault : Vault) : Beside digest name vault vault :=
  ⟨fun _ _ => rfl, fun _ _ => rfl, fun _ _ => rfl⟩

section

variable (beside : Beside digest name left right) (other : Elsewhere digest name row)

include beside other

theorem slot_eq :
    slot right row.expectedHash (stagedName row.stagingId) = slot left row.expectedHash (stagedName row.stagingId) := by
  simp only [slot, beside.files _ other.1, beside.objects _ other.1, beside.staged _ other.2]

/-- The recovery of another row goes the same way on both sides, and leaves the slot alone. -/
theorem recover (done : left.recoverStagedBlob codec row now = .ok settled) :
    ∃ last, right.recoverStagedBlob codec row now = .ok last ∧ Beside digest name settled last ∧
      slot last digest name = slot right digest name ∧ slot settled digest name = slot left digest name := by
  have first := recoverStagedBlob_ok done
  have own := first.own
  rw [← beside.slot_eq other] at own
  obtain ⟨last, same⟩ := recoverStagedBlob_succeeds own
  have second := recoverStagedBlob_ok same
  have slots := Except.ok.inj (second.own.symm.trans own)
  refine ⟨last, same, ⟨?_, ?_, ?_⟩, ?_, ?_⟩
  · intro wanted differs
    by_cases here : wanted = row.expectedHash
    · subst here
      exact congrArg Slot.file slots
    · rw [second.files _ here, first.files _ here, beside.files _ differs]
  · intro wanted differs
    by_cases here : wanted = row.expectedHash
    · subst here
      exact congrArg Slot.object slots
    · rw [second.objects _ here, first.objects _ here, beside.objects _ differs]
  · intro wanted differs
    by_cases here : wanted = stagedName row.stagingId
    · subst here
      exact congrArg Slot.staged slots
    · rw [second.staged _ here, first.staged _ here, beside.staged _ differs]
  · simp only [slot, second.files _ (Ne.symm other.1), second.objects _ (Ne.symm other.1),
      second.staged _ (.symm other.2)]
  · simp only [slot, first.files _ (Ne.symm other.1), first.objects _ (Ne.symm other.1), first.staged _ (.symm other.2)]

end

theorem recoverRows (rows : List BlobStagingRow) (beside : Beside digest name left right)
    (others : ∀ row ∈ rows, Elsewhere digest name row)
    (done : left.recoverStagedRows codec now rows = (.ok (), settled)) :
    ∃ last, right.recoverStagedRows codec now rows = (.ok (), last) ∧ Beside digest name settled last ∧
      slot last digest name = slot right digest name ∧ slot settled digest name = slot left digest name := by
  induction rows generalizing left right with
  | nil =>
    obtain rfl : left = settled := (Prod.mk.inj done).2
    exact ⟨right, rfl, beside, rfl, rfl⟩
  | cons row rows ih =>
    rw [recoverStagedRows] at done
    split at done
    · cases done
    · rename_i middle recovered
      obtain ⟨other, same, apart, rightSlot, leftSlot⟩ := beside.recover (others row (by simp)) recovered
      obtain ⟨last, rest, lastApart, lastSlot, settledSlot⟩ :=
        ih apart (fun row member => others row (mem_cons_of_mem _ member)) done
      refine ⟨last, ?_, lastApart, lastSlot.trans rightSlot, settledSlot.trans leftSlot⟩
      rw [recoverStagedRows, same]
      exact rest

end Beside

theorem recoverStagedRows_append (first second : List BlobStagingRow)
    (done : vault.recoverStagedRows codec now first = (.ok (), settled)) :
    vault.recoverStagedRows codec now (first ++ second) = settled.recoverStagedRows codec now second := by
  induction first generalizing vault with
  | nil =>
    obtain rfl : vault = settled := (Prod.mk.inj done).2
    rfl
  | cons row first ih =>
    rw [recoverStagedRows] at done
    split at done
    · cases done
    · rename_i middle recovered
      rw [cons_append, recoverStagedRows, recovered]
      exact ih done

theorem recoverStagedRows_split (first second : List BlobStagingRow)
    (done : vault.recoverStagedRows codec now (first ++ second) = (.ok (), settled)) :
    ∃ middle, vault.recoverStagedRows codec now first = (.ok (), middle) ∧
      middle.recoverStagedRows codec now second = (.ok (), settled) := by
  induction first generalizing vault with
  | nil => exact ⟨vault, rfl, done⟩
  | cons row first ih =>
    rw [cons_append, recoverStagedRows] at done
    split at done
    · cases done
    · rename_i next recovered
      obtain ⟨middle, start, rest⟩ := ih done
      refine ⟨middle, ?_, rest⟩
      rw [recoverStagedRows, recovered]
      exact start

/-- A successful recovery touches neither references nor tasks, and no row it looked at is left. -/
theorem recoverStagedRows_frame (rows : List BlobStagingRow)
    (done : vault.recoverStagedRows codec now rows = (.ok (), settled)) :
    settled.blobRefs = vault.blobRefs ∧ settled.store = vault.store ∧
      ∀ row ∈ settled.blobStaging.rows, row ∈ vault.blobStaging.rows ∧ row ∉ rows := by
  induction rows generalizing vault with
  | nil =>
    obtain rfl : vault = settled := (Prod.mk.inj done).2
    exact ⟨rfl, rfl, fun row member => ⟨member, not_mem_nil⟩⟩
  | cons row rows ih =>
    rw [recoverStagedRows] at done
    split at done
    · cases done
    · rename_i middle recovered
      have step := recoverStagedBlob_ok recovered
      obtain ⟨refs, store, left⟩ := ih done
      refine ⟨refs.trans step.refs, store.trans step.store, fun other member => ?_⟩
      obtain ⟨stored, unseen⟩ := left other member
      rw [step.rows, mem_filter] at stored
      refine ⟨stored.1, fun seen => ?_⟩
      rcases mem_cons.mp seen with rfl | later
      · simp at stored
      · exact unseen later

theorem recoverStagedBlobs_clears (done : vault.recoverStagedBlobs codec now = (.ok (), settled)) :
    settled.blobRefs = vault.blobRefs ∧ settled.store = vault.store ∧ settled.blobStaging.rows = [] := by
  obtain ⟨refs, store, rows⟩ := recoverStagedRows_frame _ done
  refine ⟨refs, store, eq_nil_iff_forall_not_mem.mpr fun row member => ?_⟩
  obtain ⟨stored, unseen⟩ := rows row member
  exact unseen ((mem_insertionSort _).mpr stored)

instance : Std.Total fun first second : BlobStagingRow => first.createdAt ≤ second.createdAt :=
  ⟨fun first second => le_total first.createdAt second.createdAt⟩

instance : IsTrans BlobStagingRow fun first second => first.createdAt ≤ second.createdAt :=
  ⟨fun _ _ _ earlier later => le_trans earlier later⟩

section Recovery

variable (beside : Beside digest name left right) (others : ∀ row ∈ left.blobStaging.rows, Elsewhere digest name row)
  (done : left.recoverStagedBlobs codec now = (.ok (), settled))

include beside others done

theorem recoverStagedBlobs_beside (rows : right.blobStaging.rows = left.blobStaging.rows) :
    ∃ last, right.recoverStagedBlobs codec now = (.ok (), last) ∧ Beside digest name settled last ∧
      slot last digest name = slot right digest name ∧ slot settled digest name = slot left digest name := by
  unfold recoverStagedBlobs at done ⊢
  rw [rows]
  exact beside.recoverRows _ (fun row member => others row ((mem_insertionSort _).mp member)) done

theorem recoverStagedBlobs_own (rows : right.blobStaging.rows = left.blobStaging.rows ++ [row])
    (hash : row.expectedHash = digest) (named : stagedName row.stagingId = name) :
    (∀ last, settle codec row now (slot right digest name) = .ok last →
      ∃ after, right.recoverStagedBlobs codec now = (.ok (), after) ∧ Beside digest name settled after ∧
        slot after digest name = last ∧ slot settled digest name = slot left digest name) ∧
    ((∀ last, settle codec row now (slot right digest name) ≠ .ok last) →
      (right.recoverStagedBlobs codec now).1 ≠ .ok ()) := by
  subst hash named
  obtain ⟨first, second, sorted, longer⟩ := insertionSort_append_singleton
    (fun first second : BlobStagingRow => first.createdAt ≤ second.createdAt) left.blobStaging.rows row
  have known : ∀ other ∈ first ++ second, Elsewhere row.expectedHash (stagedName row.stagingId) other := by
    rw [← sorted]
    exact fun other member => others other ((mem_insertionSort _).mp member)
  unfold recoverStagedBlobs at done ⊢
  rw [sorted] at done
  rw [rows, longer]
  obtain ⟨middle, start, rest⟩ := recoverStagedRows_split first second done
  obtain ⟨reached, same, apart, rightSlot, leftSlot⟩ := beside.recoverRows first
    (fun other member => known other (mem_append_left _ member)) start
  rw [recoverStagedRows_append first _ same]
  constructor
  · intro last settles
    rw [← rightSlot] at settles
    obtain ⟨passed, recovered⟩ := recoverStagedBlob_succeeds settles
    have step := recoverStagedBlob_ok recovered
    have across : Beside row.expectedHash (stagedName row.stagingId) middle passed :=
      ⟨fun other differs => (step.files other differs).trans (apart.files other differs),
        fun other differs => (step.objects other differs).trans (apart.objects other differs),
        fun other differs => (step.staged other differs).trans (apart.staged other differs)⟩
    obtain ⟨after, ends, lastApart, lastSlot, settledSlot⟩ := across.recoverRows second
      (fun other member => known other (mem_append_right _ member)) rest
    refine ⟨after, ?_, lastApart, ?_, settledSlot.trans leftSlot⟩
    · rw [recoverStagedRows, recovered]
      exact ends
    · exact lastSlot.trans (Except.ok.inj (step.own.symm.trans settles))
  · intro fails
    cases recovered : reached.recoverStagedBlob codec row now with
    | ok passed => exact absurd (rightSlot ▸ (recoverStagedBlob_ok recovered).own) (fails _)
    | error error =>
      rw [recoverStagedRows, recovered]
      simp

end Recovery

/-! The rest of the opening reads the settled slots. -/

def Sound (codec : Codec) (digest : String) (slot : Slot) : Prop :=
  ∀ object, slot.object = some object → ∃ file, slot.file = some file ∧ file.bytes.length = object.byteLength ∧
    codec.sha256Hex file.bytes = digest

theorem verifyRefs_ok (refs : List BlobRefRow) :
    vault.verifyRefs codec refs = .ok () ↔ ∀ ref ∈ refs, Sound codec ref.hash (slot vault ref.hash name) := by
  induction refs with
  | nil => simp [verifyRefs, pure, Except.pure]
  | cons ref refs ih =>
    rw [forall_mem_cons, ← ih, verifyRefs]
    cases found : vault.blobObjects.lookup ref.hash with
    | none => simp [Sound, slot, found]
    | some object =>
      obtain ⟨_, same⟩ := Table.of_lookup found
      simp only [eq_ok_iff, verifyBlob, Sound, slot, found, same, Option.some.injEq, forall_eq', exists_and_left]
      constructor
      · rintro ⟨file, held, verified, _, rest⟩
        exact ⟨⟨file, held, verified⟩, rest⟩
      · rintro ⟨⟨file, held, verified⟩, rest⟩
        exact ⟨file, held, verified, (), rest⟩

theorem updateTasks_bump (store : Store) (selects : TaskRow → Bool) (change : TaskRow → TaskRow)
    (keeps : ∀ row, (change row).taskId = row.taskId) :
    store.bumpMutationEpoch.updateTasks selects change keeps =
      Store.bumpMutationEpoch <$> store.updateTasks selects change keeps := by
  by_cases allowed : ∀ row ∈ store.tasks.rows, selects row = true → row.state.isTerminal = false
  · have bumped : ∀ row ∈ store.bumpMutationEpoch.tasks.rows, selects row = true → row.state.isTerminal = false :=
      allowed
    rw [updateTasks, updateTasks, ensure, ensure, if_pos bumped, if_pos allowed]
    rfl
  · have bumped : ¬∀ row ∈ store.bumpMutationEpoch.tasks.rows, selects row = true → row.state.isTerminal = false :=
      allowed
    rw [updateTasks, updateTasks, ensure, ensure, if_neg bumped, if_neg allowed]
    rfl

theorem replayTask_bump (task : TaskRow) (store : Store) :
    store.bumpMutationEpoch.replayTask task now = .bumpMutationEpoch <$> store.replayTask task now := by
  have events : store.bumpMutationEpoch.events = store.events := rfl
  unfold replayTask
  simp only [updateTasks_bump, events]
  split
  · cases ensure (task.projectionEventSeq = task.lastEventSeq)
      (StorageError.quarantined "projection drift with incomplete event log") <;> rfl
  · cases deriveProjection (store.events.slice EventRow.taskId task.taskId) with
    | error error => rfl
    | ok derived =>
      simp only [bind, Except.bind, ensure]
      split
      · rfl
      · split
        · rfl
        · split <;> rfl

theorem replayTasks_bump (tasks : List TaskRow) (store : Store) : replayTasks now tasks store.bumpMutationEpoch =
      ((replayTasks now tasks store).1, (replayTasks now tasks store).2.bumpMutationEpoch) := by
  induction tasks generalizing store with
  | nil => rfl
  | cons task tasks ih =>
    rw [Store.replayTasks, Store.replayTasks, replayTask_bump]
    cases store.replayTask task now with
    | error error => rfl
    | ok next => exact ih next

/-- What an opening does before it settles the staged blobs. -/
def raised (vault : Vault) : Vault := { vault with leaseEpoch := vault.leaseEpoch + 1 }

section

variable (verifyEvidence : Store → Checked Unit)

include verifyEvidence

theorem verifyAndReplay_ok : (vault.verifyAndReplay codec verifyEvidence now).1 = .ok () ↔
      vault.verifyMandatoryBlobRefs codec = .ok () ∧ verifyEvidence vault.store = .ok () ∧
        (vault.store.replayProjections now).1 = .ok () := by
  unfold verifyAndReplay
  cases vault.verifyMandatoryBlobRefs codec with
  | error error => simp
  | ok _ =>
    cases verifyEvidence vault.store with
    | error error => simp
    | ok _ => simp

theorem verifyAndReplay_slot :
    slot (vault.verifyAndReplay codec verifyEvidence now).2 digest name = slot vault digest name ∧
      (vault.verifyAndReplay codec verifyEvidence now).2.blobStaging = vault.blobStaging := by
  unfold verifyAndReplay
  split <;> exact ⟨rfl, rfl⟩

/-- An opening succeeds when the tasks pass, the staged blobs settle and the rest is verified. -/
theorem reopen_ok : (vault.reopen codec verifyEvidence now).1 = .ok () ↔ vault.store.integrityCheck = .ok () ∧
      ∃ settled, (raised vault).recoverStagedBlobs codec now = (.ok (), settled) ∧
        (settled.verifyAndReplay codec verifyEvidence now).1 = .ok () := by
  unfold reopen
  dsimp only
  cases vault.store.integrityCheck with
  | error error => simp
  | ok _ =>
    have same : (raised vault).recoverStagedBlobs codec now =
        recoverStagedBlobs codec now { vault with leaseEpoch := vault.leaseEpoch + 1 } := rfl
    rw [same]
    rcases recoverStagedBlobs codec now { vault with leaseEpoch := vault.leaseEpoch + 1 } with ⟨_ | _, settled⟩
    · simp
    · simp

end

theorem reopen_slot {verifyEvidence : Store → Checked Unit} (checked : vault.store.integrityCheck = .ok ())
    (done : (raised vault).recoverStagedBlobs codec now = (.ok (), settled)) :
    slot (vault.reopen codec verifyEvidence now).2 digest name = slot settled digest name ∧
      (vault.reopen codec verifyEvidence now).2.blobStaging.rows = [] := by
  have done : recoverStagedBlobs codec now { vault with leaseEpoch := vault.leaseEpoch + 1 } = (.ok (), settled) := done
  unfold reopen
  dsimp only
  rw [checked, done]
  have kept := @verifyAndReplay_slot codec settled digest name now verifyEvidence
  refine ⟨kept.1, ?_⟩
  dsimp only
  rw [kept.2]
  exact (recoverStagedBlobs_clears done).2.2

section Reopen

variable {verifyEvidence : Store → Checked Unit} (healthy : (left.reopen codec verifyEvidence now).1 = .ok ())
  (blind : ∀ store, verifyEvidence store.bumpMutationEpoch = verifyEvidence store)
  (beside : Beside digest name left right) (others : ∀ row ∈ left.blobStaging.rows, Elsewhere digest name row)
  (refs : right.blobRefs = left.blobRefs) (store : right.store = left.store ∨ right.store = left.store.bumpMutationEpoch)

include healthy blind refs store

/-- Once the staged blobs settle to a sound slot, the opening goes through as it did without the publication. -/
theorem reopen_of_settled {leftSettled rightSettled : Vault}
    (leftDone : (raised left).recoverStagedBlobs codec now = (.ok (), leftSettled))
    (rightDone : (raised right).recoverStagedBlobs codec now = (.ok (), rightSettled))
    (apart : Beside digest name leftSettled rightSettled)
    (sound : Sound codec digest (slot leftSettled digest name) → Sound codec digest (slot rightSettled digest name)) :
    (right.reopen codec verifyEvidence now).1 = .ok () ∧
      slot (right.reopen codec verifyEvidence now).2 digest name = slot rightSettled digest name ∧
      (right.reopen codec verifyEvidence now).2.blobStaging.rows = [] := by
  obtain ⟨checked, settled, done, verified⟩ := (reopen_ok verifyEvidence).mp healthy
  obtain rfl : settled = leftSettled := (Prod.mk.inj (done.symm.trans leftDone)).2
  obtain ⟨mandatory, evidence, replayed⟩ := (verifyAndReplay_ok verifyEvidence).mp verified
  obtain ⟨leftRefs, leftStore, _⟩ := recoverStagedBlobs_clears leftDone
  obtain ⟨rightRefs, rightStore, _⟩ := recoverStagedBlobs_clears rightDone
  have sameStore : rightSettled.store = settled.store ∨ rightSettled.store = settled.store.bumpMutationEpoch := by
    rw [leftStore, rightStore]
    exact store
  have sameRefs : rightSettled.blobRefs = settled.blobRefs := by
    rw [leftRefs, rightRefs]
    exact refs
  have rightChecked : right.store.integrityCheck = .ok () := by
    rcases store with same | same <;> rw [same]
    · exact checked
    · exact checked
  have references : rightSettled.verifyMandatoryBlobRefs codec = .ok () := by
    unfold verifyMandatoryBlobRefs at mandatory ⊢
    rw [@verifyRefs_ok codec _ name] at mandatory ⊢
    rw [sameRefs]
    intro ref member
    by_cases here : ref.hash = digest
    · rw [here]
      exact sound (here ▸ mandatory ref member)
    · have same := mandatory ref member
      simp only [Sound, slot] at same ⊢
      rw [apart.objects _ here, apart.files _ here]
      exact same
  have proofs : verifyEvidence rightSettled.store = .ok () := by
    rcases sameStore with same | same <;> rw [same]
    · exact evidence
    · rw [blind]
      exact evidence
  have repairs : (rightSettled.store.replayProjections now).1 = .ok () := by
    rcases sameStore with same | same <;> rw [same]
    · exact replayed
    · have bumped := @replayTasks_bump now (settled.store.tasks.rows.filter settled.store.replayable) settled.store
      exact (congrArg Prod.fst bumped).trans replayed
  refine ⟨(reopen_ok verifyEvidence).mpr ⟨rightChecked, rightSettled, rightDone, ?_⟩, reopen_slot rightChecked rightDone⟩
  exact (verifyAndReplay_ok verifyEvidence).mpr ⟨references, proofs, repairs⟩

include beside others

theorem reopen_beside (rows : right.blobStaging.rows = left.blobStaging.rows)
    (sound : Sound codec digest (slot left digest name) → Sound codec digest (slot right digest name)) :
    (right.reopen codec verifyEvidence now).1 = .ok () ∧
      slot (right.reopen codec verifyEvidence now).2 digest name = slot right digest name ∧
      (right.reopen codec verifyEvidence now).2.blobStaging.rows = [] := by
  obtain ⟨_, settled, done, _⟩ := (reopen_ok verifyEvidence).mp healthy
  have apart : Beside digest name (raised left) (raised right) := ⟨beside.files, beside.objects, beside.staged⟩
  obtain ⟨last, rightDone, lastApart, rightSlot, leftSlot⟩ := recoverStagedBlobs_beside apart others done rows
  have outcome := reopen_of_settled healthy blind refs store done rightDone lastApart (by
    rw [leftSlot, rightSlot]
    exact sound)
  rw [rightSlot] at outcome
  exact outcome

/-- Reopening after a publication that left its staging row settles its slot, or fails with it. -/
theorem reopen_own (rows : right.blobStaging.rows = left.blobStaging.rows ++ [row])
    (hash : row.expectedHash = digest) (named : stagedName row.stagingId = name) :
    (∀ last, settle codec row now (slot right digest name) = .ok last →
      (Sound codec digest (slot left digest name) → Sound codec digest last) →
      (right.reopen codec verifyEvidence now).1 = .ok () ∧
        slot (right.reopen codec verifyEvidence now).2 digest name = last ∧
        (right.reopen codec verifyEvidence now).2.blobStaging.rows = []) ∧
    ((∀ last, settle codec row now (slot right digest name) ≠ .ok last) →
      (right.reopen codec verifyEvidence now).1 ≠ .ok ()) := by
  obtain ⟨_, settled, done, _⟩ := (reopen_ok verifyEvidence).mp healthy
  have apart : Beside digest name (raised left) (raised right) := ⟨beside.files, beside.objects, beside.staged⟩
  obtain ⟨settles, fails⟩ := recoverStagedBlobs_own apart others done rows hash named
  constructor
  · intro last own sound
    obtain ⟨after, rightDone, lastApart, rightSlot, leftSlot⟩ := settles last own
    have outcome := reopen_of_settled healthy blind refs store done rightDone lastApart (by
      rw [leftSlot, rightSlot]
      exact sound)
    rw [rightSlot] at outcome
    exact outcome
  · intro unsettled opened
    obtain ⟨_, last, rightDone, _⟩ := (reopen_ok verifyEvidence).mp opened
    exact fails unsettled (congrArg Prod.fst rightDone)

end Reopen

/-- All or nothing: the file holds exactly the bytes and has its row, or there is neither. -/
def Slot.Whole (slot : Slot) (bytes : Bytes) : Prop :=
  (∃ file, slot.file = some file ∧ file.bytes = bytes ∧ slot.object.isSome = true) ∨
    (slot.file = none ∧ slot.object = none)

/-- The crash points that recovery can settle: the staged file was not cut off inside its bytes, and a publication that
did not get to its file had found file and row in agreement. -/
def Survives (vault : Vault) (digest : String) (bytes : Bytes) (cut : PublishCut) : Prop :=
  match vault.blobFiles.lookup digest, cut with
  | _, .completed => True
  | some _, _ => (vault.blobObjects.lookup digest).isSome = true
  | none, .partlyWritten count => bytes.take count = bytes
  | none, .renamed => True
  | none, _ => vault.blobObjects.lookup digest = none

theorem recorded_isSome (object : Option BlobObjectRow) (hash : String) (length : Nat) (now : Int) :
    (recorded object hash length now).isSome = true := by
  cases object <;> rfl

theorem Sound.recorded {earlier : Slot} {length : Nat} (sound : Sound codec digest earlier)
    (same : earlier.file = none ∨ earlier.file = some file)
    (verified : file.bytes.length = length ∧ codec.sha256Hex file.bytes = digest) (staged : Option StagedFile) :
    Sound codec digest ⟨some file, Runs.recorded earlier.object digest length now, staged⟩ := by
  intro object found
  refine ⟨file, rfl, ?_, verified.2⟩
  cases old : earlier.object with
  | none =>
    rw [old] at found
    obtain rfl := Option.some.inj found
    exact verified.1
  | some kept =>
    rw [old] at found
    obtain rfl : kept = object := Option.some.inj found
    obtain ⟨other, held, size, _⟩ := sound kept old
    rcases same with none | some
    · rw [none] at held
      cases held
    · rw [some] at held
      rw [Option.some.inj held]
      exact size

theorem stagedName_injective {first second : String} (same : stagedName first = stagedName second) :
    first = second := by
  have lists := congrArg String.toList same
  simp only [stagedName, String.toList_append] at lists
  exact String.toList_inj.mp (append_cancel_right lists)

/-- Opening the store succeeds, finds the publication done or undone, and leaves no staging row. -/
def ReopensWhole (codec : Codec) (verifyEvidence : Store → Checked Unit) (later : Int) (vault : Vault)
    (digest name : String) (bytes : Bytes) : Prop :=
  (vault.reopen codec verifyEvidence later).1 = .ok () ∧
    (slot (vault.reopen codec verifyEvidence later).2 digest name).Whole bytes ∧
    (vault.reopen codec verifyEvidence later).2.blobStaging.rows = []

theorem reopensWhole_iff {verifyEvidence : Store → Checked Unit} {last : Slot} {bytes : Bytes}
    (outcome : (vault.reopen codec verifyEvidence now).1 = .ok () ∧
      slot (vault.reopen codec verifyEvidence now).2 digest name = last ∧
      (vault.reopen codec verifyEvidence now).2.blobStaging.rows = []) :
    ReopensWhole codec verifyEvidence now vault digest name bytes ↔ last.Whole bytes := by
  obtain ⟨opened, rfl, cleared⟩ := outcome
  exact ⟨fun whole => whole.2.1, fun whole => ⟨opened, whole, cleared⟩⟩

theorem whole_of_file {object : Option BlobObjectRow} {staged : Option StagedFile} {bytes : Bytes}
    (content : file.bytes = bytes) : Slot.Whole ⟨some file, object, staged⟩ bytes ↔ object.isSome = true := by
  simp [Slot.Whole, content]

theorem whole_of_none {object : Option BlobObjectRow} {staged : Option StagedFile} {bytes : Bytes} :
    Slot.Whole ⟨none, object, staged⟩ bytes ↔ object = none := by
  simp [Slot.Whole]

section Crash

variable {ambient : Ambient} {stagingId : String} {bytes : Bytes} {cut : PublishCut} {later : Int}
  {verifyEvidence : Store → Checked Unit}
  (healthy : (vault.reopen codec verifyEvidence later).1 = .ok ())
  (blind : ∀ store, verifyEvidence store.bumpMutationEpoch = verifyEvidence store)
  (others : ∀ row ∈ vault.blobStaging.rows, Elsewhere (codec.sha256Hex bytes) (stagedName stagingId) row)
  (fresh : vault.stagedFiles.lookup (stagedName stagingId) = none)

include healthy blind others fresh

theorem crash_over_file (held : vault.blobFiles.lookup (codec.sha256Hex bytes) = some file)
    (content : file.bytes = bytes) (crashed : vault.publishBlob codec ambient stagingId bytes cut now = .ok after) :
    ReopensWhole codec verifyEvidence later after (codec.sha256Hex bytes) (stagedName stagingId) bytes ↔
      cut = .completed ∨ (vault.blobObjects.lookup (codec.sha256Hex bytes)).isSome = true := by
  simp only [publishBlob, eq_ok_iff, held, verifyBlob] at crashed
  obtain ⟨_, _, _, _, _, verified, crashed⟩ := crashed
  by_cases ends : cut = .completed
  · subst ends
    obtain rfl := pure_eq_ok.mp crashed
    have beside : Beside (codec.sha256Hex bytes) (stagedName stagingId) vault
        (vault.recordObject (codec.sha256Hex bytes) bytes.length now).bumpMutationEpoch := by
      refine ⟨fun _ _ => rfl, fun other differs => ?_, fun _ _ => rfl⟩
      exact (lookup_recordObject vault _ other _ now).trans (if_neg (Ne.symm differs))
    have place : slot (vault.recordObject (codec.sha256Hex bytes) bytes.length now).bumpMutationEpoch
        (codec.sha256Hex bytes) (stagedName stagingId) =
        ⟨some file, recorded (vault.blobObjects.lookup (codec.sha256Hex bytes)) (codec.sha256Hex bytes) bytes.length
          now, none⟩ :=
      Slot.ext held ((lookup_recordObject vault _ _ _ now).trans (if_pos rfl)) fresh
    have outcome := reopen_beside healthy blind beside others rfl (.inr rfl) rfl (by
      rw [place]
      exact fun sound => sound.recorded (.inr held) verified none)
    rw [reopensWhole_iff outcome, place, whole_of_file content]
    simp [recorded_isSome]
  · have still : after = vault := by
      cases cut <;> first | exact absurd rfl ends | exact (pure_eq_ok.mp crashed).symm
    have place : slot vault (codec.sha256Hex bytes) (stagedName stagingId) =
        ⟨some file, vault.blobObjects.lookup (codec.sha256Hex bytes), none⟩ := Slot.ext held rfl fresh
    have outcome := reopen_beside healthy blind (.refl _ _ vault) others rfl (.inl rfl) rfl id
    rw [still, reopensWhole_iff outcome, place, whole_of_file content]
    simp [ends]

/-- The content is new, and its publication goes through a staging row and a staged file. -/
theorem crash_over_nothing (absent : vault.blobFiles.lookup (codec.sha256Hex bytes) = none)
    (crashed : vault.publishBlob codec ambient stagingId bytes cut now = .ok after) :
    ReopensWhole codec verifyEvidence later after (codec.sha256Hex bytes) (stagedName stagingId) bytes ↔
      match cut with
      | .begun | .rowStaged => vault.blobObjects.lookup (codec.sha256Hex bytes) = none
      | .partlyWritten count => bytes.take count = bytes
      | .renamed | .completed => True := by
  simp only [publishBlob, eq_ok_iff, absent, insertRow] at crashed
  obtain ⟨_, _, _, _, blobStaging, inserted, crashed⟩ := crashed
  obtain ⟨unused, rows⟩ := Table.insert_eq_some.mp inserted
  set digest := codec.sha256Hex bytes with digestDef
  set name := stagedName stagingId with nameDef
  set object := vault.blobObjects.lookup digest with objectDef
  set staged : Vault := { vault with blobStaging } with stagedDef
  have verified : bytes.length = bytes.length ∧ codec.sha256Hex bytes = digest := ⟨rfl, rfl⟩
  have vaultSlot : slot vault digest name = ⟨none, object, none⟩ := Slot.ext absent rfl fresh
  -- Whatever recording the whole file leaves is sound, since there was no file before.
  have sound : Sound codec digest (slot vault digest name) →
      ∀ time, Sound codec digest ⟨some ⟨digest, bytes⟩, recorded object digest bytes.length time, none⟩ :=
    fun sound time => sound.recorded (.inl absent) verified none
  have published : Beside digest name vault (staged.publishFile name digest bytes) :=
    ⟨fun other differs => (lookup_publishFile staged name digest other bytes).trans (if_neg (Ne.symm differs)),
      fun _ _ => rfl,
      fun other differs => (staged_publishFile staged name digest other bytes).trans (if_neg (Ne.symm differs))⟩
  have publishedFile : (staged.publishFile name digest bytes).blobFiles.lookup digest = some ⟨digest, bytes⟩ :=
    (lookup_publishFile staged name digest digest bytes).trans (if_pos rfl)
  have publishedName : (staged.publishFile name digest bytes).stagedFiles.lookup name = none :=
    (staged_publishFile staged name digest name bytes).trans (if_pos rfl)
  have whole : ∀ time, Slot.Whole ⟨some ⟨digest, bytes⟩, recorded object digest bytes.length time, none⟩ bytes :=
    fun time => (whole_of_file rfl).mpr (recorded_isSome _ _ _ _)
  cases cut with
  | begun =>
    obtain rfl := pure_eq_ok.mp crashed
    have outcome := reopen_beside healthy blind (.refl digest name vault) others rfl (.inl rfl) rfl id
    rw [reopensWhole_iff outcome, vaultSlot, whole_of_none]
  | rowStaged =>
    obtain rfl := pure_eq_ok.mp crashed
    have beside : Beside digest name vault staged := ⟨fun _ _ => rfl, fun _ _ => rfl, fun _ _ => rfl⟩
    have settles := (reopen_own healthy blind beside others rfl (.inl rfl) rows rfl rfl).1
    have outcome := settles (slot staged digest name) (by
      simp only [settle, slot, stagedDef, absent, fresh]
      rfl) id
    have same : slot staged digest name = slot vault digest name := rfl
    rw [reopensWhole_iff outcome, same, vaultSlot, whole_of_none]
  | partlyWritten count =>
    obtain rfl := pure_eq_ok.mp crashed
    have beside : Beside digest name vault (staged.writeStaged name (bytes.take count)) :=
      ⟨fun _ _ => rfl, fun _ _ => rfl,
        fun other differs => (lookup_writeStaged staged name other _).trans (if_neg (Ne.symm differs))⟩
    have place : slot (staged.writeStaged name (bytes.take count)) digest name =
        ⟨none, object, some ⟨name, bytes.take count⟩⟩ :=
      Slot.ext absent rfl ((lookup_writeStaged staged name name _).trans (if_pos rfl))
    obtain ⟨settles, fails⟩ := reopen_own healthy blind beside others rfl (.inl rfl) rows rfl rfl
    rw [place] at settles fails
    dsimp only
    by_cases complete : bytes.take count = bytes
    · rw [complete] at settles ⊢
      have outcome := settles ⟨some ⟨digest, bytes⟩, recorded object digest bytes.length later, none⟩ (by
        simp [settle, verifyBlob, ensure, digestDef, bind, Except.bind, pure, Except.pure])
        fun before => sound before later
      rw [reopensWhole_iff outcome]
      exact iff_of_true (whole later) rfl
    · refine iff_of_false (fun reopens => ?_) complete
      refine fails (fun last own => complete ?_) reopens.1
      simp only [settle, verifyBlob, eq_ok_iff] at own
      obtain ⟨_, ⟨length, _⟩, _⟩ := own
      rw [length_take] at length
      exact take_of_length_le (by omega)
  | renamed =>
    obtain rfl := pure_eq_ok.mp crashed
    have place : slot (staged.publishFile name digest bytes) digest name = ⟨some ⟨digest, bytes⟩, object, none⟩ :=
      Slot.ext publishedFile rfl publishedName
    have settles := (reopen_own healthy blind published others rfl (.inl rfl) rows rfl rfl).1
    have outcome := settles ⟨some ⟨digest, bytes⟩, recorded object digest bytes.length later, none⟩ (by
      rw [place]
      simp [settle, verifyBlob, ensure, digestDef, bind, Except.bind, pure, Except.pure])
      fun before => sound before later
    rw [reopensWhole_iff outcome]
    exact iff_of_true (whole later) trivial
  | completed =>
    obtain rfl := pure_eq_ok.mp crashed
    set last := (((staged.publishFile name digest bytes).recordObject digest bytes.length now).unstage
      stagingId).bumpMutationEpoch with lastDef
    have beside : Beside digest name vault last :=
      ⟨published.files, fun other differs => (lookup_recordObject _ _ other _ now).trans (if_neg (Ne.symm differs)),
        published.staged⟩
    have place : slot last digest name = ⟨some ⟨digest, bytes⟩, recorded object digest bytes.length now, none⟩ :=
      Slot.ext publishedFile ((lookup_recordObject _ _ _ _ now).trans (if_pos rfl)) publishedName
    have cleared : last.blobStaging.rows = vault.blobStaging.rows := by
      have kept : last.blobStaging.rows = blobStaging.rows.filter fun row => !decide (row.stagingId = stagingId) := rfl
      rw [kept, rows, filter_append]
      have free := Table.lookup_eq_none.mp unused
      rw [filter_eq_self.mpr fun row member => by simpa using free row member]
      simp
    have outcome := reopen_beside healthy blind beside others rfl (.inr rfl) cleared (by
      rw [place]
      exact fun before => sound before now)
    rw [reopensWhole_iff outcome, place]
    exact iff_of_true (whole now) trivial

end Crash

/-- Reopening after a crash inside `publish_blob` succeeds with the publication done or undone, and with no staging row
left, exactly when the crash point can be settled. -/
theorem publication_crash_atomic {ambient : Ambient} {stagingId : String} {bytes : Bytes} {cut : PublishCut}
    {later : Int} {verifyEvidence : Store → Checked Unit}
    (healthy : (vault.reopen codec verifyEvidence later).1 = .ok ())
    (blind : ∀ store, verifyEvidence store.bumpMutationEpoch = verifyEvidence store)
    (alone : ∀ row ∈ vault.blobStaging.rows, row.expectedHash ≠ codec.sha256Hex bytes ∧ row.stagingId ≠ stagingId)
    (fresh : vault.stagedFiles.lookup (stagedName stagingId) = none)
    (faithful : ∀ file ∈ vault.blobFiles.rows, codec.sha256Hex file.bytes = codec.sha256Hex bytes → file.bytes = bytes)
    (crashed : vault.publishBlob codec ambient stagingId bytes cut now = .ok after) :
    ReopensWhole codec verifyEvidence later after (codec.sha256Hex bytes) (stagedName stagingId) bytes ↔
      Survives vault (codec.sha256Hex bytes) bytes cut := by
  have others : ∀ row ∈ vault.blobStaging.rows, Elsewhere (codec.sha256Hex bytes) (stagedName stagingId) row :=
    fun row member => ⟨(alone row member).1, fun same => (alone row member).2 (stagedName_injective same)⟩
  unfold Survives
  cases held : vault.blobFiles.lookup (codec.sha256Hex bytes) with
  | some file =>
    have content : file.bytes = bytes := by
      have verified := crashed
      simp only [publishBlob, eq_ok_iff, held, verifyBlob] at verified
      obtain ⟨_, _, _, _, _, verified, _⟩ := verified
      exact faithful file (Table.of_lookup held).1 verified.2
    rw [crash_over_file healthy blind others fresh held content crashed]
    cases cut <;> simp
  | none =>
    rw [crash_over_nothing healthy blind others fresh held crashed]
    cases cut <;> simp

/-- A crash after the whole file was staged, in a vault that knows other content already. -/
theorem publication_crash_atomic_staged :
    ∃ vault after, VaultReachable (Script.codec []) (fun _ _ => True) vault ∧
      vault.publishBlob (Script.codec []) Script.ambient "staging" (utf8 "bytes") (.partlyWritten 5) 2 = .ok after ∧
      ReopensWhole (Script.codec []) (fun _ => .ok ()) 3 after (Script.checksum (utf8 "bytes")) "staging.part"
        (utf8 "bytes") := by
  obtain ⟨vault, run, healthy, alone, fresh, faithful, held, after, crashed⟩ : ∃ vault,
      VaultReachable (codec []) (fun _ _ => True) vault ∧
      (vault.reopen (codec []) (fun _ => .ok ()) 3).1 = .ok () ∧
      (∀ row ∈ vault.blobStaging.rows, row.expectedHash ≠ checksum (utf8 "bytes") ∧ row.stagingId ≠ "staging") ∧
      (vault.stagedFiles.lookup (stagedName "staging")).isNone = true ∧
      (∀ file ∈ vault.blobFiles.rows, checksum file.bytes = checksum (utf8 "bytes") →
        file.bytes = utf8 "bytes") ∧
      (vault.blobFiles.lookup (checksum (utf8 "bytes"))).isNone = true ∧
      ∃ after, vault.publishBlob (codec []) ambient "staging" (utf8 "bytes") (.partlyWritten 5) 2 = .ok after :=
    exists_of_vault_script [publish "others" 1] (by decide +kernel)
  refine ⟨vault, after, run, crashed, ?_⟩
  have atomic := @publication_crash_atomic (codec []) vault after 2 ambient "staging" (utf8 "bytes") (.partlyWritten 5)
    3 (fun _ => .ok ()) healthy (fun _ => rfl) alone (by simpa using fresh) faithful crashed
  refine atomic.mpr ?_
  have absent : vault.blobFiles.lookup ((codec []).sha256Hex (utf8 "bytes")) = none :=
    Option.isNone_iff_eq_none.mp held
  simp only [Survives, absent]
  decide

/-- A crash in the middle of the staged file: the next opening of the store fails. -/
theorem torn_stage_refused :
    ∃ vault after, VaultReachable (Script.codec []) (fun _ _ => True) vault ∧
      vault.publishBlob (Script.codec []) Script.ambient "staging" (utf8 "bytes") (.partlyWritten 2) 2 = .ok after ∧
      (after.reopen (Script.codec []) (fun _ => .ok ()) 3).1 ≠ .ok () := by
  obtain ⟨after, crashed, refused⟩ : ∃ after, initial.publishBlob (codec []) ambient "staging" (utf8 "bytes")
      (.partlyWritten 2) 2 = .ok after ∧ (after.reopen (codec []) (fun _ => .ok ()) 3).1 ≠ .ok () := by decide +kernel
  exact ⟨initial, after, .refl, crashed, refused⟩

end AgentMesh.Runs
