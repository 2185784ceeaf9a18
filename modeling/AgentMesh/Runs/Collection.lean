import AgentMesh.Storage.Effects

/-! The collector over many rounds. An intent is the only row of its resource for good, so a resource can be marked
once; as long as nothing brings a deleted resource back and no deletion fails, every call of the collector succeeds and
everything that may be collected is selected in the end. -/
namespace AgentMesh.Runs
open Library Daemon AgentMesh.Task AgentMesh.Storage Vault Script List Table

variable {codec : Codec} {vault before middle after : Vault} {ambient : Ambient} {now : Int} {blob : BlobObjectRow}
  {intent : GcIntentRow} {earlier later : Int} {taskId : String} {task : TaskRow} {row : WorktreeRow}
  {candidate : GcCandidate} {candidates : List GcCandidate} {last : Store}

def wasDeleted (vault : Vault) (resourceKind resourceId : String) : Bool :=
  (vault.intents.lookup (resourceKind, resourceId)).any fun row => row.state = .deleted

/-- The operations that leave the collector an intent row in its way: a failed deletion, the publication of content that
was deleted before, also by the recovery of a staged file, and the registration of a worktree under a used name. -/
def Undisturbed (codec : Codec) (operation : Operation) (vault : Vault) : Prop :=
  match operation with
  | .finishGcDeletion _ _ success _ _ => success = true
  | .publishBlob _ _ bytes _ _ => wasDeleted vault "blob" (codec.sha256Hex bytes) = false
  | .reopen _ _ => ∀ row ∈ vault.blobStaging.rows, wasDeleted vault "blob" row.expectedHash = false
  | .registerWorktree _ worktreeId _ _ _ => vault.intents.lookup ("worktree", worktreeId) = none
  | _ => True

instance (codec : Codec) (operation : Operation) (vault : Vault) : Decidable (Undisturbed codec operation vault) :=
  match operation with
  | .finishGcDeletion .. => inferInstanceAs (Decidable (_ = true))
  | .publishBlob .. => inferInstanceAs (Decidable (_ = false))
  | .reopen .. => inferInstanceAs (Decidable (∀ row ∈ _, wasDeleted vault "blob" (BlobStagingRow.expectedHash row) = false))
  | .registerWorktree .. => inferInstanceAs (Decidable (_ = none))
  | .commit .. | .referenceBlob .. | .acquireLease .. | .releaseLease .. | .markRetentionGc .. | .unlinkBlob .. =>
    .isTrue trivial

/-- An intent is open or completed. A completed one has no resource left, and the worktree of an open one is marked. -/
structure OrderlyIntent (vault : Vault) (intent : GcIntentRow) : Prop where
  unfailed : intent.state ≠ .failed
  blob : intent.resourceKind = "blob" → intent.state = .deleted →
    ∀ blob ∈ vault.blobObjects.rows, blob.hash ≠ intent.resourceId
  worktree : intent.resourceKind = "worktree" → ∀ row ∈ vault.worktrees.rows, row.worktreeId = intent.resourceId →
    row.state = if intent.state = .marked then .gcMarked else .deleted

/-- A worktree with an end belongs to a task that ended. -/
structure OrderlyWorktree (tasks : Table TaskRow.taskId) (row : WorktreeRow) : Prop where
  ended : row.state = .gcMarked ∨ row.state = .deleted → row.terminalAt.isSome = true
  owned : ∃ task, tasks.lookup row.taskId = some task ∧
    (row.terminalAt.isSome = true → task.state.isTerminal = true)

structure Orderly (vault : Vault) : Prop where
  intents : ∀ intent ∈ vault.intents.rows, OrderlyIntent vault intent
  worktrees : ∀ row ∈ vault.worktrees.rows, OrderlyWorktree vault.store.tasks row

theorem task_kept {first : Store} (start : Reachable codec first) (run : Uncompacted codec first last)
    (found : first.tasks.lookup taskId = some task) :
    ∃ later, last.tasks.lookup taskId = some later ∧ (task.state.isTerminal = true → later.state.isTerminal = true) := by
  obtain ⟨current, seen, rfl⟩ := view_of_lookup found
  have kept := follow_uncompacted (fun next => current.row.state.isTerminal = true → next.row.state.isTerminal = true)
    (fun control _ ended step terminal => by
      rcases change_of_terminal control step (ended terminal) with rfl | rfl <;> cases step <;> exact ended terminal)
    (fun _ _ none => none) start run seen id
  obtain ⟨next, stored, ended⟩ := kept
  exact ⟨next.row, (view_eq_some stored).1, ended⟩

theorem OrderlyWorktree.kept {first : Store} (orderly : OrderlyWorktree first.tasks row) (start : Reachable codec first)
    (run : Uncompacted codec first last) : OrderlyWorktree last.tasks row := by
  obtain ⟨task, found, ends⟩ := orderly.owned
  obtain ⟨later, laterFound, kept⟩ := task_kept start run found
  exact ⟨orderly.ended, later, laterFound, fun terminal => kept (ends terminal)⟩

/-- An intent stays orderly when its object does not come back and its worktree keeps its state. A worktree that is
active or retained has no intent. -/
theorem OrderlyIntent.kept (orderly : OrderlyIntent before intent)
    (objects : intent.resourceKind = "blob" → intent.state = .deleted → ∀ blob ∈ after.blobObjects.rows,
      blob.hash = intent.resourceId → ∃ old ∈ before.blobObjects.rows, old.hash = blob.hash)
    (rows : intent.resourceKind = "worktree" → ∀ row ∈ after.worktrees.rows, row.worktreeId = intent.resourceId →
      ∃ old ∈ before.worktrees.rows, old.worktreeId = row.worktreeId ∧
        (row.state = old.state ∨ old.state = .active ∨ old.state = .retained)) : OrderlyIntent after intent := by
  refine ⟨orderly.unfailed, fun kind state blob member same => ?_, fun kind row member same => ?_⟩
  · obtain ⟨old, stored, hash⟩ := objects kind state blob member same
    exact orderly.blob kind state old stored (hash.trans same)
  · obtain ⟨old, stored, named, free⟩ := rows kind row member same
    have fenced := orderly.worktree kind old stored (named.trans same)
    rcases free with kept | free | free
    · rw [kept, fenced]
    all_goals
      rw [free] at fenced
      split at fenced <;> cases fenced

namespace Orderly

theorem of_rows (orderly : Orderly before) (intents : after.intents = before.intents)
    (objects : ∀ blob ∈ after.blobObjects.rows, (∃ old ∈ before.blobObjects.rows, old.hash = blob.hash) ∨
      wasDeleted before "blob" blob.hash = false)
    (rows : ∀ row ∈ after.worktrees.rows, OrderlyWorktree after.store.tasks row ∧
      ((∃ old ∈ before.worktrees.rows, old.worktreeId = row.worktreeId ∧
        (row.state = old.state ∨ old.state = .active ∨ old.state = .retained)) ∨
        before.intents.lookup ("worktree", row.worktreeId) = none)) : Orderly after := by
  refine ⟨fun intent listed => ?_, fun row member => (rows row member).1⟩
  rw [intents] at listed
  refine (orderly.intents intent listed).kept (fun kind state blob member same => ?_) fun kind row member same => ?_
  · refine (objects blob member).resolve_right fun clean => ?_
    have found := (before.intents.lookup_eq_some ("blob", blob.hash) intent).mpr ⟨listed, by rw [kind, same]⟩
    simp [wasDeleted, found, state] at clean
  · exact (rows row member).2.resolve_right fun unused =>
      lookup_eq_none.mp unused intent listed (by rw [kind, same])

theorem of_same (orderly : Orderly before) (intents : after.intents = before.intents)
    (worktrees : after.worktrees = before.worktrees) (tasks : after.store.tasks = before.store.tasks)
    (objects : ∀ blob ∈ after.blobObjects.rows, ∃ old ∈ before.blobObjects.rows, old.hash = blob.hash) :
    Orderly after := by
  refine orderly.of_rows intents (fun blob member => .inl (objects blob member)) ?_
  rw [worktrees, tasks]
  exact fun row member => ⟨orderly.worktrees row member, .inl ⟨row, member, rfl, .inl rfl⟩⟩

/-- An operation that touches neither intents nor worktrees and records no deleted content. -/
theorem of_records {digest : String → Prop} (orderly : Orderly before) (start : Reachable codec before.store)
    (records : Records codec digest before after)
    (clean : ∀ hash, digest hash → wasDeleted before "blob" hash = false) : Orderly after := by
  refine orderly.of_rows records.shelf.intents (fun blob member => ?_) fun row member => ?_
  · exact (records.fresh blob member).imp (fun old => ⟨blob, old, rfl⟩) (clean blob.hash)
  · rw [records.shelf.worktrees] at member
    exact ⟨(orderly.worktrees row member).kept start records.store.uncompacted, .inl ⟨row, member, rfl, .inl rfl⟩⟩

theorem free_of_live (orderly : OrderlyWorktree vault.store.tasks row)
    (found : vault.store.tasks.lookup row.taskId = some task) (live : task.state.isTerminal = false) :
    row.state = .active ∨ row.state = .retained := by
  obtain ⟨owner, ownerFound, ends⟩ := orderly.owned
  obtain rfl : owner = task := Option.mem_unique ownerFound found
  have undated : ¬row.terminalAt.isSome = true := fun dated => by simp [ends dated] at live
  cases state : row.state with
  | active => exact .inl rfl
  | retained => exact .inr rfl
  | gcMarked => exact absurd (orderly.ended (.inl state)) undated
  | deleted => exact absurd (orderly.ended (.inr state)) undated

theorem commit (orderly : Orderly before) (start : Reachable codec before.store) {request : Request}
    (admissible : (Operation.commit request).admissible before) (done : before.commit codec request = .ok after) :
    Orderly after := by
  have kept : ∀ blob ∈ after.blobObjects.rows, (∃ old ∈ before.blobObjects.rows, old.hash = blob.hash) ∨
      wasDeleted before "blob" blob.hash = false := by
    rw [(commit_executes done).2]
    exact fun blob member => .inl ⟨blob, member, rfl⟩
  have run := commit_uncompacted admissible done
  cases commit_evidence done with
  | untouched shelf =>
    refine orderly.of_rows shelf.intents kept fun row member => ?_
    rw [shelf.worktrees] at member
    exact ⟨(orderly.worktrees row member).kept start run, .inl ⟨row, member, rfl, .inl rfl⟩⟩
  | retained taskId terminal now task last found live stored ended same =>
    have worktrees : after.worktrees.rows = updateWhere (fun row => row.taskId = taskId) _ before.worktrees.rows :=
      congrArg (fun vault : Vault => vault.worktrees.rows) same
    refine orderly.of_rows (by rw [same]; rfl) kept fun row member => ?_
    rw [worktrees] at member
    obtain ⟨old, oldMember, rfl⟩ := mem_updateWhere.mp member
    have owner := orderly.worktrees old oldMember
    by_cases own : old.taskId = taskId
    · have free := free_of_live owner (own ▸ found) live
      refine ⟨⟨by simp [own], last, by simpa [own] using stored, fun _ => ended⟩, .inl ⟨old, oldMember, ?_, .inr free⟩⟩
      simp [own]
    · simp only [own, decide_false, Bool.false_eq_true, if_false]
      exact ⟨owner.kept start run, .inl ⟨old, oldMember, rfl, .inl rfl⟩⟩
  | released entry later task terminalAt now _ _ _ _ _ _ _ same =>
    have worktrees : after.worktrees.rows = updateWhere (fun row => row.taskId = entry.taskId) _ before.worktrees.rows :=
      congrArg (fun vault : Vault => vault.worktrees.rows) same
    refine orderly.of_rows (by rw [same]; rfl) kept fun row member => ?_
    rw [worktrees] at member
    obtain ⟨old, oldMember, rfl⟩ := mem_updateWhere.mp member
    obtain ⟨ends, owned⟩ := (orderly.worktrees old oldMember).kept start run
    by_cases own : old.taskId = entry.taskId
    · by_cases active : old.state = .active
      · exact ⟨⟨by simp [own, active], by simpa [own, active] using owned⟩,
          .inl ⟨old, oldMember, by simp [own], .inr (.inl active)⟩⟩
      · exact ⟨⟨by simpa [own, active] using ends, by simpa [own, active] using owned⟩,
          .inl ⟨old, oldMember, by simp [own], .inl (by simp [own, active])⟩⟩
    · simp only [own, decide_false, Bool.false_eq_true, if_false]
      exact ⟨⟨ends, owned⟩, .inl ⟨old, oldMember, rfl, .inl rfl⟩⟩

theorem registerWorktree (orderly : Orderly before) {worktreeId path : String} {inside : Bool}
    (unused : before.intents.lookup ("worktree", worktreeId) = none)
    (done : before.registerWorktree ambient worktreeId taskId path inside = .ok after) : Orderly after := by
  obtain ⟨worktrees, exists_, inserted, rfl⟩ := registerWorktree_ok done
  obtain ⟨task, found⟩ := Option.isSome_iff_exists.mp exists_
  refine orderly.of_rows rfl (fun blob member => .inl ⟨blob, member, rfl⟩) fun row member => ?_
  have listed : row ∈ worktrees.rows := member
  rw [(insert_eq_some.mp inserted).2, mem_append, mem_singleton] at listed
  rcases listed with old | rfl
  · exact ⟨orderly.worktrees row old, .inl ⟨row, old, rfl, .inl rfl⟩⟩
  · exact ⟨⟨fun state => by simp at state, task, found, fun dated => by simp at dated⟩, .inr unused⟩

theorem compactTask (orderly : Orderly before) (done : before.compactTask taskId now = .ok after) : Orderly after := by
  have compaction := compactTask_compacted done
  obtain ⟨compacted, same⟩ := compactTask_ok done
  refine orderly.of_rows compaction.intents (fun blob member => ?_) fun row member => ?_
  · rw [compaction.objects] at member
    exact .inl ⟨blob, member, rfl⟩
  have old := compaction.worktrees.subset member
  refine ⟨?_, .inl ⟨row, old, rfl, .inl rfl⟩⟩
  obtain ⟨ends, task, found, owner⟩ := orderly.worktrees row old
  have other : row.taskId ≠ taskId := by
    intro own
    have unpinned : before.pinned taskId now = false := by
      simp only [Store.compactTask, queryRow, eq_ok_iff] at compacted
      obtain ⟨_, _, _, compactable, _⟩ := compacted
      exact compactable.1
    rw [same] at member
    simp only [delete_rows, mem_filter] at member
    simp only [pinned, Bool.or_eq_false_iff, any_eq_false] at unpinned
    have gone := unpinned.2 row member.1
    simp [own] at gone member
    exact member.2 gone
  exact ⟨ends, task, (compactTask_others compacted other).1.task.trans found, owner⟩

theorem compactTasks (taskIds : List String) (orderly : Orderly before)
    (done : before.compactTasks now taskIds = .ok after) : Orderly after := by
  induction taskIds generalizing before with
  | nil =>
    obtain rfl := pure_eq_ok.mp done
    exact orderly
  | cons taskId taskIds ih =>
    obtain ⟨middle, compacted, rest⟩ := bind_eq_ok.mp done
    exact ih (orderly.compactTask compacted) rest

theorem worktree_of_candidate {draw : String × String → FenceToken} (member : row ∈ vault.worktrees.rows)
    (chosen : candidate ∈ vault.gcCandidates draw now) (kind : candidate.resourceKind = "worktree")
    (named : row.worktreeId = candidate.resourceId) : vault.worktreeCollectable now row = true := by
  rcases mem_gcCandidates chosen with ⟨other, _⟩ | ⟨_, picked, stored, collectable, id⟩
  · rw [other] at kind
    exact absurd kind (by decide)
  · obtain rfl : row = picked := inj_on_of_nodup_map vault.worktrees.keyed member stored (named.trans id)
    exact collectable

theorem expired_of_collectable (collectable : vault.worktreeCollectable now row = true) :
    row.state = .retained ∧ row.terminalAt.isSome = true := by
  simp only [worktreeCollectable, WorktreeRow.expired, Bool.and_eq_true, decide_eq_true_eq] at collectable
  refine ⟨collectable.1.1.1, ?_⟩
  cases dated : row.terminalAt with
  | none => simp [dated] at collectable
  | some terminalAt => rfl

theorem fence (orderly : Orderly vault) {draw : String × String → FenceToken}
    (fenced : Fenced now (vault.gcCandidates draw now) vault after) : Orderly after := by
  have rows : ∀ row ∈ after.worktrees.rows, OrderlyWorktree after.store.tasks row ∧ ∃ old ∈ vault.worktrees.rows,
      old.worktreeId = row.worktreeId ∧ (row.state = old.state ∨ old.state = .active ∨ old.state = .retained) := by
    intro row member
    rw [fenced.worktrees] at member
    rw [fenced.store]
    obtain ⟨old, stored, rfl⟩ := mem_updateWhere.mp member
    have owner := orderly.worktrees old stored
    split
    · rename_i picked
      simp only [any_eq_true, decide_eq_true_eq] at picked
      obtain ⟨candidate, chosen, kind, named⟩ := picked
      obtain ⟨retained, ended⟩ := expired_of_collectable (worktree_of_candidate stored chosen kind named)
      exact ⟨⟨fun _ => ended, owner.owned⟩, old, stored, rfl, .inr (.inr retained)⟩
    · exact ⟨owner, old, stored, rfl, .inl rfl⟩
  refine ⟨fun intent listed => ?_, fun row member => (rows row member).1⟩
  rw [fenced.intents, mem_append, mem_map] at listed
  rcases listed with old | ⟨candidate, chosen, rfl⟩
  · refine (orderly.intents intent old).kept (fun _ _ blob member _ => ?_) fun _ row member _ => (rows row member).2
    rw [fenced.objects] at member
    exact ⟨blob, member, rfl⟩
  · refine ⟨nofun, fun _ => nofun, fun kind row member named => ?_⟩
    rw [fenced.worktrees] at member
    obtain ⟨old, stored, rfl⟩ := mem_updateWhere.mp member
    split at named <;> rename_i picked
    · rw [if_pos picked]
      rfl
    · refine absurd ?_ picked
      simp only [any_eq_true, decide_eq_true_eq]
      exact ⟨candidate, chosen, kind, named⟩

theorem dropLeases (orderly : Orderly vault) (selects : LeaseRow → Bool) : Orderly (vault.dropLeases selects) :=
  orderly.of_same rfl rfl rfl fun blob member => ⟨blob, member, rfl⟩

theorem mark (orderly : Orderly before) {draw : String × String → FenceToken}
    (done : before.markRetentionGc ambient draw now = .ok (candidates, after)) : Orderly after := by
  obtain ⟨middle, fenced, compacted, rfl, marked, rfl⟩ := markRetentionGc_ok done
  have last := (compactTasks _ (orderly.dropLeases _) compacted).fence (fenceAll_fenced _ marked)
  exact last.of_same rfl rfl rfl fun blob member => ⟨blob, member, rfl⟩

theorem mem_closeIntent {state : IntentState} {error : Option String} {closed : GcIntentRow}
    (found : vault.intents.lookup (candidate.resourceKind, candidate.resourceId) = some closed)
    (token : closed.fenceToken = candidate.fenceToken)
    (listed : intent ∈ (vault.closeIntent candidate state error now).intents.rows) :
    (intent ∈ vault.intents.rows ∧ ¬(intent.resourceKind = candidate.resourceKind ∧
      intent.resourceId = candidate.resourceId)) ∨
    (intent.state = state ∧ intent.resourceKind = candidate.resourceKind ∧
      intent.resourceId = candidate.resourceId) := by
  obtain ⟨old, stored, rfl⟩ := mem_updateWhere.mp listed
  by_cases own : old.resourceKind = candidate.resourceKind ∧ old.resourceId = candidate.resourceId
  · have same := (vault.intents.lookup_eq_some (candidate.resourceKind, candidate.resourceId) old).mpr
      ⟨stored, by rw [own.1, own.2]⟩
    obtain rfl : closed = old := Option.mem_unique found same
    refine .inr ?_
    simp [own, token]
  · have other : ¬(old.resourceKind = candidate.resourceKind ∧ old.resourceId = candidate.resourceId ∧
        old.fenceToken = candidate.fenceToken) := fun all => own ⟨all.1, all.2.1⟩
    refine .inl ?_
    simpa [other] using ⟨stored, fun kind id => own ⟨kind, id⟩⟩

theorem finish (orderly : Orderly before)
    (found : before.intents.lookup (candidate.resourceKind, candidate.resourceId) = some intent)
    (open_ : intent.state = .marked) (token : intent.fenceToken = candidate.fenceToken)
    (finished : Finished before candidate true now after) : Orderly after := by
  obtain ⟨intentStored, key⟩ := of_lookup found
  simp only [Prod.mk.injEq] at key
  cases finished with
  | failed _ unsuccessful _ => cases unsuccessful
  | blob _ kind same =>
    rw [same]
    refine ⟨fun other listed => ?_, orderly.worktrees⟩
    rcases mem_closeIntent found token listed with ⟨old, _⟩ | ⟨state, own, id⟩
    · exact (orderly.intents other old).kept (fun _ _ blob member _ => ⟨blob, (mem_filter.mp member).1, rfl⟩)
        fun _ row member _ => ⟨row, member, rfl, .inl rfl⟩
    · refine ⟨by rw [state]; decide, fun _ _ blob member named => ?_, fun otherKind => ?_⟩
      · have stored := mem_filter.mp member
        simp [named.trans id] at stored
      · rw [own, kind] at otherKind
        exact absurd otherKind (by decide)
  | worktree _ kind same =>
    rw [same]
    have rows : ∀ row ∈ updateWhere
        (fun row : WorktreeRow => row.worktreeId = candidate.resourceId ∧ row.state = .gcMarked)
        (fun row => { row with state := .deleted }) before.worktrees.rows, OrderlyWorktree before.store.tasks row ∧
          ((row ∈ before.worktrees.rows ∧ row.worktreeId ≠ candidate.resourceId) ∨ row.state = .deleted ∧
            row.worktreeId = candidate.resourceId) := by
      intro row member
      obtain ⟨old, stored, rfl⟩ := mem_updateWhere.mp member
      obtain ⟨ends, owned⟩ := orderly.worktrees old stored
      by_cases own : old.worktreeId = candidate.resourceId
      · have fenced := (orderly.intents intent intentStored).worktree (key.1.trans kind) old stored
          (own.trans key.2.symm)
        rw [if_pos open_] at fenced
        simp only [own, fenced, true_and, decide_true, if_true]
        exact ⟨⟨fun _ => ends (.inl fenced), owned⟩, .inr trivial⟩
      · simp only [own, false_and, decide_false, Bool.false_eq_true, if_false]
        exact ⟨⟨ends, owned⟩, .inl ⟨stored, own⟩⟩
    refine ⟨fun other listed => ?_, fun row member => (rows row member).1⟩
    rcases mem_closeIntent found token listed with ⟨old, differs⟩ | ⟨state, own, id⟩
    · refine (orderly.intents other old).kept (fun _ _ blob member _ => ⟨blob, member, rfl⟩)
        fun otherKind row member named => ?_
      obtain ⟨_, ⟨stored, _⟩ | ⟨_, own⟩⟩ := rows row member
      · exact ⟨row, stored, rfl, .inl rfl⟩
      · exact absurd ⟨otherKind.trans kind.symm, named.symm.trans own⟩ differs
    · refine ⟨by rw [state]; decide, fun otherKind => ?_, fun _ row member named => ?_⟩
      · rw [own, kind] at otherKind
        exact absurd otherKind (by decide)
      · rw [state]
        exact (rows row member).2.elim (fun kept => absurd (named.trans id) kept.2) And.left

theorem operate (orderly : Orderly before) (start : Reachable codec before.store) {operation : Operation}
    (admissible : operation.admissible before) (undisturbed : Undisturbed codec operation before)
    (done : operate codec operation before = .ok after) : Orderly after := by
  cases operation with
  | commit request => exact orderly.commit start admissible done
  | registerWorktree => exact orderly.registerWorktree undisturbed done
  | publishBlob =>
    refine orderly.of_records start (publishBlob_records done) ?_
    rintro _ rfl
    exact undisturbed
  | referenceBlob =>
    obtain ⟨_, rfl⟩ := referenceBlob_ok done
    refine orderly.of_same rfl rfl rfl fun blob member => ?_
    obtain ⟨old, stored, rfl⟩ := mem_updateWhere.mp member
    exact ⟨old, stored, by split <;> rfl⟩
  | acquireLease =>
    obtain ⟨_, _, _, rfl⟩ := acquireLease_ok done
    exact orderly.of_same rfl rfl rfl fun blob member => ⟨blob, member, rfl⟩
  | releaseLease =>
    obtain ⟨_, released⟩ := snd_eq_ok done
    obtain ⟨selects, rfl⟩ := releaseLease_ok released
    exact orderly.of_same rfl rfl rfl fun blob member => ⟨blob, member, rfl⟩
  | markRetentionGc =>
    obtain ⟨_, marked⟩ := snd_eq_ok done
    exact orderly.mark marked
  | unlinkBlob =>
    obtain ⟨_, _, rfl⟩ := unlinkBlob_ok done
    exact orderly.of_same rfl rfl rfl fun blob member => ⟨blob, member, rfl⟩
  | finishGcDeletion _ _ success =>
    obtain ⟨⟨intent, found, open_, token⟩, finished⟩ := finishGcDeletion_ok done
    obtain rfl : success = true := undisturbed
    exact orderly.finish found open_ token finished
  | reopen verifyEvidence now =>
    obtain rfl := pure_eq_ok.mp done
    refine orderly.of_records start (reopen_records verifyEvidence before) ?_
    rintro _ ⟨row, member, rfl⟩
    exact undisturbed row member

end Orderly

open Bool

theorem orderly_of_reachable (run : VaultReachable codec (Undisturbed codec) vault) : Orderly vault := by
  induction run with
  | refl => constructor <;> intro _ member <;> cases member
  | tail run performed orderly =>
    obtain ⟨_, admissible, undisturbed, done⟩ := performed
    exact orderly.operate (store_reachable run) admissible undisturbed done

/-! In an orderly vault a call of the collector succeeds. -/

theorem compactTask_succeeds (found : vault.store.tasks.lookup taskId = some task)
    (compactable : vault.store.compactable (vault.pinned taskId now) task now) :
    ∃ after, vault.compactTask taskId now = .ok after := by
  simp [compactTask, Store.compactTask, queryRow, found, required, ensure, compactable, bind, Except.bind, pure,
    Except.pure]

theorem compactable_of_other {other : String} (done : vault.compactTask taskId now = .ok after)
    (differs : other ≠ taskId) (own : task.taskId = other)
    (compactable : vault.store.compactable (vault.pinned other now) task now) :
    after.store.compactable (after.pinned other now) task now := by
  obtain ⟨compacted, _⟩ := compactTask_ok done
  have compaction := compactTask_compacted done
  have same := (compactTask_others compacted differs).1
  obtain ⟨unpinned, ⟨entry, listed, owner, version, acked⟩, ended⟩ := compactable
  refine ⟨?_, ⟨entry, ?_, owner, version, acked⟩, ended⟩
  · simp only [pinned, or_eq_false_iff, any_eq_false, leased, compaction.leases, compaction.items] at unpinned ⊢
    exact ⟨unpinned.1, fun row member => unpinned.2 row (compaction.worktrees.subset member)⟩
  · have member : entry ∈ vault.store.outbox.slice OutboxRow.taskId other :=
      (mem_slice _ _ _ _).mpr ⟨listed, owner.trans own⟩
    rw [← same.outbox] at member
    exact ((mem_slice _ _ _ _).mp member).1

theorem compactTasks_succeed (tasks : List TaskRow) (distinct : (tasks.map TaskRow.taskId).Nodup)
    (stored : ∀ task ∈ tasks, vault.store.tasks.lookup task.taskId = some task)
    (compactable : ∀ task ∈ tasks, vault.store.compactable (vault.pinned task.taskId now) task now) :
    ∃ after, vault.compactTasks now (tasks.map TaskRow.taskId) = .ok after := by
  induction tasks generalizing vault with
  | nil => exact ⟨vault, rfl⟩
  | cons task tasks ih =>
    obtain ⟨absent, distinct⟩ := nodup_cons.mp distinct
    obtain ⟨middle, compacted⟩ := compactTask_succeeds (stored task (by simp)) (compactable task (by simp))
    have apart : ∀ other ∈ tasks, other.taskId ≠ task.taskId := fun other member same =>
      absent (same ▸ mem_map_of_mem member)
    obtain ⟨after, rest⟩ := @ih middle distinct
      (fun other member => (compactTask_others (compactTask_ok compacted).1 (apart other member)).1.task.trans
        (stored other (mem_cons_of_mem _ member)))
      (fun other member => compactable_of_other compacted (apart other member) rfl
        (compactable other (mem_cons_of_mem _ member)))
    exact ⟨after, bind_eq_ok.mpr ⟨middle, compacted, rest⟩⟩

theorem compaction_succeeds (vault : Vault) (now : Int) :
    ∃ after, vault.compactTasks now ((vault.compactableTasks now).map TaskRow.taskId) = .ok after := by
  have filtered : ∀ task ∈ vault.compactableTasks now, task ∈ vault.store.tasks.rows ∧
      vault.store.compactable (vault.pinned task.taskId now) task now := by
    intro task member
    have kept := mem_filter.mp ((mem_insertionSort _).mp (mem_of_mem_take member))
    exact ⟨kept.1, of_decide_eq_true kept.2⟩
  refine compactTasks_succeed _ ?_ ?_ fun task member => (filtered task member).2
  · exact compactableTasks_nodup vault now
  · exact fun task member => (lookup_eq_some _ _ _).mpr ⟨(filtered task member).1, rfl⟩

theorem fenceAll_succeeds (candidates : List GcCandidate)
    (distinct : (candidates.map fun candidate => (candidate.resourceKind, candidate.resourceId)).Nodup)
    (free : ∀ candidate ∈ candidates, vault.intents.lookup (candidate.resourceKind, candidate.resourceId) = none) :
    ∃ after, vault.fenceAll now candidates = .ok after := by
  induction candidates generalizing vault with
  | nil => exact ⟨vault, rfl⟩
  | cons candidate candidates ih =>
    obtain ⟨absent, distinct⟩ := nodup_cons.mp distinct
    obtain ⟨intents, inserted⟩ := vault.intents.insert_of_free (intentOf now candidate) (free candidate (by simp))
    obtain ⟨middle, fenced, kept⟩ : ∃ middle, vault.fence candidate now = .ok middle ∧ middle.intents = intents := by
      refine ⟨_, bind_eq_ok.mpr ⟨intents, required_eq_ok.mpr inserted, rfl⟩, rfl⟩
    obtain ⟨after, rest⟩ := @ih middle distinct fun other member => by
      rw [kept, lookup_insert inserted, if_neg]
      · exact free other (mem_cons_of_mem _ member)
      · intro same
        exact absent (mem_map.mpr ⟨other, member, same.symm⟩)
    exact ⟨after, bind_eq_ok.mpr ⟨middle, fenced, rest⟩⟩

theorem candidates_distinct (vault : Vault) (draw : String × String → FenceToken) (now : Int) :
    ((vault.gcCandidates draw now).map fun candidate => (candidate.resourceKind, candidate.resourceId)).Nodup := by
  simp only [gcCandidates, map_append, map_map]
  refine nodup_append.mpr ⟨?_, ?_, ?_⟩
  · have hashes : ((vault.blobBatch now).map BlobObjectRow.hash).Nodup := by
      refine ((blobBatch_sublist vault now).map _).nodup ?_
      refine ((perm_insertionSort _ _).map _).nodup_iff.mpr ?_
      exact (filter_sublist.map _).nodup vault.blobObjects.keyed
    have paired := hashes.map (f := fun hash => ("blob", hash)) fun _ _ same => (Prod.mk.inj same).2
    simpa [Function.comp_def] using paired
  · have names : ((vault.worktreeBatch (gcBatchRows - (vault.blobBatch now).length) now).map
        WorktreeRow.worktreeId).Nodup := by
      refine ((take_sublist _ _).map _).nodup ?_
      refine ((perm_insertionSort _ _).map _).nodup_iff.mpr ?_
      exact (filter_sublist.map _).nodup vault.worktrees.keyed
    have paired := names.map (f := fun name => ("worktree", name)) fun _ _ same => (Prod.mk.inj same).2
    simpa [Function.comp_def] using paired
  · rintro first blob second worktree rfl
    obtain ⟨_, _, rfl⟩ := mem_map.mp blob
    obtain ⟨_, _, same⟩ := mem_map.mp worktree
    exact absurd (Prod.mk.inj same).1 (by simp)

theorem candidate_free (orderly : Orderly vault) {draw : String × String → FenceToken}
    (chosen : candidate ∈ vault.gcCandidates draw now) :
    vault.intents.lookup (candidate.resourceKind, candidate.resourceId) = none := by
  rw [lookup_eq_none]
  intro intent listed key
  simp only [Prod.mk.injEq] at key
  have stored := (vault.intents.lookup_eq_some (candidate.resourceKind, candidate.resourceId) intent).mpr
    ⟨listed, by rw [key.1, key.2]⟩
  have fits := orderly.intents intent listed
  rcases mem_gcCandidates chosen with ⟨kind, blob, member, collectable, named⟩ | ⟨kind, row, member, collectable, named⟩
  · simp only [blobCollectable, and_eq_true, not_eq_true', isMarked, ← named, ← kind, stored,
      Option.any_some, decide_eq_false_iff_not] at collectable
    cases state : intent.state with
    | marked => exact collectable.2 state
    | failed => exact fits.unfailed state
    | deleted => exact fits.blob (key.1.trans kind) state blob member (named.symm.trans key.2.symm)
  · have retained := (Orderly.expired_of_collectable collectable).1
    have fenced := fits.worktree (key.1.trans kind) row member (named.symm.trans key.2.symm)
    rw [retained] at fenced
    split at fenced <;> cases fenced

/-- The collector runs: the store is not in an emergency and its log is not too long. -/
def Runnable (ambient : Ambient) : Prop := ensureMutationAllowed ambient false = .ok ()

theorem mark_succeeds (orderly : Orderly vault) (runnable : Runnable ambient) (draw : String × String → FenceToken)
    (now : Int) : ∃ candidates after, vault.markRetentionGc ambient draw now = .ok (candidates, after) := by
  obtain ⟨middle, compacted⟩ := compaction_succeeds (vault.dropLeases fun lease => lease.expiresAt ≤ now) now
  have settled := Orderly.compactTasks _ (orderly.dropLeases _) compacted
  obtain ⟨fenced, marked⟩ := fenceAll_succeeds (middle.gcCandidates draw now) (candidates_distinct middle draw now)
    fun candidate chosen => candidate_free settled chosen
  refine ⟨middle.gcCandidates draw now, fenced.bumpMutationEpoch, ?_⟩
  simp only [markRetentionGc, eq_ok_iff]
  exact ⟨(), runnable, middle, compacted, fenced, marked, rfl, rfl⟩

/-! Rounds of the collector. -/

def finishAll (ambient : Ambient) (now : Int) : List GcCandidate → Vault → Checked Vault
  | [], vault => return vault
  | candidate :: candidates, vault => do
    let vault ← vault.finishGcDeletion ambient candidate true none now
    finishAll ambient now candidates vault

def collectRound (ambient : Ambient) (draw : String × String → FenceToken) (now : Int) (vault : Vault) :
    Checked (List GcCandidate × Vault) := do
  let (candidates, vault) ← vault.markRetentionGc ambient draw now
  let vault ← finishAll ambient now candidates vault
  return (candidates, vault)

/-- What is left for the collector: the objects and the worktrees it has not taken yet. -/
def weight (vault : Vault) : Nat :=
  vault.blobObjects.rows.length + vault.worktrees.rows.countP fun row => row.state = .retained

/-- What a part of a round does to a resource that it does not take. -/
structure Spares (resourceKind resourceId : String) (before after : Vault) : Prop where
  leased : ∀ now, after.leased resourceKind resourceId now = true → before.leased resourceKind resourceId now = true
  intent : after.intents.lookup (resourceKind, resourceId) = before.intents.lookup (resourceKind, resourceId)
  refs : ∀ ref ∈ after.blobRefs.rows, ref ∈ before.blobRefs.rows
  blob : resourceKind = "blob" → ∀ blob ∈ before.blobObjects.rows, blob.hash = resourceId →
    blob ∈ after.blobObjects.rows
  worktree : resourceKind = "worktree" → ∀ row ∈ before.worktrees.rows, row.worktreeId = resourceId →
    row.state = .retained → row ∈ after.worktrees.rows

namespace Spares

variable {resourceKind resourceId : String}

theorem refl (vault : Vault) : Spares resourceKind resourceId vault vault :=
  ⟨fun _ => id, rfl, fun _ => id, fun _ _ member _ => member, fun _ _ member _ _ => member⟩

theorem trans {first second third : Vault} (left : Spares resourceKind resourceId first second)
    (right : Spares resourceKind resourceId second third) : Spares resourceKind resourceId first third where
  leased now held := left.leased now (right.leased now held)
  intent := right.intent.trans left.intent
  refs ref member := left.refs ref (right.refs ref member)
  blob kind blob member named := right.blob kind blob (left.blob kind blob member named) named
  worktree kind row member named state := right.worktree kind row (left.worktree kind row member named state) named state

theorem dropLeases (vault : Vault) (selects : LeaseRow → Bool) :
    Spares resourceKind resourceId vault (vault.dropLeases selects) where
  leased now held := by
    simp only [Vault.leased, Vault.dropLeases, any_eq_true, delete_rows, mem_filter, lookup_delete] at held ⊢
    obtain ⟨item, ⟨member, _⟩, holds⟩ := held
    refine ⟨item, member, ?_⟩
    cases found : vault.leases.lookup item.leaseId with
    | none => simp [found] at holds
    | some lease =>
      by_cases picked : selects lease = true
      · simp [found, Option.filter, picked] at holds
      · simpa [found, Option.filter, picked] using holds
  intent := rfl
  refs _ member := member
  blob _ _ member _ := member
  worktree _ _ member _ _ := member

theorem of_compacted (compacted : Compacted before after) : Spares resourceKind resourceId before after where
  leased now held := by
    simpa only [Vault.leased, compacted.leases, compacted.items] using held
  intent := by rw [compacted.intents]
  refs := compacted.refs
  blob _ blob member _ := by
    rw [compacted.objects]
    exact member
  worktree _ row member _ state := compacted.existing row member (by rw [state]; decide)

theorem of_fenced (fenced : Fenced now candidates before after)
    (passed : ∀ candidate ∈ candidates, (candidate.resourceKind, candidate.resourceId) ≠ (resourceKind, resourceId)) :
    Spares resourceKind resourceId before after where
  leased now held := by
    simpa only [Vault.leased, fenced.leases, fenced.items] using held
  intent := by
    have others : (candidates.map (intentOf now)).find?
        (fun row => (row.resourceKind, row.resourceId) = (resourceKind, resourceId)) = none := by
      rw [find?_eq_none]
      intro intent listed
      obtain ⟨candidate, member, rfl⟩ := mem_map.mp listed
      simpa [intentOf] using passed candidate member
    simp only [Table.lookup, fenced.intents, find?_append, others, Option.or_none]
  refs ref member := by
    rw [fenced.refs] at member
    exact member
  blob _ blob member _ := by
    rw [fenced.objects]
    exact member
  worktree kind row member named _ := by
    rw [fenced.worktrees]
    refine mem_updateWhere.mpr ⟨row, member, if_neg ?_⟩
    simp only [any_eq_true, decide_eq_true_eq]
    rintro ⟨candidate, chosen, ofKind, id⟩
    exact passed candidate chosen (by rw [ofKind, ← id, named, kind])

theorem of_finished (finished : Finished before candidate true now after)
    (passed : (candidate.resourceKind, candidate.resourceId) ≠ (resourceKind, resourceId)) :
    Spares resourceKind resourceId before after := by
  have intent : ∀ (state : IntentState) (error : Option String),
      (before.closeIntent candidate state error now).intents.lookup (resourceKind, resourceId) =
        before.intents.lookup (resourceKind, resourceId) := by
    intro state error
    simp only [closeIntent, lookup_update]
    cases found : before.intents.lookup (resourceKind, resourceId) with
    | none => rfl
    | some row =>
      have key := (of_lookup found).2
      simp only [Prod.mk.injEq] at key
      rw [Option.map_some, if_neg]
      simp only [decide_eq_true_eq]
      rintro ⟨kind, id, _⟩
      exact passed (by rw [← kind, ← id, key.1, key.2])
  cases finished with
  | failed _ unsuccessful _ => cases unsuccessful
  | blob _ kind same =>
    rw [same]
    refine ⟨fun _ => id, intent _ _, fun ref member => mem_of_mem_filter member, ?_, fun _ _ member _ _ => member⟩
    intro ofKind blob member named
    refine mem_filter.mpr ⟨member, ?_⟩
    simp only [not_eq_true', decide_eq_false_iff_not, named]
    exact fun same => passed (by rw [kind, ofKind, same])
  | worktree _ kind same =>
    rw [same]
    refine ⟨fun _ => id, intent _ _, fun ref member => member, fun _ _ member _ => member, ?_⟩
    intro _ row member _ state
    refine mem_updateWhere.mpr ⟨row, member, if_neg ?_⟩
    simp [state]

end Spares

/-- A candidate that was marked can be finished, and a finished blob is one object less. -/
theorem finish_succeeds (now : Int) (runnable : Runnable ambient)
    (found : vault.intents.lookup (candidate.resourceKind, candidate.resourceId) = some intent)
    (open_ : intent.state = .marked) (token : intent.fenceToken = candidate.fenceToken)
    (kind : candidate.resourceKind = "blob" ∨ candidate.resourceKind = "worktree") :
    ∃ after, vault.finishGcDeletion ambient candidate true none now = .ok after ∧
      Finished vault candidate true now after ∧ weight after ≤ weight vault ∧
      (candidate.resourceKind = "blob" → ∀ blob ∈ vault.blobObjects.rows, blob.hash = candidate.resourceId →
        weight after < weight vault) := by
  have checked : ((vault.intents.lookup (candidate.resourceKind, candidate.resourceId)).any fun row =>
      row.state = .marked && row.fenceToken = candidate.fenceToken) = true := by
    simp [found, open_, token]
  rcases kind with kind | kind
  · refine ⟨_, ?_, .blob rfl kind rfl, ?_, ?_⟩
    · simp only [finishGcDeletion, eq_ok_iff]
      exact ⟨(), runnable, (), checked, by simp [kind]⟩
    · exact Nat.add_le_add_right (length_filter_le _ _) _
    · intro _ blob member named
      refine Nat.add_lt_add_right ?_ _
      refine length_filter_lt_length_iff_exists.mpr ⟨blob, member, ?_⟩
      simp [named]
  · refine ⟨_, ?_, .worktree rfl kind rfl, ?_, ?_⟩
    · simp only [finishGcDeletion, eq_ok_iff]
      exact ⟨(), runnable, (), checked, by simp [kind]⟩
    · refine Nat.add_le_add_left ?_ _
      simp only [closeIntent, bumpMutationEpoch, update_rows, updateWhere, countP_map]
      refine countP_mono_left fun row _ => ?_
      by_cases picked : row.worktreeId = candidate.resourceId ∧ row.state = .gcMarked <;> simp [picked]
    · intro blob
      rw [kind] at blob
      exact absurd blob (by decide)

/-- Finishing all candidates of a call succeeds, spares what is not among them and leaves less than there was. -/
theorem finishAll_succeeds (runnable : Runnable ambient) (candidates : List GcCandidate)
    (distinct : (candidates.map fun candidate => (candidate.resourceKind, candidate.resourceId)).Nodup)
    (marked : ∀ candidate ∈ candidates, ∃ intent,
      vault.intents.lookup (candidate.resourceKind, candidate.resourceId) = some intent ∧ intent.state = .marked ∧
        intent.fenceToken = candidate.fenceToken)
    (kinds : ∀ candidate ∈ candidates, candidate.resourceKind = "blob" ∨ candidate.resourceKind = "worktree") :
    ∃ after, finishAll ambient now candidates vault = .ok after ∧ weight after ≤ weight vault ∧
      (∀ resourceKind resourceId, (∀ candidate ∈ candidates,
        (candidate.resourceKind, candidate.resourceId) ≠ (resourceKind, resourceId)) →
        Spares resourceKind resourceId vault after) ∧
      ((∃ candidate ∈ candidates, candidate.resourceKind = "blob" ∧
        ∃ blob ∈ vault.blobObjects.rows, blob.hash = candidate.resourceId) → weight after < weight vault) := by
  induction candidates generalizing vault with
  | nil =>
    exact ⟨vault, rfl, le_refl _, fun _ _ _ => .refl vault, fun ⟨_, member, _⟩ => by cases member⟩
  | cons candidate candidates ih =>
    obtain ⟨absent, distinct⟩ := nodup_cons.mp distinct
    obtain ⟨intent, found, open_, token⟩ := marked candidate (by simp)
    obtain ⟨middle, done, finished, lighter, strict⟩ :=
      finish_succeeds now runnable found open_ token (kinds candidate (by simp))
    have apart : ∀ other ∈ candidates,
        (candidate.resourceKind, candidate.resourceId) ≠ (other.resourceKind, other.resourceId) :=
      fun other member same => absent (mem_map.mpr ⟨other, member, same.symm⟩)
    have untouched : ∀ other ∈ candidates, Spares other.resourceKind other.resourceId vault middle :=
      fun other member => .of_finished finished (apart other member)
    obtain ⟨after, rest, lightest, spares, restStrict⟩ := @ih middle distinct (fun other member => by
        obtain ⟨otherIntent, otherFound, facts⟩ := marked other (mem_cons_of_mem _ member)
        exact ⟨otherIntent, (untouched other member).intent.trans otherFound, facts⟩)
      (fun other member => kinds other (mem_cons_of_mem _ member))
    refine ⟨after, bind_eq_ok.mpr ⟨middle, done, rest⟩, lightest.trans lighter, ?_, ?_⟩
    · intro resourceKind resourceId passed
      exact (Spares.of_finished finished (passed candidate (by simp))).trans
        (spares resourceKind resourceId fun other member => passed other (mem_cons_of_mem _ member))
    · rintro ⟨chosen, member, kind, blob, stored, named⟩
      rcases mem_cons.mp member with rfl | later
      · exact lt_of_le_of_lt lightest (strict kind blob stored named)
      · refine lt_of_lt_of_le (restStrict ⟨chosen, later, kind, blob, ?_, named⟩) lighter
        exact (untouched chosen later).blob kind blob stored named

theorem Orderly.finishAll (candidates : List GcCandidate) (orderly : Orderly vault)
    (done : finishAll ambient now candidates vault = .ok after) : Orderly after := by
  induction candidates generalizing vault with
  | nil =>
    obtain rfl := pure_eq_ok.mp done
    exact orderly
  | cons candidate candidates ih =>
    obtain ⟨middle, first, rest⟩ := bind_eq_ok.mp done
    obtain ⟨⟨intent, found, open_, token⟩, finished⟩ := finishGcDeletion_ok first
    exact ih (orderly.finish found open_ token finished) rest

theorem weight_fenced (fenced : Fenced now candidates before after) : weight after ≤ weight before ∧
      ((∃ candidate ∈ candidates, candidate.resourceKind = "worktree" ∧ ∃ row ∈ before.worktrees.rows,
        row.worktreeId = candidate.resourceId ∧ row.state = .retained) → weight after < weight before) := by
  have counted : ∀ row : WorktreeRow, decide ((if (candidates.any fun candidate =>
      candidate.resourceKind = "worktree" ∧ row.worktreeId = candidate.resourceId) = true
      then { row with state := .gcMarked } else row).state = .retained) = true →
      decide (row.state = .retained) = true := by
    intro row
    split <;> simp
  simp only [weight, fenced.objects, fenced.worktrees, updateWhere, countP_map]
  constructor
  · exact Nat.add_le_add_left (countP_mono_left fun row _ => counted row) _
  · rintro ⟨candidate, chosen, kind, row, stored, named, state⟩
    refine Nat.add_lt_add_left (countP_lt_countP (fun row _ => counted row) stored (by simp [state]) ?_) _
    have picked : (candidates.any fun candidate =>
        candidate.resourceKind = "worktree" ∧ row.worktreeId = candidate.resourceId) = true :=
      any_eq_true.mpr ⟨candidate, chosen, by simp [kind, named]⟩
    rw [if_pos picked]
    rfl

theorem candidates_of_collectable {draw : String × String → FenceToken}
    (collectable : (∃ blob ∈ vault.blobObjects.rows, vault.blobCollectable now blob = true) ∨
      ∃ row ∈ vault.worktrees.rows, vault.worktreeCollectable now row = true) : vault.gcCandidates draw now ≠ [] := by
  intro empty
  simp only [gcCandidates, append_eq_nil_iff, map_eq_nil_iff] at empty
  obtain ⟨noBlob, noWorktree⟩ := empty
  rcases collectable with ⟨blob, member, ripe⟩ | ⟨row, member, ripe⟩
  · have sorted := (mem_insertionSort fun first second : BlobObjectRow =>
      first.publishedAt ≤ second.publishedAt).mpr (mem_filter.mpr ⟨member, ripe⟩)
    unfold blobBatch at noBlob
    split at noBlob
    · rename_i batch
      rw [take_eq_nil_iff] at batch
      rcases batch with zero | none
      · revert zero
        decide
      · rw [none] at sorted
        cases sorted
    · cases noBlob
  · have sorted := (mem_insertionSort fun first second : WorktreeRow =>
      first.terminalAt.getD 0 ≤ second.terminalAt.getD 0).mpr (mem_filter.mpr ⟨member, ripe⟩)
    rw [noBlob, map_nil, length_nil, worktreeBatch, take_eq_nil_iff] at noWorktree
    rcases noWorktree with zero | none
    · revert zero
      decide
    · rw [none] at sorted
      cases sorted

/-- What a call of the collector chooses from: the vault without its expired leases and compacted tasks. -/
structure Round (ambient : Ambient) (draw : String × String → FenceToken) (now : Int) (vault chosenFrom after : Vault) :
    Prop where
  done : collectRound ambient draw now vault = .ok (chosenFrom.gcCandidates draw now, after)
  orderly : Orderly after
  before : ∀ resourceKind resourceId, Spares resourceKind resourceId vault chosenFrom
  spares : ∀ resourceKind resourceId, (∀ candidate ∈ chosenFrom.gcCandidates draw now,
    (candidate.resourceKind, candidate.resourceId) ≠ (resourceKind, resourceId)) →
    Spares resourceKind resourceId vault after
  lighter : chosenFrom.gcCandidates draw now ≠ [] → weight after < weight vault

/-- In an orderly vault a round succeeds, spares what it does not choose and leaves less if it chooses anything. -/
theorem round_succeeds (orderly : Orderly vault) (runnable : Runnable ambient) (draw : String × String → FenceToken)
    (now : Int) : ∃ chosenFrom after, Round ambient draw now vault chosenFrom after := by
  obtain ⟨candidates, marked, done⟩ := mark_succeeds orderly runnable draw now
  have markedOrderly := orderly.mark done
  obtain ⟨middle, fenced, compacted, rfl, fencing, rfl⟩ := markRetentionGc_ok done
  have compaction := compactTasks_compacted _ compacted
  have fences := fenceAll_fenced _ fencing
  have kinds : ∀ candidate ∈ middle.gcCandidates draw now,
      candidate.resourceKind = "blob" ∨ candidate.resourceKind = "worktree" := fun candidate chosen =>
    (mem_gcCandidates chosen).imp And.left And.left
  have intents : ∀ candidate ∈ middle.gcCandidates draw now, ∃ intent,
      fenced.bumpMutationEpoch.intents.lookup (candidate.resourceKind, candidate.resourceId) = some intent ∧
        intent.state = .marked ∧ intent.fenceToken = candidate.fenceToken := by
    intro candidate chosen
    refine ⟨intentOf now candidate, (lookup_eq_some _ _ _).mpr ⟨?_, rfl⟩, rfl, rfl⟩
    change intentOf now candidate ∈ fenced.intents.rows
    rw [fences.intents]
    exact mem_append_right _ (mem_map_of_mem chosen)
  obtain ⟨after, finished, lighter, spares, strict⟩ :=
    @finishAll_succeeds fenced.bumpMutationEpoch ambient now runnable _ (candidates_distinct middle draw now) intents
      kinds
  have before : ∀ resourceKind resourceId, Spares resourceKind resourceId vault middle := fun _ _ =>
    (Spares.dropLeases vault _).trans (Spares.of_compacted compaction)
  have compactedWeight : weight middle ≤ weight vault := by
    simp only [weight, compaction.objects]
    exact Nat.add_le_add_left (compaction.worktrees.countP_le) _
  have fencedWeight := weight_fenced fences
  refine ⟨middle, after, ?_, markedOrderly.finishAll _ finished, before, ?_, ?_⟩
  · simp only [collectRound, eq_ok_iff, Prod.exists]
    exact ⟨_, _, done, after, finished, rfl, rfl⟩
  · intro resourceKind resourceId passed
    have marking : Spares resourceKind resourceId middle fenced := .of_fenced fences passed
    have counted : Spares resourceKind resourceId fenced fenced.bumpMutationEpoch :=
      ⟨fun _ => id, rfl, fun _ => id, fun _ _ member _ => member, fun _ _ member _ _ => member⟩
    exact (before resourceKind resourceId).trans (marking.trans (counted.trans (spares resourceKind resourceId passed)))
  · intro chosen
    have same : weight fenced.bumpMutationEpoch = weight fenced := rfl
    obtain ⟨candidate, member⟩ := exists_mem_of_ne_nil _ chosen
    rcases mem_gcCandidates member with ⟨kind, blob, stored, _, named⟩ | ⟨kind, row, stored, collectable, named⟩
    · have fewer := strict ⟨candidate, member, kind, blob, fences.objects ▸ stored, named.symm⟩
      omega
    · have fewer := fencedWeight.2 ⟨candidate, member, kind, row, stored, named.symm,
        (Orderly.expired_of_collectable collectable).1⟩
      omega

def collectRounds (ambient : Ambient) (draw : Nat → String × String → FenceToken) (clock : Nat → Int) :
    Nat → Vault → Checked Vault
  | 0, vault => return vault
  | count + 1, vault => do
    let vault ← collectRounds ambient draw clock count vault
    Prod.snd <$> collectRound ambient (draw count) (clock count) vault

def Selected (ambient : Ambient) (draw : Nat → String × String → FenceToken) (clock : Nat → Int) (vault : Vault)
    (round : Nat) (resourceKind resourceId : String) : Prop :=
  ∃ middle candidates after, collectRounds ambient draw clock round vault = .ok middle ∧
    collectRound ambient (draw round) (clock round) middle = .ok (candidates, after) ∧
    ∃ candidate ∈ candidates, (candidate.resourceKind, candidate.resourceId) = (resourceKind, resourceId)

section Rounds

variable {draw : Nat → String × String → FenceToken} {clock : Nat → Int} {resourceKind resourceId : String}
  (runnable : Runnable ambient) (advances : Monotone clock)

include runnable advances

/-- What later clock readings and rounds that spare a resource keep holds after every round, until it is selected. -/
theorem spared_until_selected (orderly : Orderly vault) (property : Int → Vault → Prop)
    (kept : ∀ {earlier later before after}, earlier ≤ later → property earlier before →
      Spares resourceKind resourceId before after → property later after)
    (start : property (clock 0) vault) (count : Nat) :
    (∃ round, Selected ambient draw clock vault round resourceKind resourceId) ∨
      ∃ middle, collectRounds ambient draw clock count vault = .ok middle ∧ Orderly middle ∧
        property (clock count) middle := by
  induction count with
  | zero => exact .inr ⟨vault, rfl, orderly, start⟩
  | succ count ih =>
    rcases ih with selected | ⟨middle, reached, middleOrderly, holds⟩
    · exact .inl selected
    obtain ⟨chosenFrom, after, round⟩ := round_succeeds middleOrderly runnable (draw count) (clock count)
    by_cases chosen : ∃ candidate ∈ chosenFrom.gcCandidates (draw count) (clock count),
        (candidate.resourceKind, candidate.resourceId) = (resourceKind, resourceId)
    · exact .inl ⟨count, middle, _, after, reached, round.done, chosen⟩
    · have passed : ∀ candidate ∈ chosenFrom.gcCandidates (draw count) (clock count),
          (candidate.resourceKind, candidate.resourceId) ≠ (resourceKind, resourceId) :=
        fun candidate member same => chosen ⟨candidate, member, same⟩
      refine .inr ⟨after, ?_, round.orderly,
        kept (advances (Nat.le_succ count)) holds (round.spares resourceKind resourceId passed)⟩
      exact bind_eq_ok.mpr ⟨middle, reached, map_eq_ok.mpr ⟨_, round.done, rfl⟩⟩

/-- A resource that may be collected is selected: until then every round leaves less. -/
theorem selected_of_due (due : Int → Vault → Prop)
    (kept : ∀ {earlier later before after}, earlier ≤ later → due earlier before →
      Spares resourceKind resourceId before after → due later after)
    (collectable : ∀ {time vault}, due time vault →
      (∃ blob ∈ vault.blobObjects.rows, vault.blobCollectable time blob = true) ∨
        ∃ row ∈ vault.worktrees.rows, vault.worktreeCollectable time row = true)
    {first : Nat} {reached : Vault} (arrived : collectRounds ambient draw clock first vault = .ok reached)
    (orderly : Orderly reached) (start : due (clock first) reached) :
    ∃ round, Selected ambient draw clock vault round resourceKind resourceId := by
  -- Every round that passes the resource over takes something else, so the weight bounds how often that happens.
  induction left : weight reached using Nat.strong_induction_on generalizing first reached with
  | _ left ih =>
    obtain ⟨chosenFrom, after, round⟩ := round_succeeds orderly runnable (draw first) (clock first)
    by_cases chosen : ∃ candidate ∈ chosenFrom.gcCandidates (draw first) (clock first),
        (candidate.resourceKind, candidate.resourceId) = (resourceKind, resourceId)
    · exact ⟨first, reached, _, after, arrived, round.done, chosen⟩
    · have passed : ∀ candidate ∈ chosenFrom.gcCandidates (draw first) (clock first),
          (candidate.resourceKind, candidate.resourceId) ≠ (resourceKind, resourceId) :=
        fun candidate member same => chosen ⟨candidate, member, same⟩
      have lighter := round.lighter (candidates_of_collectable
        (collectable (kept (le_refl _) start (round.before resourceKind resourceId))))
      have next : collectRounds ambient draw clock (first + 1) vault = .ok after :=
        bind_eq_ok.mpr ⟨reached, arrived, map_eq_ok.mpr ⟨_, round.done, rfl⟩⟩
      exact ih (weight after) (left ▸ lighter) next round.orderly
        (kept (advances (Nat.le_succ first)) start (round.spares resourceKind resourceId passed)) rfl

end Rounds

theorem leased_of_later {resourceKind resourceId : String} (order : earlier ≤ later)
    (held : vault.leased resourceKind resourceId later = true) :
    vault.leased resourceKind resourceId earlier = true := by
  simp only [leased, any_eq_true, and_eq_true, decide_eq_true_eq] at held ⊢
  obtain ⟨item, member, named, unexpired⟩ := held
  refine ⟨item, member, named, ?_⟩
  cases found : vault.leases.lookup item.leaseId with
  | none => simp [found] at unexpired
  | some lease =>
    simp only [found, Option.any_some, decide_eq_true_eq] at unexpired ⊢
    omega

/-- A resource that nothing protects any more. -/
structure Unprotected (resourceKind resourceId : String) (time : Int) (vault : Vault) : Prop where
  unleased : vault.leased resourceKind resourceId time = false
  unmarked : vault.isMarked resourceKind resourceId = false

theorem Unprotected.kept {resourceKind resourceId : String} (order : earlier ≤ later)
    (unprotected : Unprotected resourceKind resourceId earlier before)
    (spares : Spares resourceKind resourceId before after) : Unprotected resourceKind resourceId later after := by
  constructor
  · by_contra held
    have earlierHeld := spares.leased earlier (leased_of_later order (by simpa using held))
    rw [unprotected.unleased] at earlierHeld
    cases earlierHeld
  · rw [isMarked, spares.intent]
    exact unprotected.unmarked

/-- A blob whose references are all eligible. -/
structure BlobReady (blob : BlobObjectRow) (time : Int) (vault : Vault) : Prop where
  stored : blob ∈ vault.blobObjects.rows
  eligible : ∀ ref ∈ vault.blobRefs.rows, ref.hash = blob.hash →
    (ref.eligibleAt.any fun eligibleAt => eligibleAt ≤ time) = true
  unprotected : Unprotected "blob" blob.hash time vault

theorem BlobReady.kept (order : earlier ≤ later) (ready : BlobReady blob earlier before)
    (spares : Spares "blob" blob.hash before after) : BlobReady blob later after := by
  refine ⟨spares.blob rfl blob ready.stored rfl, fun ref member same => ?_, ready.unprotected.kept order spares⟩
  have eligible := ready.eligible ref (spares.refs ref member) same
  cases dated : ref.eligibleAt with
  | none => simp [dated] at eligible
  | some eligibleAt =>
    simp only [dated, Option.any_some, decide_eq_true_eq] at eligible ⊢
    omega

theorem blobReady_of_collectable (stored : blob ∈ vault.blobObjects.rows)
    (collectable : vault.blobCollectable now blob = true) : BlobReady blob now vault := by
  simp only [blobCollectable, and_eq_true, not_eq_true'] at collectable
  obtain ⟨⟨refs, unleased⟩, unmarked⟩ := collectable
  refine ⟨stored, fun ref member same => ?_, unleased, unmarked⟩
  have referring : ref ∈ vault.blobRefs.slice BlobRefRow.hash blob.hash := (mem_slice _ _ _ _).mpr ⟨member, same⟩
  split at refs
  · rename_i empty
    rw [isEmpty_iff.mp empty] at referring
    cases referring
  · exact all_eq_true.mp refs ref referring

theorem BlobReady.collectable (ready : BlobReady blob now vault) (old : blob.publishedAt ≤ now - dayUs) :
    vault.blobCollectable now blob = true := by
  simp only [blobCollectable, ready.unprotected.unleased, ready.unprotected.unmarked, Bool.not_false, Bool.and_true]
  split
  · simpa using old
  · refine all_eq_true.mpr fun ref member => ?_
    obtain ⟨stored, same⟩ := (mem_slice _ _ _ _).mp member
    exact ready.eligible ref stored same

/-- A worktree whose retention is over. -/
structure WorktreeReady (row : WorktreeRow) (time : Int) (vault : Vault) : Prop where
  stored : row ∈ vault.worktrees.rows
  expired : row.expired time = true
  unprotected : Unprotected "worktree" row.worktreeId time vault

theorem expired_of_earlier (order : earlier ≤ later) (expired : row.expired earlier = true) :
    row.expired later = true := by
  simp only [WorktreeRow.expired, and_eq_true, decide_eq_true_eq] at expired ⊢
  refine ⟨expired.1, ?_⟩
  have cutoff : ∀ less, subTime earlier less ≤ subTime later less := fun less => by
    unfold subTime
    omega
  have week := cutoff (7 * dayUs)
  have month := cutoff (30 * dayUs)
  cases ended : row.terminalAt with
  | none => simp [ended] at expired
  | some terminalAt =>
    simp only [ended, Option.any_some, or_eq_true, and_eq_true, decide_eq_true_eq] at expired ⊢
    rcases expired.2 with ⟨succeeded, acked⟩ | ⟨unsuccessful, old⟩
    · refine .inl ⟨succeeded, ?_⟩
      cases ack : row.ackedAt with
      | none => simp [ack] at acked
      | some ackedAt =>
        simp only [ack, Option.any_some, decide_eq_true_eq] at acked ⊢
        omega
    · exact .inr ⟨unsuccessful, by omega⟩

theorem WorktreeReady.kept (order : earlier ≤ later) (ready : WorktreeReady row earlier before)
    (spares : Spares "worktree" row.worktreeId before after) : WorktreeReady row later after := by
  have retained : row.state = .retained := by
    have expired := ready.expired
    simp only [WorktreeRow.expired, and_eq_true, decide_eq_true_eq] at expired
    exact expired.1
  exact ⟨spares.worktree rfl row ready.stored rfl retained, expired_of_earlier order ready.expired,
    ready.unprotected.kept order spares⟩

theorem worktreeReady_iff (stored : row ∈ vault.worktrees.rows) :
    WorktreeReady row now vault ↔ vault.worktreeCollectable now row = true := by
  simp only [worktreeCollectable, and_eq_true, not_eq_true']
  constructor
  · exact fun ready => ⟨⟨ready.expired, ready.unprotected.unleased⟩, ready.unprotected.unmarked⟩
  · exact fun ⟨⟨expired, unleased⟩, unmarked⟩ => ⟨stored, expired, unleased, unmarked⟩

/-- In every undisturbed run each call of the collector succeeds outside an emergency, and whatever may be collected is
selected when calls are repeated and their candidates finished. A blob that loses its references to compaction on the
way waits until it is a day old. -/
theorem collection_never_wedges (run : VaultReachable codec (Undisturbed codec) vault)
    (normal : ambient.emergency = .normal) (unpressed : ambient.walBytes < 128 * 1024 * 1024) :
    (∀ draw now, ∃ candidates after, vault.markRetentionGc ambient draw now = .ok (candidates, after)) ∧
    ∀ draw clock now, Monotone clock → now ≤ clock 0 →
      (∀ blob ∈ vault.blobObjects.rows, vault.blobCollectable now blob = true →
        (∃ round, blob.publishedAt ≤ clock round - dayUs) →
        ∃ round, Selected ambient draw clock vault round "blob" blob.hash) ∧
      ∀ row ∈ vault.worktrees.rows, vault.worktreeCollectable now row = true →
        ∃ round, Selected ambient draw clock vault round "worktree" row.worktreeId := by
  have orderly := orderly_of_reachable run
  have runnable : Runnable ambient := by
    simp [Runnable, ensureMutationAllowed, ensure, normal, unpressed, bind, Except.bind]
  refine ⟨mark_succeeds orderly runnable, fun draw clock now advances start => ⟨?_, ?_⟩⟩
  · rintro blob stored collectable ⟨late, old⟩
    have ready := (blobReady_of_collectable stored collectable).kept start (.refl vault)
    rcases spared_until_selected runnable advances orderly (BlobReady blob) BlobReady.kept ready late with
      selected | ⟨reached, arrived, reachedOrderly, reachedReady⟩
    · exact selected
    refine selected_of_due runnable advances (fun time vault => BlobReady blob time vault ∧ blob.publishedAt ≤ time - dayUs)
      ?_ ?_ arrived reachedOrderly ⟨reachedReady, old⟩
    · exact fun order due spares => ⟨due.1.kept order spares, by omega⟩
    · exact fun due => Or.inl ⟨blob, due.1.stored, due.1.collectable due.2⟩
  · intro row stored collectable
    have ready := ((worktreeReady_iff stored).mpr collectable).kept start (.refl vault)
    have begun : collectRounds ambient draw clock 0 vault = .ok vault := rfl
    refine selected_of_due runnable advances (WorktreeReady row) WorktreeReady.kept ?_ begun orderly ready
    exact fun due => Or.inr ⟨row, due.stored, (worktreeReady_iff due.stored).mp due⟩

/-- A blob published two days ago is selected. -/
theorem collection_never_wedges_blob :
    ∃ vault, VaultReachable (Script.codec []) (Undisturbed (Script.codec [])) vault ∧
      ∃ round, Selected Script.ambient (fun _ => Script.token) (fun round => round + 1) vault round "blob"
        (Script.checksum (utf8 "bytes")) := by
  obtain ⟨vault, run, blob, stored, named, collectable, old⟩ : ∃ vault,
      VaultReachable (Script.codec []) (Undisturbed (Script.codec [])) vault ∧
      ∃ blob ∈ vault.blobObjects.rows, blob.hash = Script.checksum (utf8 "bytes") ∧
        vault.blobCollectable 1 blob = true ∧ blob.publishedAt ≤ 1 - dayUs :=
    exists_of_vault_script [Script.publish "bytes" (-2 * dayUs)] (by decide +kernel)
  have progress := @collection_never_wedges (Script.codec []) vault Script.ambient run rfl (by decide)
  have advances : Monotone fun round : Nat => (round : Int) + 1 := fun _ _ order => by
    dsimp only
    omega
  obtain ⟨round, selected⟩ := (progress.2 (fun _ => Script.token) (fun round => round + 1) 1 advances (by simp)).1 blob
    stored collectable ⟨0, by simpa using old⟩
  exact ⟨vault, run, round, named ▸ selected⟩

/-- The candidate a scripted call of the collector returns for a blob. -/
def scriptedCandidate (text : String) : GcCandidate :=
  ⟨"blob", checksum (utf8 text), (utf8 text).length, token ("blob", checksum (utf8 text))⟩

/-- After a failed deletion, and after deleted content was published again, the next call of the collector fails on the
intent row that was left. -/
theorem left_intent_wedges :
    (∃ vault, VaultReachable (Script.codec []) (fun _ _ => True) vault ∧ ∀ candidates after,
      vault.markRetentionGc Script.ambient Script.token (5 * dayUs) ≠ .ok (candidates, after)) ∧
    ∃ vault, VaultReachable (Script.codec []) (fun _ _ => True) vault ∧ ∀ candidates after,
      vault.markRetentionGc Script.ambient Script.token (5 * dayUs) ≠ .ok (candidates, after) := by
  constructor
  · obtain ⟨vault, run, failed⟩ : ∃ vault, VaultReachable (Script.codec []) (fun _ _ => True) vault ∧
        ¬∃ marked, vault.markRetentionGc Script.ambient Script.token (5 * dayUs) = .ok marked :=
      exists_of_vault_script [Script.publish "bytes" 0, Script.mark (2 * dayUs),
        .finishGcDeletion Script.ambient (scriptedCandidate "bytes") false none (2 * dayUs)] (by decide +kernel)
    exact ⟨vault, run, fun candidates after done => failed ⟨_, done⟩⟩
  · obtain ⟨vault, run, failed⟩ : ∃ vault, VaultReachable (Script.codec []) (fun _ _ => True) vault ∧
        ¬∃ marked, vault.markRetentionGc Script.ambient Script.token (5 * dayUs) = .ok marked :=
      exists_of_vault_script [Script.publish "bytes" 0, Script.mark (2 * dayUs),
        .unlinkBlob (Script.checksum (utf8 "bytes")),
        .finishGcDeletion Script.ambient (scriptedCandidate "bytes") true none (2 * dayUs),
        Script.publish "bytes" (3 * dayUs)] (by decide +kernel)
    exact ⟨vault, run, fun candidates after done => failed ⟨_, done⟩⟩

end AgentMesh.Runs
