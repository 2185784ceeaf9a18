import AgentMesh.Storage.Effects

/-! Leases and the collector. What is marked is not leased, and what an unexpired lease holds is neither marked nor
compacted. Clock readings are arbitrary: the exclusion rests on the rows alone. -/
namespace AgentMesh.Runs
open Library Daemon AgentMesh.Task AgentMesh.Storage Vault List

variable {codec : Codec} {vault before after : Vault} {ambient : Ambient} {now : Int} {candidate : GcCandidate}
  {item : LeaseItemRow}

/-- Every leased resource has its lease, and no marked resource is leased. -/
structure Exclusive (vault : Vault) : Prop where
  held : ∀ item ∈ vault.leaseItems.rows, ∃ lease ∈ vault.leases.rows, lease.leaseId = item.leaseId
  apart : ∀ intent ∈ vault.intents.rows, intent.state = .marked → ∀ item ∈ vault.leaseItems.rows,
    ¬(item.resourceKind = intent.resourceKind ∧ item.resourceId = intent.resourceId)

namespace Exclusive

theorem of_same (exclusive : Exclusive before) (leases : after.leases = before.leases)
    (items : after.leaseItems = before.leaseItems) (intents : after.intents = before.intents) : Exclusive after := by
  constructor
  · rw [leases, items]
    exact exclusive.held
  · rw [items, intents]
    exact exclusive.apart

theorem of_shelf (exclusive : Exclusive before) (shelf : SameShelf before after) : Exclusive after :=
  exclusive.of_same shelf.leases shelf.items shelf.intents

/-- Deleting leases deletes their items, so the others keep their leases. -/
theorem dropLeases (exclusive : Exclusive vault) (selects : LeaseRow → Bool) : Exclusive (vault.dropLeases selects) := by
  constructor
  · intro item member
    simp only [Vault.dropLeases, Table.delete_rows, mem_filter] at member ⊢
    obtain ⟨lease, stored, named⟩ := exclusive.held item member.1
    have found := (vault.leases.lookup_eq_some item.leaseId lease).mpr ⟨stored, named⟩
    refine ⟨lease, ⟨stored, ?_⟩, named⟩
    simpa [found] using member.2
  · intro intent listed marked item member
    exact exclusive.apart intent listed marked item (mem_of_mem_filter member)

/-- What is left of a lease table whose expired rows were deleted holds its resources. -/
theorem leased_of_unexpired (exclusive : Exclusive vault)
    (member : item ∈ (vault.dropLeases fun lease => lease.expiresAt ≤ now).leaseItems.rows) :
    (vault.dropLeases fun lease => lease.expiresAt ≤ now).leased item.resourceKind item.resourceId now = true := by
  obtain ⟨lease, stored, named⟩ := (exclusive.dropLeases fun lease => lease.expiresAt ≤ now).held item member
  have found := (Table.lookup_eq_some _ item.leaseId lease).mpr ⟨stored, named⟩
  have unexpired : now < lease.expiresAt := by
    simpa [dropLeases] using (mem_filter.mp stored).2
  simp only [leased, any_eq_true]
  exact ⟨item, member, by simp [found, unexpired]⟩

/-- An intent whose state is changed to anything but marked excludes nothing any more. -/
theorem closeIntent (exclusive : Exclusive vault) (candidate : GcCandidate) (state : IntentState)
    (closed : state ≠ .marked) (error : Option String) : Exclusive (vault.closeIntent candidate state error now) := by
  refine ⟨exclusive.held, fun intent listed marked item member => ?_⟩
  obtain ⟨old, stored, rfl⟩ := mem_updateWhere.mp listed
  split at marked
  · exact absurd marked closed
  · rename_i other
    rw [if_neg other]
    exact exclusive.apart old stored marked item member

end Exclusive

theorem unleased_of_candidate {draw : String × String → FenceToken} (member : candidate ∈ vault.gcCandidates draw now) :
    vault.leased candidate.resourceKind candidate.resourceId now = false := by
  rcases mem_gcCandidates member with ⟨kind, blob, _, collectable, named⟩ | ⟨kind, row, _, collectable, named⟩
  · simp only [blobCollectable, Bool.and_eq_true, Bool.not_eq_true'] at collectable
    rw [kind, named]
    exact collectable.1.2
  · simp only [worktreeCollectable, Bool.and_eq_true, Bool.not_eq_true'] at collectable
    rw [kind, named]
    exact collectable.1.2

/-- Whether a resource is leased depends on the leases and their items only. -/
theorem leased_eq_of_same (leases : after.leases = before.leases) (items : after.leaseItems = before.leaseItems)
    (resourceKind resourceId : String) :
    after.leased resourceKind resourceId now = before.leased resourceKind resourceId now := by
  simp only [leased, leases, items]

section Mark

variable {draw : String × String → FenceToken} {candidates : List GcCandidate}

section

variable (exclusive : Exclusive vault) (done : vault.markRetentionGc ambient draw now = .ok (candidates, after))

include exclusive done

/-- No item that outlives the deletion of the expired leases is among the candidates. -/
theorem not_candidate_of_item (member : item ∈ (vault.dropLeases fun lease => lease.expiresAt ≤ now).leaseItems.rows)
    (chosen : candidate ∈ candidates) :
    ¬(item.resourceKind = candidate.resourceKind ∧ item.resourceId = candidate.resourceId) := by
  rintro ⟨kind, id⟩
  obtain ⟨middle, fenced, compacted, rfl, _, _⟩ := markRetentionGc_ok done
  have compaction := compactTasks_compacted _ compacted
  have free := unleased_of_candidate chosen
  rw [leased_eq_of_same compaction.leases compaction.items, ← kind, ← id, exclusive.leased_of_unexpired member] at free
  cases free

theorem Exclusive.mark : Exclusive after := by
  obtain ⟨middle, fenced, compacted, _, marked, rfl⟩ := markRetentionGc_ok done
  have compaction := compactTasks_compacted _ compacted
  have fencing := fenceAll_fenced _ marked
  have quiet := (exclusive.dropLeases fun lease => lease.expiresAt ≤ now).of_same compaction.leases compaction.items
    compaction.intents
  constructor
  · intro item member
    change item ∈ fenced.leaseItems.rows at member
    rw [fencing.items] at member
    obtain ⟨lease, stored, named⟩ := quiet.held item member
    exact ⟨lease, fencing.leases ▸ stored, named⟩
  · intro intent listed state item member
    change item ∈ fenced.leaseItems.rows at member
    change intent ∈ fenced.intents.rows at listed
    rw [fencing.items] at member
    rw [fencing.intents, mem_append, mem_map] at listed
    rcases listed with old | ⟨candidate, chosen, rfl⟩
    · exact quiet.apart intent old state item member
    · rw [compaction.items] at member
      exact not_candidate_of_item exclusive done member chosen

end

end Mark

theorem Exclusive.acquire (exclusive : Exclusive vault) {leaseId resourceKind resourceId : String} {epoch : Int}
    (done : vault.acquireLease ambient leaseId resourceKind resourceId epoch now = .ok after) : Exclusive after := by
  obtain ⟨unmarked, leases, ⟨⟨own, ownStored, ownNamed⟩, kept⟩, rfl⟩ := acquireLease_ok done
  have items : ∀ item ∈ ((vault.leaseItems.insert? ⟨leaseId, resourceKind, resourceId⟩).getD vault.leaseItems).rows,
      item ∈ vault.leaseItems.rows ∨ item = ⟨leaseId, resourceKind, resourceId⟩ := by
    intro item member
    cases inserted : vault.leaseItems.insert? ⟨leaseId, resourceKind, resourceId⟩ with
    | none =>
      rw [inserted] at member
      exact Or.inl member
    | some table =>
      rw [inserted, Option.getD_some, (Table.insert_eq_some.mp inserted).2] at member
      simpa using member
  constructor
  · intro item member
    rcases items item member with old | rfl
    · obtain ⟨lease, stored, named⟩ := exclusive.held item old
      obtain ⟨later, laterStored, same⟩ := kept lease stored
      exact ⟨later, laterStored, same.trans named⟩
    · exact ⟨own, ownStored, ownNamed⟩
  · intro intent listed state item member
    rcases items item member with old | rfl
    · exact exclusive.apart intent listed state item old
    · rintro ⟨kind, id⟩
      have found := (vault.intents.lookup_eq_some (resourceKind, resourceId) intent).mpr ⟨listed, by rw [← kind, ← id]⟩
      simp [isMarked, found, state] at unmarked

theorem Exclusive.finish (exclusive : Exclusive vault) {success : Bool}
    (finished : Finished vault candidate success now after) : Exclusive after := by
  cases finished with
  | blob _ _ same | worktree _ _ same =>
    rw [same]
    exact (exclusive.closeIntent candidate .deleted (by decide) none).of_same rfl rfl rfl
  | failed error _ same =>
    rw [same]
    exact (exclusive.closeIntent candidate .failed (by decide) (some error)).of_same rfl rfl rfl

theorem Exclusive.operate (exclusive : Exclusive before) {operation : Operation}
    (done : operate codec operation before = .ok after) : Exclusive after := by
  cases operation with
  | commit request =>
    cases commit_evidence done with
    | untouched shelf => exact exclusive.of_shelf shelf
    | retained _ _ _ _ _ _ _ _ _ same | released _ _ _ _ _ _ _ _ _ _ _ _ same =>
      rw [same]
      exact exclusive.of_same rfl rfl rfl
  | registerWorktree =>
    obtain ⟨_, _, _, rfl⟩ := registerWorktree_ok done
    exact exclusive.of_same rfl rfl rfl
  | publishBlob => exact exclusive.of_shelf (publishBlob_records done).shelf
  | referenceBlob =>
    obtain ⟨_, rfl⟩ := referenceBlob_ok done
    exact exclusive.of_same rfl rfl rfl
  | acquireLease => exact exclusive.acquire done
  | releaseLease =>
    obtain ⟨_, released⟩ := snd_eq_ok done
    obtain ⟨selects, rfl⟩ := releaseLease_ok released
    exact exclusive.dropLeases selects
  | markRetentionGc =>
    obtain ⟨_, marked⟩ := snd_eq_ok done
    exact exclusive.mark marked
  | unlinkBlob =>
    obtain ⟨_, _, rfl⟩ := unlinkBlob_ok done
    exact exclusive.of_same rfl rfl rfl
  | finishGcDeletion =>
    obtain ⟨_, finished⟩ := finishGcDeletion_ok done
    exact exclusive.finish finished
  | reopen verifyEvidence now =>
    obtain rfl := pure_eq_ok.mp done
    exact exclusive.of_shelf (reopen_records verifyEvidence before).shelf

theorem exclusive_of_reachable {permitted : Operation → Vault → Prop} (run : VaultReachable codec permitted vault) :
    Exclusive vault := by
  induction run with
  | refl => constructor <;> intro _ member <;> cases member
  | tail _ performed exclusive =>
    obtain ⟨_, _, _, done⟩ := performed
    exact exclusive.operate done

/-- An item of a lease that outlives a clock reading is kept when the expired leases are deleted. -/
theorem item_kept {lease : LeaseRow} (stored : lease ∈ vault.leases.rows) (unexpired : now < lease.expiresAt)
    (member : item ∈ vault.leaseItems.rows) (named : item.leaseId = lease.leaseId) :
    item ∈ (vault.dropLeases fun lease => lease.expiresAt ≤ now).leaseItems.rows := by
  have found := (vault.leases.lookup_eq_some item.leaseId lease).mpr ⟨stored, named.symm⟩
  simp [dropLeases, member, found, unexpired]

theorem not_compacted_of_leased {taskId : String} (leased : vault.leased "task" taskId now = true) :
    taskId ∉ (vault.compactableTasks now).map TaskRow.taskId := by
  intro listed
  obtain ⟨task, chosen, rfl⟩ := mem_map.mp listed
  have filtered := mem_filter.mp ((mem_insertionSort _).mp (mem_of_mem_take chosen))
  have unpinned := (of_decide_eq_true filtered.2).1
  simp [pinned, leased] at unpinned

/-- In every reachable vault no marked resource is leased, and what an unexpired lease holds is neither among the
candidates of a call of the collector nor compacted by it. -/
theorem leases_exclude_collection (run : VaultReachable codec (fun _ _ => True) vault) :
    (∀ intent ∈ vault.intents.rows, intent.state = .marked → ∀ item ∈ vault.leaseItems.rows,
      ¬(item.resourceKind = intent.resourceKind ∧ item.resourceId = intent.resourceId)) ∧
    ∀ ambient draw now candidates after, vault.markRetentionGc ambient draw now = .ok (candidates, after) →
      ∀ lease ∈ vault.leases.rows, now < lease.expiresAt →
      ∀ item ∈ vault.leaseItems.rows, item.leaseId = lease.leaseId →
        (∀ candidate ∈ candidates,
          ¬(item.resourceKind = candidate.resourceKind ∧ item.resourceId = candidate.resourceId)) ∧
        (item.resourceKind = "task" → SameAt item.resourceId vault.store after.store ∧
          after.store.tombstones.lookup item.resourceId = vault.store.tombstones.lookup item.resourceId) := by
  have exclusive := exclusive_of_reachable run
  refine ⟨exclusive.apart, fun ambient draw now candidates after done lease stored unexpired item member named => ?_⟩
  have kept := item_kept stored unexpired member named
  refine ⟨fun candidate chosen => not_candidate_of_item exclusive done kept chosen, fun kind => ?_⟩
  have leased := exclusive.leased_of_unexpired kept
  rw [kind] at leased
  obtain ⟨middle, fenced, compacted, _, marked, rfl⟩ := markRetentionGc_ok done
  have others := compactTasks_others _ compacted (not_compacted_of_leased leased)
  have last : fenced.bumpMutationEpoch.store = middle.store.bumpMutationEpoch := by
    rw [← (fenceAll_fenced _ marked).store]
    rfl
  rw [last]
  exact ⟨others.1.trans ⟨rfl, rfl, rfl, rfl, rfl, rfl⟩, others.2⟩

/-- A blob published two days ago and leased now is passed over, although nothing refers to it. -/
theorem leases_exclude_collection_blob :
    ∃ vault candidates after, VaultReachable (Script.codec []) (fun _ _ => True) vault ∧
      vault.leaseItems.rows.any (fun item => item.resourceKind = "blob" ∧
        item.resourceId = Script.checksum (utf8 "bytes")) = true ∧
      vault.blobObjects.rows.any (fun blob => blob.hash = Script.checksum (utf8 "bytes") ∧
        blob.publishedAt ≤ 2 - dayUs) = true ∧
      vault.markRetentionGc Script.ambient Script.token 2 = .ok (candidates, after) ∧
      ∀ candidate ∈ candidates,
        ¬("blob" = candidate.resourceKind ∧ Script.checksum (utf8 "bytes") = candidate.resourceId) := by
  obtain ⟨vault, run, ⟨item, member, kind, id, lease, stored, unexpired, named⟩, old, ⟨candidates, after⟩,
      done⟩ :
      ∃ vault, VaultReachable (Script.codec []) (fun _ _ => True) vault ∧
      (∃ item ∈ vault.leaseItems.rows, item.resourceKind = "blob" ∧
        item.resourceId = Script.checksum (utf8 "bytes") ∧
        ∃ lease ∈ vault.leases.rows, 2 < lease.expiresAt ∧ item.leaseId = lease.leaseId) ∧
      vault.blobObjects.rows.any (fun blob => blob.hash = Script.checksum (utf8 "bytes") ∧
        blob.publishedAt ≤ 2 - dayUs) = true ∧
      ∃ marked, vault.markRetentionGc Script.ambient Script.token 2 = .ok marked :=
    exists_of_vault_script [Script.publish "bytes" (-2 * dayUs),
      .acquireLease Script.ambient "lease" "blob" (Script.checksum (utf8 "bytes")) 0 1] (by decide +kernel)
  have passed := ((leases_exclude_collection run).2 _ _ _ _ _ done lease stored unexpired item member named).1
  rw [kind, id] at passed
  exact ⟨vault, candidates, after, run, List.any_eq_true.mpr ⟨item, member, by simp [kind, id]⟩, old, done, passed⟩

end AgentMesh.Runs
