import AgentMesh.Storage.Effects

/-! Who owns a reference. A reference names a task or a result of one, and the identifiers are kept apart so that it
has at most one owner. -/
namespace AgentMesh.Storage
open Library Daemon AgentMesh.Task AgentMesh.Runs Vault

variable {codec : Codec} {request : Request} {store before after : Store} {taskId : String} {now : Int}

section

variable (keyed : Keyed before) (committed : execute codec request before = .ok after)

include keyed committed

/-- The only results a transaction adds are the ones it records. -/
theorem execute_results :
    ∀ result ∈ after.results.rows, result ∈ before.results.rows ∨ records request = some result.resultId := by
  intro result member
  have sliced : result ∈ after.results.slice ResultRow.taskId result.taskId :=
    (after.results.mem_slice _ _ _).mpr ⟨member, rfl⟩
  have known : result ∈ before.results.slice ResultRow.taskId result.taskId → result ∈ before.results.rows :=
    fun old => ((before.results.mem_slice _ _ _).mp old).1
  cases (execute_effect keyed committed).at_task result.taskId with
  | same same =>
    rw [same.results] at sliced
    exact .inl (known sliced)
  | created fresh _ _ _ submitted stored =>
    rw [← (view_eq_some stored).2.2.2.2.1, submitted.results] at sliced
    cases sliced
  | changed change current next found performs step stored =>
    by_cases final : ∃ terminal, change = .finalized terminal
    · obtain ⟨terminal, rfl⟩ := final
      cases request with
      | finalize =>
        obtain ⟨_, done⟩ := snd_eq_ok committed
        have outcome : _ ∨ (_ ∧ Booked (fun _ _ => True) _ _ _ _ _ _ ∧ _) := finalize_changed done
        rcases outcome with ⟨_, rfl⟩ | ⟨_, _, grown⟩
        · exact .inl member
        · exact (grown result member).imp id fun same => congrArg some same.symm
      | _ => simp [Performs] at performs
    · have kept := results_of_step step fun terminal same => final ⟨terminal, same⟩
      rw [← (view_eq_some stored).2.2.2.2.1, kept, (view_eq_some found).2.2.2.2.1] at sliced
      exact .inl (known sliced)
  | removed _ _ _ _ gone =>
    rw [gone.vacant.results] at sliced
    cases sliced

/-- The only task a transaction adds is the one it creates. -/
theorem execute_tasks {row : TaskRow} (stored : after.tasks.lookup taskId = some row) :
    (∃ old, before.tasks.lookup taskId = some old) ∨ creates request = some taskId := by
  cases (execute_effect keyed committed).at_task taskId with
  | same same => exact .inl ⟨row, same.task.symm.trans stored⟩
  | created _ asked _ _ _ _ => exact .inr asked
  | changed _ current _ found _ _ _ => exact .inl ⟨current.row, (view_eq_some found).1⟩
  | removed _ _ _ _ gone =>
    rw [gone.vacant.task] at stored
    cases stored

end

def Apart (store : Store) : Prop :=
  ∀ result ∈ store.results.rows, store.tasks.lookup result.resultId = none

theorem Apart.execute (apart : Apart before) (keyed : Keyed before)
    (committed : Daemon.execute codec request before = .ok after)
    (created : ∀ taskId, creates request = some taskId → ∀ result ∈ before.results.rows, result.resultId ≠ taskId)
    (recorded : ∀ resultId, records request = some resultId → before.tasks.lookup resultId = none)
    (one : creates request = none ∨ records request = none) : Apart after := by
  intro result member
  rw [Option.eq_none_iff_forall_ne_some]
  intro row stored
  rcases execute_results keyed committed result member with old | fresh
  · rcases execute_tasks keyed committed stored with ⟨task, found⟩ | asked
    · rw [apart result old] at found
      cases found
    · exact created _ asked result old rfl
  · rcases execute_tasks keyed committed stored with ⟨task, found⟩ | asked
    · rw [recorded _ fresh] at found
      cases found
    · rcases one with none | none
      · rw [none] at asked
        cases asked
      · rw [none] at fresh
        cases fresh

theorem Apart.run {permitted : Request → Store → Prop}
    (nameless : ∀ request store, permitted request store → Nameless request)
    (apart : Apart before) (start : Reachable codec before) (run : CommittedWhen codec permitted before after) :
    Apart after := by
  induction run with
  | refl => exact apart
  | tail run commits apart =>
    obtain ⟨request, _, allowed, committed⟩ := commits
    obtain ⟨createsNone, recordsNone⟩ := nameless _ _ allowed
    have keyed := keyed_of_reachable (start.trans (ReachableWhen.weaken run))
    refine apart.execute keyed committed ?_ ?_ (.inl createsNone)
    · intro taskId asked
      rw [createsNone] at asked
      cases asked
    · intro resultId asked
      rw [recordsNone] at asked
      cases asked

theorem Apart.operate {vault later : Vault} {operation : Operation} (apart : Apart vault.store)
    (start : Reachable codec vault.store) (admissible : operation.admissible vault)
    (done : Daemon.operate codec operation vault = .ok later) : Apart later.store := by
  rcases operate_nameless done with ⟨request, rfl⟩ | run
  · refine apart.execute (keyed_of_reachable start) (commit_executes done).1 ?_ ?_ ?_
    · intro taskId asked
      cases request with
      | submit =>
        obtain rfl := Option.some.inj asked
        exact admissible.2
      | _ => cases asked
    · intro resultId asked
      cases request with
      | finalize =>
        obtain rfl := Option.some.inj asked
        exact admissible
      | _ => cases asked
    · cases request <;> first | exact .inl rfl | exact .inr rfl
  · exact apart.run (fun _ _ => id) start run

theorem result_of_slice
    (same : after.results.slice ResultRow.taskId taskId = before.results.slice ResultRow.taskId taskId)
    (version : Int) : after.results.lookup (taskId, version) = before.results.lookup (taskId, version) := by
  ext result
  have member := congrArg (result ∈ ·) same
  simp only [Table.mem_slice, eq_iff_iff] at member
  simp only [Table.lookup_eq_some, Prod.mk.injEq]
  tauto

theorem ownedBy_of_slice {ref : BlobRefRow}
    (same : after.results.slice ResultRow.taskId taskId = before.results.slice ResultRow.taskId taskId) :
    ownedBy after taskId ref = ownedBy before taskId ref := by
  simp only [ownedBy, result_of_slice same 1]

theorem ownedBy_iff (store : Store) (taskId : String) (ref : BlobRefRow) :
    ownedBy store taskId ref = true ↔ ref.ownerId = taskId ∨
      ∃ result, store.results.lookup (taskId, 1) = some result ∧ ref.ownerId = result.resultId := by
  simp [ownedBy, Option.any_eq_true]

theorem owner_unique (keyed : Keyed store) (apart : Apart store) {ref : BlobRefRow} {first second : String}
    {firstTask secondTask : TaskRow} (firstFound : store.tasks.lookup first = some firstTask)
    (secondFound : store.tasks.lookup second = some secondTask) (firstOwns : ownedBy store first ref = true)
    (secondOwns : ownedBy store second ref = true) : first = second := by
  have foreign {owner other : String} {task : TaskRow} {result : ResultRow}
      (found : store.tasks.lookup owner = some task) (recorded : store.results.lookup (other, 1) = some result)
      (same : owner = result.resultId) : False := by
    have absent := apart result (Table.of_lookup recorded).1
    rw [← same, found] at absent
    cases absent
  rcases (ownedBy_iff store first ref).mp firstOwns with own | ⟨result, recorded, own⟩ <;>
    rcases (ownedBy_iff store second ref).mp secondOwns with other | ⟨otherResult, otherRecorded, other⟩
  · exact own.symm.trans other
  · exact (foreign firstFound otherRecorded (own.symm.trans other)).elim
  · exact (foreign secondFound recorded (other.symm.trans own)).elim
  · obtain ⟨member, key⟩ := Table.of_lookup recorded
    obtain ⟨otherMember, otherKey⟩ := Table.of_lookup otherRecorded
    have same : result = otherResult :=
      List.inj_on_of_nodup_map keyed.resultIds member otherMember (own.symm.trans other)
    rw [same] at key
    exact (Prod.mk.inj (key.symm.trans otherKey)).1

/-- Without compaction an ended task keeps its date, its result and its acknowledgement. -/
theorem ended_kept (start : Reachable codec before) (run : Uncompacted codec before after) {task : TaskRow}
    {terminalAt : Int} (found : before.tasks.lookup taskId = some task) (dated : task.terminalAt = some terminalAt) :
    (∃ later, after.tasks.lookup taskId = some later ∧ later.terminalAt = some terminalAt) ∧
      (∀ ref, ownedBy after taskId ref = ownedBy before taskId ref) ∧
      ∀ entry ∈ before.outbox.rows, entry.taskId = taskId → entry.ackedAt.isSome = true → entry ∈ after.outbox.rows := by
  obtain ⟨current, seen, rfl⟩ := view_of_lookup found
  have terminal : current.row.state.isTerminal = true := by
    rw [← dated_of_reachable start seen, dated]
    rfl
  obtain ⟨next, stored, frozen⟩ := follow_uncompacted (Frozen current)
    (fun control _ frozen step => frozen.step control step) (fun _ _ none => none) start run seen (Frozen.refl terminal)
  obtain ⟨_, _, _, _, results, outbox⟩ := view_eq_some seen
  obtain ⟨row, _, _, _, laterResults, laterOutbox⟩ := view_eq_some stored
  refine ⟨⟨next.row, row, frozen.date.trans dated⟩, ?_, ?_⟩
  · intro ref
    apply ownedBy_of_slice
    rw [← laterResults, ← results, frozen.results]
  · intro entry member owner acked
    have listed : entry ∈ current.outbox := by
      rw [outbox]
      exact (before.outbox.mem_slice _ _ _).mpr ⟨member, owner⟩
    have kept := frozen.acked entry listed acked
    rw [laterOutbox] at kept
    exact ((after.outbox.mem_slice _ _ _).mp kept).1

/-- Compaction drops exactly the references of the tasks it compacts. -/
theorem compactTasks_refs (taskIds : List String) (distinct : taskIds.Nodup) {vault later : Vault}
    (done : vault.compactTasks now taskIds = .ok later) (ref : BlobRefRow) :
    ref ∈ later.blobRefs.rows ↔
      ref ∈ vault.blobRefs.rows ∧ ∀ taskId ∈ taskIds, ownedBy vault.store taskId ref = false := by
  induction taskIds generalizing vault with
  | nil =>
    obtain rfl := pure_eq_ok.mp done
    simp
  | cons taskId taskIds ih =>
    obtain ⟨middle, compacted, rest⟩ := bind_eq_ok.mp done
    obtain ⟨absent, distinct⟩ := List.nodup_cons.mp distinct
    obtain ⟨store, same⟩ := compactTask_ok compacted
    have owners : ∀ other ∈ taskIds, ownedBy middle.store other ref = ownedBy vault.store other ref := by
      intro other member
      have differs : other ≠ taskId := fun equal => absent (equal ▸ member)
      exact ownedBy_of_slice (compactTask_others store differs).1.results
    have refs : ref ∈ middle.blobRefs.rows ↔ ref ∈ vault.blobRefs.rows ∧ ownedBy vault.store taskId ref = false := by
      rw [same]
      simp
    rw [ih distinct rest, refs, List.forall_mem_cons, and_assoc]
    refine and_congr_right fun _ => and_congr_right fun _ => forall₂_congr fun other member => ?_
    rw [owners other member]

end AgentMesh.Storage
