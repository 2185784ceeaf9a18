import AgentMesh.Storage.Owners

/-! How long the collector keeps blobs. Eligibility is written once, by the acknowledgement, and read by the marking; a
blob that an ended task or its result referenced is collected only after the dates the acknowledgement wrote, as long
as compaction, redirection and late references do not go around them. -/
namespace AgentMesh.Runs
open Library Daemon AgentMesh.Task AgentMesh.Storage Vault List

variable {codec : Codec} {seen : List Vault} {clock now : Int} {vault before after : Vault} {taskId digest : String}
  {ref : BlobRefRow} {terminalAt : Int} {operation : Operation} {store : Store} {field ownerId ownerKind : String}
  {task : TaskRow} {ambient : Ambient} {candidate : GcCandidate} {eligibleAt : Int}
  {permitted : Operation → Vault → Prop} {entry : OutboxRow} {last : Store} {draw : String × String → FenceToken}

/-- The last reading an `i64` clock can give. -/
def lastInstant : Int := 9223372036854775807

def collectorClock : Operation → Option Int
  | .markRetentionGc _ _ now | .finishGcDeletion _ _ _ _ now => some now
  | _ => none

/-- A run in which the collector's clock never goes back, with the vaults seen on the way, the latest one first, and the
last reading of that clock. -/
inductive Schedule (codec : Codec) (permitted : Operation → Vault → Prop) : List Vault → Int → Vault → Prop where
  | start (clock : Int) : Schedule codec permitted [initial] clock initial
  | step {seen : List Vault} {clock : Int} {before after : Vault} (operation : Operation)
      (run : Schedule codec permitted seen clock before) (admissible : operation.admissible before)
      (allowed : permitted operation before) (forward : ∀ now ∈ collectorClock operation, clock ≤ now)
      (done : operate codec operation before = .ok after) :
      Schedule codec permitted (after :: seen) ((collectorClock operation).getD clock) after

/-- An ended task or its result references some content. -/
def Cites (vault : Vault) (taskId digest : String) (terminalAt : Int) : Prop :=
  ∃ task ∈ vault.store.tasks.lookup taskId, task.terminalAt = some terminalAt ∧
    ∃ ref ∈ vault.blobRefs.rows, ref.hash = digest ∧ ownedBy vault.store taskId ref = true

instance (vault : Vault) (taskId digest : String) (terminalAt : Int) :
    Decidable (Cites vault taskId digest terminalAt) :=
  inferInstanceAs (Decidable (∃ task ∈ vault.store.tasks.lookup taskId, task.terminalAt = some terminalAt ∧
    ∃ ref ∈ vault.blobRefs.rows, ref.hash = digest ∧ ownedBy vault.store taskId ref = true))

/-- The result of a task was acknowledged, and both periods are over. -/
def Released (seen : List Vault) (clock : Int) (taskId : String) (terminalAt : Int) : Prop :=
  ∃ vault ∈ seen, ∃ entry ∈ vault.store.outbox.rows, entry.taskId = taskId ∧ ∃ ackedAt ∈ entry.ackedAt,
    terminalAt + 14 * dayUs ≤ clock ∧ ackedAt + 7 * dayUs ≤ clock

instance (seen : List Vault) (clock : Int) (taskId : String) (terminalAt : Int) :
    Decidable (Released seen clock taskId terminalAt) :=
  inferInstanceAs (Decidable (∃ vault ∈ seen, ∃ entry ∈ vault.store.outbox.rows, entry.taskId = taskId ∧
    ∃ ackedAt ∈ entry.ackedAt, terminalAt + 14 * dayUs ≤ clock ∧ ackedAt + 7 * dayUs ≤ clock))

/-- An operation that marks some content for deletion or deletes it, with the clock reading it rests on. -/
inductive Collects (clock : Int) (vault : Vault) (digest : String) : Operation → Int → Prop where
  | marks (ambient : Ambient) (draw : String × String → FenceToken) (now : Int) (candidates : List GcCandidate)
      (after : Vault) (candidate : GcCandidate)
      (done : vault.markRetentionGc ambient draw now = .ok (candidates, after)) (member : candidate ∈ candidates)
      (kind : candidate.resourceKind = "blob") (id : candidate.resourceId = digest) :
      Collects clock vault digest (.markRetentionGc ambient draw now) now
  | unlinks (after : Vault) (done : vault.unlinkBlob digest = .ok after) :
      Collects clock vault digest (.unlinkBlob digest) clock
  | deletes (ambient : Ambient) (candidate : GcCandidate) (errorDigest : Option String) (now : Int) (after : Vault)
      (done : vault.finishGcDeletion ambient candidate true errorDigest now = .ok after)
      (kind : candidate.resourceKind = "blob") (id : candidate.resourceId = digest) :
      Collects clock vault digest (.finishGcDeletion ambient candidate true errorDigest now) now

/-- The steps that do not go around the eligibility of a reference. -/
def Prudent : Operation → Vault → Prop
  | .referenceBlob _ ownerKind ownerId field digest _, vault =>
    -- Content that is marked gets no new reference, and no reference of an ended task is pointed elsewhere.
    vault.isMarked "blob" digest = false ∧ ∀ ref ∈ vault.blobRefs.rows,
      ref.ownerKind = ownerKind ∧ ref.ownerId = ownerId ∧ ref.field = field → ref.hash ≠ digest →
        ∀ task ∈ vault.store.tasks.rows, task.terminalAt.isSome = true →
          ownedBy vault.store task.taskId ref = false
  | .markRetentionGc _ _ now, vault =>
    -- Compaction drops no reference that is not eligible yet.
    now < lastInstant ∧
      ∀ task ∈ (vault.dropLeases fun lease => lease.expiresAt ≤ now).compactableTasks now,
        ∀ ref ∈ vault.blobRefs.rows, ownedBy vault.store task.taskId ref = true →
          (ref.eligibleAt.any fun eligibleAt => eligibleAt ≤ now) = true
  | _, _ => True

/-- The date of a reference comes from the acknowledgement of the task that owns it. -/
def Earned (store : Store) (ref : BlobRefRow) (eligibleAt : Int) : Prop :=
  ∃ taskId task entry terminalAt ackedAt, store.tasks.lookup taskId = some task ∧
    task.terminalAt = some terminalAt ∧ ownedBy store taskId ref = true ∧ entry ∈ store.outbox.rows ∧
    entry.taskId = taskId ∧ entry.ackedAt = some ackedAt ∧ eligibleAt = eligibleFrom terminalAt ackedAt

/-- A reference was eligible at a time, by a date that is no overflow. -/
def Due (ref : BlobRefRow) (now : Int) : Prop :=
  ∃ eligibleAt, ref.eligibleAt = some eligibleAt ∧ eligibleAt ≤ now ∧ eligibleAt < lastInstant

theorem Due.mono (due : Due ref clock) (later : clock ≤ now) : Due ref now := by
  obtain ⟨eligibleAt, written, reached, bounded⟩ := due
  exact ⟨eligibleAt, written, reached.trans later, bounded⟩

theorem due_of_any (eligible : (ref.eligibleAt.any fun eligibleAt => eligibleAt ≤ now) = true)
    (bounded : now < lastInstant) : Due ref now := by
  obtain ⟨eligibleAt, written, reached⟩ := (Option.any_eq_true _ _).mp eligible
  have reached : eligibleAt ≤ now := by simpa using reached
  exact ⟨eligibleAt, written, reached, lt_of_le_of_lt reached bounded⟩

theorem eligibleFrom_le {ackedAt : Int} (reached : eligibleFrom terminalAt ackedAt ≤ clock)
    (bounded : eligibleFrom terminalAt ackedAt < lastInstant) :
    terminalAt + 14 * dayUs ≤ clock ∧ ackedAt + 7 * dayUs ≤ clock := by
  unfold eligibleFrom addTime at reached bounded
  unfold lastInstant at bounded
  omega

theorem Earned.kept (earned : Earned store ref eligibleAt) (start : Reachable codec store)
    (run : Uncompacted codec store last) : Earned last ref eligibleAt := by
  obtain ⟨taskId, task, entry, terminalAt, ackedAt, found, dated, owns, listed, owner, acked, same⟩ := earned
  obtain ⟨⟨later, stored, laterDated⟩, owners, outbox⟩ := ended_kept start run found dated
  have stays := outbox entry listed owner (by rw [acked]; rfl)
  exact ⟨taskId, later, entry, terminalAt, ackedAt, stored, laterDated, (owners ref).trans owns, stays, owner, acked,
    same⟩

theorem Earned.of_same (earned : Earned store ref eligibleAt)
    (same : ∀ taskId, ownedBy store taskId ref = true → SameAt taskId store last) :
    Earned last ref eligibleAt := by
  obtain ⟨taskId, task, entry, terminalAt, ackedAt, found, dated, owns, listed, owner, acked, date⟩ := earned
  have here := same taskId owns
  have stays : entry ∈ last.outbox.slice OutboxRow.taskId taskId := by
    rw [here.outbox]
    exact (store.outbox.mem_slice _ _ _).mpr ⟨listed, owner⟩
  exact ⟨taskId, task, entry, terminalAt, ackedAt, here.task.trans found, dated,
    (ownedBy_of_slice here.results).trans owns, ((last.outbox.mem_slice _ _ _).mp stays).1, owner, acked, date⟩

theorem entry_of_ended (start : Reachable codec store) (listed : entry ∈ store.outbox.rows)
    (found : store.tasks.lookup entry.taskId = some task) (dated : task.terminalAt = some terminalAt) :
    (∃ result, store.results.lookup (entry.taskId, 1) = some result ∧ result.resultId = entry.resultId) ∧
      ∀ other ∈ store.outbox.rows, other.taskId = entry.taskId → other = entry := by
  obtain ⟨current, here, rfl⟩ := view_of_lookup found
  have settled := settled_of_reachable start here
  rw [Settled, if_pos (by rw [← dated_of_reachable start here, dated]; rfl)] at settled
  obtain ⟨result, only, event, _, results, outbox, _, _, _, _, _, _, _, _, named, version, _⟩ := settled
  obtain ⟨_, _, _, _, resultRows, outboxRows⟩ := view_eq_some here
  have one : ∀ other ∈ store.outbox.rows, other.taskId = entry.taskId → other = only := by
    intro other member owner
    have sliced := (store.outbox.mem_slice OutboxRow.taskId entry.taskId other).mpr ⟨member, owner⟩
    rw [← outboxRows, outbox] at sliced
    exact mem_singleton.mp sliced
  have same : entry = only := one entry listed rfl
  have recorded : result ∈ store.results.slice ResultRow.taskId entry.taskId := by simp [← resultRows, results]
  obtain ⟨member, owner⟩ := (store.results.mem_slice _ _ _).mp recorded
  refine ⟨⟨result, ?_, by rw [same, named]⟩, fun other member owner => (one other member owner).trans same.symm⟩
  exact (store.results.lookup_eq_some _ _).mpr ⟨member, by rw [owner, version]⟩

/-- What holds along every prudent run: dates are earned, marked content has only due references, and whatever an ended
task ever referenced it still references or was free to lose. -/
structure Retaining (codec : Codec) (seen : List Vault) (clock : Int) (vault : Vault) : Prop where
  reachable : Reachable codec vault.store
  apart : Apart vault.store
  current : vault ∈ seen
  earned : ∀ ref ∈ vault.blobRefs.rows, ∀ eligibleAt, ref.eligibleAt = some eligibleAt →
    Earned vault.store ref eligibleAt
  due : ∀ digest, vault.isMarked "blob" digest = true → ∀ ref ∈ vault.blobRefs.rows, ref.hash = digest → Due ref clock
  history : ∀ earlier ∈ seen, ∀ taskId digest terminalAt, Cites earlier taskId digest terminalAt →
    Cites vault taskId digest terminalAt ∨ Released seen clock taskId terminalAt

theorem Released.mono (released : Released seen clock taskId terminalAt) (vault : Vault) (later : clock ≤ now) :
    Released (vault :: seen) now taskId terminalAt := by
  obtain ⟨holder, member, entry, listed, owner, ackedAt, acked, fromTerminal, fromAck⟩ := released
  exact ⟨holder, mem_cons_of_mem _ member, entry, listed, owner, ackedAt, acked, fromTerminal.trans later,
    fromAck.trans later⟩

namespace Retaining

/-- A due reference of an ended task: the task was acknowledged, and both periods are over. -/
theorem released (holds : Retaining codec seen clock vault) (found : vault.store.tasks.lookup taskId = some task)
    (dated : task.terminalAt = some terminalAt) (member : ref ∈ vault.blobRefs.rows)
    (owns : ownedBy vault.store taskId ref = true) (due : Due ref now) : Released seen now taskId terminalAt := by
  obtain ⟨eligibleAt, written, reached, bounded⟩ := due
  obtain ⟨other, otherTask, entry, otherAt, ackedAt, otherFound, otherDated, otherOwns, listed, owner, acked, rfl⟩ :=
    holds.earned ref member eligibleAt written
  obtain rfl := owner_unique (keyed_of_reachable holds.reachable) holds.apart found otherFound owns otherOwns
  obtain rfl := Option.mem_unique found otherFound
  obtain rfl := Option.mem_unique dated otherDated
  obtain ⟨fromTerminal, fromAck⟩ := eligibleFrom_le reached bounded
  exact ⟨vault, holds.current, entry, listed, owner, ackedAt, acked, fromTerminal, fromAck⟩

/-- Content whose references are all due was free to go for every ended task that ever referenced it. -/
theorem all_released (holds : Retaining codec seen clock vault) (later : clock ≤ now)
    (due : ∀ ref ∈ vault.blobRefs.rows, ref.hash = digest → Due ref now) :
    ∀ earlier ∈ seen, ∀ taskId terminalAt, Cites earlier taskId digest terminalAt →
      Released seen now taskId terminalAt := by
  intro earlier member taskId terminalAt cites
  rcases holds.history earlier member taskId digest terminalAt cites with still | released
  · obtain ⟨task, found, dated, ref, stored, hash, owns⟩ := still
    exact holds.released found dated stored owns (due ref stored hash)
  · obtain ⟨holder, holderSeen, entry, listed, owner, ackedAt, acked, fromTerminal, fromAck⟩ := released
    exact ⟨holder, holderSeen, entry, listed, owner, ackedAt, acked, fromTerminal.trans later, fromAck.trans later⟩

theorem initial (codec : Codec) (clock : Int) : Retaining codec [initial] clock initial where
  reachable := .refl
  apart := fun _ member => by cases member
  current := mem_singleton_self _
  earned := fun _ member => by cases member
  due := fun _ _ _ member => by cases member
  history := by
    intro earlier member taskId digest terminalAt cites
    obtain rfl := mem_singleton.mp member
    exact .inl cites

/-- One step: dates stay earned, marked content keeps only due references, and no reference of an ended task is lost
before it is due. -/
theorem advance (holds : Retaining codec seen clock before) (admissible : operation.admissible before)
    (done : operate codec operation before = .ok after) (later : clock ≤ now)
    (earned : ∀ ref ∈ after.blobRefs.rows, ∀ eligibleAt, ref.eligibleAt = some eligibleAt → Earned after.store ref
      eligibleAt)
    (due : ∀ digest, after.isMarked "blob" digest = true → ∀ ref ∈ after.blobRefs.rows, ref.hash = digest → Due ref now)
    (kept : ∀ taskId digest terminalAt, Cites before taskId digest terminalAt → Cites after taskId digest terminalAt ∨
      Released seen now taskId terminalAt) : Retaining codec (after :: seen) now after where
  reachable := holds.reachable.trans (operate_committed admissible done)
  apart := holds.apart.operate holds.reachable admissible done
  current := mem_cons_self ..
  earned := earned
  due := due
  history := by
    intro earlier member taskId digest terminalAt cites
    rcases mem_cons.mp member with rfl | old
    · exact .inl cites
    · rcases holds.history earlier old taskId digest terminalAt cites with still | released
      · exact (kept taskId digest terminalAt still).imp id fun released => released.mono after (le_refl now)
      · exact .inr (released.mono after later)

theorem cites_kept (start : Reachable codec before.store) (run : Uncompacted codec before.store after.store)
    (refs : ∀ ref ∈ before.blobRefs.rows, ∀ task, before.store.tasks.lookup taskId = some task →
      task.terminalAt.isSome = true → ownedBy before.store taskId ref = true →
      ∃ same ∈ after.blobRefs.rows, same.hash = ref.hash ∧ same.ownerId = ref.ownerId)
    (cites : Cites before taskId digest terminalAt) :
    Cites after taskId digest terminalAt := by
  obtain ⟨task, found, dated, ref, member, hash, owns⟩ := cites
  obtain ⟨⟨later, stored, laterDated⟩, owners, _⟩ := ended_kept start run found dated
  obtain ⟨same, sameMember, sameHash, sameOwner⟩ := refs ref member task found (by rw [dated]; rfl) owns
  refine ⟨later, stored, laterDated, same, sameMember, sameHash.trans hash, ?_⟩
  rw [owners same, ← owns]
  simp only [ownedBy, sameOwner]

theorem undisturbed (holds : Retaining codec seen clock before) (admissible : operation.admissible before)
    (done : operate codec operation before = .ok after) (later : clock ≤ now)
    (run : Uncompacted codec before.store after.store) (refs : after.blobRefs = before.blobRefs)
    (marked : ∀ digest, after.isMarked "blob" digest = true → before.isMarked "blob" digest = true) :
    Retaining codec (after :: seen) now after := by
  refine holds.advance admissible done later ?_ ?_ ?_
  · rw [refs]
    intro ref member eligibleAt written
    exact (holds.earned ref member eligibleAt written).kept holds.reachable run
  · rw [refs]
    intro digest isMarked ref member hash
    exact (holds.due digest (marked digest isMarked) ref member hash).mono later
  · intro taskId digest terminalAt cites
    refine .inl (cites_kept holds.reachable run ?_ cites)
    rw [refs]
    exact fun ref member _ _ _ _ => ⟨ref, member, rfl, rfl⟩

/-- A reference that an acknowledgement dates belongs to the acknowledged task, and had no date before. -/
theorem undated (holds : Retaining codec seen clock vault) (listed : entry ∈ vault.store.outbox.rows)
    (unacked : entry.ackedAt = none) (found : vault.store.tasks.lookup entry.taskId = some task)
    (dated : task.terminalAt = some terminalAt) (member : ref ∈ vault.blobRefs.rows)
    (picked : ref.ownerId = entry.taskId ∨ ref.ownerId = entry.resultId) :
    ownedBy vault.store entry.taskId ref = true ∧ ref.eligibleAt = none := by
  obtain ⟨⟨result, recorded, named⟩, one⟩ := entry_of_ended holds.reachable listed found dated
  have owns : ownedBy vault.store entry.taskId ref = true := by
    rw [ownedBy_iff]
    exact picked.imp id fun same => ⟨result, recorded, same.trans named.symm⟩
  refine ⟨owns, Option.eq_none_iff_forall_ne_some.mpr fun eligibleAt written => ?_⟩
  obtain ⟨other, otherTask, acked, _, ackedAt, otherFound, _, otherOwns, ackedListed, owner, date, _⟩ :=
    holds.earned ref member eligibleAt written
  have same := owner_unique (keyed_of_reachable holds.reachable) holds.apart otherFound found otherOwns owns
  rw [one acked ackedListed (owner.trans same), unacked] at date
  cases date

theorem commit (holds : Retaining codec seen clock before) {request : Request}
    (admissible : (Operation.commit request).admissible before) (done : before.commit codec request = .ok after) :
    Retaining codec (after :: seen) clock after := by
  have run : Uncompacted codec before.store after.store := commit_uncompacted admissible done
  cases commit_evidence done with
  | untouched shelf =>
    refine holds.undisturbed admissible done (le_refl clock) run shelf.refs fun digest => ?_
    simp only [isMarked, shelf.intents, imp_self]
  | retained owner terminal now _ _ _ _ _ _ same =>
    refine holds.undisturbed admissible done (le_refl clock) run (by rw [same]; rfl) fun digest => ?_
    rw [same]
    exact id
  | released entry later task terminalAt now listed unacked found dated stored owner acked same =>
    have refs : after.blobRefs.rows = updateWhere (fun row => row.ownerId = entry.taskId ∨ row.ownerId = entry.resultId)
        (fun row => { row with eligibleAt := some (eligibleFrom terminalAt now) }) before.blobRefs.rows :=
      congrArg (fun vault : Vault => vault.blobRefs.rows) same
    have marked : after.isMarked = before.isMarked := by rw [same]; rfl
    have fresh := fun (ref : BlobRefRow) (member : ref ∈ before.blobRefs.rows) =>
      holds.undated listed unacked found dated member
    obtain ⟨⟨row, rowStored, rowDated⟩, owners, _⟩ := ended_kept holds.reachable run found dated
    refine holds.advance admissible done (le_refl clock) ?_ ?_ ?_
    · intro ref member eligibleAt written
      rw [refs] at member
      obtain ⟨old, oldMember, rfl⟩ := mem_updateWhere.mp member
      by_cases picked : old.ownerId = entry.taskId ∨ old.ownerId = entry.resultId
      · simp only [picked, decide_true, if_true, Option.some.injEq] at written ⊢
        refine ⟨entry.taskId, row, later, terminalAt, now, rowStored, rowDated, ?_, stored, owner, acked, written.symm⟩
        rw [owners]
        exact (fresh old oldMember picked).1
      · simp only [picked, decide_false, Bool.false_eq_true, if_false] at written ⊢
        exact (holds.earned old oldMember eligibleAt written).kept holds.reachable run
    · intro digest isMarked ref member hash
      rw [marked] at isMarked
      rw [refs] at member
      obtain ⟨old, oldMember, rfl⟩ := mem_updateWhere.mp member
      -- Marked content has dated references only, and the acknowledgement dates undated ones.
      by_cases picked : old.ownerId = entry.taskId ∨ old.ownerId = entry.resultId
      · simp only [picked, decide_true, if_true] at hash
        obtain ⟨eligibleAt, written, _⟩ := holds.due digest isMarked old oldMember hash
        rw [(fresh old oldMember picked).2] at written
        cases written
      · simp only [picked, decide_false, Bool.false_eq_true, if_false] at hash ⊢
        exact holds.due digest isMarked old oldMember hash
    · intro taskId digest terminalAt cites
      refine .inl (cites_kept holds.reachable run ?_ cites)
      intro ref member _ _ _ _
      rw [refs]
      refine ⟨_, mem_updateWhere.mpr ⟨ref, member, rfl⟩, ?_⟩
      split <;> exact ⟨rfl, rfl⟩

theorem mem_redirect (member : ref ∈ (redirect vault.blobRefs ownerKind ownerId field digest).rows) :
    ref ∈ vault.blobRefs.rows ∨ (ref.hash = digest ∧ (ref.eligibleAt = none ∨
      ∃ old ∈ vault.blobRefs.rows, old.eligibleAt = ref.eligibleAt ∧ old.ownerId = ref.ownerId)) := by
  unfold redirect at member
  cases inserted : vault.blobRefs.insert? { ownerKind, ownerId, field, hash := digest, eligibleAt := none } with
  | some refs =>
    obtain ⟨_, rows⟩ := Table.insert_eq_some.mp inserted
    rw [inserted, Option.getD_some, rows, mem_append, mem_singleton] at member
    rcases member with old | rfl
    · exact .inl old
    · exact .inr ⟨rfl, .inl rfl⟩
  | none =>
    rw [inserted, Option.getD_none] at member
    obtain ⟨old, stored, rfl⟩ := mem_updateWhere.mp member
    split
    · exact .inr ⟨rfl, .inr ⟨old, stored, rfl, rfl⟩⟩
    · exact .inl stored

theorem redirect_keeps (member : ref ∈ vault.blobRefs.rows)
    (unmoved : ref.ownerKind = ownerKind ∧ ref.ownerId = ownerId ∧ ref.field = field → ref.hash = digest) :
    ∃ same ∈ (redirect vault.blobRefs ownerKind ownerId field digest).rows,
      same.hash = ref.hash ∧ same.ownerId = ref.ownerId := by
  unfold redirect
  cases inserted : vault.blobRefs.insert? { ownerKind, ownerId, field, hash := digest, eligibleAt := none } with
  | some refs =>
    obtain ⟨_, rows⟩ := Table.insert_eq_some.mp inserted
    rw [Option.getD_some, rows]
    exact ⟨ref, mem_append_left _ member, rfl, rfl⟩
  | none =>
    rw [Option.getD_none]
    refine ⟨_, mem_updateWhere.mpr ⟨ref, member, rfl⟩, ?_⟩
    split
    · rename_i picked
      exact ⟨(unmoved (by simpa using picked)).symm, rfl⟩
    · exact ⟨rfl, rfl⟩

theorem referenceBlob (holds : Retaining codec seen clock before)
    (allowed : Prudent (.referenceBlob ambient ownerKind ownerId field digest now) before)
    (done : before.referenceBlob codec ambient ownerKind ownerId field digest = .ok after) :
    Retaining codec (after :: seen) clock after := by
  obtain ⟨unmarked, settled⟩ := allowed
  obtain ⟨length, same⟩ := referenceBlob_ok done
  have run : Uncompacted codec before.store after.store := by
    rw [same]
    exact (bump_quietly codec before.store).uncompacted
  have refs : after.blobRefs = redirect before.blobRefs ownerKind ownerId field digest := by rw [same]; rfl
  have marked : after.isMarked = before.isMarked := by rw [same]; rfl
  have admissible : (Operation.referenceBlob ambient ownerKind ownerId field digest now).admissible before := trivial
  refine holds.advance admissible done (le_refl clock) ?_ ?_ ?_
  · intro ref member eligibleAt written
    rw [refs] at member
    rcases mem_redirect member with old | ⟨_, none | ⟨old, stored, date, owner⟩⟩
    · exact (holds.earned ref old eligibleAt written).kept holds.reachable run
    · rw [none] at written
      cases written
    · have earned := (holds.earned old stored eligibleAt (date.trans written)).kept holds.reachable run
      simpa only [Earned, ownedBy, owner] using earned
  · intro wanted isMarked ref member hash
    rw [marked] at isMarked
    rw [refs] at member
    rcases mem_redirect member with old | ⟨here, _⟩
    · exact holds.due wanted isMarked ref old hash
    · rw [← hash, here, unmarked] at isMarked
      cases isMarked
  · intro taskId wanted terminalAt cites
    refine .inl (cites_kept holds.reachable run ?_ cites)
    intro ref member task found ended owns
    rw [refs]
    refine redirect_keeps member fun picked => ?_
    by_contra moved
    obtain ⟨stored, rfl⟩ := Table.of_lookup found
    rw [settled ref member picked moved task stored ended] at owns
    cases owns

theorem due_of_marked (allowed : Prudent (.markRetentionGc ambient draw now) vault) {middle : Vault}
    (compacted : (vault.dropLeases fun lease => lease.expiresAt ≤ now).compactTasks now
      (((vault.dropLeases fun lease => lease.expiresAt ≤ now).compactableTasks now).map TaskRow.taskId) = .ok middle)
    (member : candidate ∈ middle.gcCandidates draw now) (kind : candidate.resourceKind = "blob") :
    ∀ ref ∈ vault.blobRefs.rows, ref.hash = candidate.resourceId → Due ref now := by
  intro ref stored hash
  by_cases kept : ref ∈ middle.blobRefs.rows
  · rcases mem_gcCandidates member with ⟨_, blob, _, collectable, same⟩ | ⟨worktree, _⟩
    · have listed : ref ∈ middle.blobRefs.slice BlobRefRow.hash blob.hash :=
        (middle.blobRefs.mem_slice _ _ _).mpr ⟨kept, hash.trans same⟩
      simp only [blobCollectable, Bool.and_eq_true] at collectable
      have eligible := collectable.1.1
      rw [if_neg (by simpa using ne_nil_of_mem listed), all_eq_true] at eligible
      exact due_of_any (eligible ref listed) allowed.1
    · rw [kind] at worktree
      exact absurd worktree (by decide)
  · rw [compactTasks_refs _ (compactableTasks_nodup _ now) compacted] at kept
    simp only [not_and, not_forall, Bool.not_eq_false] at kept
    obtain ⟨owner, listed, owns⟩ := kept stored
    obtain ⟨task, compactable, rfl⟩ := mem_map.mp listed
    exact due_of_any (allowed.2 task compactable ref stored owns) allowed.1

theorem markRetentionGc (holds : Retaining codec seen clock before) {candidates : List GcCandidate}
    (allowed : Prudent (.markRetentionGc ambient draw now) before) (later : clock ≤ now)
    (done : before.markRetentionGc ambient draw now = .ok (candidates, after)) :
    Retaining codec (after :: seen) now after := by
  have performed : operate codec (.markRetentionGc ambient draw now) before = .ok after := by
    simp only [operate, done]
    rfl
  obtain ⟨middle, fenced, compacted, rfl, marked, rfl⟩ := markRetentionGc_ok done
  have fencing := fenceAll_fenced _ marked
  have kept := compactTasks_refs _ (compactableTasks_nodup _ now) compacted
  -- Whoever owns a reference that is still there was not compacted.
  have owners : ∀ ref ∈ middle.blobRefs.rows, ∀ taskId, ownedBy before.store taskId ref = true →
      SameAt taskId before.store fenced.store.bumpMutationEpoch := by
    intro ref member taskId owns
    have spared : SameAt taskId before.store middle.store := by
      refine (compactTasks_others _ compacted fun listed => ?_).1
      have foreign := ((kept ref).mp member).2 taskId listed
      exact absurd (foreign.symm.trans owns) (by decide)
    rw [fencing.store]
    exact spared.trans ⟨rfl, rfl, rfl, rfl, rfl, rfl⟩
  have admissible : (Operation.markRetentionGc ambient draw now).admissible before := trivial
  refine holds.advance admissible performed later ?_ ?_ ?_
  · intro ref member eligibleAt written
    have member : ref ∈ middle.blobRefs.rows := fencing.refs ▸ member
    exact (holds.earned ref ((kept ref).mp member).1 eligibleAt written).of_same (owners ref member)
  · intro digest isMarked ref member hash
    have member : ref ∈ middle.blobRefs.rows := fencing.refs ▸ member
    have stored := ((kept ref).mp member).1
    obtain ⟨intent, listed, kind, rfl, state⟩ := (isMarked_iff _ _ _).mp isMarked
    have listed : intent ∈ before.intents.rows ++ (middle.gcCandidates draw now).map (intentOf now) := by
      have rows := fencing.intents
      rw [(compactTasks_compacted _ compacted).intents] at rows
      exact rows ▸ listed
    rcases mem_append.mp listed with old | fresh
    · have already := (isMarked_iff before "blob" intent.resourceId).mpr ⟨intent, old, kind, rfl, state⟩
      exact (holds.due _ already ref stored hash).mono later
    · obtain ⟨candidate, chosen, rfl⟩ := mem_map.mp fresh
      exact due_of_marked allowed compacted chosen kind ref stored hash
  · rintro taskId digest terminalAt ⟨task, found, dated, ref, member, hash, owns⟩
    by_cases still : ref ∈ middle.blobRefs.rows
    · have same := owners ref still taskId owns
      refine .inl ⟨task, same.task.trans found, dated, ref, fencing.refs ▸ still, hash, ?_⟩
      exact (ownedBy_of_slice same.results).trans owns
    · rw [kept] at still
      simp only [not_and, not_forall, Bool.not_eq_false] at still
      obtain ⟨owner, listed, ownerOwns⟩ := still member
      obtain ⟨compactedTask, compactable, rfl⟩ := mem_map.mp listed
      have due := due_of_any (allowed.2 compactedTask compactable ref member ownerOwns) allowed.1
      exact .inr (holds.released found dated member owns due)

theorem isMarked_closeIntent {state : IntentState} {error : Option String} (closed : state ≠ .marked)
    (marked : (vault.closeIntent candidate state error now).isMarked "blob" digest = true) :
    vault.isMarked "blob" digest = true := by
  obtain ⟨intent, listed, kind, id, isMarked⟩ := (isMarked_iff _ _ _).mp marked
  obtain ⟨old, stored, rfl⟩ := mem_updateWhere.mp listed
  split at isMarked
  · exact absurd isMarked closed
  · rename_i other
    rw [if_neg other] at kind id
    exact (isMarked_iff _ _ _).mpr ⟨old, stored, kind, id, isMarked⟩

theorem finishGcDeletion (holds : Retaining codec seen clock before) {success : Bool} {errorDigest : Option String}
    (later : clock ≤ now) (done : before.finishGcDeletion ambient candidate success errorDigest now = .ok after) :
    Retaining codec (after :: seen) now after := by
  have performed : operate codec (.finishGcDeletion ambient candidate success errorDigest now) before = .ok after := done
  have admissible : (Operation.finishGcDeletion ambient candidate success errorDigest now).admissible before := trivial
  have run : Uncompacted codec before.store before.store.bumpMutationEpoch :=
    (bump_quietly codec before.store).uncompacted
  obtain ⟨⟨intent, listed, state, _⟩, finished⟩ := finishGcDeletion_ok done
  cases finished with
  | blob _ kind same =>
    have isMarked : before.isMarked "blob" candidate.resourceId = true := by
      rw [← kind]
      simp [isMarked, listed, state]
    subst same
    refine holds.advance admissible performed later ?_ ?_ ?_
    · intro ref member eligibleAt written
      exact (holds.earned ref (mem_of_mem_filter member) eligibleAt written).kept holds.reachable run
    · intro digest marked ref member hash
      exact (holds.due digest (isMarked_closeIntent (by decide) marked) ref (mem_of_mem_filter member) hash).mono later
    · rintro taskId digest terminalAt ⟨task, found, dated, ref, member, hash, owns⟩
      by_cases gone : ref.hash = candidate.resourceId
      · have due := (holds.due _ isMarked ref member gone).mono later
        exact .inr (holds.released found dated member owns due)
      · exact .inl ⟨task, found, dated, ref, mem_filter.mpr ⟨member, by simpa using gone⟩, hash, owns⟩
  | worktree _ _ same | failed _ _ same =>
    subst same
    exact holds.undisturbed admissible performed later run rfl fun digest => isMarked_closeIntent (by decide)

theorem step (holds : Retaining codec seen clock before) (admissible : operation.admissible before)
    (allowed : Prudent operation before) (forward : ∀ now ∈ collectorClock operation, clock ≤ now)
    (done : operate codec operation before = .ok after) :
    Retaining codec (after :: seen) ((collectorClock operation).getD clock) after := by
  have bump : Uncompacted codec before.store before.store.bumpMutationEpoch :=
    (bump_quietly codec before.store).uncompacted
  cases operation with
  | commit request => exact holds.commit admissible done
  | registerWorktree =>
    obtain ⟨_, _, _, same⟩ := registerWorktree_ok done
    subst same
    exact holds.undisturbed admissible done (le_refl clock) bump rfl fun _ => id
  | publishBlob =>
    have records := publishBlob_records done
    refine holds.undisturbed admissible done (le_refl clock) records.store.uncompacted records.shelf.refs fun digest => ?_
    simp only [isMarked, records.shelf.intents, imp_self]
  | referenceBlob => exact holds.referenceBlob allowed done
  | acquireLease =>
    obtain ⟨_, _, _, same⟩ := acquireLease_ok done
    subst same
    exact holds.undisturbed admissible done (le_refl clock) .refl rfl fun _ => id
  | releaseLease =>
    have performed := done
    obtain ⟨_, released⟩ := snd_eq_ok done
    obtain ⟨_, same⟩ := releaseLease_ok released
    subst same
    exact holds.undisturbed admissible performed (le_refl clock) .refl rfl fun _ => id
  | markRetentionGc =>
    obtain ⟨candidates, collected⟩ := snd_eq_ok done
    exact holds.markRetentionGc allowed (forward _ rfl) collected
  | unlinkBlob =>
    obtain ⟨_, _, same⟩ := unlinkBlob_ok done
    subst same
    exact holds.undisturbed admissible done (le_refl clock) .refl rfl fun _ => id
  | finishGcDeletion => exact holds.finishGcDeletion (forward _ rfl) done
  | reopen verifyEvidence now =>
    have performed := done
    obtain rfl := pure_eq_ok.mp done
    have records := @reopen_records codec now verifyEvidence before
    refine holds.undisturbed admissible performed (le_refl clock) records.store.uncompacted records.shelf.refs
      fun digest => ?_
    simp only [isMarked, records.shelf.intents, imp_self]

theorem of_schedule (run : Schedule codec Prudent seen clock vault) : Retaining codec seen clock vault := by
  induction run with
  | start clock => exact initial codec clock
  | step operation _ admissible allowed forward done holds => exact holds.step admissible allowed forward done

end Retaining

/-- Blob retention in prudent runs: whatever marks or deletes content does so when every reference to it is eligible,
and after the periods of every ended task that ever referenced it, itself or through its result. -/
theorem retention_honoured (run : Schedule codec Prudent seen clock vault) {operation : Operation}
    (allowed : Prudent operation vault) (forward : ∀ now ∈ collectorClock operation, clock ≤ now)
    (collects : Collects clock vault digest operation now) :
    (∀ ref ∈ vault.blobRefs.rows, ref.hash = digest →
      ∃ eligibleAt, ref.eligibleAt = some eligibleAt ∧ eligibleAt ≤ now) ∧
    ∀ earlier ∈ seen, ∀ taskId terminalAt, Cites earlier taskId digest terminalAt →
      Released seen now taskId terminalAt := by
  have holds := Retaining.of_schedule run
  obtain ⟨later, due⟩ : clock ≤ now ∧ ∀ ref ∈ vault.blobRefs.rows, ref.hash = digest → Due ref now := by
    cases collects with
    | marks ambient draw now candidates after candidate done member kind id =>
      subst id
      obtain ⟨middle, _, compacted, rfl, _, _⟩ := markRetentionGc_ok done
      exact ⟨forward now rfl, Retaining.due_of_marked allowed compacted member kind⟩
    | unlinks after done => exact ⟨le_refl clock, holds.due digest (unlinkBlob_ok done).1⟩
    | deletes ambient candidate errorDigest now after done kind id =>
      subst id
      obtain ⟨⟨intent, listed, state, _⟩, _⟩ := finishGcDeletion_ok done
      have isMarked : vault.isMarked "blob" candidate.resourceId = true := by
        rw [← kind]
        simp [isMarked, listed, state]
      have later := forward now rfl
      exact ⟨later, fun ref member hash => (holds.due _ isMarked ref member hash).mono later⟩
  refine ⟨fun ref member hash => ?_, holds.all_released later due⟩
  obtain ⟨eligibleAt, written, reached, _⟩ := due ref member hash
  exact ⟨eligibleAt, written, reached⟩

/-! Scripted runs. -/

instance (operation : Operation) (vault : Vault) : Decidable (Prudent operation vault) := by
  unfold Prudent
  split <;> infer_instance

/-- Perform operations in order, as long as each is permitted, reads no earlier clock and succeeds. -/
def schedule (codec : Codec) (permitted : Operation → Vault → Prop)
    [∀ operation vault, Decidable (permitted operation vault)] :
    List Operation → List Vault → Int → Vault → Option (List Vault × Int × Vault)
  | [], seen, clock, vault => some (seen, clock, vault)
  | operation :: operations, seen, clock, vault =>
    if operation.admissible vault ∧ permitted operation vault ∧ ∀ now ∈ collectorClock operation, clock ≤ now then
      match operate codec operation vault with
      | .ok next => schedule codec permitted operations (next :: seen) ((collectorClock operation).getD clock) next
      | .error _ => none
    else none

theorem schedule_sound [∀ operation vault, Decidable (permitted operation vault)] {operations : List Operation}
    {last : List Vault × Int × Vault} (run : Schedule codec permitted seen clock vault)
    (done : schedule codec permitted operations seen clock vault = some last) :
    Schedule codec permitted last.1 last.2.1 last.2.2 := by
  induction operations generalizing seen clock vault with
  | nil =>
    cases done
    exact run
  | cons operation operations ih =>
    unfold schedule at done
    split at done
    · rename_i allowed
      split at done
      · rename_i next performed
        exact ih (.step operation run allowed.1 allowed.2.1 allowed.2.2 performed) done
      · cases done
    · cases done

theorem exists_of_schedule [∀ operation vault, Decidable (permitted operation vault)] (operations : List Operation)
    {property : List Vault → Int → Vault → Prop} [∀ seen clock vault, Decidable (property seen clock vault)]
    (holds : ((schedule codec permitted operations [initial] 0 initial).any fun last =>
      property last.1 last.2.1 last.2.2) = true) :
    ∃ seen clock vault, Schedule codec permitted seen clock vault ∧ property seen clock vault := by
  cases done : schedule codec permitted operations [initial] 0 initial with
  | none => simp [done] at holds
  | some last => exact ⟨_, _, _, schedule_sound (.start 0) done, by simpa [done] using holds⟩

def scriptMarks (vault : Vault) (digest : String) (now : Int) : Bool :=
  match vault.markRetentionGc Script.ambient Script.token now with
  | .ok (candidates, _) => candidates.any fun candidate =>
      candidate.resourceKind = "blob" ∧ candidate.resourceId = digest
  | .error _ => false

theorem collects_of_scriptMarks (marks : scriptMarks vault digest now = true) :
    Collects clock vault digest (Script.mark now) now := by
  unfold scriptMarks at marks
  split at marks
  · rename_i candidates after done
    obtain ⟨candidate, member, chosen⟩ := any_eq_true.mp marks
    obtain ⟨kind, id⟩ := of_decide_eq_true chosen
    exact .marks Script.ambient Script.token now candidates after candidate done member kind id
  · cases marks

def scriptReview : Json :=
  .object [("command_key", .string "review:t"), ("task_id", .string "t"), ("result_id", .string "result"),
    ("result_version", .number 1), ("ack_token", .string Script.digest), ("verdict", .string "ACCEPTED")]

/-- A task that references some content, ends at time five and is acknowledged later. -/
def scriptEvidence (ackedAt : Int) : List Operation :=
  [Script.publish "bytes" 0, .commit (Script.submit "t" "k"), .commit (Script.claim "t" 0),
    .commit (Script.phase "t" 0 .processStarted),
    .commit (.transitionToFinalizing Script.ambient "finalizing:t:0" "t" 0 [.preparing, .running] 4),
    .commit (.finalize Script.ambient "result" Script.digest "console" "finalize:t:0" Script.digest "t" 0 .succeeded
      Script.digest 5),
    .referenceBlob Script.ambient "result" "result" "body" (Script.checksum (utf8 "bytes")) 5,
    .commit (.reviewAndAck Script.ambient "review" "console" "review:t" (utf8 "review:t")
      { taskId := "t", resultId := "result", resultVersion := 1, ackToken := Script.digest, terminalEventSeq := 5,
        terminalState := .succeeded } .accepted none ackedAt)]

/-- The result of a task is acknowledged on the first day and its content marked on the fifteenth. -/
theorem retention_honoured_result :
    ∃ seen clock vault, Schedule (Script.codec [scriptReview]) Prudent seen clock vault ∧
      Collects clock vault (Script.checksum (utf8 "bytes")) (Script.mark (15 * dayUs)) (15 * dayUs) ∧
      (∃ earlier ∈ seen, Cites earlier "t" (Script.checksum (utf8 "bytes")) 5) ∧
      Released seen (15 * dayUs) "t" 5 := by
  obtain ⟨seen, clock, vault, run, marks, allowed, forward, earlier, member, cites⟩ : ∃ seen clock vault,
      Schedule (Script.codec [scriptReview]) Prudent seen clock vault ∧
      scriptMarks vault (Script.checksum (utf8 "bytes")) (15 * dayUs) = true ∧
      Prudent (Script.mark (15 * dayUs)) vault ∧ clock ≤ 15 * dayUs ∧
      ∃ earlier ∈ seen, Cites earlier "t" (Script.checksum (utf8 "bytes")) 5 :=
    exists_of_schedule (scriptEvidence dayUs) (by decide +kernel)
  have collects : Collects clock vault (Script.checksum (utf8 "bytes")) (Script.mark (15 * dayUs)) (15 * dayUs) :=
    collects_of_scriptMarks marks
  have reads : ∀ now ∈ collectorClock (Script.mark (15 * dayUs)), clock ≤ now := by
    rintro now ⟨⟩
    exact forward
  exact ⟨seen, clock, vault, run, collects, ⟨earlier, member, cites⟩,
    (retention_honoured run allowed reads collects).2 earlier member "t" 5 cites⟩

/-- Compaction drops the references of a task that was acknowledged two days ago, and the same call marks their content.
Content that was marked before a reference to it was recorded is deleted with the reference. -/
theorem retention_bypassed :
    (∃ seen clock vault, Schedule (Script.codec [scriptReview]) (fun _ _ => True) seen clock vault ∧
      clock ≤ 91 * dayUs ∧
      Collects clock vault (Script.checksum (utf8 "bytes")) (Script.mark (91 * dayUs)) (91 * dayUs) ∧
      ∃ earlier ∈ seen, Cites earlier "t" (Script.checksum (utf8 "bytes")) 5 ∧ ¬Released seen (91 * dayUs) "t" 5) ∧
    ∃ seen clock vault, Schedule (Script.codec []) (fun _ _ => True) seen clock vault ∧ clock ≤ 3 * dayUs ∧
      (∃ candidate, Collects clock vault (Script.checksum (utf8 "bytes"))
        (.finishGcDeletion Script.ambient candidate true none (3 * dayUs)) (3 * dayUs)) ∧
      ∃ ref ∈ vault.blobRefs.rows, ref.hash = Script.checksum (utf8 "bytes") ∧ ref.eligibleAt = none := by
  constructor
  · obtain ⟨seen, clock, vault, run, forward, marks, earlier, member, cites, held⟩ : ∃ seen clock vault,
        Schedule (Script.codec [scriptReview]) (fun _ _ => True) seen clock vault ∧ clock ≤ 91 * dayUs ∧
        scriptMarks vault (Script.checksum (utf8 "bytes")) (91 * dayUs) = true ∧
        ∃ earlier ∈ seen, Cites earlier "t" (Script.checksum (utf8 "bytes")) 5 ∧ ¬Released seen (91 * dayUs) "t" 5 :=
      exists_of_schedule (scriptEvidence (89 * dayUs)) (by decide +kernel)
    exact ⟨seen, clock, vault, run, forward, collects_of_scriptMarks marks, earlier, member, cites, held⟩
  · obtain ⟨seen, clock, vault, run, forward, ⟨after, done⟩, late⟩ : ∃ seen clock vault,
        Schedule (Script.codec []) (fun _ _ => True) seen clock vault ∧ clock ≤ 3 * dayUs ∧
        (∃ after, vault.finishGcDeletion Script.ambient ⟨"blob", Script.checksum (utf8 "bytes"), 5, Script.token ("", "")⟩
          true none (3 * dayUs) = .ok after) ∧
        ∃ ref ∈ vault.blobRefs.rows, ref.hash = Script.checksum (utf8 "bytes") ∧ ref.eligibleAt = none :=
      exists_of_schedule [Script.publish "bytes" 0, Script.mark (2 * dayUs),
        .referenceBlob Script.ambient "task" "t" "input" (Script.checksum (utf8 "bytes")) (3 * dayUs)]
        (by decide +kernel)
    exact ⟨seen, clock, vault, run, forward, ⟨_, .deletes _ _ _ _ after done rfl rfl⟩, late⟩

end AgentMesh.Runs
