import AgentMesh.Install.Store

/-! The lineage of installation records. Any number of callers race for the lock of the slot, and each of them may stop at
any point inside its swaps. Whatever they pass in, the published records form one append-only history. -/
namespace AgentMesh.Install
open Library Daemon InstallRecord List Option Unique Slot Except

variable {grown : InstallRecord} {state : InstallState} {at_us : Int64} {stages : List (String × Bytes)}
  {draws : Nat → UInt64} {path : String} {other : InstallState} {before machine : Machine} {after : Slot}

namespace InstallRecord

variable {record next : InstallRecord}

theorem nextRevision_eq_ok {revision following : UInt64} :
    nextRevision revision = .ok following ↔ revision.toNat + 1 < 2 ^ 64 ∧ following = revision + 1 := by
  unfold nextRevision
  split
  · rename_i room
    simp only [ok.injEq, room, true_and, eq_comm]
  · rename_i full
    simp only [reduceCtorEq, full, false_and]

theorem ensureCas_eq_ok {expected : UInt64} : record.ensureCas expected at_us = .ok () ↔
    record.validate = .ok () ∧ record.revision = expected ∧ record.updatedAtUs ≤ at_us := by
  simp [ensureCas, exists_iff]

theorem checkpoint_eq_ok {expected : UInt64} {checkpoint : InstallCheckpoint} :
    record.checkpoint expected checkpoint at_us = .ok next ↔
      record.ensureCas expected at_us = .ok () ∧ record.state = .installing ∧ record.revision.toNat + 1 < 2 ^ 64 ∧
        (∃ grown, record.withEvidence checkpoint = some grown ∧
          { grown with revision := record.revision + 1, updatedAtUs := at_us } = next) ∧ next.validate = .ok () := by
  simp only [InstallRecord.checkpoint, eq_ok_iff, nextRevision_eq_ok, exists_iff]
  constructor
  · rintro ⟨cas, installing, _, ⟨room, rfl⟩, grown, found, valid, rfl⟩
    exact ⟨cas, installing, room, ⟨grown, found, rfl⟩, valid⟩
  · rintro ⟨cas, installing, room, ⟨grown, found, rfl⟩, valid⟩
    exact ⟨cas, installing, _, ⟨room, rfl⟩, grown, found, valid, rfl⟩

theorem transition_eq_ok {expected : UInt64} : record.transition expected state at_us = .ok next ↔
      record.ensureCas expected at_us = .ok () ∧ isLegalTransition record.state state = true ∧
        record.revision.toNat + 1 < 2 ^ 64 ∧
        { record with state, revision := record.revision + 1, updatedAtUs := at_us } = next ∧
        next.validate = .ok () := by
  simp only [transition, eq_ok_iff, nextRevision_eq_ok, exists_iff]
  constructor
  · rintro ⟨cas, legal, _, ⟨room, rfl⟩, valid, rfl⟩
    exact ⟨cas, legal, room, rfl, valid⟩
  · rintro ⟨cas, legal, room, rfl, valid⟩
    exact ⟨cas, legal, _, ⟨room, rfl⟩, valid, rfl⟩

/-- A checkpoint holds exactly the evidence of the next step of the setup. -/
theorem withEvidence_cases {checkpoint : InstallCheckpoint} (found : record.withEvidence checkpoint = some grown) :
    (∃ key, checkpoint = ⟨none, none, none, some key, none, none⟩ ∧ record.protectedKey = none ∧
      grown = { record with protectedKey := some key }) ∨
    (∃ runtime, checkpoint = ⟨none, none, none, none, some runtime, none⟩ ∧ record.protectedKey.isSome ∧
      record.runtime = none ∧ grown = { record with runtime := some runtime }) ∨
    (∃ path version, checkpoint = ⟨none, some path, some version, none, none, none⟩ ∧ record.runtime.isSome ∧
      record.dataRelativePath = none ∧ record.dataSchemaVersion = none ∧
      grown = { record with dataRelativePath := some path, dataSchemaVersion := some version }) ∨
    ∃ task, checkpoint = ⟨none, none, none, none, none, some task⟩ ∧ record.dataRelativePath.isSome ∧
      record.scheduledTask = none ∧ grown = { record with scheduledTask := some task } := by
  unfold withEvidence at found
  split at found
  · rename_i key
    simp only [ite_none_right_eq_some, isNone_iff_eq_none, some.injEq] at found
    exact .inl ⟨key, rfl, found.1, found.2.symm⟩
  · rename_i runtime
    simp only [ite_none_right_eq_some, Bool.and_eq_true, isNone_iff_eq_none, some.injEq] at found
    exact .inr (.inl ⟨runtime, rfl, found.1.1, found.1.2, found.2.symm⟩)
  · rename_i path version
    simp only [ite_none_right_eq_some, Bool.and_eq_true, isNone_iff_eq_none, some.injEq] at found
    exact .inr (.inr (.inl ⟨path, version, rfl, found.1.1.1, found.1.1.2, found.1.2, found.2.symm⟩))
  · rename_i task
    simp only [ite_none_right_eq_some, Bool.and_eq_true, isNone_iff_eq_none, some.injEq] at found
    exact .inr (.inr (.inr ⟨task, rfl, found.1.1.1, found.1.2, found.2.symm⟩))
  · contradiction

theorem difference_withEvidence {checkpoint : InstallCheckpoint} (found : record.withEvidence checkpoint = some grown)
    (revision : UInt64) (at_us : Int64) :
    record.difference { grown with revision, updatedAtUs := at_us } = checkpoint := by
  obtain ⟨key, rfl, absent, rfl⟩ | ⟨runtime, rfl, _, absent, rfl⟩ | ⟨path, version, rfl, _, absent, missing, rfl⟩ |
    ⟨task, rfl, _, absent, rfl⟩ := withEvidence_cases found
  all_goals simp [difference, changed, *]

theorem state_of_withEvidence {checkpoint : InstallCheckpoint} (found : record.withEvidence checkpoint = some grown) :
    grown.state = record.state := by
  obtain ⟨_, _, _, rfl⟩ | ⟨_, _, _, _, rfl⟩ | ⟨_, _, _, _, _, _, rfl⟩ | ⟨_, _, _, _, rfl⟩ := withEvidence_cases found
  all_goals rfl

theorem ne_of_isLegalTransition (legal : isLegalTransition state other = true) : state ≠ other := by
  rintro rfl
  cases state <;> contradiction

/-- The record is what one checkpoint or one transition of another makes. -/
def Derives (record next : InstallRecord) : Prop :=
  (∃ expected checkpoint at_us, record.checkpoint expected checkpoint at_us = .ok next) ∨
    ∃ expected state at_us, record.transition expected state at_us = .ok next

/-- Rebuilding the step from the difference of two records accepts exactly the steps. -/
theorem validateSuccessor_iff : record.validateSuccessor next = .ok () ↔ Derives record next := by
  simp only [validateSuccessor, bind_eq_ok, exists_iff]
  constructor
  · rintro ⟨_, _, done⟩
    split at done
    all_goals
      simp only [eq_ok_iff] at done
      obtain ⟨_, done, rfl⟩ := done
    · exact .inl ⟨_, _, _, done⟩
    · exact .inr ⟨_, _, _, done⟩
  · rintro (⟨expected, checkpoint, at_us, done⟩ | ⟨expected, state, at_us, done⟩)
    · obtain ⟨cas, _, _, ⟨grown, found, rfl⟩, valid⟩ := checkpoint_eq_ok.mp done
      obtain ⟨current, rfl, _⟩ := ensureCas_eq_ok.mp cas
      have same := state_of_withEvidence found
      rw [← difference_withEvidence found (record.revision + 1) at_us] at done
      refine ⟨current, valid, ?_⟩
      rw [if_pos same.symm, done]
      simp only [eq_ok_iff, ok.injEq, exists_eq_left']
    · obtain ⟨cas, legal, _, rfl, valid⟩ := transition_eq_ok.mp done
      obtain ⟨current, rfl, _⟩ := ensureCas_eq_ok.mp cas
      refine ⟨current, valid, ?_⟩
      rw [if_neg (ne_of_isLegalTransition legal), done]
      simp only [eq_ok_iff, ok.injEq, exists_eq_left']

/-- A later record of the same installation: no evidence is altered or removed. -/
structure Extends (record next : InstallRecord) : Prop where
  installId : next.installId = record.installId
  consumerId : next.consumerId = record.consumerId
  createdAtUs : next.createdAtUs = record.createdAtUs
  updatedAtUs : record.updatedAtUs ≤ next.updatedAtUs
  productRelativePath : ∀ path ∈ record.productRelativePath, path ∈ next.productRelativePath
  dataRelativePath : ∀ path ∈ record.dataRelativePath, path ∈ next.dataRelativePath
  dataSchemaVersion : ∀ version ∈ record.dataSchemaVersion, version ∈ next.dataSchemaVersion
  protectedKey : ∀ key ∈ record.protectedKey, key ∈ next.protectedKey
  runtime : ∀ runtime ∈ record.runtime, runtime ∈ next.runtime
  scheduledTask : ∀ task ∈ record.scheduledTask, task ∈ next.scheduledTask

theorem Extends.trans {first second third : InstallRecord} (former : Extends first second)
    (latter : Extends second third) : Extends first third where
  installId := latter.installId.trans former.installId
  consumerId := latter.consumerId.trans former.consumerId
  createdAtUs := latter.createdAtUs.trans former.createdAtUs
  updatedAtUs := Int64.le_trans former.updatedAtUs latter.updatedAtUs
  productRelativePath path present := latter.productRelativePath path (former.productRelativePath path present)
  dataRelativePath path present := latter.dataRelativePath path (former.dataRelativePath path present)
  dataSchemaVersion version present := latter.dataSchemaVersion version (former.dataSchemaVersion version present)
  protectedKey key present := latter.protectedKey key (former.protectedKey key present)
  runtime runtime present := latter.runtime runtime (former.runtime runtime present)
  scheduledTask task present := latter.scheduledTask task (former.scheduledTask task present)

/-- The state stays INSTALLING at a checkpoint and makes a legal transition otherwise. -/
def Moves (state other : InstallState) : Prop :=
  (state = .installing ∧ other = .installing) ∨ isLegalTransition state other = true

theorem not_moves_of_final (final : state = .purging ∨ state = .broken) : ¬Moves state other := by
  rintro (⟨rfl, _⟩ | legal)
  · simp at final
  · obtain rfl | rfl := final
    all_goals cases other <;> contradiction

/-- What a step does to a record. -/
structure Follows (record next : InstallRecord) : Prop extends Extends record next where
  revision : next.revision.toNat = record.revision.toNat + 1
  state : Moves record.state next.state

theorem Extends.refl (record : InstallRecord) : Extends record record :=
  ⟨rfl, rfl, rfl, Int64.le_refl _, fun _ => id, fun _ => id, fun _ => id, fun _ => id, fun _ => id, fun _ => id⟩

theorem extends_of_withEvidence {checkpoint : InstallCheckpoint} (found : record.withEvidence checkpoint = some grown) :
    Extends record grown := by
  have same := Extends.refl record
  obtain ⟨_, _, absent, rfl⟩ | ⟨_, _, _, absent, rfl⟩ | ⟨_, _, _, _, absent, missing, rfl⟩ |
    ⟨_, _, _, absent, rfl⟩ := withEvidence_cases found
  · exact { same with protectedKey := by simp [absent] }
  · exact { same with runtime := by simp [absent] }
  · exact { same with dataRelativePath := by simp [absent], dataSchemaVersion := by simp [missing] }
  · exact { same with scheduledTask := by simp [absent] }

theorem toNat_succ {revision : UInt64} (room : revision.toNat + 1 < 2 ^ 64) :
    (revision + 1).toNat = revision.toNat + 1 := by
  rw [UInt64.toNat_add]
  exact Nat.mod_eq_of_lt room

theorem Derives.follows (derives : Derives record next) : Follows record next := by
  obtain ⟨expected, checkpoint, at_us, done⟩ | ⟨expected, state, at_us, done⟩ := derives
  · obtain ⟨cas, installing, room, ⟨grown, found, rfl⟩, _⟩ := checkpoint_eq_ok.mp done
    obtain ⟨_, _, later⟩ := ensureCas_eq_ok.mp cas
    have same := state_of_withEvidence found
    exact {extends_of_withEvidence found with
      updatedAtUs := later
      revision := toNat_succ room
      state := .inl ⟨installing, same.trans installing⟩ }
  · obtain ⟨cas, legal, room, rfl, _⟩ := transition_eq_ok.mp done
    obtain ⟨_, _, later⟩ := ensureCas_eq_ok.mp cas
    exact { Extends.refl record with updatedAtUs := later, revision := toNat_succ room, state := .inr legal }

theorem Derives.valid (derives : Derives record next) : next.validate = .ok () := by
  obtain ⟨_, _, _, done⟩ | ⟨_, _, _, done⟩ := derives
  · obtain ⟨_, _, _, _, valid⟩ := checkpoint_eq_ok.mp done
    exact valid
  · obtain ⟨_, _, _, _, valid⟩ := transition_eq_ok.mp done
    exact valid

theorem Derives.room (derives : Derives record next) : record.revision.toNat + 1 < 2 ^ 64 ∧
    next.revision = record.revision + 1 := by
  have step := derives.follows.revision
  have small := next.revision.toNat_lt
  have room : record.revision.toNat + 1 < 2 ^ 64 := by omega
  exact ⟨room, UInt64.toNat_inj.mp (by rw [toNat_succ room, step])⟩

theorem validate_eq_ok : record.validate = .ok () ↔ record.formatVersion = 1 ∧
    (record.revision ≠ 0 ∧ 0 ≤ record.createdAtUs ∧ record.createdAtUs ≤ record.updatedAtUs) ∧
    record.dataSchemaVersion ≠ some 0 ∧ (record.runtime.all fun runtime => isVersion runtime.version) = true ∧
    record.evidencePathsMatch = true ∧ record.evidenceInOrder = true ∧
    (mustBeComplete record.state = true → record.isActiveComplete = true) := by
  simp only [validate, eq_ok_iff, exists_iff]

theorem validateInitial_eq_ok : record.validateInitial = .ok () ↔ record.validate = .ok () ∧
    record.state = .installing ∧ record.revision = 1 ∧ record.createdAtUs = record.updatedAtUs ∧
    record.productRelativePath.isSome ∧ record.dataRelativePath = none ∧ record.dataSchemaVersion = none ∧
    record.protectedKey = none ∧ record.runtime = none ∧ record.scheduledTask = none := by
  simp only [validateInitial, eq_ok_iff, exists_iff]

end InstallRecord

section Store

variable {slot : Slot} {expected : UInt64} {next : InstallRecord} {bytes : Bytes}

@[simp]
theorem decodeRecord_toVec (valid : next.validate = .ok ()) : decodeRecord next.toVec = .ok next := by
  simp only [decodeRecord, eq_ok_iff, exists_const]
  exact ⟨length_toVec_le valid, fromSlice_toVec valid⟩

theorem checkSwap_eq_ok : slot.checkSwap expected next = .ok bytes ↔ next.validate = .ok () ∧
    (slot.readCurrent = .ok none ∧ expected = 0 ∧ next.validateInitial = .ok () ∨
      ∃ record current, slot.readCurrent = .ok (some (record, current)) ∧ record.revision = expected ∧
        InstallRecord.Derives record next) ∧ bytes = next.toVec := by
  simp only [checkSwap, eq_ok_iff, exists_iff]
  constructor
  · rintro ⟨valid, current, read, done⟩
    refine ⟨valid, ?_⟩
    cases current with
    | none =>
      simp only [eq_ok_iff, exists_iff] at done
      obtain ⟨absent, initial, _, rfl⟩ := done
      exact ⟨.inl ⟨read, absent, initial⟩, rfl⟩
    | some current =>
      obtain ⟨record, current⟩ := current
      simp only [eq_ok_iff, exists_iff, validateSuccessor_iff] at done
      obtain ⟨matches_expected, _, _, derives, _, rfl⟩ := done
      exact ⟨.inr ⟨record, current, read, matches_expected, derives⟩, rfl⟩
  · rintro ⟨valid, ⟨read, absent, initial⟩ | ⟨record, current, read, matches_expected, derives⟩, rfl⟩
    · refine ⟨valid, none, read, ?_⟩
      simp [exists_iff, absent, initial, decodeRecord_toVec valid, Except.toOption, maxControlFileBytes,
        length_toVec_le valid]
    · obtain ⟨room, following⟩ := derives.room
      refine ⟨valid, some (record, current), read, ?_⟩
      simp only [eq_ok_iff, exists_iff, validateSuccessor_iff]
      exact ⟨matches_expected, room, following, derives, ⟨length_toVec_le valid,
        by simp [decodeRecord_toVec valid, Except.toOption]⟩, trivial⟩

theorem lookup_withStage (slot : Slot) (path : String) (bytes : Bytes) :
    (slot.withStage path bytes).stages.lookup path = some bytes := by
  simp [withStage]

theorem ne_of_lookup_none (free : stages.lookup path = none) {stage : String × Bytes} (member : stage ∈ stages) :
    stage.1 ≠ path := by
  intro same
  rw [lookup_eq_none_iff] at free
  simpa [same] using free stage member

theorem free_of_freePath (found : slot.freePath draws = some path) : slot.stages.lookup path = none := by
  simpa using find?_some found

theorem publish_withStage {path : String} (free : slot.stages.lookup path = none) :
    (slot.withStage path bytes).publish path = ⟨some bytes, slot.stages⟩ := by
  have kept : slot.stages.filter (fun stage => stage.1 ≠ path) = slot.stages := by
    rw [filter_eq_self]
    intro stage member
    simpa using ne_of_lookup_none free member
  simpa [publish, withStage] using kept

theorem compareAndSwapLocked_eq_ok :
    slot.compareAndSwapLocked expected next draws = .ok after ↔ slot.checkSwap expected next = .ok next.toVec ∧
      (slot.freePath draws).isSome ∧ after = ⟨some next.toVec, slot.stages⟩ := by
  simp only [compareAndSwapLocked, createVerifiedStage, eq_ok_iff, exists_iff, Prod.exists]
  constructor
  · rintro ⟨bytes, checked, _, _, ⟨path, found, _, rfl, rfl⟩, _, rfl⟩
    obtain ⟨_, _, rfl⟩ := checkSwap_eq_ok.mp checked
    refine ⟨checked, by simp [found], publish_withStage (free_of_freePath found)⟩
  · rintro ⟨checked, found, rfl⟩
    obtain ⟨valid, _, _⟩ := checkSwap_eq_ok.mp checked
    obtain ⟨path, found⟩ := isSome_iff_exists.mp found
    have published := @publish_withStage slot next.toVec path (free_of_freePath found)
    have decoded := decodeRecord_toVec valid
    refine ⟨_, checked, _, _, ⟨path, found, ⟨lookup_withStage _ _ _, ?_⟩, rfl, rfl⟩, ?_, published⟩
    · simp [decoded, Except.toOption]
    · rw [published]
      simp [readCurrent, decoded]

theorem record_of_deleted {listing : List PurgeSlotEntry}
    (deleted : slot.compareAndDeletePurgingLocked expected bytes listing = .ok after) : after.record = none := by
  simp only [compareAndDeletePurgingLocked, eq_ok_iff] at deleted
  obtain ⟨_, _, _, _, _, _, _, _, _, _, _, _, _, _, _, _, _, _, _, _, _, _, rfl⟩ := deleted
  rfl

end Store

section Lineage

/-- What the published records let pass next: the first record of a setup, or a step of the last one. -/
def Accepted (published : List InstallRecord) (next : InstallRecord) : Prop :=
  match published.getLast? with
  | none => next.validateInitial = .ok ()
  | some record => InstallRecord.Derives record next

/-- The records published since the slot was empty. -/
inductive Lineage : List InstallRecord → Prop where
  | empty : Lineage []
  | append {published : List InstallRecord} {next : InstallRecord} (earlier : Lineage published)
      (accepted : Accepted published next) : Lineage (published ++ [next])

variable {published : List InstallRecord} {record next : InstallRecord}

theorem accepted_append : Accepted (published ++ [record]) next ↔ InstallRecord.Derives record next := by
  simp [Accepted]

theorem eq_nil_or_append (published : List InstallRecord) :
    published = [] ∨ ∃ earlier record, published = earlier ++ [record] := by
  simpa [concat_eq_append] using published.eq_nil_or_concat

theorem Accepted.valid (accepted : Accepted published next) : next.validate = .ok () := by
  obtain rfl | ⟨earlier, record, rfl⟩ := eq_nil_or_append published
  · exact (validateInitial_eq_ok.mp accepted).1
  · exact (accepted_append.mp accepted).valid

namespace Lineage

section

variable (lineage : Lineage published)

include lineage

theorem valid : ∀ record ∈ published, record.validate = .ok () := by
  induction lineage with
  | empty => simp
  | append _ accepted ih =>
    intro record member
    obtain member | rfl := mem_append.mp member |>.imp_right mem_singleton.mp
    · exact ih record member
    · exact accepted.valid

theorem revision : ∀ position record, published[position]? = some record → record.revision.toNat = position + 1 := by
  induction lineage with
  | empty => simp
  | @append published next _ accepted ih =>
    intro position record found
    rw [getElem?_append] at found
    split at found
    · exact ih position record found
    · have last : position = published.length ∧ next = record := by
        obtain ⟨within, found⟩ := List.getElem?_eq_some_iff.mp found
        rw [length_singleton] at within
        exact ⟨by omega, by simpa using found⟩
      obtain ⟨rfl, rfl⟩ := last
      obtain rfl | ⟨earlier, record, rfl⟩ := eq_nil_or_append published
      · obtain ⟨_, _, first, _⟩ := validateInitial_eq_ok.mp accepted
        rw [first]
        rfl
      · have step := (accepted_append.mp accepted).follows.revision
        have before := ih earlier.length record (by simp)
        rw [step, before, length_append, length_singleton]

theorem pairwise : published.Pairwise InstallRecord.Extends := by
  induction lineage with
  | empty => exact .nil
  | @append published next _ accepted ih =>
    rw [pairwise_append]
    refine ⟨ih, pairwise_singleton _ _, fun record member other last => ?_⟩
    obtain rfl := mem_singleton.mp last
    obtain rfl | ⟨earlier, final, rfl⟩ := eq_nil_or_append published
    · simp at member
    · have step := (accepted_append.mp accepted).follows.toExtends
      obtain member | rfl := mem_append.mp member |>.imp_right mem_singleton.mp
      · have before := (pairwise_append.mp ih).2.2 record member final mem_cons_self
        exact before.trans step
      · exact step

theorem isChain : published.IsChain fun record next => InstallRecord.Moves record.state next.state := by
  induction lineage with
  | empty => exact .nil
  | @append published next _ accepted ih =>
    obtain rfl | ⟨earlier, final, rfl⟩ := eq_nil_or_append published
    · exact .singleton _
    · have step := (accepted_append.mp accepted).follows.state
      rw [append_assoc, singleton_append, isChain_append_cons_cons]
      exact ⟨ih, step, .singleton _⟩

theorem final {position : Nat} (found : published[position]? = some record)
    (final : record.state = .purging ∨ record.state = .broken) : position + 1 = published.length := by
  obtain ⟨within, found⟩ := List.getElem?_eq_some_iff.mp found
  by_contra other
  have moves := isChain_iff_getElem.mp lineage.isChain position (by omega)
  rw [found] at moves
  exact not_moves_of_final final moves

end

end Lineage

end Lineage

/-- Where the holder of the lock stands. -/
inductive Phase where
  | holding
  | checked (next : InstallRecord)
  | writing (path : String) (next : InstallRecord)

/-- The slot, the caller that has its lock, and the records published since the slot was empty. -/
structure Machine where
  slot : Slot
  holder : Option (Nat × Phase)
  published : List InstallRecord

def Slot.rewrite (slot : Slot) (path : String) (bytes : Bytes) : Slot where
  record := slot.record
  stages := slot.stages.map fun stage => if stage.1 = path then (path, bytes) else stage

namespace Machine

def absent (stages : List (String × Bytes)) : Machine := ⟨⟨none, stages⟩, none, []⟩

/-- One action. Only the holder of the lock touches the slot; it may stop anywhere, which frees the lock. -/
inductive Step : Machine → Machine → Prop where
  | acquire (slot : Slot) (published : List InstallRecord) (caller : Nat) :
      Step ⟨slot, none, published⟩ ⟨slot, some (caller, .holding), published⟩
  | check {slot : Slot} {published : List InstallRecord} {caller : Nat} {expected : UInt64} {next : InstallRecord}
      (passed : slot.checkSwap expected next = .ok next.toVec) :
      Step ⟨slot, some (caller, .holding), published⟩ ⟨slot, some (caller, .checked next), published⟩
  | create {slot : Slot} {published : List InstallRecord} {caller : Nat} {next : InstallRecord} {nonce : UInt64}
      (free : slot.stages.lookup (stagePath nonce) = none) :
      Step ⟨slot, some (caller, .checked next), published⟩
        ⟨slot.withStage (stagePath nonce) [], some (caller, .writing (stagePath nonce) next), published⟩
  | write {slot : Slot} {published : List InstallRecord} {caller : Nat} {next : InstallRecord} {path : String}
      {written : Bytes} (part : written <+: next.toVec) :
      Step ⟨slot, some (caller, .writing path next), published⟩
        ⟨slot.rewrite path written, some (caller, .writing path next), published⟩
  | publish {slot : Slot} {published : List InstallRecord} {caller : Nat} {next : InstallRecord} {path : String}
      (whole : slot.stages.lookup path = some next.toVec) :
      Step ⟨slot, some (caller, .writing path next), published⟩
        ⟨slot.publish path, some (caller, .holding), published ++ [next]⟩
  | release (slot : Slot) (published : List InstallRecord) (caller : Nat) :
      Step ⟨slot, some (caller, .holding), published⟩ ⟨slot, none, published⟩
  | crash (slot : Slot) (published : List InstallRecord) (caller : Nat) (phase : Phase) :
      Step ⟨slot, some (caller, phase), published⟩ ⟨slot, none, published⟩
  | delete {slot after : Slot} {published : List InstallRecord} {caller : Nat} {expected : UInt64} {bytes : Bytes}
      {listing : List PurgeSlotEntry} (listed : listing.Perm slot.entries)
      (deleted : slot.compareAndDeletePurgingLocked expected bytes listing = .ok after) :
      Step ⟨slot, some (caller, .holding), published⟩ ⟨after, some (caller, .holding), []⟩

abbrev Reaches : Machine → Machine → Prop := Relation.ReflTransGen Step

def pending (machine : Machine) : Option InstallRecord :=
  match machine.holder with
  | some (_, .checked next) | some (_, .writing _ next) => some next
  | _ => none

/-- What holds of every state: the record file is the last published record, and what the holder writes was checked
against it. -/
structure Sound (machine : Machine) : Prop where
  current : machine.slot.record = machine.published.getLast?.map toVec
  lineage : Lineage machine.published
  pending : ∀ next ∈ machine.pending, Accepted machine.published next

theorem Sound.absent (stages : List (String × Bytes)) : Sound (absent stages) :=
  ⟨rfl, .empty, fun _ none => nomatch none⟩

theorem Sound.readCurrent (sound : Sound machine) : machine.slot.readCurrent =
    .ok (machine.published.getLast?.map fun record => (record, record.toVec)) := by
  rw [Slot.readCurrent, sound.current]
  cases last : machine.published.getLast? with
  | none => rfl
  | some record =>
    have valid := sound.lineage.valid record (mem_of_getLast? last)
    simp [decodeRecord_toVec valid]

theorem Sound.accepted (sound : Sound machine) {expected : UInt64} {next : InstallRecord} {bytes : Bytes}
    (passed : machine.slot.checkSwap expected next = .ok bytes) : Accepted machine.published next := by
  obtain ⟨_, ⟨read, _, initial⟩ | ⟨record, current, read, _, derives⟩, _⟩ := checkSwap_eq_ok.mp passed
  · rw [sound.readCurrent, ok.injEq, map_eq_none_iff] at read
    rw [Accepted, read]
    exact initial
  · rw [sound.readCurrent, ok.injEq, map_eq_some_iff] at read
    obtain ⟨last, found, same⟩ := read
    rw [Accepted, found, (Prod.mk.inj same).1]
    exact derives

theorem Sound.step {after : Machine} (sound : Sound before) (step : Step before after) : Sound after := by
  obtain ⟨current, lineage, pending⟩ := sound
  cases step with
  | acquire | release | crash => exact ⟨current, lineage, fun _ none => nomatch none⟩
  | check passed =>
    have accepted := Sound.accepted ⟨current, lineage, pending⟩ passed
    exact ⟨current, lineage, by simpa [Machine.pending] using accepted⟩
  | create | write => exact ⟨current, lineage, pending⟩
  | publish whole =>
    have accepted := pending _ rfl
    exact ⟨by simp [publish, whole], lineage.append accepted, fun _ none => nomatch none⟩
  | delete _ deleted => exact ⟨by simp [record_of_deleted deleted], .empty, fun _ none => nomatch none⟩

theorem Sound.of_reaches {after : Machine} (sound : Sound before) (reaches : Reaches before after) : Sound after := by
  induction reaches with
  | refl => exact sound
  | tail _ step ih => exact ih.step step

theorem rewrite_withStage {slot : Slot} (free : slot.stages.lookup path = none) (first bytes : Bytes) :
    (slot.withStage path first).rewrite path bytes = slot.withStage path bytes := by
  have others : slot.stages.map (fun stage => if stage.1 = path then (path, bytes) else stage) = slot.stages := by
    refine (map_congr_left fun stage member => ?_).trans (map_id _)
    rw [if_neg (ne_of_lookup_none free member), id]
  simp [rewrite, withStage, others]

theorem reaches_of_swap {slot : Slot} {expected : UInt64} {next : InstallRecord}
    (done : slot.compareAndSwapLocked expected next draws = .ok after) (caller : Nat) (published : List InstallRecord) :
    Reaches ⟨slot, some (caller, .holding), published⟩ ⟨after, some (caller, .holding), published ++ [next]⟩ := by
  obtain ⟨passed, found, rfl⟩ := compareAndSwapLocked_eq_ok.mp done
  obtain ⟨path, found⟩ := isSome_iff_exists.mp found
  have free := free_of_freePath found
  obtain ⟨attempt, _, rfl⟩ := mem_map.mp (mem_of_find?_eq_some found)
  have created : Step ⟨slot, some (caller, .checked next), published⟩ _ := .create free
  have written := @Step.write (slot.withStage (stagePath (draws attempt)) []) published caller next
    (stagePath (draws attempt)) next.toVec prefix_rfl
  rw [rewrite_withStage free] at written
  have replaced := @Step.publish _ published caller next _
    (lookup_withStage slot (stagePath (draws attempt)) next.toVec)
  rw [publish_withStage free] at replaced
  exact (((Relation.ReflTransGen.single (.check passed)).tail created).tail written).tail replaced

end Machine

/-- What an append-only history of records is. -/
structure AppendOnly (published : List InstallRecord) : Prop where
  revisions : ∀ position record, published[position]? = some record → record.revision.toNat = position + 1
  evidence : published.Pairwise InstallRecord.Extends
  ordered : ∀ record ∈ published, record.evidenceInOrder = true
  complete : ∀ record ∈ published, mustBeComplete record.state = true → record.isActiveComplete = true
  states : published.IsChain fun record next => InstallRecord.Moves record.state next.state
  final : ∀ position record, published[position]? = some record →
    record.state = .purging ∨ record.state = .broken → position + 1 = published.length

theorem Lineage.appendOnly {published : List InstallRecord} (lineage : Lineage published) : AppendOnly published where
  revisions := lineage.revision
  evidence := lineage.pairwise
  ordered record member := (validate_eq_ok.mp (lineage.valid record member)).2.2.2.2.2.1
  complete record member := (validate_eq_ok.mp (lineage.valid record member)).2.2.2.2.2.2
  states := lineage.isChain
  final _ _ := lineage.final

/-- The records that racing callers publish form an append-only history, to which every successful swap adds its record;
and a swap that names the current revision accepts exactly the checkpoints and transitions of the current record. -/
theorem published_append_only (stages : List (String × Bytes)) (machine : Machine)
    (reaches : Machine.Reaches (.absent stages) machine) :
    AppendOnly machine.published ∧
      (∀ caller expected next draws after, machine.holder = some (caller, .holding) →
        machine.slot.compareAndSwapLocked expected next draws = .ok after →
        Machine.Reaches machine ⟨after, some (caller, .holding), machine.published ++ [next]⟩) ∧
      ∀ record, machine.published.getLast? = some record → ∀ next draws, next.validate = .ok () →
        (machine.slot.freePath draws).isSome →
        ((∃ after, machine.slot.compareAndSwapLocked record.revision next draws = .ok after) ↔
          InstallRecord.Derives record next) := by
  have sound := (Machine.Sound.absent stages).of_reaches reaches
  refine ⟨sound.lineage.appendOnly, ?_, ?_⟩
  · intro caller expected next draws after holds done
    obtain ⟨slot, holder, published⟩ := machine
    rw [show holder = some (caller, .holding) from holds]
    exact Machine.reaches_of_swap done caller published
  · intro record last next draws valid free
    have read := sound.readCurrent
    rw [last, Option.map_some] at read
    constructor
    · rintro ⟨after, done⟩
      have accepted := sound.accepted (compareAndSwapLocked_eq_ok.mp done).1
      rwa [Accepted, last] at accepted
    · intro derives
      have passed := checkSwap_eq_ok.mpr ⟨valid, .inr ⟨record, _, read, rfl, derives⟩, rfl⟩
      exact ⟨_, compareAndSwapLocked_eq_ok.mpr ⟨passed, free, rfl⟩⟩

def firstRecord : InstallRecord where
  formatVersion := 1
  installId := ⟨"0123456789abcdef0123456789abcdef", by decide +kernel⟩
  consumerId := ⟨"fedcba9876543210fedcba9876543210", by decide +kernel⟩
  state := .installing
  revision := 1
  productRelativePath := some ⟨"installs\\0123456789abcdef0123456789abcdef", by decide +kernel⟩
  dataRelativePath := none
  dataSchemaVersion := none
  protectedKey := none
  runtime := none
  scheduledTask := none
  createdAtUs := 10
  updatedAtUs := 10

theorem firstRecord_initial : firstRecord.validateInitial = .ok () := by decide +kernel

def sampleDigest : Sha256Digest := ⟨"0123456789abcdef0123456789abcdef0123456789abcdef0123456789abcdef", by decide +kernel⟩

def sampleKey : ProtectedKeyArtifact where
  relativePath := ⟨"installs\\0123456789abcdef0123456789abcdef\\secrets\\endpoint-key.dpapi", by decide +kernel⟩
  sha256 := sampleDigest

def sampleRuntime : RuntimeArtifact where
  relativePath := ⟨"installs\\0123456789abcdef0123456789abcdef\\bin\\" ++ sampleDigest.value ++ "\\mesh-daemon.exe",
    by decide +kernel⟩
  sha256 := sampleDigest
  version := "0.1.0"
  signerStatus := .unsignedDevelopment
  artifactFormat := .meshDaemonExeV1

def samplePath : RelativeWindowsPath := ⟨"installs\\0123456789abcdef0123456789abcdef\\data", by decide +kernel⟩

def sampleTask : ScheduledTaskEvidence where
  taskPath := ⟨"\\CodexAgentMesh-daemon-01234567", by decide +kernel⟩
  definitionSha256 := sampleDigest

def completeRecord : InstallRecord :=
  { firstRecord with
    revision := 5
    updatedAtUs := 14
    protectedKey := some sampleKey
    runtime := some sampleRuntime
    dataRelativePath := some samplePath
    dataSchemaVersion := some 1
    scheduledTask := some sampleTask }

def purgingRecord : InstallRecord := { completeRecord with state := .purging, revision := 9, updatedAtUs := 18 }

def lifecycle : List InstallRecord :=
  [{ firstRecord with revision := 2, updatedAtUs := 11, protectedKey := some sampleKey },
    { firstRecord with
      revision := 3, updatedAtUs := 12, protectedKey := some sampleKey, runtime := some sampleRuntime },
    { completeRecord with revision := 4, updatedAtUs := 13, scheduledTask := none }, completeRecord,
    { completeRecord with state := .active, revision := 6, updatedAtUs := 15 },
    { completeRecord with state := .removing, revision := 7, updatedAtUs := 16 },
    { completeRecord with state := .retained, revision := 8, updatedAtUs := 17 }, purgingRecord]

theorem lifecycle_chain :
    (firstRecord :: lifecycle).IsChain fun record next => record.validateSuccessor next = .ok () := by
  decide +kernel

theorem Machine.reaches_of_chain (free : ((⟨none, stages⟩ : Slot).freePath draws).isSome) (caller : Nat)
    (records : List InstallRecord) :
    ∀ record published, record.validate = .ok () →
      (record :: records).IsChain (fun record next => record.validateSuccessor next = .ok ()) →
        ∃ last, (record :: records).getLast? = some last ∧
          Machine.Reaches ⟨⟨some record.toVec, stages⟩, some (caller, .holding), published⟩
            ⟨⟨some last.toVec, stages⟩, some (caller, .holding), published ++ records⟩ := by
  induction records with
  | nil =>
    intro record published _ _
    rw [append_nil]
    exact ⟨record, rfl, .refl⟩
  | cons next records ih =>
    intro record published valid chain
    rw [isChain_cons_cons] at chain
    have derives := validateSuccessor_iff.mp chain.1
    have read : (⟨some record.toVec, stages⟩ : Slot).readCurrent = .ok (some (record, record.toVec)) := by
      simp [readCurrent, decodeRecord_toVec valid]
    have passed := checkSwap_eq_ok.mpr ⟨derives.valid, .inr ⟨record, _, read, rfl, derives⟩, rfl⟩
    have done := compareAndSwapLocked_eq_ok.mpr ⟨passed, free, rfl⟩
    obtain ⟨last, found, later⟩ := ih next (published ++ [next]) derives.valid chain.2
    rw [append_assoc, singleton_append] at later
    exact ⟨last, found, (Machine.reaches_of_swap done caller published).trans later⟩

theorem reaches_lifecycle (free : ((⟨none, stages⟩ : Slot).freePath draws).isSome) {records : List InstallRecord}
    (part : records <+: lifecycle) : ∃ last, (firstRecord :: records).getLast? = some last ∧
      Machine.Reaches (.absent stages) ⟨⟨some last.toVec, stages⟩, some (0, .holding), firstRecord :: records⟩ := by
  have valid := (validateInitial_eq_ok.mp firstRecord_initial).1
  have passed : (⟨none, stages⟩ : Slot).checkSwap 0 firstRecord = .ok firstRecord.toVec :=
    checkSwap_eq_ok.mpr ⟨valid, .inl ⟨rfl, rfl, firstRecord_initial⟩, rfl⟩
  have done := compareAndSwapLocked_eq_ok.mpr ⟨passed, free, rfl⟩
  have chain := IsChain.prefix lifecycle_chain (cons_prefix_cons.mpr ⟨rfl, part⟩)
  obtain ⟨last, found, later⟩ := Machine.reaches_of_chain free 0 records firstRecord [firstRecord] valid chain
  exact ⟨last, found, .head (.acquire _ _ 0) ((Machine.reaches_of_swap done 0 []).trans later)⟩

theorem reaches_purgingRecord (free : ((⟨none, stages⟩ : Slot).freePath draws).isSome) :
    Machine.Reaches (.absent stages)
      ⟨⟨some purgingRecord.toVec, stages⟩, some (0, .holding), firstRecord :: lifecycle⟩ := by
  obtain ⟨last, found, reaches⟩ := reaches_lifecycle free prefix_rfl
  obtain rfl : purgingRecord = last := some.inj found
  exact reaches

theorem published_append_only_sample : Machine.Reaches (.absent [])
    ⟨⟨some purgingRecord.toVec, []⟩, some (0, .holding), firstRecord :: lifecycle⟩ ∧
      AppendOnly (firstRecord :: lifecycle) :=
  have reaches := reaches_purgingRecord (rfl : ((⟨none, []⟩ : Slot).freePath fun _ => 1).isSome = true)
  ⟨reaches, (published_append_only [] _ reaches).1⟩

end AgentMesh.Install
