import AgentMesh.Install.Lineage

/-! The end of a purge. The deletion refuses a slot with a stage that is not in line with the PURGING record, and stages
of that kind are what the store itself leaves behind when it stops inside a swap. -/
namespace AgentMesh.Install
open Library Library.Literal Library.Unicode Daemon InstallRecord PurgeSlotEntry List Slot PurgeScan

variable {purging : InstallRecord} {listing : List PurgeSlotEntry} {machine : Machine}

section Names

theorem isLowerHex_hexDigits (nonce : UInt64) : isLowerHex 16 (String.ofList (hexDigits nonce)) = true := by
  have digit : ∀ value < 16, (hexDigit value).utf8Size = 1 ∧
      ((hexDigit value).isDigit || ('a' ≤ hexDigit value && hexDigit value ≤ 'f')) = true := by decide
  have each : ∀ char ∈ hexDigits nonce, char.utf8Size = 1 ∧ (char.isDigit || ('a' ≤ char && char ≤ 'f')) = true := by
    intro char member
    obtain ⟨place, _, rfl⟩ := mem_map.mp member
    exact digit _ (Nat.mod_lt _ (by decide))
  have size : (String.ofList (hexDigits nonce)).utf8ByteSize = 16 := by
    rw [← Json.length_utf8, utf8_eq, String.toList_ofList,
      length_encodeUtf8_of_ascii fun char member => (each char member).1]
    rfl
  rw [isLowerHex, size, String.toList_ofList, Bool.and_eq_true, all_eq_true]
  exact ⟨rfl, fun char member => (each char member).2⟩

theorem isInstallRecordStagePath_stagePath (nonce : UInt64) : isInstallRecordStagePath (stagePath nonce) = true := by
  have digits : (hexDigits nonce).length = 16 := rfl
  have name : (stagePath nonce).toList = "install.".toList ++ (hexDigits nonce ++ ".new".toList) := by
    simp [stagePath]
  have front : ("install.".toList ++ (hexDigits nonce ++ ".new".toList)).take 8 = "install.".toList :=
    take_left' rfl
  have back : ("install.".toList ++ (hexDigits nonce ++ ".new".toList)).drop 8 = hexDigits nonce ++ ".new".toList :=
    drop_left' rfl
  have rest : (hexDigits nonce ++ ".new".toList).length - 4 = (hexDigits nonce).length := by
    rw [length_append, digits]
    rfl
  simp only [isInstallRecordStagePath, name, front, back, rest, take_left, drop_left, isLowerHex_hexDigits]
  rfl

theorem stagePath_ne (nonce : UInt64) : stagePath nonce ≠ recordPath ∧ stagePath nonce ≠ lockPath := by
  have stage := isInstallRecordStagePath_stagePath nonce
  constructor
  · intro same
    rw [same] at stage
    exact absurd stage (by decide)
  · intro same
    rw [same] at stage
    exact absurd stage (by decide)

end Names

section Deletion

variable {slot : Slot} {expected : Bytes}

/-- The stage that an entry of the listing stands for. -/
def PurgeSlotEntry.stage (entry : PurgeSlotEntry) : Option (String × Bytes) :=
  if isInstallRecordStagePath entry.relativePath then entry.bytes.map fun bytes => (entry.relativePath, bytes) else none

/-- The entries that a slot has when nobody else writes to it. -/
inductive Known (expected : Bytes) : PurgeSlotEntry → Prop where
  | record : Known expected ⟨recordPath, true, some expected⟩
  | lock : Known expected ⟨lockPath, true, some []⟩
  | stage (nonce : UInt64) (bytes : Bytes) : Known expected ⟨stagePath nonce, true, some bytes⟩

theorem add_of_known {entry : PurgeSlotEntry} (known : Known expected entry) {scan : PurgeScan}
    (fresh : entry.relativePath ∉ scan.seen) : scan.add expected entry = .ok
      ⟨entry.relativePath :: scan.seen, scan.sawRecord || entry.relativePath = recordPath,
        scan.sawLock || entry.relativePath = lockPath, scan.stages ++ entry.stage.toList⟩ := by
  have record : isInstallRecordStagePath recordPath = false := by decide
  have lock : isInstallRecordStagePath lockPath = false ∧ lockPath ≠ recordPath := by decide
  cases known with
  | record => simp_all [add, ensure, PurgeSlotEntry.stage, lock.2.symm]
  | lock => simp_all [add, ensure, PurgeSlotEntry.stage]
  | stage nonce bytes =>
    have stage := isInstallRecordStagePath_stagePath nonce
    have other := stagePath_ne nonce
    simp_all [add, ensure, PurgeSlotEntry.stage, required]

theorem scan_of_known (known : ∀ entry ∈ listing, Known expected entry)
    (distinct : (listing.map relativePath).Nodup) : ∀ scan : PurgeScan,
      (∀ entry ∈ listing, entry.relativePath ∉ scan.seen) → ∃ seen, listing.foldlM (add expected) scan = .ok
          ⟨seen, scan.sawRecord || listing.any (fun entry => entry.relativePath = recordPath),
            scan.sawLock || listing.any (fun entry => entry.relativePath = lockPath),
            scan.stages ++ listing.filterMap stage⟩ := by
  induction listing with
  | nil =>
    intro scan _
    exact ⟨scan.seen, by simp⟩
  | cons entry listing ih =>
    intro scan fresh
    rw [forall_mem_cons] at known fresh
    rw [map_cons, nodup_cons] at distinct
    have first := add_of_known known.1 fresh.1
    have later : ∀ other ∈ listing, other.relativePath ∉ entry.relativePath :: scan.seen := by
      intro other member seen
      obtain same | seen := mem_cons.mp seen
      · exact distinct.1 (same ▸ mem_map_of_mem member)
      · exact fresh.2 other member seen
    obtain ⟨seen, rest⟩ := ih known.2 distinct.2 ⟨_, _, _, _⟩ later
    refine ⟨seen, ?_⟩
    rw [foldlM_cons, first]
    refine Eq.trans rest ?_
    cases found : entry.stage <;> simp [found, Bool.or_assoc]

theorem removeStages_eq {stages : List (String × Bytes)} (distinct : (stages.map Prod.fst).Nodup) : ∀ slot : Slot,
    (∀ stage ∈ stages, stage ∈ slot.stages) → removeStages slot stages =
      .ok { slot with stages := slot.stages.filter fun stage => stage.1 ∉ stages.map Prod.fst } := by
  induction stages with
  | nil =>
    intro slot _
    simp [removeStages]
  | cons stage stages ih =>
    intro slot present
    rw [forall_mem_cons] at present
    rw [map_cons, nodup_cons] at distinct
    have found : (slot.stages.lookup stage.1).isSome = true := by
      by_contra missing
      rw [Option.not_isSome_iff_eq_none] at missing
      exact ne_of_lookup_none missing present.1 rfl
    have others : ∀ other ∈ stages, other ∈ (slot.removeStage stage.1).2.stages := by
      intro other member
      have different : other.1 ≠ stage.1 := fun same => distinct.1 (same ▸ mem_map_of_mem member)
      simp [Slot.removeStage, present.2 other member, different]
    rw [removeStages, if_pos (by simpa [Slot.removeStage] using found), ih distinct.2 _ others]
    simp only [Slot.removeStage, filter_filter, map_cons, mem_cons, not_or, Except.ok.injEq, Slot.mk.injEq, true_and]
    refine filter_congr fun other _ => ?_
    simp [Bool.and_comm]

/-- A slot whose files are the store's own. -/
structure Own (slot : Slot) : Prop where
  names : ∀ stage ∈ slot.stages, ∃ nonce, stage.1 = stagePath nonce
  distinct : (slot.stages.map Prod.fst).Nodup

theorem Own.isStagePath (own : Own slot) : ∀ stage ∈ slot.stages, isInstallRecordStagePath stage.1 = true := by
  intro stage member
  obtain ⟨nonce, same⟩ := own.names stage member
  rw [same]
  exact isInstallRecordStagePath_stagePath nonce

theorem known_of_own (own : Own slot) (present : slot.record = some expected) :
    ∀ entry ∈ slot.entries, Known expected entry := by
  intro entry member
  simp only [entries, present, Option.toList_some, map_cons, map_nil, singleton_append, mem_cons, mem_map] at member
  obtain rfl | rfl | ⟨stage, member, rfl⟩ := member
  · exact .record
  · exact .lock
  · obtain ⟨nonce, same⟩ := own.names stage member
    rw [same]
    exact .stage nonce stage.2

theorem nodup_of_own (own : Own slot) (present : slot.record = some expected) :
    (slot.entries.map relativePath).Nodup := by
  have other : ∀ stage ∈ slot.stages, stage.1 ≠ recordPath ∧ stage.1 ≠ lockPath := by
    intro stage member
    obtain ⟨nonce, same⟩ := own.names stage member
    rw [same]
    exact stagePath_ne nonce
  have paths : slot.entries.map relativePath = recordPath :: lockPath :: slot.stages.map Prod.fst := by
    simp [entries, present, Function.comp_def]
  rw [paths, nodup_cons, nodup_cons]
  refine ⟨?_, ?_, own.distinct⟩
  · intro member
    obtain same | member := mem_cons.mp member
    · exact absurd same (by decide)
    · obtain ⟨stage, member, same⟩ := mem_map.mp member
      exact (other stage member).1 same
  · intro member
    obtain ⟨stage, member, same⟩ := mem_map.mp member
    exact (other stage member).2 same

theorem stages_of_own (own : Own slot) : slot.entries.filterMap stage = slot.stages := by
  have record : isInstallRecordStagePath recordPath = false := by decide
  have lock : isInstallRecordStagePath lockPath = false := by decide
  have front : (slot.record.toList.map fun bytes => (⟨recordPath, true, some bytes⟩ : PurgeSlotEntry)).filterMap
      stage = [] := by
    cases slot.record <;> simp [stage, record]
  have each : ∀ stage ∈ slot.stages, (⟨stage.1, true, some stage.2⟩ : PurgeSlotEntry).stage = some stage := by
    intro stage member
    simp [PurgeSlotEntry.stage, own.isStagePath stage member]
  rw [entries, filterMap_append, front, nil_append, filterMap_cons_none (by simp [stage, lock]), filterMap_map]
  exact (filterMap_congr each).trans (filterMap_some)

theorem enumerate_perm {other : List PurgeSlotEntry} (listed : listing.Perm other) :
    enumerateStableControlDirectory listing = .ok listing ↔ enumerateStableControlDirectory other = .ok other := by
  simp only [enumerateStableControlDirectory, eq_ok_iff, Unique.exists_iff, listed.length_eq, listed.mem_iff,
    (listed.map _).sum_nat]

/-- The scan of a slot with the store's own files, in whatever order they are listed. -/
theorem scan_of_own (own : Own slot) (present : slot.record = some expected) (listed : listing.Perm slot.entries) :
    ∃ seen stages, stages.Perm slot.stages ∧
      listing.foldlM (add expected) ⟨[], false, false, []⟩ = .ok ⟨seen, true, true, stages⟩ := by
  have known : ∀ entry ∈ listing, Known expected entry := fun entry member =>
    known_of_own own present entry (listed.mem_iff.mp member)
  have distinct := (listed.map relativePath).nodup_iff.mpr (nodup_of_own own present)
  obtain ⟨seen, scanned⟩ := scan_of_known known distinct ⟨[], false, false, []⟩ (by simp)
  have record : listing.any (fun entry => entry.relativePath = recordPath) = true := by
    rw [any_eq_true]
    exact ⟨⟨recordPath, true, some expected⟩, listed.mem_iff.mpr (by simp [entries, present]), by simp⟩
  have lock : listing.any (fun entry => entry.relativePath = lockPath) = true := by
    rw [any_eq_true]
    exact ⟨⟨lockPath, true, some []⟩, listed.mem_iff.mpr (by simp [entries]), by simp⟩
  refine ⟨seen, listing.filterMap stage, ?_, by simpa [record, lock] using scanned⟩
  have same := listed.filterMap stage
  rwa [stages_of_own own] at same

theorem removeStages_of_perm (own : Own slot) {stages : List (String × Bytes)} (same : stages.Perm slot.stages) :
    removeStages slot stages = .ok { slot with stages := [] } := by
  have distinct := (same.map Prod.fst).nodup_iff.mpr own.distinct
  have none : slot.stages.filter (fun stage => stage.1 ∉ stages.map Prod.fst) = [] := by
    rw [filter_eq_nil_iff]
    intro stage member
    simpa using ⟨stage.2, same.mem_iff.mpr member⟩
  rw [removeStages_eq distinct slot fun stage member => same.mem_iff.mp member, none]

theorem readCurrent_eq_some {record : InstallRecord} (read : slot.readCurrent = .ok (some (record, expected))) :
    slot.record = some expected := by
  unfold readCurrent at read
  split at read
  · cases read
  · rename_i bytes present
    simp only [eq_ok_iff, Option.some.injEq] at read
    obtain ⟨_, _, _, rfl⟩ := read
    exact present

/-- What the deletion needs of a slot with the store's own files, in whatever order they are listed. -/
theorem delete_eq_ok (own : Own slot) (listed : listing.Perm slot.entries) {revision : UInt64} {after : Slot} :
    slot.compareAndDeletePurgingLocked revision expected listing = .ok after ↔
      (∃ record, slot.readCurrent = .ok (some (record, expected)) ∧ record.state = .purging ∧
        record.revision = revision ∧ ∀ stage ∈ slot.stages, validatePurgeStage record expected stage = .ok ()) ∧
      enumerateStableControlDirectory slot.entries = .ok slot.entries ∧ after = ⟨none, []⟩ := by
  have enumerated : ∀ entries, enumerateStableControlDirectory listing = .ok entries ↔ entries = listing ∧
      enumerateStableControlDirectory slot.entries = .ok slot.entries := by
    intro entries
    rw [← enumerate_perm listed]
    simp only [enumerateStableControlDirectory, eq_ok_iff, Unique.exists_iff]
    grind
  simp only [compareAndDeletePurgingLocked, eq_ok_iff, Unique.exists_iff, Prod.exists, enumerated]
  constructor
  · rintro ⟨current, read, record, bytes, rfl, ⟨purging, rfl, rfl⟩, _, ⟨rfl, limits⟩, scan, scanned, _, passes, cleaned,
      removed, _, _, _, _, _, _, rfl⟩
    obtain ⟨seen, stages, same, found⟩ := scan_of_own own (readCurrent_eq_some read) listed
    rw [scanned, Except.ok.injEq] at found
    subst found
    rw [removeStages_of_perm own same, Except.ok.injEq] at removed
    subst removed
    have each := (forM_eq_ok _ _).mp passes
    exact ⟨⟨record, read, purging, rfl, fun stage member => each stage (same.mem_iff.mpr member)⟩, limits, rfl⟩
  · rintro ⟨⟨record, read, purging, rfl, passes⟩, limits, rfl⟩
    obtain ⟨seen, stages, same, scanned⟩ := scan_of_own own (readCurrent_eq_some read) listed
    have each := (forM_eq_ok _ _).mpr fun stage member => passes stage (same.mem_iff.mp member)
    exact ⟨_, read, record, expected, rfl, ⟨purging, rfl, rfl⟩, _, ⟨rfl, limits⟩, _, scanned, ⟨rfl, rfl⟩, each, _,
      removeStages_of_perm own same, _, read, record, expected, rfl, ⟨rfl, rfl⟩, rfl⟩

end Deletion

section Leftovers

/-- The record of which a file holds a part was accepted after some of the published records. -/
def Origin (published : List InstallRecord) (bytes : Bytes) : Prop :=
  ∃ earlier later next, published = earlier ++ later ∧ Accepted earlier next ∧ bytes <+: next.toVec

theorem Origin.append {published : List InstallRecord} {bytes : Bytes} (origin : Origin published bytes)
    (next : InstallRecord) : Origin (published ++ [next]) bytes := by
  obtain ⟨earlier, later, staged, rfl, accepted, part⟩ := origin
  exact ⟨earlier, later ++ [next], staged, by rw [append_assoc], accepted, part⟩

theorem origin_of_accepted {published : List InstallRecord} {next : InstallRecord} {bytes : Bytes}
    (accepted : Accepted published next) (part : bytes <+: next.toVec) : Origin published bytes :=
  ⟨published, [], next, (append_nil _).symm, accepted, part⟩

/-- Every file beside the record is a stage that a swap of this history has begun. -/
structure Stocked (machine : Machine) : Prop extends Own machine.slot where
  origin : ∀ stage ∈ machine.slot.stages, Origin machine.published stage.2

theorem Own.withStage {slot : Slot} (own : Own slot) {nonce : UInt64}
    (free : slot.stages.lookup (stagePath nonce) = none) (bytes : Bytes) :
    Own (slot.withStage (stagePath nonce) bytes) where
  names := by
    intro stage member
    obtain rfl | member := mem_cons.mp member
    · exact ⟨nonce, rfl⟩
    · exact own.names stage member
  distinct := by
    rw [Slot.withStage, map_cons, nodup_cons]
    refine ⟨fun member => ?_, own.distinct⟩
    obtain ⟨stage, member, same⟩ := mem_map.mp member
    exact ne_of_lookup_none free member same

theorem paths_rewrite (slot : Slot) (path : String) (bytes : Bytes) :
    (slot.rewrite path bytes).stages.map Prod.fst = slot.stages.map Prod.fst := by
  rw [rewrite, map_map]
  refine map_congr_left fun stage _ => ?_
  rw [Function.comp_apply]
  split
  · rename_i same
    exact same.symm
  · rfl

theorem Own.rewrite {slot : Slot} (own : Own slot) (path : String) (bytes : Bytes) : Own (slot.rewrite path bytes) where
  names := by
    have paths := paths_rewrite slot path bytes
    intro stage member
    have old : stage.1 ∈ slot.stages.map Prod.fst := paths ▸ mem_map_of_mem member
    obtain ⟨other, member, same⟩ := mem_map.mp old
    rw [← same]
    exact own.names other member
  distinct := by
    rw [paths_rewrite]
    exact own.distinct

theorem Own.publish {slot : Slot} (own : Own slot) (path : String) : Own (slot.publish path) where
  names stage member := own.names stage (mem_filter.mp member).1
  distinct := own.distinct.sublist (filter_sublist.map Prod.fst)

theorem Stocked.step {before after : Machine} (sound : before.Sound) (stocked : Stocked before)
    (step : before.Step after) : Stocked after := by
  obtain ⟨own, origin⟩ := stocked
  cases step with
  | acquire | release | crash | check => exact ⟨own, origin⟩
  | create free =>
    refine ⟨own.withStage free [], fun stage member => ?_⟩
    obtain rfl | member := mem_cons.mp member
    · exact origin_of_accepted (sound.pending _ rfl) nil_prefix
    · exact origin stage member
  | write part =>
    refine ⟨own.rewrite _ _, fun stage member => ?_⟩
    obtain ⟨old, present, rfl⟩ := mem_map.mp member
    split
    · exact origin_of_accepted (sound.pending _ rfl) part
    · exact origin old present
  | publish =>
    exact ⟨own.publish _, fun stage member => (origin stage (mem_filter.mp member).1).append _⟩
  | delete listed deleted =>
    obtain ⟨_, _, rfl⟩ := (delete_eq_ok own listed).mp deleted
    exact ⟨⟨by simp, by simp⟩, by simp⟩

theorem stocked_of_reaches (reaches : Machine.Reaches (.absent []) machine) : Stocked machine := by
  induction reaches with
  | refl => exact ⟨⟨by simp [Machine.absent], by simp [Machine.absent]⟩, by simp [Machine.absent]⟩
  | tail before step ih => exact ih.step ((Machine.Sound.absent []).of_reaches before) step

/-- Two records with the same evidence. -/
structure SameEvidence (record other : InstallRecord) : Prop where
  productRelativePath : record.productRelativePath = other.productRelativePath
  dataRelativePath : record.dataRelativePath = other.dataRelativePath
  dataSchemaVersion : record.dataSchemaVersion = other.dataSchemaVersion
  protectedKey : record.protectedKey = other.protectedKey
  runtime : record.runtime = other.runtime
  scheduledTask : record.scheduledTask = other.scheduledTask

theorem validatePurgeStage_eq_ok {expected : Bytes} {stage : String × Bytes} :
    validatePurgeStage purging expected stage = .ok () ↔ isInstallRecordStagePath stage.1 = true ∧
      ∃ staged, decodeRecord stage.2 = .ok staged ∧ staged.installId = purging.installId ∧
        staged.consumerId = purging.consumerId ∧ staged.createdAtUs = purging.createdAtUs ∧
        staged.revision ≤ purging.revision ∧ staged.updatedAtUs ≤ purging.updatedAtUs ∧
        SameEvidence staged purging ∧ (staged.revision = purging.revision → stage.2 = expected) := by
  simp only [validatePurgeStage, eq_ok_iff, Unique.exists_iff, toOption_eq_some]
  constructor
  · rintro ⟨path, staged, read, ⟨install, consumer, created, revision, updated, product, data, version, key, runtime,
      task⟩, exact_bytes⟩
    exact ⟨path, staged, read, install, consumer, created, revision, updated,
      ⟨product, data, version, key, runtime, task⟩, exact_bytes⟩
  · rintro ⟨path, staged, read, install, consumer, created, revision, updated, ⟨product, data, version, key, runtime,
      task⟩, exact_bytes⟩
    exact ⟨path, staged, read, ⟨install, consumer, created, revision, updated, product, data, version, key, runtime,
      task⟩, exact_bytes⟩

/-- A staged record that was accepted after some record of a history that ends with PURGING belongs to the same
installation and is not newer. -/
theorem before_purging {published : List InstallRecord} (lineage : Lineage published)
    (last : published.getLast? = some purging) (state : purging.state = .purging) {record staged : InstallRecord}
    (member : record ∈ published) (derives : InstallRecord.Derives record staged) :
    staged.installId = purging.installId ∧ staged.consumerId = purging.consumerId ∧
      staged.createdAtUs = purging.createdAtUs ∧ staged.revision ≤ purging.revision := by
  have step := derives.follows
  obtain ⟨earlier, rfl⟩ := getLast?_eq_some_iff.mp last
  obtain member | same := mem_append.mp member |>.imp_right mem_singleton.mp
  · have since := (pairwise_append.mp lineage.pairwise).2.2 record member purging mem_cons_self
    obtain ⟨position, inside, found⟩ := getElem_of_mem member
    have older := lineage.revision position record (by simp [getElem?_append_left inside, inside, found])
    have newest := lineage.revision earlier.length purging (by simp)
    refine ⟨step.installId.trans since.installId.symm, step.consumerId.trans since.consumerId.symm,
      step.createdAtUs.trans since.createdAtUs.symm, ?_⟩
    rw [UInt64.le_iff_toNat_le, step.revision]
    omega
  · subst same
    exact absurd step.state (not_moves_of_final (.inl state))

/-- A directory that the enumeration lists as a whole. -/
def Slot.Listable (slot : Slot) : Prop :=
  slot.entries.length ≤ maxControlDirectoryEntries ∧
    (slot.entries.map fun entry => (entry.bytes.getD []).length).sum ≤ maxControlDirectoryTotalBytes

/-- A leftover stage that does not stand in the way of the deletion: a record written to its end, with the evidence of
the PURGING record, no later time, and of an earlier revision unless it is that very record. -/
def Harmless (purging : InstallRecord) (bytes : Bytes) : Prop :=
  ∃ staged : InstallRecord, bytes = staged.toVec ∧ SameEvidence staged purging ∧
    staged.updatedAtUs ≤ purging.updatedAtUs ∧ (staged.revision = purging.revision → staged = purging)

theorem harmless_iff (sound : machine.Sound) (last : machine.published.getLast? = some purging)
    (state : purging.state = .purging) {stage : String × Bytes} (path : isInstallRecordStagePath stage.1 = true)
    (origin : Origin machine.published stage.2) :
    validatePurgeStage purging purging.toVec stage = .ok () ↔ Harmless purging stage.2 := by
  obtain ⟨earlier, later, next, split, accepted, part⟩ := origin
  have valid := accepted.valid
  have purging_valid := sound.lineage.valid purging (mem_of_getLast? last)
  rw [validatePurgeStage_eq_ok]
  constructor
  · rintro ⟨_, staged, read, _, _, _, _, updated, evidence, exact_bytes⟩
    simp only [decodeRecord, eq_ok_iff, exists_const] at read
    have whole := fromSlice_cut part read.2
    obtain rfl : staged = next := by
      have back := fromSlice_toVec valid
      rw [← whole, read.2, Option.some.injEq] at back
      exact back
    refine ⟨staged, whole, evidence, updated, fun same => ?_⟩
    rw [whole] at exact_bytes
    exact toVec_cut (exact_bytes same ▸ prefix_rfl)
  · rintro ⟨staged, whole, evidence, updated, same_revision⟩
    obtain rfl : staged = next := toVec_cut (whole ▸ part)
    have complete : purging.protectedKey.isSome = true := by
      have all := (validate_eq_ok.mp purging_valid).2.2.2.2.2.2 (by rw [state]; rfl)
      simp only [isActiveComplete, Bool.and_eq_true] at all
      exact all.1.1.2
    obtain rfl | ⟨before, record, rfl⟩ := eq_nil_or_append earlier
    · -- The first record of a setup has no key yet, the PURGING record has one.
      obtain ⟨_, _, _, _, _, _, _, key, _⟩ := validateInitial_eq_ok.mp accepted
      rw [← evidence.protectedKey, key] at complete
      contradiction
    · have member : record ∈ machine.published := by simp [split]
      obtain ⟨install, consumer, created, revision⟩ :=
        before_purging sound.lineage last state member (accepted_append.mp accepted)
      refine ⟨path, staged, ?_, install, consumer, created, revision, updated, evidence, fun same => ?_⟩
      · rw [whole, decodeRecord_toVec valid]
      · rw [whole, same_revision same]

theorem listable_iff (sound : machine.Sound) (stocked : Stocked machine) :
    enumerateStableControlDirectory machine.slot.entries = .ok machine.slot.entries ↔ machine.slot.Listable := by
  have small : ∀ entry ∈ machine.slot.entries, ∀ bytes ∈ entry.bytes, bytes.length ≤ maxControlFileBytes := by
    intro entry member bytes present
    simp only [entries, mem_append, mem_cons, mem_map, Option.mem_toList] at member
    obtain ⟨text, found, rfl⟩ | rfl | ⟨stage, member, rfl⟩ := member
    · rw [sound.current, Option.map_eq_some_iff] at found
      obtain ⟨record, last, rfl⟩ := found
      obtain rfl := Option.some.inj present
      exact length_toVec_le (sound.lineage.valid record (mem_of_getLast? last))
    · obtain rfl := Option.some.inj present
      exact Nat.zero_le _
    · obtain rfl := Option.some.inj present
      obtain ⟨_, _, next, _, accepted, part⟩ := stocked.origin stage member
      exact Nat.le_trans part.length_le (length_toVec_le accepted.valid)
  simp only [enumerateStableControlDirectory, eq_ok_iff, Unique.exists_iff, and_true]
  constructor
  · intro passed
    exact ⟨passed.1, passed.2.2⟩
  · intro listable
    exact ⟨listable.1, small, listable.2⟩

/-- After any history of swaps that may stop anywhere, the deletion ends the purge exactly when the directory can be
listed and every stage left behind is harmless. -/
theorem purge_finishes_iff (machine : Machine) (reaches : Machine.Reaches (.absent []) machine)
    (purging : InstallRecord) (last : machine.published.getLast? = some purging) (state : purging.state = .purging) :
    (∀ listing, listing.Perm machine.slot.entries →
      machine.slot.compareAndDeletePurgingLocked purging.revision purging.toVec listing = .ok ⟨none, []⟩) ↔
      machine.slot.Listable ∧ ∀ stage ∈ machine.slot.stages, Harmless purging stage.2 := by
  have sound := (Machine.Sound.absent []).of_reaches reaches
  have stocked := stocked_of_reaches reaches
  have read := sound.readCurrent
  rw [last, Option.map_some] at read
  have passes : (∀ stage ∈ machine.slot.stages, validatePurgeStage purging purging.toVec stage = .ok ()) ↔
      ∀ stage ∈ machine.slot.stages, Harmless purging stage.2 :=
    forall₂_congr fun stage member =>
      harmless_iff sound last state (stocked.isStagePath stage member) (stocked.origin stage member)
  rw [← listable_iff sound stocked, ← passes]
  constructor
  · intro finishes
    obtain ⟨⟨record, found, _, _, each⟩, limits, _⟩ :=
      (delete_eq_ok stocked.toOwn (List.Perm.refl _)).mp (finishes machine.slot.entries (List.Perm.refl _))
    rw [read, Except.ok.injEq, Option.some.injEq, Prod.mk.injEq] at found
    rw [← found.1] at each
    exact ⟨limits, each⟩
  · rintro ⟨limits, each⟩ listing listed
    exact (delete_eq_ok stocked.toOwn listed).mpr ⟨⟨purging, read, state, rfl, each⟩, limits, rfl⟩

/-- A swap that stops while it writes leaves what it has written. -/
theorem reaches_stage {slot : Slot} {expected : UInt64} {next : InstallRecord} {written : Bytes}
    (passed : slot.checkSwap expected next = .ok next.toVec) (free : slot.stages.lookup (stagePath 0) = none)
    (part : written <+: next.toVec) (published : List InstallRecord) :
    Machine.Reaches ⟨slot, some (0, .holding), published⟩ ⟨slot.withStage (stagePath 0) written, none, published⟩ := by
  have created : Machine.Step ⟨slot, some (0, .checked next), published⟩ _ := .create free
  have left := @Machine.Step.write (slot.withStage (stagePath 0) []) published 0 next (stagePath 0) written part
  rw [Machine.rewrite_withStage free] at left
  exact (((Relation.ReflTransGen.single (.check passed)).tail created).tail left).tail (.crash _ _ _ _)

theorem listable_of_small {bytes : Bytes} (small : bytes.length ≤ 1024 * 1024) :
    Slot.Listable ⟨some bytes, [(stagePath 0, bytes)]⟩ := by
  refine ⟨show 3 ≤ 4096 by decide, show bytes.length + (0 + (bytes.length + 0)) ≤ 16 * 1024 * 1024 from ?_⟩
  omega

/-- The first purge of an installation stops before its record is published; its file does not stop the second one. -/
theorem purge_finishes_iff_sample : ∃ machine, Machine.Reaches (.absent []) machine ∧
    machine.slot.stages = [(stagePath 0, purgingRecord.toVec)] ∧ ∀ listing, listing.Perm machine.slot.entries →
      machine.slot.compareAndDeletePurgingLocked purgingRecord.revision purgingRecord.toVec listing = .ok ⟨none, []⟩ := by
  have free : ∀ stages ∈ [[], [(stagePath 0, purgingRecord.toVec)]],
      ((⟨none, stages⟩ : Slot).freePath fun _ => 1).isSome = true := by decide +kernel
  obtain ⟨retained, found, before⟩ := reaches_lifecycle (free [] (by simp)) ( dropLast_prefix lifecycle)
  have chain : [retained, purgingRecord].IsChain fun record next => record.validateSuccessor next = .ok () := by
    obtain rfl : { completeRecord with state := .retained, revision := 8, updatedAtUs := 17 } = retained :=
      Option.some.inj found
    decide +kernel
  have valid := ((Machine.Sound.absent []).of_reaches before).lineage.valid retained (mem_of_getLast? found)
  have derives := validateSuccessor_iff.mp (isChain_cons_cons.mp chain).1
  have read : (⟨some retained.toVec, []⟩ : Slot).readCurrent = .ok (some (retained, retained.toVec)) := by
    simp [readCurrent, decodeRecord_toVec valid]
  have passed := checkSwap_eq_ok.mpr ⟨derives.valid, .inr ⟨retained, _, read, rfl, derives⟩, rfl⟩
  have stopped := reaches_stage passed rfl prefix_rfl (firstRecord :: lifecycle.dropLast)
  obtain ⟨last, ended, after⟩ := Machine.reaches_of_chain (free [(stagePath 0, purgingRecord.toVec)] (by simp)) 0
    [purgingRecord] retained (firstRecord :: lifecycle.dropLast) valid chain
  obtain rfl : purgingRecord = last := Option.some.inj ended
  have reaches := (before.trans stopped).trans (.head (.acquire _ _ 0) after)
  refine ⟨_, reaches, rfl, (purge_finishes_iff _ reaches purgingRecord rfl rfl).mpr ⟨?_, ?_⟩⟩
  · exact listable_of_small (length_toVec_le derives.valid)
  · simp only [mem_singleton, forall_eq]
    exact ⟨purgingRecord, rfl, ⟨rfl, rfl, rfl, rfl, rfl, rfl⟩, Int64.le_refl _, fun _ => rfl⟩

theorem reaches_empty_stage : Machine.Reaches (.absent []) (.absent [(stagePath 0, [])]) := by
  have valid := (validateInitial_eq_ok.mp firstRecord_initial).1
  have passed : (⟨none, []⟩ : Slot).checkSwap 0 firstRecord = .ok firstRecord.toVec :=
    checkSwap_eq_ok.mpr ⟨valid, .inl ⟨rfl, rfl, firstRecord_initial⟩, rfl⟩
  exact .head (.acquire _ _ 0) (reaches_stage passed rfl nil_prefix [])

/-- The empty file outlives the whole installation and blocks its purge. -/
theorem empty_stage_blocks_purge : ∃ machine, Machine.Reaches (.absent []) machine ∧
    machine.published = firstRecord :: lifecycle ∧ machine.slot = ⟨some purgingRecord.toVec, [(stagePath 0, [])]⟩ ∧
    ∀ listing, listing.Perm machine.slot.entries → ∀ after,
      machine.slot.compareAndDeletePurgingLocked purgingRecord.revision purgingRecord.toVec listing ≠ .ok after := by
  have free : ((⟨none, [(stagePath 0, [])]⟩ : Slot).freePath fun _ => 1).isSome = true := by decide +kernel
  have reaches := reaches_empty_stage.trans (reaches_purgingRecord free)
  refine ⟨_, reaches, rfl, rfl, fun listing listed after deleted => ?_⟩
  obtain ⟨⟨record, _, _, _, passes⟩, _⟩ := (delete_eq_ok (stocked_of_reaches reaches).toOwn listed).mp deleted
  obtain ⟨_, staged, read, _⟩ := validatePurgeStage_eq_ok.mp (passes (stagePath 0, []) (by simp))
  have nothing : decodeRecord [] = .error .integrity := by decide +kernel
  exact absurd (nothing.symm.trans read) (by simp)

end Leftovers

end AgentMesh.Install
