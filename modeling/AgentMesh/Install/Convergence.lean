import AgentMesh.Install.Setup

/-! The order of the setup's effects over all its starts, whatever the platform does, and its convergence on a platform
whose effects succeed. -/
namespace AgentMesh.Install.Setup
open Library Program InstallRecord Option List

variable {checkpoint : InstallCheckpoint} {next : InstallRecord} {more : List Entry} {request : Request}
  {expected : UInt64}

/-- The published record and the last reading of the clock. -/
structure World where
  record : Option InstallRecord
  clock : Int64

def swapChecks (current : Option InstallRecord) (expectedRevision : UInt64) (next : InstallRecord) :
    Except InstallStoreError Daemon.Bytes :=
  (⟨current.map toVec, []⟩ : Slot).checkSwap expectedRevision next

theorem compareAndSwapLocked_iff_swapChecks {slot : Slot} {current : Option InstallRecord}
    (same : slot.record = current.map toVec) {draws : Nat → UInt64}
    (free : (slot.freePath draws).isSome) (expected : UInt64) (next : InstallRecord) :
    (∃ after, slot.compareAndSwapLocked expected next draws = .ok after) ↔
      swapChecks current expected next = .ok next.toVec := by
  have checks : slot.checkSwap expected next = swapChecks current expected next := by
    simp only [swapChecks, Slot.checkSwap, Slot.readCurrent, same]
  simp only [compareAndSwapLocked_eq_ok, checks, free, true_and, exists_eq_right]

theorem swapChecks_eq_ok {current : Option InstallRecord} (valid : ∀ record ∈ current, record.validate = .ok ())
    {bytes : Daemon.Bytes} :
    swapChecks current expected next = .ok bytes ↔ next.validate = .ok () ∧ (match current with
        | none => expected = 0 ∧ next.validateInitial = .ok ()
        | some record => record.revision = expected ∧ InstallRecord.Derives record next) ∧ bytes = next.toVec := by
  rw [swapChecks, checkSwap_eq_ok]
  cases current with
  | none => simp [Slot.readCurrent]
  | some record =>
    have decoded := decodeRecord_toVec (valid record rfl)
    simp [Slot.readCurrent, decoded]

section Traces

def published : Entry → Option InstallRecord
  | ⟨.compareAndSwapRecord _ next, .ok _⟩ => some next
  | _ => none

def history (start : Option InstallRecord) (trace : List Entry) : List InstallRecord :=
  start.toList ++ trace.filterMap published

def current (start : Option InstallRecord) (trace : List Entry) : Option InstallRecord := (history start trace).getLast?

/-- The place of an effect in the order key, runtime, data, task, complete. -/
def rank : Entry → Option Nat
  | ⟨.ensureKey _, _⟩ => some 0
  | ⟨.ensureRuntime _, _⟩ => some 1
  | ⟨.ensureData _, _⟩ => some 2
  | ⟨.ensureTask _, _⟩ => some 3
  | ⟨.completeInstalling _, _⟩ => some 4
  | _ => none

/-- Whether a record shows that the effect of a place has been made. -/
def hasEvidence (record : InstallRecord) : Nat → Bool
  | 0 => record.protectedKey.isSome
  | 1 => record.runtime.isSome
  | 2 => record.dataRelativePath.isSome
  | 3 => record.scheduledTask.isSome
  | _ => record.state = .active

def progress (record : InstallRecord) : Nat :=
  if record.protectedKey.isNone then 0
  else if record.runtime.isNone then 1
  else if record.dataRelativePath.isNone then 2
  else if record.scheduledTask.isNone then 3
  else 4

/-- All that a record shows was there from the start or was returned by the effect that makes it. -/
structure Backed (start : Option InstallRecord) (trace : List Entry) (record : InstallRecord) : Prop where
  key : ∀ key ∈ record.protectedKey,
    (∃ first ∈ start, key ∈ first.protectedKey) ∨ ∃ asked, ⟨.ensureKey asked, .ok key⟩ ∈ trace
  runtime : ∀ runtime ∈ record.runtime,
    (∃ first ∈ start, runtime ∈ first.runtime) ∨ ∃ asked, ⟨.ensureRuntime asked, .ok runtime⟩ ∈ trace
  data : ∀ path ∈ record.dataRelativePath, ∀ version ∈ record.dataSchemaVersion,
    (∃ first ∈ start, path ∈ first.dataRelativePath ∧ version ∈ first.dataSchemaVersion) ∨
      ∃ asked, ⟨.ensureData asked, .ok (path, version)⟩ ∈ trace
  task : ∀ task ∈ record.scheduledTask,
    (∃ first ∈ start, task ∈ first.scheduledTask) ∨ ∃ asked, ⟨.ensureTask asked, .ok task⟩ ∈ trace
  complete : record.state = .active →
    (∃ first ∈ start, first.state = .active) ∨ ∃ asked, ⟨.completeInstalling asked, .ok ()⟩ ∈ trace

/-- What a request must meet after the requests before it. -/
structure Allowed (start : Option InstallRecord) (before : List Entry) (entry : Entry) : Prop where
  backed : ∀ next ∈ published entry, Backed start before next
  once : ∀ place ∈ rank entry, ∀ record ∈ history start before, hasEvidence record place = false
  lawful : ∀ expected next, entry.1 = .compareAndSwapRecord expected next → ∀ record ∈ current start before,
    record.state = .installing ∨ record.state = .retained

theorem history_append (start : Option InstallRecord) (trace : List Entry) (entry : Entry) :
    history start (trace ++ [entry]) = history start trace ++ (published entry).toList := by
  rw [history, filterMap_append, ← append_assoc, ← history]
  cases found : published entry <;> simp [found]

theorem progress_le_four (record : InstallRecord) : progress record ≤ 4 := by
  unfold progress
  split_ifs <;> omega

theorem hasEvidence_progress {record : InstallRecord} (state : record.state = .installing) :
    hasEvidence record (progress record) = false := by
  unfold progress
  split_ifs with key runtime data task
  · simpa [hasEvidence] using key
  · simpa [hasEvidence] using runtime
  · simpa [hasEvidence] using data
  · simpa [hasEvidence] using task
  · simp [hasEvidence, state]

theorem isSome_of_subset {α : Type} {first second : Option α} (subset : ∀ value ∈ first, value ∈ second)
    (present : first.isSome = true) : second.isSome = true := by
  obtain ⟨value, rfl⟩ := isSome_iff_exists.mp present
  exact isSome_iff_exists.mpr ⟨value, subset value rfl⟩

theorem hasEvidence_of_extends {record : InstallRecord} (extends_record : InstallRecord.Extends record next)
    {place : Nat} (small : place < 4) (present : hasEvidence record place = true) : hasEvidence next place = true := by
  match place, small with
  | 0, _ => exact isSome_of_subset extends_record.protectedKey present
  | 1, _ => exact isSome_of_subset extends_record.runtime present
  | 2, _ => exact isSome_of_subset extends_record.dataRelativePath present
  | 3, _ => exact isSome_of_subset extends_record.scheduledTask present

theorem progress_mono {record : InstallRecord} (extends_record : InstallRecord.Extends record next) :
    progress record ≤ progress next := by
  have key := isSome_of_subset extends_record.protectedKey
  have runtime := isSome_of_subset extends_record.runtime
  have data := isSome_of_subset extends_record.dataRelativePath
  have task := isSome_of_subset extends_record.scheduledTask
  unfold progress
  split_ifs <;> simp_all

theorem Backed.mono {start : Option InstallRecord} {trace : List Entry} {record : InstallRecord}
    (backed : Backed start trace record) (included : trace ⊆ more) : Backed start more record where
  key key present := (backed.key key present).imp_right fun ⟨asked, member⟩ => ⟨asked, included member⟩
  runtime runtime present := (backed.runtime runtime present).imp_right fun ⟨asked, member⟩ => ⟨asked, included member⟩
  data path present version known :=
    (backed.data path present version known).imp_right fun ⟨asked, member⟩ => ⟨asked, included member⟩
  task task present := (backed.task task present).imp_right fun ⟨asked, member⟩ => ⟨asked, included member⟩
  complete active := (backed.complete active).imp_right fun ⟨asked, member⟩ => ⟨asked, included member⟩

end Traces

/-- How a store and any platform answer: only a swap changes the record, and only if the store's checks let it pass. -/
def Answered (world : World) :
    (request : Request) → Except InstallControlError (Payload request) → World → Prop
  | .loadRecord, reply, after => (∀ found, reply = .ok found → found = world.record) ∧ after.record = world.record
  | .compareAndSwapRecord expected next, reply, after =>
    (∃ done, reply = .ok done ∧ swapChecks world.record expected next = .ok next.toVec ∧ after.record = some next) ∨
      (∃ error, reply = .error error) ∧ after.record = world.record
  | _, _, after => after.record = world.record

/-- What holds whenever the setup stops. -/
structure Orderly (start : Option InstallRecord) (world : World) (trace : List Entry) : Prop where
  coherent : world.record = current start trace
  sorted : (trace.filterMap rank).Pairwise (· ≤ ·)
  bounded : ∀ place ∈ trace.filterMap rank, ∃ record ∈ world.record, place ≤ progress record
  backed : ∀ record ∈ world.record, Backed start trace record
  kept : ∀ record ∈ history start trace, ∃ last ∈ world.record,
    InstallRecord.Extends record last ∧ (record.state = .active → last.state = .active)
  allowed : ∀ before entry after, trace = before ++ entry :: after → Allowed start before entry

section Steps

variable {start : Option InstallRecord} {world after : World} {trace : List Entry} {entry : Entry}

theorem Orderly.initial (start : Option InstallRecord) (clock : Int64) : Orderly start ⟨start, clock⟩ [] where
  coherent := by cases start <;> rfl
  sorted := .nil
  bounded := by simp
  backed record present := by
    have here : record ∈ start := present
    exact ⟨fun key known => .inl ⟨record, here, known⟩, fun runtime known => .inl ⟨record, here, known⟩,
      fun path found version known => .inl ⟨record, here, found, known⟩, fun task known => .inl ⟨record, here, known⟩,
      fun active => .inl ⟨record, here, active⟩⟩
  kept record member := by
    have present : record ∈ start := by simpa [history] using member
    exact ⟨record, present, .refl record, id⟩
  allowed before entry after split := by simp at split

section

variable (orderly : Orderly start world trace) (same : after.record = world.record)

include orderly same

theorem Orderly.append (silent : published entry = none) (new : Allowed start trace entry)
    (place : ∀ place ∈ rank entry, ∃ record ∈ world.record, place = progress record) :
    Orderly start after (trace ++ [entry]) where
  coherent := by rw [same, orderly.coherent, current, current, history_append, silent, toList_none, append_nil]
  sorted := by
    rw [filterMap_append, pairwise_append]
    refine ⟨orderly.sorted, ?_, ?_⟩
    · cases found : rank entry <;> simp [found]
    · intro earlier member later last
      obtain ⟨record, present, below⟩ := orderly.bounded earlier member
      obtain ⟨other, here, rfl⟩ := place later (by simpa using last)
      rw [mem_def.mp here] at present
      rwa [some.inj present]
  bounded := by
    intro found member
    rw [filterMap_append, mem_append] at member
    rw [same]
    obtain member | member := member
    · exact orderly.bounded found member
    · obtain ⟨record, present, rfl⟩ := place found (by simpa using member)
      exact ⟨record, present, Nat.le_refl _⟩
  backed record present := by
    rw [same] at present
    exact (orderly.backed record present).mono (subset_append_left _ _)
  kept record member := by
    rw [history_append, silent, toList_none, append_nil] at member
    rw [same]
    exact orderly.kept record member
  allowed := forall_split_append orderly.allowed new

theorem Orderly.quiet (silent : published entry = none) (plain : rank entry = none)
    (other : ∀ expected next, entry.1 ≠ .compareAndSwapRecord expected next) : Orderly start after (trace ++ [entry]) :=
  orderly.append same silent
    ⟨by simp [silent], by simp [plain], fun expected next swap => absurd swap (other expected next)⟩ (by simp [plain])

theorem Orderly.effect {record : InstallRecord} (present : world.record = some record)
    (state : record.state = .installing) (silent : published entry = none) (place : rank entry = some (progress record))
    (other : ∀ expected next, entry.1 ≠ .compareAndSwapRecord expected next) :
    Orderly start after (trace ++ [entry]) := by
  refine orderly.append same silent ⟨by simp [silent], ?_, fun expected next swap => absurd swap (other expected next)⟩
    (fun found same_place => ⟨record, present, ?_⟩)
  · intro found same_place older member
    obtain rfl : progress record = found := by rwa [place, mem_some_iff] at same_place
    obtain ⟨last, here, since, active⟩ := orderly.kept older member
    obtain rfl : record = last := by rwa [present, mem_some_iff] at here
    have missing := hasEvidence_progress state
    by_contra evidence
    rw [Bool.not_eq_false] at evidence
    by_cases small : progress record < 4
    · rw [hasEvidence_of_extends since small evidence] at missing
      contradiction
    · have last_place : progress record = 4 := Nat.le_antisymm (progress_le_four record) (Nat.not_lt.mp small)
      rw [last_place] at evidence
      have active_older : older.state = .active := by simpa [hasEvidence] using evidence
      rw [state] at active
      exact absurd (active active_older) (by decide)
  · rw [place, mem_some_iff] at same_place
    exact same_place.symm

theorem Orderly.refused {expected : UInt64} {next : InstallRecord} {error : InstallControlError}
    (lawful : ∀ record ∈ world.record, record.state = .installing ∨ record.state = .retained) :
    Orderly start after (trace ++ [⟨.compareAndSwapRecord expected next, .error error⟩]) := by
  refine orderly.append same rfl ⟨by simp [published], by simp [rank], fun _ _ _ record present => ?_⟩ (by simp [rank])
  rw [← orderly.coherent] at present
  exact lawful record present

end

theorem Orderly.publish (orderly : Orderly start world trace) {expected : UInt64} {next : InstallRecord}
    {done : Payload (.compareAndSwapRecord expected next)} (now : after.record = some next)
    (lawful : ∀ record ∈ world.record, record.state = .installing ∨ record.state = .retained)
    (follows : ∀ record ∈ world.record, InstallRecord.Extends record next) (backed : Backed start trace next) :
    Orderly start after (trace ++ [⟨.compareAndSwapRecord expected next, .ok done⟩]) where
  coherent := by
    rw [now, current, history_append]
    simp [published]
  sorted := by
    have plain : [(⟨.compareAndSwapRecord expected next, .ok done⟩ : Entry)].filterMap rank = [] := rfl
    rw [filterMap_append, plain, append_nil]
    exact orderly.sorted
  bounded place member := by
    rw [filterMap_append] at member
    obtain ⟨record, present, below⟩ := orderly.bounded place (by simpa [rank] using member)
    exact ⟨next, now, Nat.le_trans below (progress_mono (follows record present))⟩
  backed record present := by
    rw [now, mem_some_iff] at present
    rw [← present]
    exact backed.mono (subset_append_left _ _)
  kept record member := by
    refine ⟨next, now, ?_⟩
    rw [history_append, mem_append] at member
    obtain member | member := member
    · obtain ⟨last, present, since, active⟩ := orderly.kept record member
      refine ⟨since.trans (follows last present), fun was => ?_⟩
      obtain state | state := lawful last present
      · exact absurd (state.symm.trans (active was)) (by decide)
      · exact absurd (state.symm.trans (active was)) (by decide)
    · obtain rfl : record = next := by simpa [published] using member
      exact ⟨.refl record, id⟩
  allowed := by
    refine forall_split_append orderly.allowed ⟨?_, by simp [rank], fun _ _ _ record present => ?_⟩
    · intro found same
      obtain rfl : next = found := by simpa [published] using same
      exact backed
    · rw [← orderly.coherent] at present
      exact lawful record present

end Steps

section Safety

variable {start : Option InstallRecord} {world : World} {trace : List Entry} {record : InstallRecord}

/-- Requests that are neither effects nor about the record. -/
def Request.quiet : Request → Bool
  | .acquireSetupGuard | .nowUs | .initialRecord | .verifyActive _ | .verifyRetained _ | .verifyInstallingPrefix _ => true
  | _ => false

theorem holds_quiet (quiet : request.quiet = true)
    {post : Except InstallControlError (Payload request) → World → List Entry → Prop}
    (orderly : Orderly start world trace)
    (next : ∀ reply after, after.record = world.record → Orderly start after (trace ++ [⟨request, reply⟩]) →
      post reply after (trace ++ [⟨request, reply⟩])) :
    Program.Holds Answered (Orderly start) post (perform request) world trace := by
  rw [holds_perform]
  refine ⟨orderly, fun reply after answered => ?_⟩
  have same : after.record = world.record := by cases request <;> first | exact answered | contradiction
  have silent : published ⟨request, reply⟩ = none := by cases request <;> first | rfl | contradiction
  have plain : rank ⟨request, reply⟩ = none := by cases request <;> first | rfl | contradiction
  have other : ∀ expected next, request ≠ .compareAndSwapRecord expected next := by
    rintro expected next rfl
    contradiction
  have later := orderly.quiet same silent plain other
  exact ⟨later, next reply after same later⟩

theorem holds_effect (place : ∀ reply, rank ⟨request, reply⟩ = some (progress record))
    {post : Except InstallControlError (Payload request) → World → List Entry → Prop}
    (orderly : Orderly start world trace) (present : world.record = some record) (state : record.state = .installing)
    (next : ∀ reply after, after.record = some record → Orderly start after (trace ++ [⟨request, reply⟩]) →
      post reply after (trace ++ [⟨request, reply⟩])) :
    Program.Holds Answered (Orderly start) post (perform request) world trace := by
  rw [holds_perform]
  refine ⟨orderly, fun reply after answered => ?_⟩
  have ranked := place reply
  have same : after.record = world.record := by cases request <;> first | exact answered | contradiction
  have silent : published ⟨request, reply⟩ = none := by cases request <;> first | rfl | contradiction
  have other : ∀ expected next, request ≠ .compareAndSwapRecord expected next := by
    rintro expected next rfl
    contradiction
  have later := orderly.effect same present state silent ranked other
  exact ⟨later, next reply after (same.trans present) later⟩

/-- A swap of a record that is backed whenever the store accepts it. -/
theorem holds_persist (orderly : Orderly start world trace)
    (lawful : ∀ record ∈ world.record, record.state = .installing ∨ record.state = .retained)
    (accepted : swapChecks world.record expected next = .ok next.toVec →
      Backed start trace next ∧ ∀ record ∈ world.record, InstallRecord.Extends record next)
    {post : Except InstallControlError Unit → World → List Entry → Prop}
    (ends : ∀ result after trace, Orderly start after trace → post result after trace) :
    Program.Holds Answered (Orderly start) post (persistGuarded expected next) world trace := by
  rw [persistGuarded, holds_bind, holds_attempt]
  refine ⟨orderly, fun reply after answered => ?_⟩
  obtain ⟨done, rfl, passed, now⟩ | ⟨⟨error, rfl⟩, same⟩ := answered
  · obtain ⟨backed, follows⟩ := accepted passed
    have later := @Orderly.publish start world after trace orderly expected next done now lawful follows backed
    exact ⟨later, later, ends _ _ _ later⟩
  · have later := @Orderly.refused start world after trace orderly same expected next error lawful
    refine ⟨later, ?_⟩
    cases error <;> exact ⟨later, ends _ _ _ later⟩

/-- The checkpoint holds what an effect returned. -/
inductive Returned (trace : List Entry) : InstallCheckpoint → Prop where
  | key {asked : InstallRecord} {key : ProtectedKeyArtifact} (member : ⟨.ensureKey asked, .ok key⟩ ∈ trace) :
      Returned trace ⟨none, none, none, some key, none, none⟩
  | runtime {asked : InstallRecord} {runtime : RuntimeArtifact} (member : ⟨.ensureRuntime asked, .ok runtime⟩ ∈ trace) :
      Returned trace ⟨none, none, none, none, some runtime, none⟩
  | data {asked : InstallRecord} {path : RelativeWindowsPath} {version : UInt32}
      (member : ⟨.ensureData asked, .ok (path, version)⟩ ∈ trace) :
      Returned trace ⟨none, some path, some version, none, none, none⟩
  | task {asked : InstallRecord} {task : ScheduledTaskEvidence} (member : ⟨.ensureTask asked, .ok task⟩ ∈ trace) :
      Returned trace ⟨none, none, none, none, none, some task⟩

theorem Returned.mono (returned : Returned trace checkpoint) (included : trace ⊆ more) : Returned more checkpoint := by
  cases returned with
  | key member => exact .key (included member)
  | runtime member => exact .runtime (included member)
  | data member => exact .data (included member)
  | task member => exact .task (included member)

theorem backed_of_returned {grown : InstallRecord} (backed : Backed start trace record)
    (returned : Returned trace checkpoint) (found : record.withEvidence checkpoint = some grown) :
    Backed start trace grown := by
  cases returned with
  | @key asked key member =>
    obtain ⟨_, rfl⟩ : record.protectedKey.isNone = true ∧ _ := by simpa [withEvidence] using found
    exact { backed with key := fun other present => .inr ⟨asked, by rwa [← some.inj present]⟩ }
  | @runtime asked runtime member =>
    obtain ⟨_, rfl⟩ : _ ∧ _ := by simpa [withEvidence] using found
    exact { backed with runtime := fun other present => .inr ⟨asked, by rwa [← some.inj present]⟩ }
  | @data asked path version member =>
    obtain ⟨_, rfl⟩ : _ ∧ _ := by simpa [withEvidence] using found
    exact
      { backed with
        data := fun other present number known =>
          .inr ⟨asked, by rwa [← some.inj present, ← some.inj known]⟩ }
  | @task asked task member =>
    obtain ⟨_, rfl⟩ : _ ∧ _ := by simpa [withEvidence] using found
    exact { backed with task := fun other present => .inr ⟨asked, by rwa [← some.inj present]⟩ }

/-- What the search for the next checkpoint ends with. -/
def Found (start : Option InstallRecord) (record : InstallRecord)
    (result : Except InstallControlError (Option InstallCheckpoint)) (after : World) (trace : List Entry) : Prop :=
  after.record = some record ∧ Orderly start after trace ∧
    (∀ checkpoint, result = .ok (some checkpoint) → Returned trace checkpoint) ∧
      (result = .ok none → progress record = 4)

theorem holds_checkpoint (place : ∀ reply, rank ⟨request, reply⟩ = some (progress record))
    {fill : Payload request → InstallCheckpoint}
    (returned : ∀ trace value, ⟨request, .ok value⟩ ∈ trace → Returned trace (fill value))
    (orderly : Orderly start world trace) (present : world.record = some record) (state : record.state = .installing) :
    Program.Holds Answered (Orderly start) (Found start record)
      (perform request >>= fun value => pure (some (fill value))) world trace := by
  refine holds_bind.mpr (holds_effect place orderly present state fun reply after here later => ?_)
  cases reply with
  | error error => exact ⟨here, later, by simp, by simp⟩
  | ok value =>
    refine ⟨later, here, later, fun checkpoint same => ?_, by simp⟩
    obtain rfl := some.inj (Except.ok.inj same)
    exact returned _ value (mem_append_right _ mem_cons_self)

theorem holds_nextCheckpoint (orderly : Orderly start world trace) (present : world.record = some record)
    (state : record.state = .installing) :
    Program.Holds Answered (Orderly start) (Found start record) (nextCheckpoint record) world trace := by
  unfold nextCheckpoint
  split_ifs with key runtime data task
  · exact holds_checkpoint (fun reply => by simp [rank, progress, key]) (fun _ _ => .key) orderly present state
  · exact holds_checkpoint (fun reply => by simp [rank, progress, key, runtime]) (fun _ _ => .runtime) orderly present
      state
  · exact holds_checkpoint (fun reply => by simp [rank, progress, key, runtime, data]) (fun _ _ => .data) orderly present
      state
  · exact holds_checkpoint (fun reply => by simp [rank, progress, key, runtime, data, task]) (fun _ _ => .task) orderly
      present state
  · exact ⟨orderly, present, orderly, by simp, fun _ => by simp [progress, key, runtime, data, task]⟩

/-- What a step of the setup ends with: the record is as it was, and the next one is backed. -/
def Stepped (start : Option InstallRecord) (record : InstallRecord) (result : Except InstallControlError InstallRecord)
    (after : World) (trace : List Entry) : Prop :=
  after.record = some record ∧ Orderly start after trace ∧ ∀ next, result = .ok next → Backed start trace next

theorem holds_ofRecord {made : Except InstallRecordError InstallRecord} (orderly : Orderly start world trace)
    (present : world.record = some record) (backed : ∀ next, made = .ok next → Backed start trace next) :
    Program.Holds Answered (Orderly start) (Stepped start record) (ofRecord made) world trace := by
  cases made with
  | error error => exact ⟨orderly, present, orderly, by simp⟩
  | ok next => exact ⟨orderly, present, orderly, fun other same => backed other (by rw [Except.ok.inj same])⟩

theorem holds_checkedNow {answers : Program.Answers InstallControlError Request Payload World}
    {invariant : World → List Entry → Prop} {post : Except InstallControlError Int64 → World → List Entry → Prop}
    {now : Int64} : Program.Holds answers invariant post (checkedNow record now) world trace ↔ invariant world trace ∧
      (0 ≤ now ∧ record.updatedAtUs ≤ now → post (.ok now) world trace) ∧
      (¬(0 ≤ now ∧ record.updatedAtUs ≤ now) → post (.error .invalidClock) world trace) := by
  rw [checkedNow, holds_bind, holds_check]
  exact ⟨fun ⟨here, passes, fails⟩ => ⟨here, fun timely => (passes timely).2, fails⟩,
    fun ⟨here, passes, fails⟩ => ⟨here, fun timely => ⟨here, passes timely⟩, fails⟩⟩

theorem holds_timed {make : Int64 → Except InstallRecordError InstallRecord} (orderly : Orderly start world trace)
    (present : world.record = some record)
    (backed : ∀ more now next, trace ⊆ more → make now = .ok next → Backed start more next) :
    Program.Holds Answered (Orderly start) (Stepped start record)
      (perform .nowUs >>= fun now : Int64 => checkedNow record now >>= fun now => ofRecord (make now)) world trace := by
  refine holds_bind.mpr (holds_quiet rfl orderly fun reply after same later => ?_)
  have here := same.trans present
  cases reply with
  | error error => exact ⟨here, later, by simp⟩
  | ok now =>
    refine holds_bind.mpr (holds_checkedNow.mpr ⟨later, fun _ => ?_, fun _ => ⟨here, later, by simp⟩⟩)
    exact holds_ofRecord later here fun next made => backed _ now next (subset_append_left _ _) made

section

variable (orderly : Orderly start world trace) (present : world.record = some record)

include orderly present

theorem holds_installingStep (state : record.state = .installing) :
    Program.Holds Answered (Orderly start) (Stepped start record) (installingStep record) world trace := by
  refine holds_bind.mpr (holds_quiet rfl orderly fun reply after same later => ?_)
  have here := same.trans present
  cases reply with
  | error error => exact ⟨here, later, by simp⟩
  | ok verified =>
    refine holds_bind.mpr ((holds_nextCheckpoint later here state).imp fun result after trace found => ?_)
    obtain ⟨here, later, returned, complete⟩ := found
    have backed := later.backed record here
    match result with
    | .error error => exact ⟨here, later, by simp⟩
    | .ok (some checkpoint) =>
      refine holds_timed later here fun more now next included made => ?_
      obtain ⟨_, _, _, ⟨grown, grew, rfl⟩, _⟩ := checkpoint_eq_ok.mp made
      have grown_backed := backed_of_returned (backed.mono included) ((returned checkpoint rfl).mono included) grew
      exact { grown_backed with }
    | .ok none =>
      have place : progress record = 4 := complete rfl
      refine holds_bind.mpr (holds_effect (fun reply => by simp [rank, place]) later here state
        fun reply after here later => ?_)
      cases reply with
      | error error => exact ⟨here, later, by simp⟩
      | ok done =>
        refine holds_timed later here fun more now next included made => ?_
        obtain ⟨_, _, _, rfl, _⟩ := transition_eq_ok.mp made
        have kept := (backed.mono (subset_append_left _ _)).mono included
        exact
          { kept with
            complete := fun _ => .inr ⟨record, included (mem_append_right _ mem_cons_self)⟩ }

theorem holds_retainedStep :
    Program.Holds Answered (Orderly start) (Stepped start record) (retainedStep record) world trace := by
  refine holds_bind.mpr (holds_quiet rfl orderly fun reply after same later => ?_)
  have here := same.trans present
  cases reply with
  | error error => exact ⟨here, later, by simp⟩
  | ok verified =>
    refine holds_timed later here fun more now next included made => ?_
    obtain ⟨_, _, _, rfl, _⟩ := transition_eq_ok.mp made
    have kept := (later.backed record here).mono included
    exact { kept with complete := nofun }

end

theorem holds_published {step : Program InstallRecord} {next : Program InstallRecord}
    (valid : record.validate = .ok ()) (lawful : record.state = .installing ∨ record.state = .retained)
    (stepped : Program.Holds Answered (Orderly start) (Stepped start record) step world trace)
    (continues : ∀ world trace, Orderly start world trace →
      Program.Holds Answered (Orderly start) (fun _ _ _ => True) next world trace) :
    Program.Holds Answered (Orderly start) (fun _ _ _ => True)
      (step >>= fun made => persistGuarded record.revision made >>= fun _ => next) world trace := by
  refine holds_bind.mpr (stepped.imp fun result after trace ended => ?_)
  cases result with
  | error error => trivial
  | ok made =>
    obtain ⟨here, orderly, backed⟩ := ended
    have only : ∀ other ∈ after.record, other = record := by
      intro other present
      rw [here, mem_some_iff] at present
      exact present.symm
    refine holds_bind.mpr (holds_persist orderly (fun other present => only other present ▸ lawful) ?_ ?_)
    · intro passed
      rw [here, swapChecks_eq_ok (by simpa using valid)] at passed
      obtain ⟨_, ⟨_, derives⟩, _⟩ := passed
      exact ⟨backed made rfl, fun other present => only other present ▸ derives.follows.toExtends⟩
    · intro result after trace later
      cases result with
      | error error => trivial
      | ok done => exact continues after trace later

theorem holds_first (steps : Nat) (orderly : Orderly start world trace) (absent : world.record = none)
    (continues : ∀ world trace, Orderly start world trace →
      Program.Holds Answered (Orderly start) (fun _ _ _ => True) (convergeSetupGuarded steps) world trace) :
    Program.Holds Answered (Orderly start) (fun _ _ _ => True)
      (perform .initialRecord >>= fun initial : InstallRecord =>
        persistGuarded 0 initial >>= fun _ => convergeSetupGuarded steps) world trace := by
  refine holds_bind.mpr (holds_quiet rfl orderly fun reply after same later => ?_)
  have here := same.trans absent
  cases reply with
  | error error => trivial
  | ok initial =>
    refine holds_bind.mpr (holds_persist later (by simp [here]) ?_ ?_)
    · intro passed
      rw [here, swapChecks_eq_ok (by simp)] at passed
      obtain ⟨_, ⟨_, first⟩, _⟩ := passed
      obtain ⟨_, state, _, _, _, data, _, key, runtime, task⟩ := validateInitial_eq_ok.mp first
      exact ⟨⟨by simp [key], by simp [runtime], by simp [data], by simp [task], by simp [state]⟩, by simp [here]⟩
    · intro result after trace later
      cases result with
      | error error => trivial
      | ok done => exact continues after trace later

theorem holds_turn (steps : Nat) (orderly : Orderly start world trace) (present : world.record = some record)
    (continues : ∀ world trace, Orderly start world trace →
      Program.Holds Answered (Orderly start) (fun _ _ _ => True) (convergeSetupGuarded steps) world trace) :
    Program.Holds Answered (Orderly start) (fun _ _ _ => True) (turn (convergeSetupGuarded steps) record) world trace := by
  refine holds_bind.mpr (holds_check.mpr ⟨orderly, fun valid => ?_, fun _ => trivial⟩)
  refine holds_bind.mpr (holds_quiet rfl orderly fun reply after same later => ?_)
  have here := same.trans present
  cases reply with
  | error error => trivial
  | ok now =>
    refine holds_bind.mpr (holds_checkedNow.mpr ⟨later, fun _ => ?_, fun _ => trivial⟩)
    dsimp only
    cases state : record.state with
    | active =>
      refine holds_bind.mpr (holds_quiet rfl later fun reply after same final => ?_)
      cases reply with
      | error error => trivial
      | ok verified => exact ⟨final, trivial⟩
    | removing | purging | broken => exact ⟨later, trivial⟩
    | retained => exact holds_published valid (.inr state) (holds_retainedStep later here) continues
    | installing => exact holds_published valid (.inl state) (holds_installingStep later here state) continues

theorem holds_convergeSetupGuarded (steps : Nat) : ∀ world trace, Orderly start world trace →
    Program.Holds Answered (Orderly start) (fun _ _ _ => True) (convergeSetupGuarded steps) world trace := by
  induction steps with
  | zero => exact fun world trace orderly => ⟨orderly, trivial⟩
  | succ steps ih =>
    intro world trace orderly
    refine holds_bind.mpr (holds_perform.mpr ⟨orderly, fun reply after answered => ?_⟩)
    obtain ⟨found, same⟩ := answered
    have later : Orderly start after (trace ++ [⟨.loadRecord, reply⟩]) := orderly.quiet same rfl rfl (fun _ _ => nofun)
    refine ⟨later, ?_⟩
    cases reply with
    | error error => trivial
    | ok loaded =>
      have here : after.record = loaded := same.trans (found loaded rfl).symm
      cases loaded with
      | none => exact holds_first steps later here ih
      | some record => exact holds_turn steps later here ih

theorem holds_convergeSetup (orderly : Orderly start world trace) :
    Program.Holds Answered (Orderly start) (fun _ _ _ => True) convergeSetup world trace := by
  refine holds_bind.mpr (holds_quiet rfl orderly fun reply after _ later => ?_)
  cases reply with
  | error error => trivial
  | ok locked => exact holds_convergeSetupGuarded _ _ _ later

end Safety

end AgentMesh.Install.Setup
