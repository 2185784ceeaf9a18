import AgentMesh.Install.Convergence
import AgentMesh.Install.Paths

/-! The convergence of the setup on a platform whose effects succeed. Each publication leaves one step less to make, so
a start that is not cut short ends with an ACTIVE record. -/
namespace AgentMesh.Install.Setup
open Library InstallRecord Program Option

variable {next : InstallRecord} {clock : Int64} {rest : Program InstallRecord} {request : Request}

section Evidence

variable (record : InstallRecord)

def ValidKey (key : ProtectedKeyArtifact) : Prop :=
  key.relativePath.value = record.installRoot ++ "\\secrets\\endpoint-key.dpapi"

def ValidRuntime (runtime : RuntimeArtifact) : Prop :=
  runtime.relativePath.value = record.installRoot ++ "\\bin\\" ++ runtime.sha256.value ++ "\\mesh-daemon.exe" ∧
    isVersion runtime.version = true

def ValidData (data : RelativeWindowsPath × UInt32) : Prop :=
  data.1.value = record.installRoot ++ "\\data" ∧ data.2 ≠ 0

end Evidence

/-- How the store answers, and a platform whose effects succeed and whose clock does not go back. -/
def Serves (world : World) : (request : Request) → Except InstallControlError (Payload request) → World → Prop
  | .acquireSetupGuard, reply, after | .verifyActive _, reply, after | .verifyRetained _, reply, after
  | .verifyInstallingPrefix _, reply, after | .completeInstalling _, reply, after => reply = .ok () ∧ after = world
  | .loadRecord, reply, after => reply = .ok world.record ∧ after = world
  | .compareAndSwapRecord expected next, reply, after =>
    match swapChecks world.record expected next with
    | .ok _ => reply = .ok () ∧ after = { world with record := some next }
    | .error error => reply = .error (mapStoreError error) ∧ after = world
  | .nowUs, reply, after => ∃ now, reply = .ok now ∧ world.clock ≤ now ∧ after = { world with clock := now }
  | .initialRecord, reply, after => ∃ initial : InstallRecord, reply = .ok initial ∧
      initial.validateInitial = .ok () ∧ world.clock ≤ initial.updatedAtUs ∧
        after = { world with clock := initial.updatedAtUs }
  | .ensureKey record, reply, after => ∃ key, reply = .ok key ∧ ValidKey record key ∧ after = world
  | .ensureRuntime record, reply, after => ∃ runtime, reply = .ok runtime ∧ ValidRuntime record runtime ∧ after = world
  | .ensureData record, reply, after => ∃ data, reply = .ok data ∧ ValidData record data ∧ after = world
  | .ensureTask _, reply, after => ∃ task, reply = .ok task ∧ after = world

theorem Serves.answered {world after : World} {reply : Except InstallControlError (Payload request)}
    (serves : Serves world request reply after) : Answered world request reply after := by
  cases request with
  | acquireSetupGuard | verifyActive _ | verifyRetained _ | verifyInstallingPrefix _ | completeInstalling _ =>
    obtain ⟨rfl, rfl⟩ := serves
    rfl
  | loadRecord =>
    obtain ⟨rfl, rfl⟩ := serves
    exact ⟨fun found same => (Except.ok.inj same).symm, rfl⟩
  | compareAndSwapRecord expected next =>
    simp only [Serves] at serves
    split at serves
    · rename_i bytes passed
      obtain ⟨rfl, rfl⟩ := serves
      obtain ⟨_, _, rfl⟩ := checkSwap_eq_ok.mp passed
      exact .inl ⟨(), rfl, passed, rfl⟩
    · obtain ⟨rfl, rfl⟩ := serves
      exact .inr ⟨⟨_, rfl⟩, rfl⟩
  | nowUs | ensureKey _ | ensureRuntime _ | ensureData _ =>
    obtain ⟨_, rfl, _, rfl⟩ := serves
    rfl
  | initialRecord =>
    obtain ⟨_, rfl, _, _, rfl⟩ := serves
    rfl
  | ensureTask _ =>
    obtain ⟨_, rfl, rfl⟩ := serves
    rfl

def remaining (record : InstallRecord) : Nat :=
  match record.state with
  | .installing => 5 - progress record
  | .retained => 2
  | _ => 0

/-- A record from which a setup can converge by the given time. -/
structure Startable (record : InstallRecord) (clock : Int64) : Prop where
  valid : record.validate = .ok ()
  state : record.state = .installing ∨ record.state = .retained ∨ record.state = .active
  timely : record.updatedAtUs ≤ clock
  room : record.revision.toNat + remaining record < 2 ^ 64

/-- A slot from which a setup can converge. -/
structure Ready (world : World) : Prop where
  clock : 0 ≤ world.clock
  startable : ∀ record ∈ world.record, Startable record world.clock

section Steps

variable {record grown : InstallRecord} {now : Int64}

/-- What a record keeps of its validity when it is published with a new revision and a new time. -/
theorem validate_advanced (format : grown.formatVersion = 1) (created : 0 ≤ grown.createdAtUs)
    (later : grown.createdAtUs ≤ now) {revision : UInt64} (room : revision.toNat + 1 < 2 ^ 64)
    (schema : grown.dataSchemaVersion ≠ some 0)
    (version : (grown.runtime.all fun runtime => isVersion runtime.version) = true)
    (paths : grown.evidencePathsMatch = true) (order : grown.evidenceInOrder = true)
    (complete : mustBeComplete grown.state = true → grown.isActiveComplete = true) :
    ({ grown with revision := revision + 1, updatedAtUs := now } : InstallRecord).validate = .ok () := by
  have positive : revision + 1 ≠ 0 := by
    intro zero
    have nat := toNat_succ room
    rw [zero] at nat
    exact absurd nat (Nat.succ_ne_zero _).symm
  exact validate_eq_ok.mpr ⟨format, ⟨positive, created, later⟩, schema, version, paths, order, complete⟩

theorem ensureCas_of_startable (startable : Startable record clock) (early : clock ≤ now) :
    record.ensureCas record.revision now = .ok () :=
  ensureCas_eq_ok.mpr ⟨startable.valid, rfl, Int64.le_trans startable.timely early⟩

theorem transition_of_startable {clock : Int64} (startable : Startable record clock) (early : clock ≤ now)
    {state : InstallState} (legal : isLegalTransition record.state state = true)
    (room : record.revision.toNat + 1 < 2 ^ 64) (complete : record.isActiveComplete = true) :
    record.transition record.revision state now =
      .ok { record with state, revision := record.revision + 1, updatedAtUs := now } := by
  obtain ⟨format, ⟨_, created, ordered⟩, schema, version, paths, order, _⟩ :=
    validate_eq_ok.mp startable.valid
  have late : record.createdAtUs ≤ now := Int64.le_trans ordered (Int64.le_trans startable.timely early)
  refine transition_eq_ok.mpr ⟨ensureCas_of_startable startable early, legal, room, rfl, ?_⟩
  exact @validate_advanced { record with state } now format created late record.revision room schema version paths order
    fun _ => complete

/-- A checkpoint that is the next one and whose evidence is valid for the record. -/
structure Fits (record : InstallRecord) (checkpoint : InstallCheckpoint) (grown : InstallRecord) : Prop where
  grew : record.withEvidence checkpoint = some grown
  format : grown.formatVersion = record.formatVersion
  created : grown.createdAtUs = record.createdAtUs
  state : grown.state = record.state
  schema : grown.dataSchemaVersion ≠ some 0
  version : (grown.runtime.all fun runtime => isVersion runtime.version) = true
  paths : grown.evidencePathsMatch = true
  order : grown.evidenceInOrder = true
  progress : progress grown = progress record + 1

theorem checkpoint_of_fits (startable : Startable record clock) (early : clock ≤ now)
    (installing : record.state = .installing) (room : record.revision.toNat + 1 < 2 ^ 64)
    {checkpoint : InstallCheckpoint} (fits : Fits record checkpoint grown) :
    record.checkpoint record.revision checkpoint now =
      .ok { grown with revision := record.revision + 1, updatedAtUs := now } := by
  obtain ⟨format, ⟨_, created, ordered⟩, _⟩ := validate_eq_ok.mp startable.valid
  have late : grown.createdAtUs ≤ now := by
    rw [fits.created]
    exact Int64.le_trans ordered (Int64.le_trans startable.timely early)
  refine checkpoint_eq_ok.mpr ⟨ensureCas_of_startable startable early, installing, room, ⟨grown, fits.grew, rfl⟩, ?_⟩
  refine validate_advanced (fits.format.trans format) (fits.created ▸ created) late room fits.schema fits.version
    fits.paths fits.order fun must => ?_
  rw [fits.state, installing] at must
  contradiction

theorem order_iff : record.evidenceInOrder = true ↔ record.productRelativePath.isSome = true ∧
    record.dataRelativePath.isSome = record.dataSchemaVersion.isSome ∧
    (record.runtime.isSome = true → record.protectedKey.isSome = true) ∧
    (record.dataRelativePath.isSome = true → record.runtime.isSome = true) ∧
    (record.scheduledTask.isSome = true → record.dataRelativePath.isSome = true) := by
  unfold evidenceInOrder
  cases record.productRelativePath <;> cases record.dataRelativePath <;> cases record.dataSchemaVersion <;>
    cases record.protectedKey <;> cases record.runtime <;> cases record.scheduledTask <;> simp

theorem fits_key (valid : record.validate = .ok ()) (key : record.protectedKey = none)
    {artifact : ProtectedKeyArtifact} (evidence : ValidKey record artifact) :
    Fits record ⟨none, none, none, some artifact, none, none⟩ { record with protectedKey := some artifact } := by
  obtain ⟨_, _, schema, version, paths, order, _⟩ := validate_eq_ok.mp valid
  rw [order_iff] at order
  have runtime : record.runtime = none := by simpa [key] using order.2.2.1
  simp only [evidencePathsMatch, Bool.and_eq_true] at paths
  exact {
    grew := by simp [withEvidence, key]
    format := rfl
    created := rfl
    state := rfl
    schema, version
    paths := by
      simp only [evidencePathsMatch, Bool.and_eq_true]
      exact ⟨⟨paths.1.1, decide_eq_true evidence⟩, paths.2⟩
    order := order_iff.mpr ⟨order.1, order.2.1, fun _ => rfl, order.2.2.2⟩
    progress := by simp [progress, key, runtime] }

section

variable (valid : record.validate = .ok ()) (key : record.protectedKey.isSome = true)

include valid key

theorem fits_runtime (runtime : record.runtime = none) {artifact : RuntimeArtifact}
    (evidence : ValidRuntime record artifact) :
    Fits record ⟨none, none, none, none, some artifact, none⟩ { record with runtime := some artifact } := by
  obtain ⟨_, _, schema, version, paths, order, _⟩ := validate_eq_ok.mp valid
  rw [order_iff] at order
  have data : record.dataRelativePath = none := by simpa [runtime] using order.2.2.2.1
  simp only [evidencePathsMatch, Bool.and_eq_true] at paths
  exact {
    grew := by simp [withEvidence, key, runtime]
    format := rfl
    created := rfl
    state := rfl
    schema
    version := by simpa using evidence.2
    paths := by
      simp only [evidencePathsMatch, Bool.and_eq_true]
      exact ⟨paths.1, decide_eq_true evidence.1⟩
    order := order_iff.mpr ⟨order.1, order.2.1, fun _ => key, fun _ => rfl, order.2.2.2.2⟩
    progress := by
      rw [← not_isNone, Bool.not_eq_true'] at key
      simp [progress, key, runtime, data] }

theorem fits_data (runtime : record.runtime.isSome = true) (data : record.dataRelativePath = none)
    {path : RelativeWindowsPath} {number : UInt32} (evidence : ValidData record (path, number)) :
    Fits record ⟨none, some path, some number, none, none, none⟩
      { record with dataRelativePath := some path, dataSchemaVersion := some number } := by
  obtain ⟨_, _, schema, version, paths, order, _⟩ := validate_eq_ok.mp valid
  rw [order_iff] at order
  have absent : record.dataSchemaVersion = none := by simpa [data] using order.2.1.symm
  have task : record.scheduledTask = none := by simpa [data] using order.2.2.2.2
  simp only [evidencePathsMatch, Bool.and_eq_true] at paths
  exact {
    grew := by simp [withEvidence, runtime, data, absent]
    format := rfl
    created := rfl
    state := rfl
    schema := by simpa using evidence.2
    version
    paths := by
      simp only [evidencePathsMatch, Bool.and_eq_true]
      exact ⟨⟨⟨paths.1.1.1, decide_eq_true evidence.1⟩, paths.1.2⟩, paths.2⟩
    order := order_iff.mpr ⟨order.1, rfl, order.2.2.1, fun _ => runtime, fun _ => rfl⟩
    progress := by
      rw [← not_isNone, Bool.not_eq_true'] at key runtime
      simp [progress, key, runtime, data, task] }

theorem fits_task (runtime : record.runtime.isSome = true) (data : record.dataRelativePath.isSome = true)
    (task : record.scheduledTask = none) (evidence : ScheduledTaskEvidence) :
    Fits record ⟨none, none, none, none, none, some evidence⟩ { record with scheduledTask := some evidence } := by
  obtain ⟨_, _, schema, version, paths, order, _⟩ := validate_eq_ok.mp valid
  rw [order_iff] at order
  have number : record.dataSchemaVersion.isSome = true := order.2.1 ▸ data
  exact {
    grew := by simp [withEvidence, data, number, task]
    format := rfl
    created := rfl
    state := rfl
    schema, version, paths
    order := order_iff.mpr ⟨order.1, order.2.1, order.2.2.1, order.2.2.2.1, fun _ => data⟩
    progress := by
      rw [← not_isNone, Bool.not_eq_true'] at key runtime data
      simp [progress, key, runtime, data, task] }

end

end Steps

section Progress

variable {world : World} {trace : List Entry} {record : InstallRecord}

/-- The invariant of a start that is not disturbed. -/
abbrev ReadyAt (world : World) (_ : List Entry) : Prop := Ready world

theorem holds_served {post : Except InstallControlError (Payload request) → World → List Entry → Prop}
    (ready : Ready world)
    (served : ∀ reply after, Serves world request reply after →
      Ready after ∧ post reply after (trace ++ [⟨request, reply⟩])) :
    Program.Holds Serves ReadyAt post (perform request) world trace :=
  holds_perform.mpr ⟨ready, served⟩

theorem Ready.tick (ready : Ready world) {now : Int64} (later : world.clock ≤ now) :
    Ready { world with clock := now } where
  clock := Int64.le_trans ready.clock later
  startable record present :=
    have startable := ready.startable record present
    { startable with timely := Int64.le_trans startable.timely later }

/-- A step ends with a record that the store accepts and that leaves one step less. -/
def Advanced (record : InstallRecord) (result : Except InstallControlError InstallRecord) (after : World)
    (_ : List Entry) : Prop :=
  Ready after ∧ after.record = some record ∧ ∃ next, result = .ok next ∧ InstallRecord.Derives record next ∧
    Startable next after.clock ∧ remaining next + 1 = remaining record

theorem holds_timely {make : Int64 → Except InstallRecordError InstallRecord} (ready : Ready world)
    (present : world.record = some record)
    (made : ∀ now, world.clock ≤ now → ∃ next, make now = .ok next ∧ InstallRecord.Derives record next ∧
      Startable next now ∧ remaining next + 1 = remaining record) :
    Program.Holds Serves ReadyAt (Advanced record)
      (perform .nowUs >>= fun now : Int64 => checkedNow record now >>= fun now => ofRecord (make now)) world trace := by
  refine holds_bind.mpr (holds_served ready fun reply after served => ?_)
  obtain ⟨now, rfl, later, rfl⟩ := served
  have timely := (ready.startable record present).timely
  have on_time : 0 ≤ now ∧ record.updatedAtUs ≤ now :=
    ⟨Int64.le_trans ready.clock later, Int64.le_trans timely later⟩
  obtain ⟨next, done, derives, startable, fewer⟩ := made now later
  have ticked := ready.tick later
  refine ⟨ticked, holds_bind.mpr (holds_checkedNow.mpr ⟨ticked, fun _ => ?_, fun early => absurd on_time early⟩)⟩
  dsimp only
  rw [done]
  exact ⟨ticked, ticked, present, next, rfl, derives, startable, fewer⟩

theorem progress_of_complete (complete : record.isActiveComplete = true) : progress record = 4 := by
  simp only [isActiveComplete, Bool.and_eq_true] at complete
  simp [progress, ← not_isSome, complete]

theorem startable_of_derives {now : Int64} (startable : Startable record clock)
    (derives : InstallRecord.Derives record next) (updated : next.updatedAtUs = now)
    (state : next.state = .installing ∨ next.state = .active) (fewer : remaining next + 1 = remaining record) :
    Startable next now where
  valid := derives.valid
  state := state.imp_right .inr
  timely := updated ▸ Int64.le_refl _
  room := by
    have step := derives.follows.revision
    have room := startable.room
    omega

theorem holds_retained (ready : Ready world) (present : world.record = some record) (state : record.state = .retained) :
    Program.Holds Serves ReadyAt (Advanced record) (retainedStep record) world trace := by
  refine holds_bind.mpr (holds_served ready fun reply after served => ?_)
  obtain ⟨rfl, rfl⟩ := served
  refine ⟨ready, holds_timely ready present fun now later => ?_⟩
  have startable := ready.startable record present
  have complete : record.isActiveComplete = true :=
    (validate_eq_ok.mp startable.valid).2.2.2.2.2.2 (by rw [state]; rfl)
  have two : remaining record = 2 := by simp [remaining, state]
  have room := startable.room
  have made := @transition_of_startable record now _ startable later .installing (by rw [state]; rfl) (by omega) complete
  have derives : InstallRecord.Derives record _ := .inr ⟨_, _, _, made⟩
  have fewer : 5 - progress record + 1 = remaining record := by
    rw [two, progress_of_complete complete]
  exact ⟨_, made, derives, startable_of_derives startable derives rfl (.inl rfl) fewer, fewer⟩

/-- What the search for the next checkpoint ends with. -/
def Filled (record : InstallRecord) (result : Except InstallControlError (Option InstallCheckpoint)) (after : World)
    (_ : List Entry) : Prop :=
  Ready after ∧ after.record = some record ∧
    ((∃ checkpoint grown, result = .ok (some checkpoint) ∧ Fits record checkpoint grown) ∨
      result = .ok none ∧ record.isActiveComplete = true)

theorem holds_filled {fill : Payload request → InstallCheckpoint} (ready : Ready world)
    (present : world.record = some record)
    (fits : ∀ reply after, Serves world request reply after → after = world ∧ ∃ value grown, reply = .ok value ∧
      Fits record (fill value) grown) :
    Program.Holds Serves ReadyAt (Filled record) (perform request >>= fun value => pure (some (fill value))) world
      trace := by
  refine holds_bind.mpr (holds_served ready fun reply after served => ?_)
  obtain ⟨rfl, value, grown, rfl, fit⟩ := fits reply after served
  exact ⟨ready, ready, ready, present, .inl ⟨_, grown, rfl, fit⟩⟩

theorem holds_next (ready : Ready world) (present : world.record = some record) :
    Program.Holds Serves ReadyAt (Filled record) (nextCheckpoint record) world trace := by
  have valid := (ready.startable record present).valid
  have order := order_iff.mp (validate_eq_ok.mp valid).2.2.2.2.2.1
  unfold nextCheckpoint
  split_ifs with key runtime data task
  · refine holds_filled ready present fun reply after served => ?_
    obtain ⟨artifact, rfl, evidence, rfl⟩ := served
    exact ⟨rfl, artifact, _, rfl, fits_key valid (isNone_iff_eq_none.mp key) evidence⟩
  all_goals rw [Bool.not_eq_true, isNone_eq_false_iff] at key
  · refine holds_filled ready present fun reply after served => ?_
    obtain ⟨artifact, rfl, evidence, rfl⟩ := served
    exact ⟨rfl, artifact, _, rfl, fits_runtime valid key (isNone_iff_eq_none.mp runtime) evidence⟩
  all_goals rw [Bool.not_eq_true, isNone_eq_false_iff] at runtime
  · refine holds_filled ready present fun reply after served => ?_
    obtain ⟨found, rfl, evidence, rfl⟩ := served
    exact ⟨rfl, found, _, rfl, fits_data valid key runtime (isNone_iff_eq_none.mp data) evidence⟩
  all_goals rw [Bool.not_eq_true, isNone_eq_false_iff] at data
  · refine holds_filled ready present fun reply after served => ?_
    obtain ⟨evidence, rfl, rfl⟩ := served
    exact ⟨rfl, evidence, _, rfl, fits_task valid key runtime data (isNone_iff_eq_none.mp task) evidence⟩
  · rw [Bool.not_eq_true, isNone_eq_false_iff] at task
    refine ⟨ready, ready, present, .inr ⟨rfl, ?_⟩⟩
    simp [isActiveComplete, order.1, data, ← order.2.1, key, runtime, task]

theorem holds_installing (ready : Ready world) (present : world.record = some record)
    (state : record.state = .installing) :
    Program.Holds Serves ReadyAt (Advanced record) (installingStep record) world trace := by
  refine holds_bind.mpr (holds_served ready fun reply after served => ?_)
  obtain ⟨rfl, rfl⟩ := served
  refine ⟨ready, holds_bind.mpr ((holds_next ready present).imp fun result after trace filled => ?_)⟩
  obtain ⟨ready, present, ⟨checkpoint, grown, rfl, fits⟩ | ⟨rfl, complete⟩⟩ := filled
  · refine holds_timely ready present fun now later => ?_
    have startable := ready.startable record present
    have room := startable.room
    have bound := progress_le_four grown
    have one := fits.progress
    have left : remaining record = 5 - progress record := by simp [remaining, state]
    have made := checkpoint_of_fits startable later state (by omega) fits
    have derives : InstallRecord.Derives record _ := .inl ⟨_, _, _, made⟩
    have installing : grown.state = .installing := fits.state.trans state
    have fewer : remaining { grown with revision := record.revision + 1, updatedAtUs := now } + 1 =
        remaining record := by
      have next : remaining { grown with revision := record.revision + 1, updatedAtUs := now } = 5 - progress grown := by
        simp [remaining, installing, progress]
      omega
    exact ⟨_, made, derives, startable_of_derives startable derives rfl (.inl installing) fewer, fewer⟩
  · refine holds_bind.mpr (holds_served ready fun reply after served => ?_)
    obtain ⟨rfl, rfl⟩ := served
    refine ⟨ready, holds_timely ready present fun now later => ?_⟩
    have startable := ready.startable record present
    have room := startable.room
    have one : remaining record = 1 := by simp [remaining, state, progress_of_complete complete]
    have made := @transition_of_startable record now _ startable later .active (by rw [state]; rfl) (by omega) complete
    have derives : InstallRecord.Derives record _ := .inr ⟨_, _, _, made⟩
    exact ⟨_, made, derives, startable_of_derives startable derives rfl (.inr rfl) one.symm, one.symm⟩

def turns : Option InstallRecord → Nat
  | none => 7
  | some record => remaining record + 1

/-- The setup has returned the ACTIVE record that is published. -/
def Activated (result : Except InstallControlError InstallRecord) (after : World) (_ : List Entry) : Prop :=
  ∃ record, result = .ok record ∧ record.state = .active ∧ after.record = some record

theorem holds_persisted {expected : UInt64} (ready : Ready world)
    (passes : swapChecks world.record expected next = .ok next.toVec) (startable : Startable next world.clock)
    (continues : ∀ trace, Program.Holds Serves ReadyAt Activated rest { world with record := some next } trace) :
    Program.Holds Serves ReadyAt Activated (persistGuarded expected next >>= fun _ => rest) world trace := by
  rw [persistGuarded, holds_bind, holds_bind, holds_attempt]
  refine ⟨ready, fun reply after served => ?_⟩
  simp only [Serves, passes] at served
  obtain ⟨rfl, rfl⟩ := served
  have later : Ready { world with record := some next } :=
    ⟨ready.clock, fun record present => some.inj present ▸ startable⟩
  exact ⟨later, later, continues _⟩

theorem startable_first {initial : InstallRecord} (first : initial.validateInitial = .ok ()) :
    Startable initial initial.updatedAtUs ∧ remaining initial = 5 := by
  obtain ⟨valid, state, revision, _, _, _, _, key, _⟩ := validateInitial_eq_ok.mp first
  have five : remaining initial = 5 := by simp [remaining, state, progress, key]
  refine ⟨⟨valid, .inl state, Int64.le_refl _, ?_⟩, five⟩
  rw [revision, five]
  decide

theorem holds_advanced {step : Program InstallRecord}
    (stepped : Program.Holds Serves ReadyAt (Advanced record) step world trace)
    (continues : ∀ world trace next, Ready world → world.record = some next → remaining next + 1 = remaining record →
      Program.Holds Serves ReadyAt Activated rest world trace) :
    Program.Holds Serves ReadyAt Activated
      (step >>= fun made => persistGuarded record.revision made >>= fun _ => rest) world trace := by
  refine holds_bind.mpr (stepped.imp fun result after trace advanced => ?_)
  obtain ⟨ready, present, next, rfl, derives, startable, fewer⟩ := advanced
  have valid := (ready.startable record present).valid
  have passes : swapChecks after.record record.revision next = .ok next.toVec := by
    rw [present]
    exact (swapChecks_eq_ok (by simpa using valid)).mpr ⟨derives.valid, ⟨rfl, derives⟩, rfl⟩
  refine holds_persisted ready passes startable fun trace => ?_
  exact continues _ trace next ⟨ready.clock, fun other here => some.inj here ▸ startable⟩ rfl fewer

theorem holds_turns (steps : Nat) (ready : Ready world) (present : world.record = some record)
    (enough : turns (some record) ≤ steps + 1)
    (continues : ∀ world trace, Ready world → turns world.record ≤ steps →
      Program.Holds Serves ReadyAt Activated (convergeSetupGuarded steps) world trace) :
    Program.Holds Serves ReadyAt Activated (turn (convergeSetupGuarded steps) record) world trace := by
  have startable := ready.startable record present
  have valid := startable.valid
  refine holds_bind.mpr (holds_check.mpr ⟨ready, fun _ => ?_, fun wrong => absurd valid wrong⟩)
  refine holds_bind.mpr (holds_served ready fun reply after served => ?_)
  obtain ⟨now, rfl, later, rfl⟩ := served
  have on_time : 0 ≤ now ∧ record.updatedAtUs ≤ now :=
    ⟨Int64.le_trans ready.clock later, Int64.le_trans startable.timely later⟩
  have ticked := ready.tick later
  refine ⟨ticked, holds_bind.mpr (holds_checkedNow.mpr ⟨ticked, fun _ => ?_, fun early => absurd on_time early⟩)⟩
  have fewer : ∀ world trace next, Ready world → world.record = some next → remaining next + 1 = remaining record →
      Program.Holds Serves ReadyAt Activated (convergeSetupGuarded steps) world trace := by
    intro world trace next ready here less
    refine continues world trace ready ?_
    rw [here]
    simp only [turns] at enough ⊢
    omega
  dsimp only
  obtain state | state | state := startable.state
  · rw [state]
    exact holds_advanced (holds_installing ticked present state) fewer
  · rw [state]
    exact holds_advanced (holds_retained ticked present state) fewer
  · rw [state]
    refine holds_bind.mpr (holds_served ticked fun reply after served => ?_)
    obtain ⟨rfl, rfl⟩ := served
    exact ⟨ticked, ticked, record, rfl, state, present⟩

theorem holds_converges (steps : Nat) : ∀ world trace, Ready world → turns world.record ≤ steps →
    Program.Holds Serves ReadyAt Activated (convergeSetupGuarded steps) world trace := by
  induction steps with
  | zero =>
    intro world trace _ enough
    unfold turns at enough
    split at enough <;> omega
  | succ steps ih =>
    intro world trace ready enough
    refine holds_bind.mpr (holds_served ready fun reply after served => ?_)
    obtain ⟨rfl, rfl⟩ := served
    refine ⟨ready, ?_⟩
    cases present : after.record with
    | none =>
      refine holds_bind.mpr (holds_served ready fun reply later served => ?_)
      obtain ⟨initial, rfl, first, time, rfl⟩ := served
      have ticked := ready.tick time
      obtain ⟨startable, five⟩ := startable_first first
      have passes : swapChecks after.record 0 initial = .ok initial.toVec := by
        rw [present]
        exact (swapChecks_eq_ok (by simp)).mpr ⟨startable.valid, ⟨rfl, first⟩, rfl⟩
      refine ⟨ticked, holds_persisted ticked passes startable fun trace => ?_⟩
      refine ih _ trace ⟨ticked.clock, fun other here => some.inj here ▸ startable⟩ ?_
      rw [present, turns] at enough
      simp only [turns, five]
      omega
    | some record => exact holds_turns steps ready present (by rwa [present] at enough) ih

theorem holds_activated (ready : Ready world) : Program.Holds Serves ReadyAt Activated convergeSetup world trace := by
  refine holds_bind.mpr (holds_served ready fun reply after served => ?_)
  obtain ⟨rfl, rfl⟩ := served
  refine ⟨ready, holds_converges maxConvergenceSteps _ _ ready ?_⟩
  have seven : turns after.record ≤ 7 := by
    cases after.record with
    | none => exact Nat.le_refl 7
    | some record =>
      simp only [turns, remaining]
      split <;> omega
  have bound : 7 ≤ maxConvergenceSteps := by decide
  omega

end Progress

section Totality

def firstRecordAt (now : Int64) : InstallRecord := { firstRecord with createdAtUs := now, updatedAtUs := now }

theorem validateInitial_firstRecordAt {now : Int64} (late : 0 ≤ now) : (firstRecordAt now).validateInitial = .ok () := by
  obtain ⟨valid, rest⟩ := validateInitial_eq_ok.mp firstRecord_initial
  obtain ⟨format, ⟨revision, _, _⟩, evidence⟩ := validate_eq_ok.mp valid
  refine validateInitial_eq_ok.mpr ⟨validate_eq_ok.mpr ?_, rest.1, rest.2.1, rfl, rest.2.2.2⟩
  exact ⟨format, ⟨revision, late, Int64.le_refl now⟩, evidence⟩

theorem Serves.total (world : World) (request : Request) : ∃ reply after, Serves world request reply after := by
  cases request with
  | acquireSetupGuard | verifyActive _ | verifyRetained _ | verifyInstallingPrefix _ | completeInstalling _ =>
    exact ⟨.ok (), world, rfl, rfl⟩
  | loadRecord => exact ⟨.ok world.record, world, rfl, rfl⟩
  | compareAndSwapRecord expected next =>
    cases passed : swapChecks world.record expected next with
    | ok _ =>
      refine ⟨.ok (), { world with record := some next }, ?_⟩
      simp only [Serves, passed, and_self]
    | error error =>
      refine ⟨.error (mapStoreError error), world, ?_⟩
      simp only [Serves, passed, and_self]
  | nowUs => exact ⟨.ok world.clock, world, world.clock, rfl, Int64.le_refl _, rfl⟩
  | initialRecord =>
    by_cases late : 0 ≤ world.clock
    · exact ⟨_, _, firstRecordAt world.clock, rfl, validateInitial_firstRecordAt late, Int64.le_refl _, rfl⟩
    · have before : world.clock ≤ 0 := (Int64.le_total world.clock 0).resolve_right late
      exact ⟨_, _, firstRecordAt 0, rfl, validateInitial_firstRecordAt (Int64.le_refl 0), before, rfl⟩
  | ensureKey record => exact ⟨_, world, ⟨record.keyPath, sampleDigest⟩, rfl, rfl, rfl⟩
  | ensureRuntime record =>
    have version : isVersion sampleRuntime.version = true := by decide
    exact ⟨_, world, { sampleRuntime with relativePath := record.runtimePath sampleDigest }, rfl, ⟨rfl, version⟩, rfl⟩
  | ensureData record =>
    have positive : (1 : UInt32) ≠ 0 := by decide
    exact ⟨_, world, (record.dataPath, 1), rfl, ⟨rfl, positive⟩, rfl⟩
  | ensureTask record => exact ⟨_, world, sampleTask, rfl, rfl⟩

end Totality

/-- Over any number of starts that are cut short anywhere, and whatever the platform does, the effects of a setup are made
in their order, none after its evidence was published, evidence is published only after its effect returned it, and
nothing is published from a REMOVING, PURGING or BROKEN record. On a platform whose effects succeed, a start that is not
cut short ends, and it ends with the ACTIVE record. -/
theorem setup_converges (start : Option InstallRecord) (clock : Int64) :
    (∀ trace world, Program.Attempts Answered convergeSetup ⟨start, clock⟩ trace world →
      (trace.filterMap rank).Pairwise (· ≤ ·) ∧
        ∀ before entry after, trace = before ++ entry :: after → Allowed start before entry) ∧
      (Ready ⟨start, clock⟩ → ∀ trace world, Program.Attempts Serves convergeSetup ⟨start, clock⟩ trace world →
        (∃ more rest after, Program.Runs Serves convergeSetup world more rest after ∧ rest.result.isSome) ∧
          ∀ more rest after result, Program.Runs Serves convergeSetup world more rest after →
            rest.result = some result → Activated result after (trace ++ more)) := by
  constructor
  · intro trace world attempts
    have orderly : Orderly start world trace :=
      attempts.keeps (fun world trace => holds_convergeSetup) (Orderly.initial start clock)
    exact ⟨orderly.sorted, orderly.allowed⟩
  · intro ready trace world attempts
    have ready : Ready world :=
      @Program.Attempts.keeps _ _ _ _ _ _ ReadyAt _ _ _ [] _ attempts
        (fun world trace ready => (holds_activated ready).imp fun _ _ _ _ => trivial) ready
    refine ⟨exists_run Serves.total convergeSetup world, fun more rest after result runs ended => ?_⟩
    exact (holds_activated ready).result runs ended

def retainedRecord : InstallRecord := { completeRecord with state := .retained, revision := 8, updatedAtUs := 17 }

theorem ready_retainedRecord : Ready ⟨some retainedRecord, 20⟩ where
  clock := by decide
  startable record present := by
    obtain rfl := some.inj present
    exact ⟨by decide +kernel, .inr (.inl rfl), by decide, by decide⟩

theorem setup_converges_retainedRecord :
    ∃ trace rest after record, Program.Runs Serves convergeSetup ⟨some retainedRecord, 20⟩ trace rest after ∧
      rest.result = some (.ok record) ∧ record.state = .active := by
  obtain ⟨⟨trace, rest, after, runs, ended⟩, active⟩ :=
    (setup_converges (some retainedRecord) 20).2 ready_retainedRecord [] _ (.none _)
  obtain ⟨result, ended⟩ := Option.isSome_iff_exists.mp ended
  obtain ⟨record, rfl, state, _⟩ := active trace rest after result runs ended
  exact ⟨trace, rest, after, record, runs, ended, state⟩

/-- A record that shows all evidence and whose revision is the last one. -/
def exhaustedRecord : InstallRecord := { completeRecord with revision := 18446744073709551615 }

theorem transition_exhaustedRecord (state : InstallState) (now : Int64) :
    ∃ error, exhaustedRecord.transition exhaustedRecord.revision state now = .error error := by
  cases made : exhaustedRecord.transition exhaustedRecord.revision state now with
  | error error => exact ⟨error, rfl⟩
  | ok next =>
    have room := (transition_eq_ok.mp made).2.2.1
    exact absurd room (by decide)

theorem holds_reply {world : World} {trace : List Entry}
    {post : Except InstallControlError (Payload request) → World → List Entry → Prop}
    (served : ∀ reply after, Serves world request reply after → post reply after (trace ++ [⟨request, reply⟩])) :
    Program.Holds Serves (fun _ _ => True) post (perform request) world trace :=
  holds_perform.mpr ⟨trivial, fun reply after answered => ⟨trivial, served reply after answered⟩⟩

theorem holds_exhaustedRecord (late : 20 ≤ clock) (trace : List Entry) :
    Program.Holds Serves (fun _ _ => True) (fun result _ _ => result = .error .drifted)
      (installingStep exhaustedRecord) ⟨some exhaustedRecord, clock⟩ trace := by
  refine holds_bind.mpr (holds_reply fun reply after served => ?_)
  obtain ⟨rfl, rfl⟩ := served
  have complete : nextCheckpoint exhaustedRecord = pure none := rfl
  rw [complete, holds_bind, holds_pure]
  refine ⟨trivial, holds_bind.mpr (holds_reply fun reply after served => ?_)⟩
  obtain ⟨rfl, rfl⟩ := served
  refine holds_bind.mpr (holds_reply fun reply after served => ?_)
  obtain ⟨now, rfl, later, rfl⟩ := served
  have early : (20 : Int64) ≤ now := Int64.le_trans late later
  have on_time : 0 ≤ now ∧ exhaustedRecord.updatedAtUs ≤ now :=
    ⟨Int64.le_trans (by decide) early, Int64.le_trans (by decide) early⟩
  obtain ⟨error, made⟩ := transition_exhaustedRecord .active now
  refine holds_bind.mpr (holds_checkedNow.mpr ⟨trivial, fun _ => ?_, fun wrong => absurd on_time wrong⟩)
  dsimp only
  rw [made]
  exact ⟨trivial, rfl⟩

/-- No record can be published after one whose revision is the last, so the setup fails on a platform whose effects
succeed. -/
theorem setup_exhausted :
    exhaustedRecord.validate = .ok () ∧ exhaustedRecord.state = .installing ∧ exhaustedRecord.updatedAtUs ≤ 20 ∧
      (∃ trace rest after, Program.Runs Serves convergeSetup ⟨some exhaustedRecord, 20⟩ trace rest after ∧
        rest.result.isSome) ∧
      ∀ trace rest after result, Program.Runs Serves convergeSetup ⟨some exhaustedRecord, 20⟩ trace rest after →
        rest.result = some result → result = .error .drifted := by
  have valid : exhaustedRecord.validate = .ok () := by decide +kernel
  refine ⟨valid, rfl, by decide, exists_run Serves.total convergeSetup _, ?_⟩
  intro trace rest after result runs ended
  have fails : Program.Holds Serves (fun _ _ => True) (fun result _ _ => result = .error .drifted) convergeSetup
      ⟨some exhaustedRecord, 20⟩ [] := by
    refine holds_bind.mpr (holds_reply fun reply after served => ?_)
    obtain ⟨rfl, rfl⟩ := served
    refine holds_bind.mpr (holds_reply fun reply after served => ?_)
    obtain ⟨rfl, rfl⟩ := served
    refine holds_bind.mpr (holds_check.mpr ⟨trivial, fun _ => ?_, fun wrong => absurd valid wrong⟩)
    refine holds_bind.mpr (holds_reply fun reply after served => ?_)
    obtain ⟨now, rfl, later, rfl⟩ := served
    have on_time : 0 ≤ now ∧ exhaustedRecord.updatedAtUs ≤ now :=
      ⟨Int64.le_trans (by decide) later, Int64.le_trans (by decide) later⟩
    refine holds_bind.mpr (holds_checkedNow.mpr ⟨trivial, fun _ => ?_, fun wrong => absurd on_time wrong⟩)
    refine holds_bind.mpr ((holds_exhaustedRecord later _).imp fun result after trace failed => ?_)
    rw [failed]
  exact fails.result runs ended

end AgentMesh.Install.Setup
