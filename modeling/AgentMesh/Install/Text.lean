import AgentMesh.Install.Record
import AgentMesh.Protocol.Serde

/-! The JSON text of an installation record. A valid record is read back from its own text, and that text always fits
the size limit of a control file. -/
namespace AgentMesh.Install
open Library Daemon RelativeWindowsPath Json List

variable {other record : InstallRecord}

def InstallState.name : InstallState → String
  | .installing => "INSTALLING"
  | .active => "ACTIVE"
  | .removing => "REMOVING"
  | .retained => "RETAINED"
  | .purging => "PURGING"
  | .broken => "BROKEN"

def InstallState.ofName : String → Option InstallState
  | "INSTALLING" => some .installing
  | "ACTIVE" => some .active
  | "REMOVING" => some .removing
  | "RETAINED" => some .retained
  | "PURGING" => some .purging
  | "BROKEN" => some .broken
  | _ => none

def SignerStatus.name : SignerStatus → String
  | .signed => "signed"
  | .unsignedDevelopment => "unsigned_development"

def SignerStatus.ofName : String → Option SignerStatus
  | "signed" => some .signed
  | "unsigned_development" => some .unsignedDevelopment
  | _ => none

def RuntimeArtifactFormat.name : RuntimeArtifactFormat → String
  | .meshDaemonExeV1 => "MESH_DAEMON_EXE_V1"

def RuntimeArtifactFormat.ofName : String → Option RuntimeArtifactFormat
  | "MESH_DAEMON_EXE_V1" => some .meshDaemonExeV1
  | _ => none

@[simp]
theorem InstallState.ofName_name (state : InstallState) : ofName state.name = some state := by cases state <;> rfl

@[simp]
theorem SignerStatus.ofName_name (status : SignerStatus) : ofName status.name = some status := by cases status <;> rfl

@[simp]
theorem RuntimeArtifactFormat.ofName_name (format : RuntimeArtifactFormat) : ofName format.name = some format := by
  cases format; rfl

section Fields

def optional {α : Type} (write : α → Json) : Option α → Json
  | none => .null
  | some value => write value

def StableId.ofText (value : String) : Option StableId :=
  if valid : isLowerHex 32 value = true then some ⟨value, valid⟩ else none

def Sha256Digest.ofText (value : String) : Option Sha256Digest :=
  if valid : isLowerHex 64 value = true then some ⟨value, valid⟩ else none

def RelativeWindowsPath.ofText (value : String) : Option RelativeWindowsPath :=
  if valid : isRelativeWindowsPath value = true then some ⟨value, valid⟩ else none

def ScheduledTaskPath.ofText (value : String) : Option ScheduledTaskPath :=
  if valid : isScheduledTaskPath value = true then some ⟨value, valid⟩ else none

@[simp]
theorem StableId.ofText_value (id : StableId) : ofText id.value = some id := by simp [ofText, id.valid]

@[simp]
theorem Sha256Digest.ofText_value (digest : Sha256Digest) : ofText digest.value = some digest := by
  simp [ofText, digest.valid]

@[simp]
theorem RelativeWindowsPath.ofText_value (path : RelativeWindowsPath) : ofText path.value = some path := by
  simp [ofText, path.valid]

@[simp]
theorem ScheduledTaskPath.ofText_value (path : ScheduledTaskPath) : ofText path.value = some path := by
  simp [ofText, path.valid]

def RelativeWindowsPath.toJson (path : RelativeWindowsPath) : Json := .string path.value

def RelativeWindowsPath.fromJson (value : Json) : Option RelativeWindowsPath := value.asText.bind ofText

def ProtectedKeyArtifact.toJson (key : ProtectedKeyArtifact) : Json :=
  .object [("relative_path", key.relativePath.toJson), ("sha256", .string key.sha256.value)]

def ProtectedKeyArtifact.fromJson (value : Json) : Option ProtectedKeyArtifact :=
  match value.members ["relative_path", "sha256"] with
  | some [some path, some digest] => do
    let relativePath ← RelativeWindowsPath.fromJson path
    let sha256 ← digest.asText.bind Sha256Digest.ofText
    return { relativePath, sha256 }
  | _ => none

def RuntimeArtifact.toJson (runtime : RuntimeArtifact) : Json :=
  .object [("relative_path", runtime.relativePath.toJson), ("sha256", .string runtime.sha256.value),
    ("version", .string runtime.version), ("signer_status", .string runtime.signerStatus.name),
    ("artifact_format", .string runtime.artifactFormat.name)]

def RuntimeArtifact.fromJson (value : Json) : Option RuntimeArtifact :=
  match value.members ["relative_path", "sha256", "version", "signer_status", "artifact_format"] with
  | some [some path, some digest, some version, some signer, some format] => do
    let relativePath ← RelativeWindowsPath.fromJson path
    let sha256 ← digest.asText.bind Sha256Digest.ofText
    let version ← version.asText
    let signerStatus ← signer.asVariant.bind SignerStatus.ofName
    let artifactFormat ← format.asVariant.bind RuntimeArtifactFormat.ofName
    return { relativePath, sha256, version, signerStatus, artifactFormat }
  | _ => none

def ScheduledTaskEvidence.toJson (task : ScheduledTaskEvidence) : Json :=
  .object [("task_path", .string task.taskPath.value), ("definition_sha256", .string task.definitionSha256.value)]

def ScheduledTaskEvidence.fromJson (value : Json) : Option ScheduledTaskEvidence :=
  match value.members ["task_path", "definition_sha256"] with
  | some [some path, some digest] => do
    let taskPath ← path.asText.bind ScheduledTaskPath.ofText
    let definitionSha256 ← digest.asText.bind Sha256Digest.ofText
    return { taskPath, definitionSha256 }
  | _ => none

@[simp]
theorem RelativeWindowsPath.fromJson_toJson (path : RelativeWindowsPath) : fromJson path.toJson = some path := by
  simp [fromJson, toJson, asText]

@[simp]
theorem ProtectedKeyArtifact.fromJson_toJson (key : ProtectedKeyArtifact) : fromJson key.toJson = some key := by
  simp [fromJson, toJson, members, lookup, asText]

@[simp]
theorem RuntimeArtifact.fromJson_toJson (runtime : RuntimeArtifact) : fromJson runtime.toJson = some runtime := by
  simp [fromJson, toJson, members, lookup, asText, asVariant]

@[simp]
theorem ScheduledTaskEvidence.fromJson_toJson (task : ScheduledTaskEvidence) : fromJson task.toJson = some task := by
  simp [fromJson, toJson, members, lookup, asText]

/-- A field that is written as something other than null is read back with its absence. -/
theorem asOption_optional {α : Type} {write : α → Json} {read : Json → Option α} (back : ∀ value,
    read (write value) = some value) (present : ∀ value, write value ≠ .null) (field : Option α) :
    asOption read (some (optional write field)) = some field := by
  cases field with
  | none => rfl
  | some value =>
    rw [optional, asOption, back]
    · rfl
    · exact present value

theorem nesting_optional_le {α : Type} {write : α → Json} {levels : Nat} (each : ∀ value,
    (write value).nesting ≤ levels) (field : Option α) : (optional write field).nesting ≤ levels := by
  cases field with
  | none => exact Nat.zero_le _
  | some value => exact each value

theorem weight_optional_le {α : Type} {write : α → Json} {bound : Nat} (null : 4 ≤ bound) {field : Option α}
    (each : ∀ value ∈ field, (write value).weight ≤ bound) : (optional write field).weight ≤ bound := by
  cases field with
  | none => exact null
  | some value => exact each value rfl

theorem size_of_isLowerHex {length : Nat} {value : String} (valid : isLowerHex length value = true) :
    value.utf8ByteSize = length := by
  simp only [isLowerHex, Bool.and_eq_true, beq_iff_eq] at valid
  exact valid.1

theorem RelativeWindowsPath.size_le (path : RelativeWindowsPath) : path.value.utf8ByteSize ≤ 512 := by
  have valid := path.valid
  simp only [isRelativeWindowsPath, Bool.and_eq_true, decide_eq_true_eq] at valid
  exact valid.1.1.1.1.2

theorem ScheduledTaskPath.size_le (path : ScheduledTaskPath) : path.value.utf8ByteSize ≤ 512 := by
  have valid := path.valid
  unfold isScheduledTaskPath at valid
  split at valid
  · simp only [Bool.and_eq_true, decide_eq_true_eq] at valid
    exact valid.1.1.1.1.1.2
  · contradiction

theorem ProtectedKeyArtifact.weight_le (key : ProtectedKeyArtifact) : key.toJson.weight ≤ 4096 := by
  have path := key.relativePath.size_le
  have digest := size_of_isLowerHex key.sha256.valid
  have names : "relative_path".utf8ByteSize = 13 ∧ "sha256".utf8ByteSize = 6 := by decide
  simp only [toJson, RelativeWindowsPath.toJson, weight, weightFields, digest, names]
  omega

theorem ScheduledTaskEvidence.weight_le (task : ScheduledTaskEvidence) : task.toJson.weight ≤ 4096 := by
  have path := task.taskPath.size_le
  have digest := size_of_isLowerHex task.definitionSha256.valid
  have names : "task_path".utf8ByteSize = 9 ∧ "definition_sha256".utf8ByteSize = 17 := by decide
  simp only [toJson, weight, weightFields, digest, names]
  omega

theorem RuntimeArtifact.weight_le (runtime : RuntimeArtifact) (valid : isVersion runtime.version = true) :
    runtime.toJson.weight ≤ 8192 := by
  have path := runtime.relativePath.size_le
  have digest := size_of_isLowerHex runtime.sha256.valid
  have version : runtime.version.utf8ByteSize ≤ 128 := by
    simp only [isVersion, Bool.and_eq_true, decide_eq_true_eq] at valid
    exact valid.1.2
  have signer : runtime.signerStatus.name.utf8ByteSize ≤ 20 := by cases runtime.signerStatus <;> decide
  have format : runtime.artifactFormat.name.utf8ByteSize = 18 := by cases runtime.artifactFormat; decide
  have names : "relative_path".utf8ByteSize = 13 ∧ "sha256".utf8ByteSize = 6 ∧ "version".utf8ByteSize = 7 ∧
    "signer_status".utf8ByteSize = 13 ∧ "artifact_format".utf8ByteSize = 15 := by decide
  simp only [toJson, RelativeWindowsPath.toJson, weight, weightFields, digest, format, names]
  omega

end Fields

namespace InstallRecord

def fieldNames : List String :=
  ["format_version", "install_id", "consumer_id", "state", "revision", "product_relative_path", "data_relative_path",
    "data_schema_version", "protected_key", "runtime", "scheduled_task", "created_at_us", "updated_at_us"]

def fieldValues (record : InstallRecord) : List Json :=
  [.number record.formatVersion.toNat, .string record.installId.value, .string record.consumerId.value,
    .string record.state.name, .number record.revision.toNat,
    optional toJson record.productRelativePath,
    optional toJson record.dataRelativePath,
    optional (fun version : UInt32 => .number version.toNat) record.dataSchemaVersion,
    optional ProtectedKeyArtifact.toJson record.protectedKey, optional RuntimeArtifact.toJson record.runtime,
    optional ScheduledTaskEvidence.toJson record.scheduledTask, .number record.createdAtUs.toInt,
    .number record.updatedAtUs.toInt]

def toJson (record : InstallRecord) : Json := .object (fieldNames.zip record.fieldValues)

/-- The fields of `InstallRecordWire`. -/
def ofFields : List (Option Json) → Option InstallRecord
  | [some formatVersion, some installId, some consumerId, some state, some revision, productRelativePath,
      dataRelativePath, dataSchemaVersion, protectedKey, runtime, scheduledTask, some createdAtUs,
      some updatedAtUs] => do
    let formatVersion ← formatVersion.asUInt16
    let installId ← installId.asText.bind StableId.ofText
    let consumerId ← consumerId.asText.bind StableId.ofText
    let state ← state.asVariant.bind InstallState.ofName
    let revision ← revision.asUInt64
    let productRelativePath ← asOption fromJson productRelativePath
    let dataRelativePath ← asOption fromJson dataRelativePath
    let dataSchemaVersion ← asOption asUInt32 dataSchemaVersion
    let protectedKey ← asOption ProtectedKeyArtifact.fromJson protectedKey
    let runtime ← asOption RuntimeArtifact.fromJson runtime
    let scheduledTask ← asOption ScheduledTaskEvidence.fromJson scheduledTask
    let createdAtUs ← createdAtUs.asInt64
    let updatedAtUs ← updatedAtUs.asInt64
    return ⟨formatVersion, installId, consumerId, state, revision, productRelativePath, dataRelativePath,
      dataSchemaVersion, protectedKey, runtime, scheduledTask, createdAtUs, updatedAtUs⟩
  | _ => none

/-- `InstallRecord::deserialize`: the fields, then the record's own checks. -/
def fromJson (value : Json) : Option InstallRecord := do
  let record ← (value.members fieldNames).bind ofFields
  if record.validate = .ok () then some record else none

/-- `serde_json::to_vec` of a record. -/
def toVec (record : InstallRecord) : Bytes := record.toJson.toVec

def fromSlice (bytes : Bytes) : Option InstallRecord := (parse bytes).bind fromJson

theorem ofFields_fieldValues (record : InstallRecord) : ofFields (record.fieldValues.map some) = some record := by
  have product := asOption_optional fromJson_toJson (fun _ => nofun) record.productRelativePath
  have data := asOption_optional fromJson_toJson (fun _ => nofun) record.dataRelativePath
  have version := asOption_optional asUInt32_number (fun _ => nofun) record.dataSchemaVersion
  have key := asOption_optional ProtectedKeyArtifact.fromJson_toJson (fun _ => nofun) record.protectedKey
  have runtime := asOption_optional RuntimeArtifact.fromJson_toJson (fun _ => nofun) record.runtime
  have task := asOption_optional ScheduledTaskEvidence.fromJson_toJson (fun _ => nofun) record.scheduledTask
  simp [fieldValues, ofFields, asText, asVariant, product, data, version, key, runtime, task]

theorem members_toJson (record : InstallRecord) :
    record.toJson.members fieldNames = some (record.fieldValues.map some) := by
  simp [toJson, members, fieldNames, fieldValues, lookup]

theorem fromJson_toJson (valid : record.validate = .ok ()) : fromJson record.toJson = some record := by
  simp [fromJson, members_toJson, ofFields_fieldValues, valid]

theorem nesting_toJson (record : InstallRecord) : record.toJson.nesting ≤ maxNesting := by
  have path : ∀ field, (optional RelativeWindowsPath.toJson field).nesting ≤ 1 :=
    nesting_optional_le fun path => by simp [RelativeWindowsPath.toJson, nesting]
  have version : (optional (fun version : UInt32 => number version.toNat) record.dataSchemaVersion).nesting ≤ 1 :=
    nesting_optional_le (fun version => by simp [nesting]) _
  have key : (optional ProtectedKeyArtifact.toJson record.protectedKey).nesting ≤ 1 :=
    nesting_optional_le (fun key => by
      simp [ProtectedKeyArtifact.toJson, RelativeWindowsPath.toJson, nesting, nestingFields]) _
  have runtime : (optional RuntimeArtifact.toJson record.runtime).nesting ≤ 1 :=
    nesting_optional_le (fun runtime => by
      simp [RuntimeArtifact.toJson, RelativeWindowsPath.toJson, nesting, nestingFields]) _
  have task : (optional ScheduledTaskEvidence.toJson record.scheduledTask).nesting ≤ 1 :=
    nesting_optional_le (fun task => by simp [ScheduledTaskEvidence.toJson, nesting, nestingFields]) _
  have product := path record.productRelativePath
  have data := path record.dataRelativePath
  have shallow : nestingFields (fieldNames.zip record.fieldValues) ≤ 1 := by
    rw [nestingFields_le]
    simp only [fieldNames, fieldValues, zip_cons_cons, zip_nil_right, forall_mem_cons]
    simp [nesting, product, data, version, key, runtime, task]
  rw [toJson, nesting, maxNesting]
  omega

theorem length_toVec_le (valid : record.validate = .ok ()) : record.toVec.length ≤ 1024 * 1024 := by
  have path : ∀ field : Option RelativeWindowsPath, (optional RelativeWindowsPath.toJson field).weight ≤ 4096 := by
    intro field
    refine weight_optional_le (by decide) fun path _ => ?_
    have size := path.size_le
    rw [RelativeWindowsPath.toJson, Json.weight]
    omega
  have product := path record.productRelativePath
  have data := path record.dataRelativePath
  have version :
      (optional (fun version : UInt32 => Json.number version.toNat) record.dataSchemaVersion).weight ≤ 21 := by
    refine weight_optional_le (by decide) fun version _ => Json.length_decimal_le ?_
    have small := version.toNat_lt
    omega
  have key : (optional ProtectedKeyArtifact.toJson record.protectedKey).weight ≤ 4096 :=
    weight_optional_le (by decide) fun key _ => key.weight_le
  have runtime : (optional RuntimeArtifact.toJson record.runtime).weight ≤ 8192 := by
    refine weight_optional_le (by decide) fun runtime present => runtime.weight_le ?_
    simp only [validate, eq_ok_iff, exists_const] at valid
    rw [Option.mem_def] at present
    simpa [present] using valid.2.2.2.1
  have task : (optional ScheduledTaskEvidence.toJson record.scheduledTask).weight ≤ 4096 :=
    weight_optional_le (by decide) fun task _ => task.weight_le
  have format : (Literal.decimal record.formatVersion.toNat).length ≤ 21 := by
    have small := record.formatVersion.toNat_lt
    exact Json.length_decimal_le (by omega)
  have revision : (Literal.decimal record.revision.toNat).length ≤ 21 := by
    have small := record.revision.toNat_lt
    exact Json.length_decimal_le (by omega)
  have time : ∀ at_us : Int64, (Literal.decimal at_us.toInt).length ≤ 21 := by
    intro at_us
    have low := at_us.le_toInt
    have high := at_us.toInt_lt
    exact Json.length_decimal_le (by omega)
  have created := time record.createdAtUs
  have updated := time record.updatedAtUs
  have install := size_of_isLowerHex record.installId.valid
  have consumer := size_of_isLowerHex record.consumerId.valid
  have state : record.state.name.utf8ByteSize ≤ 10 := by cases record.state <;> decide
  have names : ∀ name ∈ fieldNames, name.utf8ByteSize ≤ 21 := by decide
  simp only [fieldNames, forall_mem_cons] at names
  refine Nat.le_trans (Json.length_toVec_le _) ?_
  simp only [toJson, fieldNames, fieldValues, zip_cons_cons, zip_nil_right, Json.weight, Json.weightFields,
    install, consumer]
  omega

theorem fromSlice_toVec (valid : record.validate = .ok ()) : fromSlice record.toVec = some record := by
  rw [fromSlice, toVec, parse_toVec _ record.nesting_toJson, Option.bind_some, fromJson_toJson valid]

/-- A record that was written only in part cannot be read. -/
theorem fromSlice_cut {bytes : Bytes} {found : InstallRecord} (cut : bytes <+: record.toVec)
    (read : fromSlice bytes = some found) : bytes = record.toVec := by
  obtain ⟨value, parsed, _⟩ := Option.bind_eq_some_iff.mp read
  exact parse_cut record.nesting_toJson cut parsed

theorem toJson_injective (same : record.toJson = other.toJson) : record = other := by
  have first := members_toJson record
  rw [same, members_toJson, Option.some.injEq] at first
  have second := ofFields_fieldValues record
  rw [← first, ofFields_fieldValues, Option.some.injEq] at second
  exact second.symm

theorem toVec_cut (cut : record.toVec <+: other.toVec) : record = other := by
  have parsed := parse_toVec _ record.nesting_toJson
  exact toJson_injective (toVec_injective (parse_cut other.nesting_toJson cut parsed))

end InstallRecord

end AgentMesh.Install
