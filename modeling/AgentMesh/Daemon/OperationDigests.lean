import AgentMesh.Protocol.JsonText
import AgentMesh.Daemon.Writer

/-! The digests of the writer's keyed operations. A call that comes again under its operation id is told from another
call by its digest alone, so a digest has to tell apart any two calls that write different rows. -/
namespace AgentMesh.Daemon
open Library Library.Literal StorageError List TaskState

/-- Texts behind headers of one width, which tell their lengths, can be cut apart again. -/
theorem eq_of_flatMap_header {α : Type} {header : Nat → List α} {width bound : Nat}
    (wide : ∀ length, (header length).length = width + 1)
    (tells : ∀ length < bound, ∀ other < bound, header length = header other → length = other) :
    ∀ texts others : List (List α), (∀ text ∈ texts, text.length < bound) → (∀ text ∈ others, text.length < bound) →
      texts.flatMap (fun text => header text.length ++ text) = others.flatMap (fun text => header text.length ++ text) →
      texts = others
  | [], [], _, _, _ => rfl
  | [], text :: texts, _, _, same | text :: texts, [], _, _, same => by
    have headless := congrArg length same
    simp only [flatMap_nil, flatMap_cons, length_append, length_nil, wide] at headless
    omega
  | text :: texts, other :: others, short, shorts, same => by
    rw [forall_mem_cons] at short shorts
    simp only [flatMap_cons, append_assoc] at same
    obtain ⟨headers, bodies⟩ := append_inj same ((wide _).trans (wide _).symm)
    obtain ⟨rfl, rest⟩ := append_inj bodies (tells _ short.1 _ shorts.1 headers)
    rw [eq_of_flatMap_header wide tells texts others short.2 shorts.2 rest]

theorem beBytes_inj (length : Nat) (fits : length < 2 ^ 64) (other : Nat) (fitsToo : other < 2 ^ 64)
    (same : beBytes length = beBytes other) : length = other := by
  simp only [beBytes, map_cons, map_nil, cons.injEq, and_true, ← UInt8.toNat_inj, UInt8.toNat_ofNat'] at same
  obtain ⟨byte7, byte6, byte5, byte4, byte3, byte2, byte1, byte0⟩ := same
  -- The numbers agree from the top down, one byte at a time.
  have step : ∀ shift, length / 2 ^ (shift + 8) = other / 2 ^ (shift + 8) →
      length / 2 ^ shift % 2 ^ 8 = other / 2 ^ shift % 2 ^ 8 → length / 2 ^ shift = other / 2 ^ shift := by
    intro shift high low
    rw [pow_add, ← Nat.div_div_eq_div_mul, ← Nat.div_div_eq_div_mul] at high
    rw [← Nat.div_add_mod (length / 2 ^ shift) (2 ^ 8), high, low, Nat.div_add_mod]
  have top : length / 2 ^ (56 + 8) = other / 2 ^ (56 + 8) := by
    rw [Nat.div_eq_of_lt fits, Nat.div_eq_of_lt fitsToo]
  have upper := step 32 (step 40 (step 48 (step 56 top byte7) byte6) byte5) byte4
  simpa using step 0 (step 8 (step 16 (step 24 upper byte3) byte2) byte1) byte0

theorem toList_toString (value : Int) : (toString value).toList = decimal value := by
  cases value with
  | ofNat value => simp [decimal, toString, Int.repr, not_lt.mpr (Int.natCast_nonneg value)]
  | negSucc value => simp [decimal, toString, Int.repr, Int.negSucc_lt_zero]

theorem toString_inj {value other : Int} : toString value = toString other ↔ value = other := by
  refine ⟨fun same => ?_, congrArg _⟩
  have read := readDecimal_decimal value [] rfl
  rw [← toList_toString, same, toList_toString, readDecimal_decimal other [] rfl] at read
  exact (congrArg Prod.fst (Option.some.inj read)).symm

theorem DispatchPhase.asStr_inj {phase other : DispatchPhase} : phase.asStr = other.asStr ↔ phase = other := by
  cases phase <;> cases other <;> simp [asStr]

theorem InteractionCapabilityClass.asStr_inj {capability other : InteractionCapabilityClass} :
    capability.asStr = other.asStr ↔ capability = other := by
  cases capability <;> cases other <;> simp [asStr]

namespace Store

/-- `transition` at the argument types of the source, where states are texts. -/
def transitionByName (codec : Codec) (ambient : Ambient) (operationId taskId : String) (generation : Int)
    (sources : List String) (target : String) (now : Int) (store : Store) : Checked (Int × Store) := do
  let operationDigest := digestFields codec [taskId, toString generation, String.intercalate "\x00" sources, target]
  let next ← required .staleGeneration (TaskState.fromStr target)
  ensureMutationAllowed ambient (next = .finalizing)
  ensure (next.isTerminal = false) terminalImmutable
  store.replayingOperation operationId operationDigest
    (fun locator => do
      let seq ← required (.quarantined "invalid transition replay") locator.asI64?
      return (seq, store))
    (do
      let task ← required .staleGeneration (store.taskAt taskId generation)
      ensure (task.state.isTerminal = false) terminalImmutable
      ensure (task.state.asStr ∈ sources ∧ task.state.allows next = true) staleGeneration
      let store ← store.updateTasks (fun row => row.taskId = taskId ∧ row.generation = generation)
        (fun row => { row with state := next, updatedAt := now }) (taskId_switched next now)
      let (seq, store) ← store.appendEvent taskId generation "state_changed" (stateEventPayload next) now
      let store ← store.storeOperation operationId operationDigest taskId generation "transition" (.number seq) now
      return (seq, store.bumpMutationEpoch))

/-- The rows of the tables that keyed operations write besides their own. -/
def written (store : Store) : List AttemptRow × List InteractionRow × List EventRow × List TaskRow :=
  (store.attempts.rows, store.interactions.rows, store.events.rows, store.tasks.rows)

section Written

variable {α β γ : Type} {store : Store} {operationId digest other taskId kind : String} {generation now : Int}

theorem map_bind_congr {change : β → γ} {first : Checked α} {next others : α → Checked β}
    (each : ∀ value, change <$> next value = change <$> others value) :
    change <$> (first >>= next) = change <$> (first >>= others) := by
  cases first with
  | error _ => rfl
  | ok value => exact each value

theorem replayingOperation_new {replay : Locator → Checked β} {fresh : Checked β}
    (new : store.operations.lookup operationId = none) :
    store.replayingOperation operationId digest replay fresh = fresh := by
  simp only [replayingOperation, internalOperationReplay, new]
  rfl

/-- The digest of an operation is written nowhere but under its id. -/
theorem written_storeOperation {locator : Locator} {value : β} : (written ∘ Prod.snd) <$> (do
      let store ← store.storeOperation operationId digest taskId generation kind locator now
      return (value, store.bumpMutationEpoch)) =
    (written ∘ Prod.snd) <$> (do
      let store ← store.storeOperation operationId other taskId generation kind locator now
      return (value, store.bumpMutationEpoch)) := by
  simp only [storeOperation, insertRow, Table.insert?]
  split <;> rfl

theorem written_reclaim {codec : Codec} {ambient : Ambient} {spec other : AttemptSpec} {limits : SchedulerLimits}
    (new : store.operations.lookup operationId = none) (adapter : spec.adapterInstanceId = other.adapterInstanceId)
    (adapterVersion : spec.adapterVersion = other.adapterVersion) (version : spec.configVersion = other.configVersion)
    (digest : spec.configDigest = other.configDigest) :
    (written ∘ Prod.snd) <$>
      store.reclaimPreflightDispatchSlot codec ambient operationId taskId generation spec limits now =
    (written ∘ Prod.snd) <$>
      store.reclaimPreflightDispatchSlot codec ambient operationId taskId generation other limits now := by
  simp only [reclaimPreflightDispatchSlot, validateSlotRequest, verifyAttemptAssignment, blockedBy, adapter,
    adapterVersion, version, digest, replayingOperation_new new]
  refine map_bind_congr fun _ => map_bind_congr fun _ => map_bind_congr fun _ => map_bind_congr fun _ =>
    map_bind_congr fun _ => map_bind_congr fun _ => map_bind_congr fun _ => ?_
  split <;> split
  · rfl
  · exact map_bind_congr fun _ => map_bind_congr fun _ => written_storeOperation
  · rfl
  · exact map_bind_congr fun _ => map_bind_congr fun _ => written_storeOperation

end Written

end Store

/-- The calls of the keyed operations, by the arguments their caller chooses. -/
inductive KeyedCall where
  | claimDispatchSlot (taskId : String) (generation : Int) (spec : AttemptSpec)
  | reclaimPreflightDispatchSlot (taskId : String) (generation : Int) (spec : AttemptSpec)
  | recordDispatchPhase (taskId : String) (generation : Int) (phase : DispatchPhase) (processReceipt : Option String)
  | recordAdapterEvent (taskId : String) (generation : Int) (kind : String) (payload : Json)
  | openInteraction (request : InteractionRequest)
  | scheduleSafeRetry (taskId : String) (generation retryAt : Int)
  | transition (taskId : String) (generation : Int) (sources : List String) (target : String)

/-- What an operation gets besides the arguments its caller chooses: the identifiers drawn for it, the limits and the
clock. -/
structure Occasion where
  ambient : Ambient
  operationId : String
  drawnId : String
  nonce : String
  limits : SchedulerLimits
  now : Int

namespace KeyedCall

/-- The `kind` under which `internal_operations` keeps the call. -/
def kind : KeyedCall → String
  | claimDispatchSlot .. => "claim_dispatch_slot"
  | reclaimPreflightDispatchSlot .. => "reclaim_preflight_slot"
  | recordDispatchPhase .. => "dispatch_phase"
  | recordAdapterEvent .. => "adapter_event"
  | openInteraction .. => "open_interaction"
  | scheduleSafeRetry .. => "safe_retry"
  | transition .. => "transition"

/-- The fields that `digest_fields` gets. -/
def fields (codec : Codec) : KeyedCall → List String
  | claimDispatchSlot taskId generation spec =>
    [taskId, toString generation, spec.adapterInstanceId, spec.adapterVersion, toString spec.configVersion,
      spec.configDigest, spec.effectProfile, spec.isolationLevel, spec.retryClass, spec.worktreeId.getD ""]
  | reclaimPreflightDispatchSlot taskId generation spec =>
    [taskId, toString generation, spec.adapterInstanceId, spec.adapterVersion, toString spec.configVersion,
      spec.configDigest, spec.worktreeId.getD "", "reclaim_preflight"]
  | recordDispatchPhase taskId generation phase processReceipt =>
    [taskId, toString generation, phase.asStr, processReceipt.getD ""]
  | recordAdapterEvent taskId generation kind payload => [taskId, toString generation, kind, codec.toText payload]
  | openInteraction request =>
    [request.taskId, request.attemptId, toString request.generation, request.operationDigest, request.policyDigest,
      request.configDigest, request.capabilityClass.asStr, toString request.configVersion,
      toString request.policyVersion, toString request.expiresAt]
  | scheduleSafeRetry taskId generation retryAt => [taskId, toString generation, toString retryAt]
  | transition taskId generation sources target =>
    [taskId, toString generation, String.intercalate "\x00" sources, target]

def operationDigest (codec : Codec) (call : KeyedCall) : String := digestFields codec (call.fields codec)

def perform (codec : Codec) (occasion : Occasion) (call : KeyedCall) (store : Store) : Checked Store :=
  match call with
  | claimDispatchSlot taskId generation spec => Prod.snd <$> store.claimDispatchSlot codec occasion.ambient
      occasion.drawnId occasion.operationId taskId generation spec occasion.limits occasion.now
  | reclaimPreflightDispatchSlot taskId generation spec => Prod.snd <$> store.reclaimPreflightDispatchSlot codec
      occasion.ambient occasion.operationId taskId generation spec occasion.limits occasion.now
  | recordDispatchPhase taskId generation phase processReceipt => Prod.snd <$> store.recordDispatchPhase codec
      occasion.ambient occasion.operationId taskId generation phase processReceipt occasion.now
  | recordAdapterEvent taskId generation kind payload => Prod.snd <$> store.recordAdapterEvent codec
      occasion.ambient occasion.operationId taskId generation kind payload occasion.now
  | openInteraction request => Prod.snd <$> store.openInteraction codec occasion.ambient occasion.drawnId
      occasion.nonce occasion.operationId request occasion.now
  | scheduleSafeRetry taskId generation retryAt => Prod.snd <$> store.scheduleSafeRetry codec occasion.ambient
      occasion.operationId taskId generation retryAt occasion.now
  | transition taskId generation sources target => Prod.snd <$> store.transitionByName codec occasion.ambient
      occasion.operationId taskId generation sources target occasion.now

variable {codec : Codec} {occasion : Occasion} {call other : KeyedCall} {store after : Store}

/-- The arguments that decide what a call writes: a reclaim asks the attempt it finds for nothing but its adapter and
its configuration. -/
def core : KeyedCall → KeyedCall
  | reclaimPreflightDispatchSlot taskId generation spec => reclaimPreflightDispatchSlot taskId generation
      { spec with effectProfile := "", isolationLevel := "", retryClass := "", worktreeId := none }
  | call => call

/-- Of two optional texts one is absent and the other is empty. -/
def Blank (text other : Option String) : Prop := text = none ∧ other = some "" ∨ text = some "" ∧ other = none

/-- Two different calls with the same fields: they differ in an absent and an empty text, or in where the names of the
source states are cut. -/
inductive Confused : KeyedCall → KeyedCall → Prop where
  | worktree {taskId : String} {generation : Int} {spec : AttemptSpec} {worktreeId : Option String}
      (blank : Blank spec.worktreeId worktreeId) :
      Confused (claimDispatchSlot taskId generation spec) (claimDispatchSlot taskId generation { spec with worktreeId })
  | receipt {taskId : String} {generation : Int} {phase : DispatchPhase} {receipt other : Option String}
      (blank : Blank receipt other) :
      Confused (recordDispatchPhase taskId generation phase receipt) (recordDispatchPhase taskId generation phase other)
  | sources {taskId target : String} {generation : Int} {sources others : List String} (differ : sources ≠ others)
      (foreign : ∃ name ∈ sources ++ others, TaskState.fromStr name = none)
      (joined : String.intercalate "\x00" sources = String.intercalate "\x00" others) :
      Confused (transition taskId generation sources target) (transition taskId generation others target)

theorem getD_eq_iff (text other : Option String) : text.getD "" = other.getD "" ↔ text = other ∨ Blank text other := by
  unfold Blank
  cases text <;> cases other <;> simp [eq_comm]

/-- The lengths of the fields fit their headers, as the length of any text in memory does. -/
def Measured (codec : Codec) (call : KeyedCall) : Prop := ∀ field ∈ call.fields codec, (utf8 field).length < 2 ^ 64

instance : Decidable (call.Measured codec) := by
  unfold Measured
  infer_instance

theorem fields_of_digest (injective : Function.Injective codec.sha256Hex) (measured : call.Measured codec)
    (measuredToo : other.Measured codec) (same : call.operationDigest codec = other.operationDigest codec) :
    call.fields codec = other.fields codec := by
  have bytes := injective same
  have texts : (call.fields codec).map utf8 = (other.fields codec).map utf8 := by
    have wide : ∀ length, (beBytes length).length = 7 + 1 := fun _ => rfl
    refine eq_of_flatMap_header wide beBytes_inj _ _ ?_ ?_ (by simpa only [flatMap_map] using bytes)
    · exact forall_mem_map.mpr measured
    · exact forall_mem_map.mpr measuredToo
  exact map_injective_iff.mpr (fun _ _ => Json.utf8_injective) texts

/-- Lists of the names of states are told apart by what they join to. -/
theorem names_of_joined {names others : List String} (named : ∀ name ∈ names ++ others, fromStr name ≠ none)
    (joined : String.intercalate "\x00" names = String.intercalate "\x00" others) : names = others := by
  have plain : ∀ name ∈ names ++ others, name.toList ≠ [] ∧ '\x00' ∉ name.toList := by
    intro name member
    obtain ⟨state, found⟩ := Option.ne_none_iff_exists'.mp (named name member)
    obtain rfl : state.asStr = name := by simpa using find?_some found
    cases state <;> decide
  have cut : ∀ list : List String, list ≠ [] → (∀ name ∈ list, name ∈ names ++ others) →
      (String.intercalate "\x00" list).toList.splitOn '\x00' = list.map String.toList := by
    intro list some listed
    rw [String.toList_intercalate]
    refine splitOn_intercalate _ (fun text member => ?_) (by simpa using some)
    obtain ⟨name, inside, rfl⟩ := mem_map.mp member
    exact (plain name (listed name inside)).2
  rcases names with _ | ⟨name, names⟩ <;> rcases others with _ | ⟨other, others⟩
  · rfl
  · have blank := cut (other :: others) nofun (by simp)
    rw [← joined] at blank
    simp [plain other (by simp)] at blank
  · have blank := cut (name :: names) nofun (by simp)
    rw [joined] at blank
    simp [plain name (by simp)] at blank
  · have texts := (cut (name :: names) nofun (by simp; tauto)).symm.trans
      ((congrArg (splitOn '\x00' ∘ String.toList) joined).trans (cut (other :: others) nofun (by simp; tauto)))
    exact map_injective_iff.mpr (fun _ _ => String.toList_injective) texts

theorem Blank.ne {text other : Option String} (blank : Blank text other) : text ≠ other := by
  obtain ⟨rfl, rfl⟩ | ⟨rfl, rfl⟩ := blank
  all_goals simp

theorem Confused.fields_eq (confused : call.Confused other) : call.fields codec = other.fields codec := by
  cases confused with
  | worktree blank => simp only [fields, (getD_eq_iff _ _).mpr (.inr blank)]
  | receipt blank => simp only [fields, (getD_eq_iff _ _).mpr (.inr blank)]
  | sources _ _ joined => simp only [fields, joined]

theorem Confused.core_ne (confused : call.Confused other) : call.core ≠ other.core := by
  intro same
  cases confused with
  | worktree blank => exact blank.ne (congrArg AttemptSpec.worktreeId (claimDispatchSlot.inj same).2.2)
  | receipt blank => exact blank.ne (recordDispatchPhase.inj same).2.2.2
  | sources differ => exact differ (transition.inj same).2.2.1

theorem confused_of_fields (writes : Function.Injective codec.toText) (same : call.kind = other.kind)
    (equal : call.fields codec = other.fields codec) (differ : call.core ≠ other.core) : call.Confused other := by
  cases call <;> cases other <;> simp [kind] at same
  all_goals simp only [fields, cons.injEq, and_true, toString_inj, DispatchPhase.asStr_inj,
    InteractionCapabilityClass.asStr_inj, writes.eq_iff, getD_eq_iff] at equal
  case claimDispatchSlot.claimDispatchSlot taskId generation spec _ _ other =>
    obtain ⟨profile, isolation, retry, adapter, adapterVersion, version, digest, worktreeId⟩ := other
    obtain ⟨rfl, rfl, rfl, rfl, rfl, rfl, rfl, rfl, rfl, rfl | blank⟩ := equal
    · exact absurd rfl differ
    · exact .worktree blank
  case reclaimPreflightDispatchSlot.reclaimPreflightDispatchSlot taskId generation spec _ _ other =>
    obtain ⟨rfl, rfl, adapter, adapterVersion, version, digest, _⟩ := equal
    exact absurd (by simp only [core, adapter, adapterVersion, version, digest]) differ
  case recordDispatchPhase.recordDispatchPhase taskId generation phase receipt _ _ _ _ =>
    obtain ⟨rfl, rfl, rfl, rfl | blank⟩ := equal
    · exact absurd rfl differ
    · exact .receipt blank
  case recordAdapterEvent.recordAdapterEvent =>
    obtain ⟨rfl, rfl, rfl, rfl⟩ := equal
    exact absurd rfl differ
  case openInteraction.openInteraction request other =>
    cases other
    obtain ⟨rfl, rfl, rfl, rfl, rfl, rfl, rfl, rfl, rfl, rfl⟩ := equal
    exact absurd rfl differ
  case scheduleSafeRetry.scheduleSafeRetry =>
    obtain ⟨rfl, rfl, rfl⟩ := equal
    exact absurd rfl differ
  case transition.transition taskId generation sources target _ _ others _ =>
    obtain ⟨rfl, rfl, joined, rfl⟩ := equal
    have apart : sources ≠ others := fun alike => differ (by rw [alike])
    refine .sources apart ?_ joined
    by_contra named
    exact apart (names_of_joined (by simpa using named) joined)

/-- The core of a call decides what the call writes when its operation id is new. -/
theorem written_of_core (new : store.operations.lookup occasion.operationId = none) (same : call.core = other.core) :
    Store.written <$> call.perform codec occasion store = Store.written <$> other.perform codec occasion store := by
  cases call with
  | reclaimPreflightDispatchSlot taskId generation spec =>
    cases other with
    | reclaimPreflightDispatchSlot _ _ other =>
      obtain ⟨rfl, rfl, specs⟩ := reclaimPreflightDispatchSlot.inj same
      simp only [AttemptSpec.mk.injEq, true_and, and_true] at specs
      obtain ⟨adapter, adapterVersion, version, digest⟩ := specs
      simpa only [perform, Functor.map_map, Function.comp_def] using
        Store.written_reclaim new adapter adapterVersion version digest
    | _ => cases same
  | _ =>
    cases other
    all_goals
      cases same
    rfl

/-- The digest of a keyed operation tells calls apart that differ in an argument which decides what they write, unless
they differ only in an absent and an empty text, or in where the names of the source states are cut. -/
theorem operation_digest_identifies_iff (injective : Function.Injective codec.sha256Hex) (call other : KeyedCall)
    (same : call.kind = other.kind) (measured : call.Measured codec.serde) (measuredToo : other.Measured codec.serde) :
    (∀ occasion store, store.operations.lookup occasion.operationId = none → call.core = other.core →
      Store.written <$> call.perform codec.serde occasion store =
        Store.written <$> other.perform codec.serde occasion store) ∧
    ((call.core ≠ other.core → call.operationDigest codec.serde ≠ other.operationDigest codec.serde) ↔
      ¬call.Confused other) := by
  refine ⟨fun occasion store new => written_of_core new, ?_, ?_⟩
  · intro tells confused
    exact tells confused.core_ne (congrArg (digestFields codec.serde) confused.fields_eq)
  · intro clear differ equal
    have fields := @fields_of_digest codec.serde call other injective measured measuredToo equal
    exact clear (confused_of_fields Json.toText_injective same fields differ)

end KeyedCall

namespace Script

/-- A codec that spells bytes out, so that different bytes have different digests. -/
def spelling : Codec :=
  { codec [] with sha256Hex := fun bytes => String.ofList (bytes.map fun byte => Char.ofNat byte.toNat) }

theorem spelling_injective : Function.Injective spelling.sha256Hex := by
  intro bytes others same
  refine map_injective_iff.mpr (fun byte other equal => ?_) (String.ofList_injective same)
  have valid : ∀ byte : UInt8, byte.toNat.isValidChar := fun byte => Or.inl (by have := byte.toNat_lt; omega)
  have codes := congrArg Char.toNat equal
  rwa [Char.toNat_ofNat, Char.toNat_ofNat, if_pos (valid byte), if_pos (valid other), UInt8.toNat_inj] at codes

def occasion : Occasion := ⟨ambient, "operation", "attempt", "nonce", SchedulerLimits.default, 4⟩

end Script

open KeyedCall Script

theorem operation_digest_identifies_receipt :
    (recordDispatchPhase "t" 0 .processStarted none).operationDigest spelling.serde ≠
      (recordDispatchPhase "t" 0 .processStarted (some "receipt")).operationDigest spelling.serde :=
  (operation_digest_identifies_iff spelling_injective (recordDispatchPhase "t" 0 .processStarted none)
    (recordDispatchPhase "t" 0 .processStarted (some "receipt")) rfl (by decide) (by decide)).2.mpr
    (by rintro (_ | ⟨⟨_, equal⟩ | ⟨equal, _⟩⟩) <;> simp at equal) (by simp [core])

/-- An absent and an empty worktree, an absent and an empty receipt, and two lists of sources that join to one text:
each time the digests agree and the rows do not. -/
theorem digests_confused :
    ((claimDispatchSlot "t" 0 Script.spec).operationDigest spelling.serde =
        (claimDispatchSlot "t" 0 { Script.spec with worktreeId := some "" }).operationDigest spelling.serde ∧
      ∃ store, Reachable spelling.serde store ∧ store.operations.lookup "operation" = none ∧
        ∀ worktreeId ∈ [none, some ""], ((claimDispatchSlot "t" 0 { Script.spec with worktreeId }).perform
          spelling.serde occasion store).toOption.map (fun after => after.attempts.rows.map AttemptRow.worktreeId) =
            some [worktreeId]) ∧
    ((recordDispatchPhase "t" 0 .processStarted none).operationDigest spelling.serde =
        (recordDispatchPhase "t" 0 .processStarted (some "")).operationDigest spelling.serde ∧
      ∃ store, Reachable spelling.serde store ∧ store.operations.lookup "operation" = none ∧
        ∀ receipt ∈ [none, some ""], ((recordDispatchPhase "t" 0 .processStarted receipt).perform
          spelling.serde occasion store).toOption.map (fun after => after.attempts.rows.map AttemptRow.processReceipt) =
            some [some (receipt.getD "receipt")]) ∧
    (transition "t" 0 ["QUEUED", "RETRY_WAIT"] "PREPARING").operationDigest spelling.serde =
        (transition "t" 0 ["QUEUED\x00RETRY_WAIT"] "PREPARING").operationDigest spelling.serde ∧
      ∃ store, Reachable spelling.serde store ∧ store.operations.lookup "operation" = none ∧
        ∀ sources ∈ [["QUEUED", "RETRY_WAIT"], ["QUEUED\x00RETRY_WAIT"]], ((transition "t" 0 sources
          "PREPARING").perform spelling.serde occasion store).toOption.isSome = decide (sources.length = 2) := by
  refine ⟨⟨rfl, ?_⟩, ⟨rfl, ?_⟩, rfl, ?_⟩
  · exact exists_of_script [submit "t" "k"] (by decide +kernel)
  · exact exists_of_script [submit "t" "k", claim "t" 0, phase "t" 0 .spawnPrepared] (by decide +kernel)
  · exact exists_of_script [submit "t" "k"] (by decide +kernel)

end AgentMesh.Daemon
