import AgentMesh.Daemon.Feedback
import AgentMesh.Daemon.Recovery

/-! The sole writer. Each `Request` is one transaction, apart from a compaction; operations of several transactions are
several requests, so a crash between two of them is a run that stops there. -/
namespace AgentMesh.Daemon
open Library

variable {permitted : Request → Store → Prop}

inductive Request where
  | submit (ambient : Ambient) (consumerId method commandKey : String) (body : Bytes) (taskId : String)
      (retryOfTaskId : Option String) (priority : Nat) (adapterInstanceId : Option String) (now : Int)
  | beginAttempt (ambient : Ambient) (attemptId consumerId commandKey requestDigest taskId : String)
      (generation : Int) (spec : AttemptSpec) (now : Int)
  | claimDispatchSlot (ambient : Ambient) (attemptId operationId taskId : String) (generation : Int)
      (spec : AttemptSpec) (limits : SchedulerLimits) (now : Int)
  | reclaimPreflightDispatchSlot (ambient : Ambient) (operationId taskId : String) (generation : Int)
      (spec : AttemptSpec) (limits : SchedulerLimits) (now : Int)
  | recordDispatchPhase (ambient : Ambient) (operationId taskId : String) (generation : Int)
      (phase : DispatchPhase) (processReceipt : Option String) (now : Int)
  | recordAdapterEvent (ambient : Ambient) (operationId taskId : String) (generation : Int) (kind : String)
      (payload : Json) (now : Int)
  | recordResumableSession (ambient : Ambient) (taskId : String) (generation : Int)
      (providerSession capabilityDigest : String) (now : Int)
  | openInteraction (ambient : Ambient) (interactionId nonce operationId : String) (request : InteractionRequest)
      (now : Int)
  | respondInteraction (ambient : Ambient) (request : ResponseRequest) (now : Int)
  | expireTransaction (preflight : Bool) (operationId interactionId : String) (generation now : Int)
  | settleExpiry (operationId resultId : String)
  | requestCancel (ambient : Ambient) (consumerId commandKey requestDigest taskId : String) (now : Int)
  | scheduleSafeRetry (ambient : Ambient) (operationId taskId : String) (generation retryAt now : Int)
  /-- The one `transition` that the daemon asks for. -/
  | transitionToFinalizing (ambient : Ambient) (operationId taskId : String) (generation : Int)
      (sources : List TaskState) (now : Int)
  | finalize (ambient : Ambient) (resultId ackToken consumerId commandKey requestDigest taskId : String)
      (generation : Int) (terminal : TaskState) (resultDigest : String) (now : Int)
  | recordResume (taskId : String) (now : Int)
  | replayTask (taskId : String) (now : Int)
  | reviewAndAck (ambient : Ambient) (reviewId consumerId commandKey : String) (canonicalReviewCommand : Bytes)
      (delivery : ResultDelivery) (verdict : ReviewVerdict) (diagnosis : Option String) (now : Int)
  /-- One iteration of the loop in the transaction of `mark_retention_gc`, which compacts up to 100 tasks. -/
  | compactTask (pinned : Bool) (taskId : String) (now : Int)
  | assignCanary (assignments : Table CanaryAssignmentRow.taskId) (tables : ImprovementTables)
      (engine : Option ImprovementEngine)
  | improvementCommand (ambient : Ambient) (consumerId commandKey : String) (canonicalCommand : Bytes)
      (command : ImprovementCommand) (now : Int)

def expiryKind (preflight : Bool) : ExpiryKind := if preflight then .beforeDispatch else .runtime

/-- `recordResume` as `reconcile_nonterminal` reaches it: for a task whose session is proven. -/
def Store.resumeTask (codec : Codec) (taskId : String) (now : Int) (store : Store) : Checked Store := do
  let task ← required .staleGeneration (store.tasks.lookup taskId)
  ensure (Store.settledState task.state = false ∧ recoveryDecision codec task (store.currentAttempt task)
    (store.latestAnsweredResponseKind task.taskId task.generation) = some .resumeSession)
    StorageError.staleGeneration
  store.recordResume codec task.taskId task.generation now

/-- The store one transaction commits, or the error that rolls it back. -/
def execute (codec : Codec) (request : Request) (store : Store) : Checked Store :=
  match request with
  | .submit ambient consumerId method commandKey body taskId retryOfTaskId priority adapterInstanceId now =>
    Prod.snd <$> store.submit codec ambient consumerId method commandKey body taskId retryOfTaskId priority
      adapterInstanceId now
  | .beginAttempt ambient attemptId consumerId commandKey requestDigest taskId generation spec now =>
    Prod.snd <$> store.beginAttempt ambient attemptId consumerId commandKey requestDigest taskId generation spec now
  | .claimDispatchSlot ambient attemptId operationId taskId generation spec limits now =>
    Prod.snd <$> store.claimDispatchSlot codec ambient attemptId operationId taskId generation spec limits now
  | .reclaimPreflightDispatchSlot ambient operationId taskId generation spec limits now =>
    Prod.snd <$> store.reclaimPreflightDispatchSlot codec ambient operationId taskId generation spec limits now
  | .recordDispatchPhase ambient operationId taskId generation phase processReceipt now =>
    Prod.snd <$> store.recordDispatchPhase codec ambient operationId taskId generation phase processReceipt now
  | .recordAdapterEvent ambient operationId taskId generation kind payload now =>
    Prod.snd <$> store.recordAdapterEvent codec ambient operationId taskId generation kind payload now
  | .recordResumableSession ambient taskId generation providerSession capabilityDigest now =>
    Prod.snd <$> store.recordResumableSession codec ambient taskId generation providerSession capabilityDigest now
  | .openInteraction ambient interactionId nonce operationId request now =>
    Prod.snd <$> store.openInteraction codec ambient interactionId nonce operationId request now
  | .respondInteraction ambient request now => Prod.snd <$> store.respondInteraction codec ambient request now
  | .expireTransaction preflight operationId interactionId generation now =>
    Prod.snd <$> store.expireTransaction codec (expiryKind preflight) operationId interactionId generation now
  | .settleExpiry operationId resultId => pure (store.settleExpiry operationId resultId)
  | .requestCancel ambient consumerId commandKey requestDigest taskId now =>
    Prod.snd <$> store.requestCancel ambient consumerId commandKey requestDigest taskId now
  | .scheduleSafeRetry ambient operationId taskId generation retryAt now =>
    Prod.snd <$> store.scheduleSafeRetry codec ambient operationId taskId generation retryAt now
  | .transitionToFinalizing ambient operationId taskId generation sources now =>
    Prod.snd <$> store.transition codec ambient operationId taskId generation sources .finalizing now
  | .finalize ambient resultId ackToken consumerId commandKey requestDigest taskId generation terminal resultDigest
      now =>
    Prod.snd <$> store.finalize ambient resultId ackToken consumerId commandKey requestDigest taskId generation
      terminal resultDigest now
  | .recordResume taskId now => store.resumeTask codec taskId now
  | .replayTask taskId now => do
    let task ← required .staleGeneration (store.tasks.lookup taskId)
    store.replayTask task now
  | .reviewAndAck ambient reviewId consumerId commandKey canonicalReviewCommand delivery verdict diagnosis now =>
    Prod.snd <$> store.reviewAndAck codec ambient reviewId consumerId commandKey canonicalReviewCommand delivery
      verdict diagnosis now
  | .compactTask pinned taskId now => store.compactTask pinned taskId now
  | .assignCanary canaryAssignments improvementTables improvementEngine =>
    pure { store with canaryAssignments, improvementTables, improvementEngine }.bumpMutationEpoch
  | .improvementCommand ambient consumerId commandKey canonicalCommand command now =>
    Prod.snd <$> store.improvementCommand codec ambient consumerId commandKey canonicalCommand command now

/-- A new task's identifier is a fresh UUID, so it is never one that was already compacted. -/
def Request.admissible (store : Store) : Request → Prop
  | .submit _ _ _ _ _ taskId _ _ _ _ => store.tombstones.lookup taskId = none
  | _ => True

/-- One committed transaction of a permitted kind. -/
def Commits (codec : Codec) (permitted : Request → Store → Prop) (before after : Store) : Prop :=
  ∃ request : Request, request.admissible before ∧ permitted request before ∧ execute codec request before = .ok after

/-- The stores a daemon can leave behind when it commits permitted transactions only, with a crash possible after
every commit. -/
def ReachableWhen (codec : Codec) (permitted : Request → Store → Prop) (store : Store) : Prop :=
  Relation.ReflTransGen (Commits codec permitted) Store.initial store

def Reachable (codec : Codec) (store : Store) : Prop := ReachableWhen codec (fun _ _ => True) store

theorem ReachableWhen.weaken {codec : Codec} {before after : Store}
    (run : Relation.ReflTransGen (Commits codec permitted) before after) :
    Relation.ReflTransGen (Commits codec fun _ _ => True) before after :=
  Relation.ReflTransGen.mono
    (fun _ _ ⟨request, admissible, _, committed⟩ => ⟨request, admissible, trivial, committed⟩) _ _ run

theorem ReachableWhen.reachable {codec : Codec} {store : Store} (run : ReachableWhen codec permitted store) :
    Reachable codec store :=
  ReachableWhen.weaken run

instance (store : Store) (request : Request) : Decidable (request.admissible store) := by
  unfold Request.admissible
  split <;> infer_instance

/-- Commit requests in order, as long as each is permitted and succeeds. -/
def script (codec : Codec) (permitted : Request → Store → Prop) [∀ request store, Decidable (permitted request store)] :
    List Request → Store → Option Store
  | [], store => some store
  | request :: requests, store =>
    if request.admissible store ∧ permitted request store then
      match execute codec request store with
      | .ok next => script codec permitted requests next
      | .error _ => none
    else none

theorem commits_of_script {codec : Codec} [∀ request store, Decidable (permitted request store)]
    {requests : List Request} {store last : Store} (done : script codec permitted requests store = some last) :
    Relation.ReflTransGen (Commits codec permitted) store last := by
  induction requests generalizing store with
  | nil =>
    cases done
    exact .refl
  | cons request requests ih =>
    unfold script at done
    split at done
    · rename_i allowed
      split at done
      · rename_i next committed
        exact .head ⟨request, allowed.1, allowed.2, committed⟩ (ih done)
      · cases done
    · cases done

/-- A script that ends in a store with a property shows that such a store is reachable. -/
theorem exists_of_script {codec : Codec} [∀ request store, Decidable (permitted request store)]
    (requests : List Request) {property : Store → Prop} [DecidablePred property]
    (holds : ((script codec permitted requests Store.initial).any fun store => property store) = true) :
    ∃ store, ReachableWhen codec permitted store ∧ property store := by
  cases done : script codec permitted requests Store.initial with
  | none => simp [done] at holds
  | some store => exact ⟨store, commits_of_script done, by simpa [done] using holds⟩

/-! Arguments of scripted runs. The codec reads and writes a given list of named values and digests bytes by a
checksum, which is all a script needs of it. -/
namespace Script

/-- Sixty-four hexadecimal digits that depend on every byte. -/
def checksum (bytes : Bytes) : String :=
  let total := bytes.foldl (fun sum byte => (sum * 257 + byte.toNat + 1) % 2 ^ 256) 0
  String.ofList ((List.range 64).map fun place => Nat.digitChar (total / 16 ^ place % 16))

/-- A codec for values whose text is their command key or response kind. -/
def codec (values : List Json) : Codec where
  sha256Hex := checksum
  toText value := ((value.str? "command_key").or (value.str? "kind")).getD ""
  fromSlice bytes := values.find? fun value =>
    utf8 (((value.str? "command_key").or (value.str? "kind")).getD "") == bytes
  decodeV1 _ := true

def ambient : Ambient where
  emergency := .normal
  walBytes := 0
  quota := none
  allocatedBytes := 0
  freeBytes := 0

def digest : String := String.ofList (List.replicate 64 'a')

def spec : AttemptSpec where
  effectProfile := "ISOLATED_WORKTREE"
  isolationLevel := "worktree"
  retryClass := "safe"
  adapterInstanceId := "codex:local:default:" ++ digest
  adapterVersion := "1"
  configVersion := 1
  configDigest := digest
  worktreeId := none

def submit (taskId commandKey : String) : Request :=
  .submit ambient "console" "task.submit" commandKey (utf8 taskId) taskId none 5 none 1

def claim (taskId : String) (generation : Int) : Request :=
  .claimDispatchSlot ambient s!"attempt:{taskId}:{generation}" s!"claim:{taskId}:{generation}" taskId generation spec
    SchedulerLimits.default 2

def phase (taskId : String) (generation : Int) (phase : DispatchPhase) : Request :=
  .recordDispatchPhase ambient s!"{phase.asStr}:{taskId}:{generation}" taskId generation phase (some "receipt") 3

def opening (taskId interactionId : String) : Request :=
  .openInteraction ambient interactionId s!"nonce:{interactionId}" s!"open:{interactionId}"
    { taskId, attemptId := s!"attempt:{taskId}:0", generation := 0, operationDigest := digest, policyDigest := digest,
      configDigest := digest, capabilityClass := .approval, configVersion := 1, policyVersion := 1, expiresAt := 100 } 3

def command (taskId interactionId kind : String) : Json :=
  .object [("command_key", .string s!"answer:{interactionId}"), ("config_digest", .string digest),
    ("generation", .number 0), ("interaction_id", .string interactionId),
    ("nonce", .string s!"nonce:{interactionId}"), ("operation_digest", .string digest),
    ("policy_digest", .string digest), ("response", .object [("kind", .string kind)]), ("task_id", .string taskId)]

/-- The values a codec must know to carry the answers of one kind to some interactions of a task. -/
def answers (taskId kind : String) (interactionIds : List String) : List Json :=
  .object [("kind", .string kind)] :: interactionIds.map fun interactionId => command taskId interactionId kind

def answer (interactionId : String) (kind : InteractionResponseKind) : ResponseRequest where
  consumerId := "console"
  commandKey := s!"answer:{interactionId}"
  canonicalCommandBytes := utf8 s!"answer:{interactionId}"
  interactionId := interactionId
  nonce := s!"nonce:{interactionId}"
  expectedGeneration := 0
  expectedOperationDigest := digest
  expectedPolicyDigest := digest
  expectedConfigDigest := digest
  responseKind := kind
  canonicalResponseBytes := utf8 kind.asStr

/-- The command that accepts the result of task `t`. -/
def acceptance : Json :=
  .object [("ack_token", .string digest), ("command_key", .string "review:t"), ("result_id", .string "result"),
    ("result_version", .number 1), ("task_id", .string "t"), ("verdict", .string "ACCEPTED")]

def reclaim (taskId : String) : Request :=
  .reclaimPreflightDispatchSlot ambient s!"reclaim-preflight:{taskId}:0" taskId 0 spec SchedulerLimits.default 5

end Script

end AgentMesh.Daemon
