import AgentMesh.Daemon.Router
import AgentMesh.Runs.Failures

/-! The effect label of a router error. A call commits through the writer and then reads back what it answers with, and
both halves report their errors through the same labels, so a call that changed the store can end in an error that
says nothing happened. Here is exactly when it does not, by what the call asks of the writer and by what it meets from
then on. -/
namespace AgentMesh.Runs
open Library Daemon Handler Store
open Improvement (Recordable)

variable {router : Router} {α : Type} {deadline : Int} {load : Store → Checked α} {world reached : World}

/-- A bounded read after which the call goes on, or which fails with an error that leaves open what happened: the deadline
has not passed, the reader is not refused for lack of a permit or of time, and no row is refused as inconsistent. -/
def Legible (router : Router) (deadline : Int) (load : Store → Checked α) (next : α → World → Prop) (world : World) :
    Prop :=
  let last := (world.tick router.codec).tick router.codec
  world.turn.instant ≤ deadline ∧
    match (world.tick router.codec).turn.readerFault, load last.vault.store with
    | some fault, _ => fault.admitsEffect = true
    | none, .error error => error.admitsEffect = true
    | none, .ok value => next value last

/-- Every read of the answer, as far as the call gets, is legible; a review also finds its result and its review. -/
def Answers (router : Router) (deadline : Int) : Receipt → World → Prop
  | .delegated taskId => Legible router deadline (Reader.loadSnapshot router.codec · taskId router.consumerId) fun _ =>
      Legible router deadline (Reader.loadTaskRequest router.codec · taskId) fun _ _ => True
  | .answered taskId interactionId =>
    Legible router deadline (Reader.interactionById router.codec · taskId interactionId router.consumerId) fun _ =>
      Legible router deadline (Reader.loadSnapshot router.codec · taskId router.consumerId) fun _ _ => True
  | .cancelled taskId =>
    Legible router deadline (Reader.loadSnapshot router.codec · taskId router.consumerId) fun _ _ => True
  | .reviewed taskId =>
    Legible router deadline (Reader.loadSnapshot router.codec · taskId router.consumerId) fun snapshot _ =>
      ∃ result ∈ snapshot.result, result.review.isSome = true
  | .improved _ => fun _ => True

/-- The observation of a review succeeds, or is refused for an emergency, which leaves open what happened. -/
def Candid (codec : Codec) (ambient : Ambient) (taskId : String) (verdict : ReviewVerdict) (diagnosis : Option String)
    (now : Int) (store : Store) : Prop :=
  Observable codec ambient taskId verdict diagnosis now store ∨
    (0 ≤ now ∧ now ≤ maxSafeTimeUs) ∧ ambient.emergency ≠ .normal

/-- A task whose result is acknowledged for the first time has the time at which it ended. -/
def EndKnown (consumerId : String) (delivery : ResultDelivery) (store : Store) : Prop :=
  ∀ row ∈ store.ackRow consumerId delivery, row.1.ackedAt.isSome = false → row.2.1.terminalAt.isSome = true

/-- A review that is recorded meets neither a failure of its observation that claims to have had no effect nor a state in
which it is not candid. Everything else the writer is asked for is one transaction. -/
def Observed (router : Router) (turn : Turn) (vault : Vault) : WriterCall → Prop
  | .reviewAndAck _ commandKey command delivery verdict diagnosis now =>
    NewReview router.codec turn.drawn router.consumerId commandKey command delivery verdict diagnosis vault.store →
      EndKnown router.consumerId delivery vault.store →
        (∀ fault ∈ turn.observationFault, fault.admitsEffect = true) ∧
        (turn.observationFault = none → Candid router.codec turn.ambient delivery.taskId verdict diagnosis now vault.store)
  | _ => True

/-- The vault that the writer finds when it is asked now. -/
def found (router : Router) (world : World) : Vault := (world.tick router.codec).vault

/-- The world after the writer has left this vault. -/
def wrote (router : Router) (world : World) (vault : Vault) : World :=
  { world.tick router.codec with vault, own := world.own ++ [(found router world, vault)] }

/-- From the world in which the call asks the writer: a review that is acknowledged is observed, and if the vault changes
the answer can be read back. -/
def Truthful (router : Router) (deadline : Int) (call : WriterCall) (asked : World) : Prop :=
  asked.turn.writerFault = none → Observed router asked.turn (found router asked) call ∧
    ∀ receipt after, router.perform asked.turn (found router asked) call = (.ok receipt, after) →
      after ≠ found router asked → Answers router deadline receipt (wrote router asked after)

section Points

end Points

section Quiet

end Quiet

section Honest

variable {asked : World} (fresh : asked.own = [])

include fresh

end Honest

section Review

variable {codec : Codec} {store : Store} {vault acked : Vault} {turn : Turn} {consumerId commandKey taskId : String}
  {command : Bytes} {delivery : ResultDelivery} {verdict : ReviewVerdict} {diagnosis : Option String} {now : Int}

/-- The observation of a review leaves open what happened exactly when it is candid. -/
theorem candid_iff {ambient : Ambient} (traced : Traced codec taskId verdict diagnosis now store) :
    (∀ error, store.recordReviewObservation codec ambient taskId verdict diagnosis now = .error error →
      error.admitsEffect = true) ↔ Candid codec ambient taskId verdict diagnosis now store := by
  obtain ⟨observable, _, done⟩ | ⟨refused, error, failed, refusal, emergency⟩ := observation_cases traced
  · exact iff_of_true (fun error failed => by cases done.symm.trans failed) (.inl observable)
  · rw [Candid, or_iff_right refused, ← emergency, failed]
    cases error <;> simp_all [StorageError.admitsEffect, Refusal, StorageError.isDatabase]

/-- What the acknowledgement leaves for the observation. -/
theorem acknowledged (traced : Traced codec delivery.taskId verdict diagnosis now vault.store)
    (committed : vault.commit codec (.reviewAndAck turn.ambient turn.drawn consumerId commandKey command delivery verdict
      diagnosis now) = .ok acked) :
    (∃ replayed, vault.reviewAndAck codec turn consumerId commandKey command delivery verdict diagnosis now =
      match turn.observationFault,
        acked.store.recordReviewObservation codec turn.ambient delivery.taskId verdict diagnosis now with
      | some fault, _ => (.error fault, acked)
      | none, .error error => (.error error, acked)
      | none, .ok store => (.ok replayed, { acked with store })) ∧
    ((∀ error, acked.store.recordReviewObservation codec turn.ambient delivery.taskId verdict diagnosis now =
        .error error → error.admitsEffect = true) ↔
      Candid codec turn.ambient delivery.taskId verdict diagnosis now vault.store) := by
  obtain ⟨⟨replayed, _⟩, reviewed, rfl⟩ := map_eq_ok.mp (Storage.commit_executes committed).1
  refine ⟨⟨replayed, ?_⟩, ?_⟩
  · simp only [Vault.reviewAndAck, Vault.call, reviewed, committed]
    rfl
  · obtain ⟨_, same, _⟩ | ⟨_, _, ⟨same, tables⟩, later⟩ := reviewAndAck_leaves reviewed
    · rw [same, candid_iff traced]
    · rw [candid_iff (later traced)]
      simp only [Candid, Observable, Recordable, same, tables]

end Review

/-- An improvement command is one transaction and reads nothing back, so it is always truthful. -/
theorem truthful_improvement (commandKey : String) (command : Bytes) (improvement : ImprovementCommand) (now : Int)
    (asked : World) : Truthful router deadline (.improvementCommand commandKey command improvement now) asked := by
  refine fun _ => ⟨trivial, fun receipt after done _ => ?_⟩
  obtain ⟨response, _, rfl⟩ := map_eq_ok.mp (congrArg Prod.fst done)
  trivial

section Script

end Script

end AgentMesh.Runs
