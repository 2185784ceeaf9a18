import AgentMesh.Runs.Operations

/-! The mailbox of the sole writer (`call`, `shutdown` and `run` in `writer.rs`). Calls of any number of threads
are admitted under the lock of the phase, wait in a bounded queue and are run by the one thread that owns the storage. -/
namespace AgentMesh.Runs.Mailbox
open Relation Daemon

inductive WriterPhase where
  | running | shuttingDown | stopped

inductive CallError where
  | stopped | writerBackpressure

inductive Command (Call : Type) where
  | execute (call : Call)
  | shutdown

def Command.call {Call : Type} : Command Call → Option Call
  | execute call => some call
  | shutdown => none

variable {Call σ ρ : Type}

structure Writer (Call σ ρ : Type) where
  phase : WriterPhase
  mailbox : List (Command Call)
  /-- The caller of `shutdown` that changed the phase has not sent its command yet. -/
  sending : Bool
  /-- The thread is still in `run`. -/
  serving : Bool
  storage : σ
  /-- The calls that got an error at once. -/
  rejected : List (Call × CallError)
  /-- The calls in the order in which they were sent. -/
  admitted : List Call
  /-- The operations in the order in which they were run, with the result of each or `none` if it unwound. -/
  served : List (Call × Option ρ)

def Writer.initial (storage : σ) : Writer Call σ ρ := ⟨.running, [], false, true, storage, [], [], []⟩

def mailboxCapacity : Nat := 128

variable (operation : Call → σ → Option ρ × σ)

/-- One atomic action of a caller or of the writer's thread. A boxed operation leaves a storage, and sends its result
unless it unwinds. The receiver outlives the phase `running`, so `try_send` never finds it dropped. -/
inductive Step (writer : Writer Call σ ρ) : Writer Call σ ρ → Prop where
  | reject (call : Call) (error : CallError) (new : call ∉ writer.admitted)
    (refused : error = .stopped ∧ writer.phase ≠ .running ∨ error = .writerBackpressure ∧ writer.phase = .running ∧
      mailboxCapacity ≤ writer.mailbox.length) :
    Step writer { writer with rejected := (call, error) :: writer.rejected }
  | send (call : Call) (new : call ∉ writer.admitted ∧ call ∉ writer.rejected.map Prod.fst)
    (running : writer.phase = .running) (room : writer.mailbox.length < mailboxCapacity) :
    Step writer { writer with
      mailbox := writer.mailbox ++ [.execute call], admitted := writer.admitted ++ [call] }
  | beginShutdown (running : writer.phase = .running) :
    Step writer { writer with phase := .shuttingDown, sending := true }
  | sendShutdown (sending : writer.sending = true) (room : writer.mailbox.length < mailboxCapacity) :
    Step writer { writer with mailbox := writer.mailbox ++ [.shutdown], sending := false }
  | execute {call rest} (serving : writer.serving = true) (head : writer.mailbox = .execute call :: rest) :
    Step writer { writer with
      mailbox := rest, serving := (operation call writer.storage).1.isSome
      storage := (operation call writer.storage).2
      served := writer.served ++ [(call, (operation call writer.storage).1)] }
  | quit {rest} (serving : writer.serving = true) (head : writer.mailbox = .shutdown :: rest) :
    Step writer { writer with mailbox := rest, serving := false }
  | markStopped (ended : writer.serving = false) : Step writer { writer with phase := .stopped }

/-- A single caller that runs its operations one after another. -/
inductive Sequential (start : σ) : List (Call × Option ρ) → σ → Prop where
  | nil : Sequential start [] start
  | snoc {served storage} (earlier : Sequential start served storage) (call : Call) :
    Sequential start (served ++ [(call, (operation call storage).1)]) (operation call storage).2

/-- What holds under every interleaving of the callers and the writer's thread. -/
structure Sound (start : σ) (writer : Writer Call σ ρ) : Prop where
  sequential : Sequential operation start writer.served writer.storage
  queued : writer.admitted = writer.served.map Prod.fst ++ writer.mailbox.filterMap Command.call
  distinct : writer.admitted.Nodup
  apart : ∀ call ∈ writer.admitted, call ∉ writer.rejected.map Prod.fst
  last : .shutdown ∉ writer.mailbox.dropLast
  closing : .shutdown ∈ writer.mailbox → writer.phase ≠ .running ∧ writer.sending = false
  sent : writer.sending = true → writer.phase ≠ .running
  ended : writer.serving = false → writer.admitted = writer.served.map Prod.fst ∧ writer.phase ≠ .running ∨
    ∃ call, (call, none) ∈ writer.served
  stopped : writer.phase = .stopped → writer.serving = false

variable {operation} {start : σ} {writer next : Writer Call σ ρ}

/-- Operations that are runs of transactions make up one such run. -/
theorem Sequential.committed {codec : Codec} {start store : Store} {operation : Call → Store → Option ρ × Store}
    {served : List (Call × Option ρ)} (sequential : Sequential operation start served store)
    (transactions : ∀ call store, Committed codec store (operation call store).2) : Committed codec start store := by
  induction sequential with
  | nil => exact .refl
  | snoc _ call earlier => exact earlier.trans (transactions call _)

theorem Sound.step (sound : Sound operation start writer) (step : Step operation writer next) :
    Sound operation start next := by
  have ⟨sequential, queued, distinct, apart, last, closing, sent, ended, stopped⟩ := sound
  cases step with
  | reject => exact { sound with apart := by grind }
  | send =>
    exact { sound with
      queued := by simp [queued, Command.call], distinct := by grind, apart := by grind, last := by grind
      closing := by grind, ended := by grind }
  | beginShutdown => exact { sound with closing := by grind, sent := by grind, ended := by grind, stopped := by grind }
  | sendShutdown =>
    exact { sound with
      queued := by simp [queued, Command.call], last := by grind, closing := by grind, sent := by grind }
  | @execute call rest serving head =>
    rw [head] at last
    exact { sound with
      sequential := sequential.snoc call, queued := by simp [queued, head, Command.call]
      last := by cases rest <;> simp_all, closing := by grind, ended := fun unwound => .inr ⟨call, by simp_all⟩
      stopped := by grind }
  | @quit rest serving head =>
    -- Nothing was sent after the command, so every call that was sent has been run.
    obtain rfl : rest = [] := by
      rw [head] at last
      cases rest <;> simp_all
    exact { sound with
      queued := by simp [queued, head, Command.call], last := by simp, closing := by simp
      ended := fun _ => .inl ⟨by simp [queued, head, Command.call], by grind⟩, stopped := by simp }
  | markStopped => exact { sound with closing := by grind, sent := by grind, ended := by grind, stopped := by grind }

theorem sound_of_run (run : ReflTransGen (Step operation) (.initial start) writer) : Sound operation start writer := by
  induction run with
  | refl => constructor <;> simp [Writer.initial, Sequential.nil]
  | tail _ step sound => exact sound.step step

/-- Concurrent calls are linearizable: the operations ran one at a time in the order in which they were sent, each at
most once, and a rejected call never ran. In the phase `stopped`, which `shutdown` waits for, all that was sent has run
unless an operation panicked, and nothing runs any more. -/
theorem calls_linearizable {codec : Codec} {start : Store} {operation : Call → Store → Option ρ × Store}
    {writer : Writer Call Store ρ} (run : ReflTransGen (Step operation) (.initial start) writer) :
    Sequential operation start writer.served writer.storage ∧
      writer.served.map Prod.fst <+: writer.admitted ∧ writer.admitted.Nodup ∧
      ((∀ call store, Committed codec store (operation call store).2) → Committed codec start writer.storage) ∧
      (∀ call ∈ writer.rejected.map Prod.fst, ∀ reply, (call, reply) ∉ writer.served) ∧
      (writer.phase = .stopped →
        (writer.served.map Prod.fst = writer.admitted ∨ ∃ call, (call, none) ∈ writer.served) ∧
        ∀ next, ReflTransGen (Step operation) writer next →
          next.served = writer.served ∧ next.storage = writer.storage) := by
  have sound := sound_of_run run
  refine ⟨sound.sequential, ⟨_, sound.queued.symm⟩, sound.distinct, sound.sequential.committed, ?_,
    fun stopped => ⟨?_, fun next later => ?_⟩⟩
  · intro call rejected reply member
    have admitted : call ∈ writer.admitted := by
      rw [sound.queued]
      exact List.mem_append_left _ (List.mem_map_of_mem member)
    exact sound.apart call admitted rejected
  · exact (sound.ended (sound.stopped stopped)).imp (fun all => all.1.symm) id
  · suffices same : next.phase = .stopped ∧ next.served = writer.served ∧ next.storage = writer.storage from same.2
    induction later with
    | refl => exact ⟨stopped, rfl, rfl⟩
    | tail later step same =>
      have ended := (sound_of_run (run.trans later)).stopped same.1
      cases step <;> grind

/-- A panic stops the writer for good. -/
theorem calls_linearizable_panic : ∃ writer : Writer Unit Store Unit, writer.phase = .stopped ∧
    writer.served = [((), none)] ∧ ∀ next, ReflTransGen (Step fun _ store => (none, store)) writer next →
      next.served = [((), none)] := by
  have run : ReflTransGen (Step fun (_ : Unit) store => ((none : Option Unit), store)) (.initial Store.initial) _ :=
    ((ReflTransGen.refl.tail (.send () (by simp [Writer.initial]) rfl (by decide))).tail (.execute rfl rfl)).tail
      (.markStopped rfl)
  have stopped := (@calls_linearizable _ _ (Script.codec []) _ _ _ run).2.2.2.2.2 rfl
  exact ⟨_, rfl, rfl, fun next later => (stopped.2 next later).1⟩

end AgentMesh.Runs.Mailbox
