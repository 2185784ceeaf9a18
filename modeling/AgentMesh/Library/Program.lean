import Mathlib

/-! Programs that make requests to their surroundings and may be cut short between any two of them. A postcondition is
proved together with an invariant that holds whenever the program stops, so that it can be started again. -/
namespace AgentMesh.Library
open List

/-- A program ends with a value or an error, or makes a request and goes on with the reply. -/
inductive Program (ε Request : Type) (Payload : Request → Type) (α : Type) where
  | done (value : α)
  | fail (error : ε)
  | call (request : Request) (next : Except ε (Payload request) → Program ε Request Payload α)

namespace Program

variable {ε Request : Type} {Payload : Request → Type} {World α β : Type}

def bind : Program ε Request Payload α → (α → Program ε Request Payload β) → Program ε Request Payload β
  | done value, next => next value
  | fail error, _ => fail error
  | call request after, next => call request fun reply => (after reply).bind next

instance : Monad (Program ε Request Payload) where
  pure := done
  bind := bind

def perform (request : Request) : Program ε Request Payload (Payload request) :=
  call request fun
    | .ok value => done value
    | .error error => fail error

def attempt (request : Request) : Program ε Request Payload (Except ε (Payload request)) := call request done

def check (condition : Prop) [Decidable condition] (error : ε) : Program ε Request Payload Unit :=
  if condition then done () else fail error

def result : Program ε Request Payload α → Option (Except ε α)
  | done value => some (.ok value)
  | fail error => some (.error error)
  | call _ _ => none

abbrev Entry (ε Request : Type) (Payload : Request → Type) := (request : Request) × Except ε (Payload request)

abbrev Answers (ε Request : Type) (Payload : Request → Type) (World : Type) :=
  World → (request : Request) → Except ε (Payload request) → World → Prop

/-- The program makes the listed requests and is then what is left of it. -/
inductive Runs (answers : Answers ε Request Payload World) :
    Program ε Request Payload α → World → List (Entry ε Request Payload) → Program ε Request Payload α → World → Prop
  | stop (program : Program ε Request Payload α) (world : World) : Runs answers program world [] program world
  | step {request : Request} {next : Except ε (Payload request) → Program ε Request Payload α}
      {reply : Except ε (Payload request)} {before after last : World} {trace : List (Entry ε Request Payload)}
      {rest : Program ε Request Payload α} (answered : answers before request reply after)
      (later : Runs answers (next reply) after trace rest last) :
      Runs answers (call request next) before (⟨request, reply⟩ :: trace) rest last

/-- The program is started any number of times, and each start is cut short somewhere or ends. -/
inductive Attempts (answers : Answers ε Request Payload World) (program : Program ε Request Payload α) :
    World → List (Entry ε Request Payload) → World → Prop
  | none (world : World) : Attempts answers program world [] world
  | more {first before after : World} {earlier trace : List (Entry ε Request Payload)}
      {rest : Program ε Request Payload α} (attempts : Attempts answers program first earlier before)
      (run : Runs answers program before trace rest after) : Attempts answers program first (earlier ++ trace) after

/-- At every request and at the end the invariant holds, and at the end the postcondition. Both may speak of the requests
made so far. -/
def Holds (answers : Answers ε Request Payload World) (invariant : World → List (Entry ε Request Payload) → Prop)
    (post : Except ε α → World → List (Entry ε Request Payload) → Prop) :
    Program ε Request Payload α → World → List (Entry ε Request Payload) → Prop
  | done value, world, trace => invariant world trace ∧ post (.ok value) world trace
  | fail error, world, trace => invariant world trace ∧ post (.error error) world trace
  | call request next, world, trace => invariant world trace ∧ ∀ reply after, answers world request reply after →
      Holds answers invariant post (next reply) after (trace ++ [⟨request, reply⟩])

variable {answers : Answers ε Request Payload World} {invariant : World → List (Entry ε Request Payload) → Prop}
  {post : Except ε α → World → List (Entry ε Request Payload) → Prop} {program rest : Program ε Request Payload α}
  {world after : World} {trace more : List (Entry ε Request Payload)}

@[simp]
theorem holds_done (value : α) : Holds answers invariant post (done value) world trace ↔
    invariant world trace ∧ post (.ok value) world trace := Iff.rfl

@[simp]
theorem holds_pure (value : α) : Holds answers invariant post (pure value) world trace ↔
    invariant world trace ∧ post (.ok value) world trace := Iff.rfl

@[simp]
theorem holds_fail (error : ε) : Holds answers invariant post (fail error) world trace ↔
    invariant world trace ∧ post (.error error) world trace := Iff.rfl

theorem Holds.now (holds : Holds answers invariant post program world trace) : invariant world trace := by
  cases program with
  | done => exact holds.1
  | fail => exact holds.1
  | call => exact holds.1

theorem Holds.imp {other : Except ε α → World → List (Entry ε Request Payload) → Prop}
    (weaker : ∀ result world trace, post result world trace → other result world trace)
    (holds : Holds answers invariant post program world trace) : Holds answers invariant other program world trace := by
  induction program generalizing world trace with
  | done value | fail error => exact ⟨holds.1, weaker _ _ _ holds.2⟩
  | call request next ih => exact ⟨holds.1, fun reply after answered => ih reply (holds.2 reply after answered)⟩

theorem holds_bind {program : Program ε Request Payload β} {next : β → Program ε Request Payload α} :
    Holds answers invariant post (program >>= next) world trace ↔
      Holds answers invariant (fun result world trace => match result with
        | .ok value => Holds answers invariant post (next value) world trace
        | .error error => post (.error error) world trace) program world trace := by
  induction program generalizing world trace with
  | done value => exact ⟨fun holds => ⟨holds.now, holds⟩, fun holds => holds.2⟩
  | fail error => exact Iff.rfl
  | call request after ih =>
    exact and_congr_right fun _ => forall₃_congr fun reply after _ => ih reply

theorem holds_perform {request : Request}
    {post : Except ε (Payload request) → World → List (Entry ε Request Payload) → Prop} :
    Holds answers invariant post (perform request) world trace ↔ invariant world trace ∧
      ∀ reply after, answers world request reply after →
        invariant after (trace ++ [⟨request, reply⟩]) ∧ post reply after (trace ++ [⟨request, reply⟩]) := by
  refine and_congr_right fun _ => forall₃_congr fun reply after _ => ?_
  cases reply <;> exact Iff.rfl

theorem holds_attempt {request : Request}
    {post : Except ε (Except ε (Payload request)) → World → List (Entry ε Request Payload) → Prop} :
    Holds answers invariant post (attempt request) world trace ↔ invariant world trace ∧
      ∀ reply after, answers world request reply after →
        invariant after (trace ++ [⟨request, reply⟩]) ∧ post (.ok reply) after (trace ++ [⟨request, reply⟩]) :=
  Iff.rfl

theorem holds_check {condition : Prop} [Decidable condition] {error : ε}
    {post : Except ε Unit → World → List (Entry ε Request Payload) → Prop} :
    Holds answers invariant post (check condition error) world trace ↔ invariant world trace ∧
      (condition → post (.ok ()) world trace) ∧ (¬condition → post (.error error) world trace) := by
  unfold check
  split
  · rename_i holds
    simp [holds]
  · rename_i fails
    simp [fails]

section

variable (holds : Holds answers invariant post program world trace) (runs : Runs answers program world more rest after)

include holds runs

theorem Holds.remaining : Holds answers invariant post rest after (trace ++ more) := by
  induction runs generalizing trace with
  | stop => rwa [append_nil]
  | step answered _ ih =>
    have later := ih (holds.2 _ _ answered)
    rwa [append_assoc, singleton_append] at later

theorem Holds.result {result : Except ε α} (ended : rest.result = some result) : post result after (trace ++ more) := by
  have left := holds.remaining runs
  cases rest with
  | done value | fail error =>
    obtain rfl := Option.some.inj ended
    exact left.2
  | call => contradiction

end

/-- An invariant under which the program can be started holds after any number of starts. -/
theorem Attempts.keeps (attempts : Attempts answers program world more after)
    (restarts : ∀ world trace, invariant world trace →
      Holds answers invariant (fun _ _ _ => True) program world trace)
    (initially : invariant world trace) : invariant after (trace ++ more) := by
  induction attempts with
  | none => rwa [append_nil]
  | more _ run ih =>
    rw [← append_assoc]
    exact ((restarts _ _ ih).remaining run).now

theorem forall_split_append {allowed : List β → β → Prop} {entries : List β} {entry : β}
    (each : ∀ before other after, entries = before ++ other :: after → allowed before other)
    (new : allowed entries entry) :
    ∀ before other after, entries ++ [entry] = before ++ other :: after → allowed before other := by
  intro before other after split
  obtain rfl | ⟨rest, last, rfl⟩ := after.eq_nil_or_concat'
  · obtain ⟨rfl, same⟩ := append_inj' split rfl
    rw [cons.injEq] at same
    rw [← same.1]
    exact new
  · rw [← cons_append, ← append_assoc] at split
    exact each before other rest (append_inj' split rfl).1

theorem exists_run (total : ∀ world request, ∃ reply after, answers world request reply after)
    (program : Program ε Request Payload α) (world : World) :
    ∃ trace rest after, Runs answers program world trace rest after ∧ rest.result.isSome := by
  induction program generalizing world with
  | done value | fail error => exact ⟨[], _, world, .stop _ _, rfl⟩
  | call request next ih =>
    obtain ⟨reply, middle, answered⟩ := total world request
    obtain ⟨trace, rest, after, later, ended⟩ := ih reply middle
    exact ⟨_, rest, after, .step answered later, ended⟩

end Program

end AgentMesh.Library
