import AgentMesh.Daemon.Planner

/-! What one planning round dispatches: the ready candidates with free slots that come before the scan meets its bound
of adapter-blocked candidates. -/
namespace AgentMesh.Runs
open Library Daemon QueuedCandidate SchedulerPolicy List

section Scan

variable (policy : SchedulerPolicy) (occupancy : Occupancy) (now : Int) (candidates : List QueuedCandidate)
  (earlier : List PlannedDispatch) (adapter : String)

def scanned : PlanScan :=
  candidates.foldl (PlanScan.next policy now) (PlanScan.start policy occupancy)

def dispatched : List PlannedDispatch :=
  (scanned policy occupancy now candidates).plan.dispatch

def adapterUse : Nat :=
  occupancy.occupied adapter + earlier.countP fun dispatch => dispatch.adapterInstanceId == adapter

def Ready (candidate : QueuedCandidate) (adapter : String) : Prop :=
  candidate.adapterInstanceId = some adapter ∧ candidate.timerPending now = false

/-- A ready candidate whose adapter has no free slot after some dispatches. -/
def AdapterBlocked (candidate : QueuedCandidate) : Prop :=
  ∃ adapter, Ready now candidate adapter ∧ policy.limits.perAdapter ≤ adapterUse occupancy earlier adapter

/-- After some dispatches the adapter and the global limit have a free slot. -/
def Free : Prop :=
  adapterUse occupancy earlier adapter < policy.limits.perAdapter ∧
    occupancy.global + earlier.length < policy.limits.global

instance (earlier : List PlannedDispatch) (candidate : QueuedCandidate) :
    Decidable (AdapterBlocked policy occupancy now earlier candidate) :=
  match assigned : candidate.adapterInstanceId with
  | none => isFalse fun ⟨_, ready, _⟩ => by simp [ready.1] at assigned
  | some adapter =>
    decidable_of_iff (candidate.timerPending now = false ∧
      policy.limits.perAdapter ≤ adapterUse occupancy earlier adapter)
      ⟨fun ⟨elapsed, full⟩ => ⟨adapter, ⟨assigned, elapsed⟩, full⟩, fun ⟨other, ready, full⟩ => by
        obtain rfl : adapter = other := Option.some.inj (assigned.symm.trans ready.1)
        exact ⟨ready.2, full⟩⟩

/-- How many of the candidates are adapter-blocked, each after the dispatches planned before it. -/
def blockedCount : Nat :=
  candidates.zipIdx.countP fun entry =>
    decide (AdapterBlocked policy occupancy now (dispatched policy occupancy now (candidates.take entry.2)) entry.1)

end Scan

section Step

variable {policy : SchedulerPolicy} {occupancy : Occupancy} {now : Int}

theorem scanned_append (before : List QueuedCandidate) (candidate : QueuedCandidate) :
    scanned policy occupancy now (before ++ [candidate]) =
      (scanned policy occupancy now before).next policy now candidate := by
  simp [scanned]

theorem blockedCount_append (before : List QueuedCandidate) (candidate : QueuedCandidate) :
    blockedCount policy occupancy now (before ++ [candidate]) = blockedCount policy occupancy now before +
      if AdapterBlocked policy occupancy now (dispatched policy occupancy now before) candidate then 1 else 0 := by
  have earlier : before.zipIdx.countP (fun entry => decide (AdapterBlocked policy occupancy now
        (dispatched policy occupancy now ((before ++ [candidate]).take entry.2)) entry.1)) =
      blockedCount policy occupancy now before := by
    refine countP_congr fun entry member => ?_
    have inside := snd_lt_of_mem_zipIdx member
    rw [take_append_of_le_length (by omega)]
  rw [blockedCount, zipIdx_append, countP_append, earlier]
  simp [countP_cons]

/-- The local state of the loop, in terms of what has been planned: the remaining slots, and either the loop goes on and
has counted every adapter-blocked candidate, or it has met its bound of them or used up the global limit. -/
structure Accounts (policy : SchedulerPolicy) (occupancy : Occupancy) (count : Nat) (scan : PlanScan) : Prop where
  global : scan.remainingGlobal = policy.limits.global - (occupancy.global + scan.plan.dispatch.length)
  adapter : ∀ adapter, scan.remainingAdapter adapter =
    policy.limits.perAdapter - adapterUse occupancy scan.plan.dispatch adapter
  going : scan.stopped = false → scan.bypassed = count ∧ count < policy.bypassBound
  stopped : scan.stopped = true → policy.bypassBound ≤ count ∨
    policy.limits.global ≤ occupancy.global + scan.plan.dispatch.length

/-- The turns of the loop: none after its end, a skipped candidate, or a ready one. -/
inductive ScanTurn (policy : SchedulerPolicy) (now : Int) (candidate : QueuedCandidate) (scan : PlanScan) :
    PlanScan → Prop where
  | ended (stopped : scan.stopped = true) : ScanTurn policy now candidate scan scan
  | skipped (reason : DispatchBlockReason) (going : scan.stopped = false)
      (waiting : ∀ adapter, ¬Ready now candidate adapter) :
      ScanTurn policy now candidate scan (scan.block candidate reason)
  | ready (adapter : String) (going : scan.stopped = false) (ready : Ready now candidate adapter) :
      ScanTurn policy now candidate scan (scan.consider policy candidate adapter)

theorem turn_of_next (scan : PlanScan) (candidate : QueuedCandidate) :
    ScanTurn policy now candidate scan (scan.next policy now candidate) := by
  unfold PlanScan.next
  by_cases stopped : scan.stopped = true
  · rw [if_pos stopped]
    exact .ended stopped
  · have going : scan.stopped = false := by simpa using stopped
    rw [if_neg stopped]
    split
    · rename_i unassigned
      refine .skipped _ going fun adapter ready => ?_
      rw [ready.1] at unassigned
      cases unassigned
    · rename_i adapter assigned
      split_ifs with pending
      · refine .skipped _ going fun adapter ready => ?_
        rw [ready.2] at pending
        cases pending
      · exact .ready adapter going ⟨assigned, by simpa using pending⟩

/-- What a candidate adds to the plan: its dispatch, if it is ready, has free slots and the scan has met fewer
adapter-blocked candidates than its bound, and nothing otherwise. -/
inductive Outcome (policy : SchedulerPolicy) (occupancy : Occupancy) (now : Int) (count : Nat)
    (candidate : QueuedCandidate) (earlier : List PlannedDispatch) : List PlannedDispatch → Prop where
  | dispatched (adapter : String) (ready : Ready now candidate adapter) (free : Free policy occupancy earlier adapter)
      (early : count < policy.bypassBound) :
      Outcome policy occupancy now count candidate earlier (earlier ++ [candidate.planned adapter])
  | refused (blocked : ∀ adapter, Ready now candidate adapter → Free policy occupancy earlier adapter →
      policy.bypassBound ≤ count) : Outcome policy occupancy now count candidate earlier earlier

theorem adapterUse_append (earlier : List PlannedDispatch) (candidate : QueuedCandidate) (adapter other : String) :
    adapterUse occupancy (earlier ++ [candidate.planned adapter]) other =
      adapterUse occupancy earlier other + if adapter = other then 1 else 0 := by
  simp [adapterUse, planned, countP_append, countP_singleton]
  omega

theorem ready_unique {candidate : QueuedCandidate} {adapter other : String} (ready : Ready now candidate adapter)
    (also : Ready now candidate other) : adapter = other :=
  Option.mem_unique ready.1 also.1

section Turns

variable {count : Nat} {scan after : PlanScan} {candidate : QueuedCandidate}

theorem Accounts.consider (accounts : Accounts policy occupancy count scan) (going : scan.stopped = false)
    {adapter : String} (ready : Ready now candidate adapter) :
    Accounts policy occupancy
        (count + if AdapterBlocked policy occupancy now scan.plan.dispatch candidate then 1 else 0)
        (scan.consider policy candidate adapter) ∧
      Outcome policy occupancy now count candidate scan.plan.dispatch
        (scan.consider policy candidate adapter).plan.dispatch := by
  obtain ⟨global, adapters, counting, _⟩ := accounts
  obtain ⟨counted, early⟩ := counting going
  have left := adapters adapter
  have blocked : AdapterBlocked policy occupancy now scan.plan.dispatch candidate ↔
      scan.remainingAdapter adapter = 0 := by
    rw [left, Nat.sub_eq_zero_iff_le]
    refine ⟨fun ⟨other, also, full⟩ => ?_, fun full => ⟨adapter, ready, full⟩⟩
    rwa [ready_unique ready also]
  unfold PlanScan.consider
  by_cases full : scan.remainingAdapter adapter = 0
  · rw [if_pos full, if_pos (blocked.mpr full)]
    refine ⟨⟨global, adapters, fun ongoing => ?_, fun ended => .inl ?_⟩, .refused fun other also free => ?_⟩
    · have within : ¬policy.bypassBound ≤ scan.bypassed + 1 := of_decide_eq_false ongoing
      exact ⟨congrArg (· + 1) counted, by omega⟩
    · have met : policy.bypassBound ≤ scan.bypassed + 1 := of_decide_eq_true ended
      omega
    · have room := free.1
      rw [← ready_unique ready also] at room
      omega
  · rw [if_neg full, if_neg (mt blocked.mp full)]
    by_cases spent : scan.remainingGlobal = 0
    · rw [if_pos spent]
      refine ⟨⟨global, adapters, fun ongoing => (by cases ongoing), fun _ => .inr ?_⟩, .refused fun _ _ free => ?_⟩
      · have none : policy.limits.global - (occupancy.global + scan.plan.dispatch.length) = 0 := global.symm.trans spent
        exact Nat.sub_eq_zero_iff_le.mp none
      · have room := free.2
        omega
    · rw [if_neg spent]
      refine ⟨⟨?_, fun other => ?_, fun _ => ⟨counted, early⟩, fun ended => ?_⟩, .dispatched adapter ready ?_ early⟩
      · simp only [length_append, length_singleton]
        omega
      · have rest := adapters other
        simp only [adapterUse_append, eq_comm (a := other)]
        split_ifs with same
        · subst same
          omega
        · exact rest
      · have same : scan.stopped = true := ended
        rw [going] at same
        cases same
      · unfold Free
        omega

/-- One turn of the loop keeps the accounts and adds to the plan what the candidate is due. -/
theorem Accounts.turn (accounts : Accounts policy occupancy count scan) (turn : ScanTurn policy now candidate scan after) :
    Accounts policy occupancy
        (count + if AdapterBlocked policy occupancy now scan.plan.dispatch candidate then 1 else 0) after ∧
      Outcome policy occupancy now count candidate scan.plan.dispatch after.plan.dispatch := by
  cases turn with
  | ended stopped =>
    have ended := accounts.stopped stopped
    refine ⟨⟨accounts.global, accounts.adapter, fun going => ?_, fun _ => ?_⟩, .refused fun adapter _ free => ?_⟩
    · rw [stopped] at going
      cases going
    · omega
    · have room := free.2
      omega
  | skipped reason going waiting =>
    have unblocked : ¬AdapterBlocked policy occupancy now scan.plan.dispatch candidate :=
      fun ⟨adapter, ready, _⟩ => waiting adapter ready
    rw [if_neg unblocked]
    refine ⟨⟨accounts.global, accounts.adapter, fun _ => accounts.going going, fun ended => ?_⟩,
      .refused fun adapter ready _ => absurd ready (waiting adapter)⟩
    have same : scan.stopped = true := ended
    rw [going] at same
    cases same
  | ready adapter going ready => exact accounts.consider going ready

end Turns

theorem accounts_scanned (positive : 1 ≤ policy.bypassBound) (candidates : List QueuedCandidate) :
    Accounts policy occupancy (blockedCount policy occupancy now candidates)
      (scanned policy occupancy now candidates) := by
  induction candidates using reverseRecOn with
  | nil => exact ⟨rfl, fun _ => rfl, fun _ => ⟨rfl, positive⟩, fun ended => by cases ended⟩
  | append_singleton before candidate ih =>
    rw [blockedCount_append, scanned_append]
    exact (ih.turn (turn_of_next _ candidate)).1

theorem outcome_of_scan (positive : 1 ≤ policy.bypassBound) (before : List QueuedCandidate)
    (candidate : QueuedCandidate) :
    Outcome policy occupancy now (blockedCount policy occupancy now before) candidate
      (dispatched policy occupancy now before) (dispatched policy occupancy now (before ++ [candidate])) := by
  have turn := @turn_of_next policy now (scanned policy occupancy now before) candidate
  rw [← scanned_append] at turn
  exact ((accounts_scanned positive before).turn turn).2

end Step

section Order

theorem precedes_total (left right : QueuedCandidate) : left.precedes right ∨ right.precedes left := by
  unfold precedes
  have names := le_total left.taskId right.taskId
  grind

theorem precedes_trans {first second third : QueuedCandidate} (before : first.precedes second)
    (after : second.precedes third) : first.precedes third := by
  unfold precedes at *
  have names : first.taskId ≤ second.taskId → second.taskId ≤ third.taskId → first.taskId ≤ third.taskId := le_trans
  grind

instance : Std.Total precedes := ⟨precedes_total⟩

instance : IsTrans QueuedCandidate precedes := ⟨fun _ _ _ => precedes_trans⟩

theorem scanOrder_sorted (candidates : List QueuedCandidate) : (scanOrder candidates).Pairwise precedes :=
  pairwise_insertionSort _ _

end Order

section Plan

variable {policy : SchedulerPolicy} {occupancy : Occupancy} {now : Int}

section

variable (positive : 1 ≤ policy.bypassBound)

include positive

/-- Later candidates only add to the plan. -/
theorem dispatched_isPrefix (before after : List QueuedCandidate) :
    dispatched policy occupancy now before <+: dispatched policy occupancy now (before ++ after) := by
  induction after using reverseRecOn with
  | nil => simp
  | append_singleton after candidate ih =>
    rw [← append_assoc]
    refine ih.trans ?_
    have outcome := @outcome_of_scan policy occupancy now positive (before ++ after) candidate
    generalize dispatched policy occupancy now (before ++ after ++ [candidate]) = later at outcome
    cases outcome with
    | dispatched => exact prefix_append _ _
    | refused => exact prefix_rfl

theorem dispatched_of_bound (before after : List QueuedCandidate)
    (met : policy.bypassBound ≤ blockedCount policy occupancy now before) :
    dispatched policy occupancy now (before ++ after) = dispatched policy occupancy now before ∧
      policy.bypassBound ≤ blockedCount policy occupancy now (before ++ after) := by
  induction after using reverseRecOn with
  | nil => simpa using met
  | append_singleton after candidate ih =>
    rw [← append_assoc, blockedCount_append]
    refine ⟨?_, by omega⟩
    have outcome := @outcome_of_scan policy occupancy now positive (before ++ after) candidate
    generalize dispatched policy occupancy now (before ++ after ++ [candidate]) = later at outcome
    cases outcome with
    | dispatched _ _ _ early => omega
    | refused => exact ih.1

theorem dispatched_sublist (candidates : List QueuedCandidate) :
    ∃ chosen : List QueuedCandidate, chosen.Sublist candidates ∧
      (∀ candidate ∈ chosen, ∃ adapter, Ready now candidate adapter) ∧ dispatched policy occupancy now candidates =
        chosen.map fun candidate => candidate.planned (candidate.adapterInstanceId.getD "") := by
  induction candidates using reverseRecOn with
  | nil => exact ⟨[], .refl _, by simp, rfl⟩
  | append_singleton before candidate ih =>
    obtain ⟨chosen, sublist, waiting, same⟩ := ih
    have outcome := @outcome_of_scan policy occupancy now positive before candidate
    generalize dispatched policy occupancy now (before ++ [candidate]) = later at outcome
    cases outcome with
    | dispatched adapter ready =>
      refine ⟨chosen ++ [candidate], sublist.append (.refl _), ?_, ?_⟩
      · rw [forall_mem_append, forall_mem_singleton]
        exact ⟨waiting, adapter, ready⟩
      · rw [same, map_append, map_singleton, ready.1]
        rfl
    | refused => exact ⟨chosen, sublist.trans (sublist_append_left _ _), waiting, same⟩

theorem dispatched_distinct {candidates : List QueuedCandidate} (distinct : (candidates.map taskId).Nodup) :
    ((dispatched policy occupancy now (scanOrder candidates)).map PlannedDispatch.taskId).Nodup := by
  obtain ⟨chosen, sublist, _, same⟩ := @dispatched_sublist policy occupancy now positive (scanOrder candidates)
  have kept : (dispatched policy occupancy now (scanOrder candidates)).map PlannedDispatch.taskId =
      chosen.map taskId := by
    rw [same, map_map]
    rfl
  have perm := (perm_insertionSort precedes candidates).map taskId
  rw [kept]
  exact (sublist.map _).nodup (perm.nodup_iff.mpr distinct)

theorem dispatched_within (candidates : List QueuedCandidate) :
    (dispatched policy occupancy now candidates).length ≤ policy.limits.global - occupancy.global ∧
      ∀ adapter, ((dispatched policy occupancy now candidates).countP fun dispatch =>
        dispatch.adapterInstanceId == adapter) ≤ policy.limits.perAdapter - occupancy.occupied adapter := by
  induction candidates using reverseRecOn with
  | nil => exact ⟨Nat.zero_le _, fun _ => Nat.zero_le _⟩
  | append_singleton before candidate ih =>
    have outcome := @outcome_of_scan policy occupancy now positive before candidate
    generalize dispatched policy occupancy now (before ++ [candidate]) = later at outcome
    cases outcome with
    | dispatched adapter _ free =>
      obtain ⟨room, global⟩ := free
      rw [length_append, length_singleton]
      refine ⟨by omega, fun other => ?_⟩
      have rest := ih.2 other
      unfold adapterUse at room
      rw [countP_append, countP_singleton]
      split_ifs with same
      · have own : adapter = other := by simpa [planned] using same
        subst own
        omega
      · exact rest
    | refused => exact ih

end

/-- What the documentation of the scheduler promises of a plan: a ready candidate with free slots that comes after at
most `bypassBound` adapter-blocked ones is dispatched, none after more of them is, and the dispatches keep the order of
the scan, take each candidate once and stay within the limits. -/
structure Documented (candidates : List QueuedCandidate) (occupancy : Occupancy) (policy : SchedulerPolicy) (now : Int)
    (plan : DispatchPlan) : Prop where
  sorted : (scanOrder candidates).Perm candidates ∧ (scanOrder candidates).Pairwise precedes
  fair : ∀ before candidate after adapter, scanOrder candidates = before ++ candidate :: after →
    Ready now candidate adapter → blockedCount policy occupancy now before ≤ policy.bypassBound →
    Free policy occupancy (dispatched policy occupancy now before) adapter →
    dispatched policy occupancy now before ++ [candidate.planned adapter] <+: plan.dispatch
  bounded : ∀ before after, scanOrder candidates = before ++ after →
    policy.bypassBound < blockedCount policy occupancy now before →
    plan.dispatch = dispatched policy occupancy now before
  ordered : ∃ chosen : List QueuedCandidate, chosen.Sublist (scanOrder candidates) ∧
    plan.dispatch = chosen.map fun candidate => candidate.planned (candidate.adapterInstanceId.getD "")
  distinct : (candidates.map taskId).Nodup → (plan.dispatch.map PlannedDispatch.taskId).Nodup
  within : plan.dispatch.length ≤ policy.limits.global - occupancy.global ∧
    ∀ adapter, (plan.dispatch.countP fun dispatch => dispatch.adapterInstanceId == adapter) ≤
      policy.limits.perAdapter - occupancy.occupied adapter

/-- No ready candidate with free slots comes after exactly `bypassBound` adapter-blocked ones. -/
def NoneStranded (candidates : List QueuedCandidate) (occupancy : Occupancy) (policy : SchedulerPolicy) (now : Int) :
    Prop :=
  ∀ before candidate after adapter, scanOrder candidates = before ++ candidate :: after → Ready now candidate adapter →
    Free policy occupancy (dispatched policy occupancy now before) adapter →
    blockedCount policy occupancy now before ≠ policy.bypassBound

theorem positive_of_valid (valid : policy.validate = .ok ()) : 1 ≤ policy.bypassBound := by
  simp only [validate, eq_ok_iff] at valid
  obtain ⟨_, _, _, _, bound⟩ := valid
  exact bound.1

theorem limits_of_valid (valid : policy.validate = .ok ()) : policy.limits.valid = true := by
  simp only [validate, eq_ok_iff] at valid
  obtain ⟨_, global, _, perAdapter, _⟩ := valid
  simp only [SchedulerLimits.valid, Bool.and_eq_true, decide_eq_true_eq]
  exact ⟨⟨global, perAdapter.1⟩, perAdapter.2⟩

theorem planDispatch_eq (candidates : List QueuedCandidate) (valid : policy.validate = .ok ()) :
    planDispatch candidates occupancy policy now = .ok (scanned policy occupancy now (scanOrder candidates)).plan := by
  simp [planDispatch, valid, scanned, bind, Except.bind, pure, Except.pure]

/-- The plan is the documented one exactly when no ready candidate with free slots comes after as many adapter-blocked
candidates as the bound: the scan stops at the last one that it should still bypass. -/
theorem plan_documented_iff (candidates : List QueuedCandidate) (occupancy : Occupancy) (policy : SchedulerPolicy)
    (now : Int) (valid : policy.validate = .ok ()) : ∃ plan, planDispatch candidates occupancy policy now = .ok plan ∧
      (Documented candidates occupancy policy now plan ↔ NoneStranded candidates occupancy policy now) := by
  have positive := positive_of_valid valid
  have outcome := @outcome_of_scan policy occupancy now positive
  refine ⟨_, planDispatch_eq candidates valid, fun documented => ?_, fun settled => ?_⟩
  · intro before candidate after adapter split ready free met
    have promised := documented.fair before candidate after adapter split ready (Nat.le_of_eq met) free
    have stopped := (@dispatched_of_bound policy occupancy now positive before (candidate :: after)
      (Nat.le_of_eq met.symm)).1
    rw [← split] at stopped
    have shorter := promised.length_le
    have same : (scanned policy occupancy now (scanOrder candidates)).plan.dispatch =
        dispatched policy occupancy now before := stopped
    rw [same, length_append, length_singleton] at shorter
    omega
  · obtain ⟨chosen, sublist, _, same⟩ := @dispatched_sublist policy occupancy now positive (scanOrder candidates)
    refine ⟨⟨perm_insertionSort _ _, scanOrder_sorted candidates⟩, ?_, ?_, ⟨chosen, sublist, same⟩,
      dispatched_distinct positive, dispatched_within positive _⟩
    · intro before candidate after adapter split ready early free
      have added : dispatched policy occupancy now (before ++ [candidate]) =
          dispatched policy occupancy now before ++ [candidate.planned adapter] := by
        have result := outcome before candidate
        generalize dispatched policy occupancy now (before ++ [candidate]) = later at result
        cases result with
        | dispatched other also => rw [ready_unique ready also]
        | refused blocked =>
          have met := blocked adapter ready free
          exact absurd (Nat.le_antisymm early met) (settled before candidate after adapter split ready free)
      have grows := @dispatched_isPrefix policy occupancy now positive (before ++ [candidate]) after
      rw [added, append_assoc, singleton_append, ← split] at grows
      exact grows
    · intro before after split exceeded
      have stopped := (@dispatched_of_bound policy occupancy now positive before after (by omega)).1
      rw [← split] at stopped
      exact stopped

def queuedTask (taskId : String) (createdAt : Int) (adapter : String) : QueuedCandidate :=
  ⟨taskId, 0, .queued, 0, createdAt, none, some adapter⟩

def oneBusy : Occupancy := ⟨1, fun adapter => if adapter = "busy" then 1 else 0⟩

/-- A task behind one that waits for a busy adapter is dispatched. -/
theorem plan_documented_bypassed : ∃ plan,
    planDispatch [queuedTask "a" 0 "busy", queuedTask "b" 1 "free"] oneBusy default 0 = .ok plan ∧
      Documented [queuedTask "a" 0 "busy", queuedTask "b" 1 "free"] oneBusy default 0 plan := by
  obtain ⟨plan, planned, documented⟩ := plan_documented_iff [queuedTask "a" 0 "busy", queuedTask "b" 1 "free"] oneBusy
    default 0 (by decide)
  refine ⟨plan, planned, documented.mpr fun before candidate after _ split _ _ met => ?_⟩
  have few : blockedCount default oneBusy 0 before ≤ before.zipIdx.length := countP_le_length
  rw [length_zipIdx] at few
  have size := congrArg length split
  have two : (scanOrder [queuedTask "a" 0 "busy", queuedTask "b" 1 "free"]).length = 2 := by decide
  have bound : default.bypassBound = 4 := rfl
  rw [two, length_append, length_cons] at size
  omega

/-- Behind four tasks that wait for a busy adapter, as many as the default policy says may be bypassed, a task with free
slots is not dispatched. -/
theorem fourth_blocked_stops : ∃ before candidate plan,
    scanOrder [queuedTask "a" 0 "busy", queuedTask "b" 1 "busy", queuedTask "c" 2 "busy", queuedTask "d" 3 "busy",
      queuedTask "e" 4 "free"] = before ++ [candidate] ∧ Ready 0 candidate "free" ∧
    blockedCount default oneBusy 0 before ≤ default.bypassBound ∧
    Free default oneBusy (dispatched default oneBusy 0 before) "free" ∧
    planDispatch [queuedTask "a" 0 "busy", queuedTask "b" 1 "busy", queuedTask "c" 2 "busy", queuedTask "d" 3 "busy",
      queuedTask "e" 4 "free"] oneBusy default 0 = .ok plan ∧ plan.dispatch = [] := by
  refine ⟨[queuedTask "a" 0 "busy", queuedTask "b" 1 "busy", queuedTask "c" 2 "busy", queuedTask "d" 3 "busy"],
    queuedTask "e" 4 "free", _, by decide, ⟨rfl, rfl⟩, by decide, by unfold Free; decide, planDispatch_eq _ rfl, ?_⟩
  decide

end Plan

end AgentMesh.Runs
