import AgentMesh.Daemon.Schema
import AgentMesh.Library.Checked

/-! Concurrency limits and adapter identities (`scheduler.rs`). -/
namespace AgentMesh.Daemon
open Library

structure SchedulerLimits where
  global : Nat
  perAdapter : Nat
  deriving DecidableEq, Repr

namespace SchedulerLimits

def maxGlobalLimit : Nat := 16
def maxPerAdapterLimit : Nat := 4

def default : SchedulerLimits := ⟨3, 1⟩

/-- `SchedulerLimits::validate`. -/
def valid (limits : SchedulerLimits) : Bool :=
  1 ≤ limits.global && limits.global ≤ maxGlobalLimit &&
    1 ≤ limits.perAdapter && limits.perAdapter ≤ maxPerAdapterLimit

end SchedulerLimits

/-- The limits and the number of adapter-blocked candidates that one planning round may meet. -/
structure SchedulerPolicy where
  limits : SchedulerLimits
  bypassBound : Nat
  deriving DecidableEq, Repr

inductive LimitsError where
  | globalOutOfRange (value : Nat)
  | perAdapterOutOfRange (value : Nat)
  | bypassBoundOutOfRange (value : Nat)
  deriving DecidableEq, Repr

namespace SchedulerPolicy

def defaultBypassBound : Nat := 4
def maxBypassBound : Nat := 128

def default : SchedulerPolicy := ⟨SchedulerLimits.default, defaultBypassBound⟩

def validate (policy : SchedulerPolicy) : Except LimitsError Unit := do
  ensure (1 ≤ policy.limits.global ∧ policy.limits.global ≤ SchedulerLimits.maxGlobalLimit)
    (LimitsError.globalOutOfRange policy.limits.global)
  ensure (1 ≤ policy.limits.perAdapter ∧ policy.limits.perAdapter ≤ SchedulerLimits.maxPerAdapterLimit)
    (LimitsError.perAdapterOutOfRange policy.limits.perAdapter)
  ensure (1 ≤ policy.bypassBound ∧ policy.bypassBound ≤ maxBypassBound)
    (LimitsError.bypassBoundOutOfRange policy.bypassBound)

end SchedulerPolicy

/-- An adapter instance: agent family, local account, profile and configuration digest. -/
structure AdapterInstanceId where
  family : List Char
  account : List Char
  profile : List Char
  configDigest : List Char
  deriving DecidableEq, Repr

namespace AdapterInstanceId

def isFamily (value : List Char) : Bool :=
  !value.isEmpty && value.all fun char => ('a' ≤ char && char ≤ 'z') || char.isDigit || char == '-'

def isSelector (value : List Char) : Bool :=
  value.all fun char => char.isAlphanum || char == '.' || char == '_' || char == '-'

def isLowerHex (value : List Char) : Bool :=
  value.all fun char => char.isDigit || ('a' ≤ char && char ≤ 'f')

def new (family account profile configDigest : List Char) : Option AdapterInstanceId :=
  if !isFamily family || 12 < family.length then none
  else if !isSelector account || account.isEmpty || 16 < account.length then none
  else if !isSelector profile || profile.isEmpty || 16 < profile.length then none
  else if !isLowerHex configDigest || configDigest.length != 64 then none
  else some ⟨family, account, profile, configDigest⟩

/-- `AdapterInstanceId::parse`: exactly four components between colons. -/
def parse (value : String) : Option AdapterInstanceId :=
  match value.toList.splitOn ':' with
  | [family, account, profile, configDigest] => new family account profile configDigest
  | _ => none

end AdapterInstanceId

end AgentMesh.Daemon
