import Mathlib

/-!
# Failed partitions

The controller pauses the partition of a failed record, and resumes it at the failed offset
after a delay.  It never advances an offset itself.
-/

namespace MatchPlane.Projection

/-! ## Durations -/

structure Duration where
  nanos : Nat
  bounded : nanos ≤ 18446744073709551615999999999
  deriving DecidableEq, Repr

namespace Duration

theorem nanos_injective : Function.Injective nanos := by
  rintro ⟨first, _⟩ ⟨second, _⟩ h
  cases h
  rfl

instance : LinearOrder Duration := LinearOrder.lift' nanos nanos_injective

theorem le_def {first second : Duration} : first ≤ second ↔ first.nanos ≤ second.nanos := Iff.rfl

/-- A number of nanoseconds, or the longest duration. -/
def saturate (nanos : Nat) : Duration :=
  ⟨min nanos 18446744073709551615999999999, min_le_right _ _⟩

def fromMillis (millis : Nat) : Duration := saturate (millis * 1000000)

def saturatingMul (duration : Duration) (factor : Nat) : Duration :=
  saturate (duration.nanos * factor)

def saturatingAdd (duration other : Duration) : Duration :=
  saturate (duration.nanos + other.nanos)

theorem le_saturatingMul (duration : Duration) {factor : Nat} (h : 0 < factor) :
    duration ≤ duration.saturatingMul factor :=
  le_min (Nat.le_mul_of_pos_right _ h) duration.bounded

theorem le_saturatingAdd (duration other : Duration) : duration ≤ duration.saturatingAdd other :=
  le_min (Nat.le_add_right _ _) duration.bounded

end Duration

/-- Nanoseconds of the monotonic clock. -/
abbrev Instant := Nat

/-! ## Records -/

structure KafkaPartition where
  topic : String
  partition : Int
  deriving DecidableEq, Repr

structure KafkaRecordLocation where
  topic : String
  partition : Int
  offset : Int
  deriving DecidableEq, Repr

def KafkaRecordLocation.partitionKey (location : KafkaRecordLocation) : KafkaPartition :=
  ⟨location.topic, location.partition⟩

/-- An offset of a partition is one record. -/
theorem KafkaRecordLocation.eq_of_offset {first second : KafkaRecordLocation}
    (hpartition : first.partitionKey = second.partitionKey) (hoffset : first.offset = second.offset) :
    first = second := by
  cases first
  cases second
  simp_all [KafkaRecordLocation.partitionKey]

structure RetryState where
  location : KafkaRecordLocation
  attempts : Nat
  resumeAt : Option Instant
  deriving DecidableEq, Repr

structure ScheduledRetry where
  attempts : Nat
  delay : Duration
  deriving DecidableEq, Repr

/-! ## The controller -/

structure PartitionFailureController where
  retrying : AList fun _ : KafkaPartition => RetryState
  blocked : Finset KafkaPartition
  initialBackoff : Duration
  maxBackoff : Duration
  keyed : ∀ partition state, retrying.lookup partition = some state →
    state.location.partitionKey = partition
  ordered : initialBackoff ≤ maxBackoff

def retryDelay (initial maximum : Duration) (attempts : Nat) (location : KafkaRecordLocation) :
    Duration :=
  let shift := min (attempts - 1) 16
  let multiplier := 2 ^ shift
  let base := min (initial.saturatingMul multiplier) maximum
  let seed : UInt64 := UInt64.ofNat location.offset.natAbs ^^^
    UInt64.ofNat location.partition.natAbs ^^^ (UInt64.ofNat attempts * 0x9e3779b9)
  let jitter := Duration.fromMillis (seed % 251).toNat
  min (base.saturatingAdd jitter) maximum

/-- No delay is shorter than the initial one or longer than the maximum. -/
theorem retryDelay_bounds {initial maximum : Duration} (h : initial ≤ maximum) (attempts : Nat)
    (location : KafkaRecordLocation) : initial ≤ retryDelay initial maximum attempts location ∧
      retryDelay initial maximum attempts location ≤ maximum := by
  constructor
  · apply le_min _ h
    apply le_trans _ (Duration.le_saturatingAdd _ _)
    exact le_min (initial.le_saturatingMul (Nat.two_pow_pos _)) h
  · exact min_le_right _ _

namespace PartitionFailureController

def new (initialBackoff maxBackoff : Duration) : PartitionFailureController where
  retrying := ∅
  blocked := ∅
  initialBackoff := max initialBackoff (.fromMillis 1)
  maxBackoff := max maxBackoff (max initialBackoff (.fromMillis 1))
  keyed := by simp
  ordered := le_max_right _ _

variable (controller : PartitionFailureController)

def shouldDefer (location : KafkaRecordLocation) : Bool :=
  (controller.retrying.lookup location.partitionKey).any (·.resumeAt.isSome) ||
    location.partitionKey ∈ controller.blocked

/-- Writes the state of a partition. -/
def setRetry (state : RetryState) : PartitionFailureController where
  retrying := controller.retrying.insert state.location.partitionKey state
  blocked := controller.blocked
  initialBackoff := controller.initialBackoff
  maxBackoff := controller.maxBackoff
  keyed := by
    intro partition other h
    by_cases hpartition : partition = state.location.partitionKey
    · rw [hpartition, AList.lookup_insert] at h
      cases h
      exact hpartition.symm
    · rw [AList.lookup_insert_ne hpartition] at h
      exact controller.keyed partition other h
  ordered := controller.ordered

/-- Forgets the state of a partition. -/
def removeRetry (partition : KafkaPartition) : PartitionFailureController where
  retrying := controller.retrying.erase partition
  blocked := controller.blocked
  initialBackoff := controller.initialBackoff
  maxBackoff := controller.maxBackoff
  keyed := by
    intro other state h
    by_cases hother : other = partition
    · rw [hother, AList.lookup_erase] at h
      cases h
    · rw [AList.lookup_erase_ne hother] at h
      exact controller.keyed other state h
  ordered := controller.ordered

def registerRetry (location : KafkaRecordLocation) (now : Instant) :
    ScheduledRetry × PartitionFailureController :=
  let partition := location.partitionKey
  let attempts :=
    match (controller.retrying.lookup partition).filter
        fun state => state.location.offset = location.offset with
    | some state => min (state.attempts + 1) (2 ^ 32 - 1)
    | none => 1
  let delay := retryDelay controller.initialBackoff controller.maxBackoff attempts location
  (⟨attempts, delay⟩, { controller with blocked := controller.blocked.erase partition }.setRetry
    ⟨location, attempts, some (now + delay.nanos)⟩)

/-- `None` where the partition cannot be paused. -/
def retryLater (location : KafkaRecordLocation) (paused : Bool) (now : Instant) :
    Option (ScheduledRetry × PartitionFailureController) :=
  if paused then some (controller.registerRetry location now) else none

def block (location : KafkaRecordLocation) (paused : Bool) : Option PartitionFailureController :=
  if paused then
    let removed := controller.removeRetry location.partitionKey
    some { removed with blocked := insert location.partitionKey removed.blocked }
  else none

def dueRetries (now : Instant) : List KafkaRecordLocation :=
  ((controller.retrying.entries.map (·.2)).filter fun state =>
    state.resumeAt.any (· ≤ now)).map (·.location)

def markResumed (location : KafkaRecordLocation) : PartitionFailureController :=
  match controller.retrying.lookup location.partitionKey with
  | some state =>
    if state.location.offset = location.offset then
      controller.setRetry { state with resumeAt := none }
    else controller
  | none => controller

/-- Seeks and resumes; a failure of either is tried again after the initial delay. -/
def resumeRetry (location : KafkaRecordLocation) (resumed : Bool) (now : Instant) :
    PartitionFailureController :=
  if resumed then controller.markResumed location
  else
    match controller.retrying.lookup location.partitionKey with
    | some state =>
      controller.setRetry
        { state with resumeAt := some (now + controller.initialBackoff.nanos) }
    | none => controller

def complete (location : KafkaRecordLocation) : PartitionFailureController :=
  let partition := location.partitionKey
  if (controller.retrying.lookup partition).any
      fun state => state.location.offset = location.offset then
    controller.removeRetry partition
  else controller

end PartitionFailureController

end MatchPlane.Projection
