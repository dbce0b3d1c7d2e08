/-
The accounting counters: an increment that wraps as 64-bit arithmetic does, and a decrement that
refuses to go below zero and says so.
-/
import RdmaBuffer.Model.Records

namespace RdmaBuffer

structure Counter where
  value : UInt64 := 0

namespace Counter

def increment (c : Counter) (n : UInt64 := 1) : Counter := ⟨c.value + n⟩

/-- Whether the counter was large enough, and the counter afterwards. -/
def decrement (c : Counter) (n : UInt64 := 1) : Bool × Counter :=
  if n > c.value then (false, c) else (true, ⟨c.value - n⟩)

def zero (c : Counter) : Bool := c.value == 0

theorem increment_toNat {c : Counter} {n : UInt64} (h : c.value.toNat + n.toNat < 2 ^ 64) :
    (c.increment n).value.toNat = c.value.toNat + n.toNat := by
  rw [increment, UInt64.toNat_add, Nat.mod_eq_of_lt h]

theorem decrement_accepted {c : Counter} {n : UInt64} : (c.decrement n).1 = true ↔ n.toNat ≤ c.value.toNat := by
  unfold decrement
  split
  · rename_i h
    rw [gt_iff_lt, UInt64.lt_iff_toNat_lt] at h
    simp only [Bool.false_eq_true, false_iff]; omega
  · rename_i h
    rw [gt_iff_lt, UInt64.lt_iff_toNat_lt] at h
    simp only [true_iff]; omega

/-- An accepted decrement subtracts exactly. -/
theorem decrement_toNat {c : Counter} {n : UInt64} (h : n.toNat ≤ c.value.toNat) :
    (c.decrement n).2.value.toNat = c.value.toNat - n.toNat := by
  unfold decrement
  rw [if_neg (by rw [gt_iff_lt, UInt64.lt_iff_toNat_lt]; omega)]
  exact UInt64.toNat_sub_of_le _ _ (UInt64.le_iff_toNat_le.2 h)

end Counter

structure Accounting where
  logicalBuffers : Counter := {}
  liveBufferBytes : Counter := {}
  pinnedBytes : Counter := {}
  registeredBytes : Counter := {}
  activeRegistrations : Counter := {}
  activeLeases : Counter := {}
  protectionDomains : Counter := {}
  localKeys : Counter := {}
  remoteKeys : Counter := {}
  remoteReadBytes : Counter := {}
  remoteWriteBytes : Counter := {}
  atomicOperations : Counter := {}
  failedAccessAttempts : Counter := {}
  staleAccessRejections : Counter := {}
  revocations : Counter := {}
  deregistrations : Counter := {}
  registrationReuseHits : Counter := {}
  registrationMisses : Counter := {}
  participantRestarts : Counter := {}

namespace Accounting

/-- `Accounting::operator bool`: some live, pinned, registered or leased resource is still open. -/
def isOpen (a : Accounting) : Bool :=
  !(a.pinnedBytes.zero && a.registeredBytes.zero && a.activeRegistrations.zero && a.activeLeases.zero &&
    a.localKeys.zero && a.remoteKeys.zero)

/-- The counters that are decremented somewhere. -/
structure Holdings where
  liveBufferBytes : Counter
  pinnedBytes : Counter
  registeredBytes : Counter
  activeRegistrations : Counter
  activeLeases : Counter
  protectionDomains : Counter
  localKeys : Counter
  remoteKeys : Counter

def holdings (a : Accounting) : Holdings :=
  { liveBufferBytes := a.liveBufferBytes, pinnedBytes := a.pinnedBytes, registeredBytes := a.registeredBytes
    activeRegistrations := a.activeRegistrations, activeLeases := a.activeLeases
    protectionDomains := a.protectionDomains, localKeys := a.localKeys, remoteKeys := a.remoteKeys }

end Accounting

def accountRegistrationCommit (a : Accounting) (rec : RegistrationRecord) : Accounting :=
  { a with
    activeRegistrations := a.activeRegistrations.increment
    registeredBytes := a.registeredBytes.increment rec.length
    pinnedBytes := if rec.domain = .hostPinned then a.pinnedBytes.increment rec.length else a.pinnedBytes
    localKeys := a.localKeys.increment
    remoteKeys := a.remoteKeys.increment }

def accountRegistrationInvalidate (a : Accounting) (rec : RegistrationRecord) : Accounting :=
  { a with
    activeRegistrations := a.activeRegistrations.decrement.2
    registeredBytes := (a.registeredBytes.decrement rec.length).2
    pinnedBytes := if rec.domain = .hostPinned then (a.pinnedBytes.decrement rec.length).2 else a.pinnedBytes
    localKeys := a.localKeys.decrement.2
    remoteKeys := a.remoteKeys.decrement.2 }

end RdmaBuffer
