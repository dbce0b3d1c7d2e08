/-
Every decrement an operation makes: which calls there are, in their order, and that a withdrawal loop
subtracts exactly what the registrations it hits had added.
-/
import RdmaBuffer.Lib.Word
import RdmaBuffer.Runtime.Sequential

namespace RdmaBuffer

open Rdmabuffer

/-! ## The decrements of an operation -/

/-- The five decrements of an invalidation are all accepted. -/
def invalidateAccepted (a : Accounting) (rec : RegistrationRecord) : Bool :=
  a.activeRegistrations.decrement.1 && (a.registeredBytes.decrement rec.length).1 &&
    (if rec.domain = .hostPinned then (a.pinnedBytes.decrement rec.length).1 else true) &&
    a.localKeys.decrement.1 && a.remoteKeys.decrement.1

/-- The decrements of a withdrawal loop, entry by entry. -/
def loopAccepted (hit : RegistrationRecord → Bool) :
    List (Sigma fun _ : RegistrationId => RegistrationRecord) → Accounting → Bool
  | [], _ => true
  | e :: l, a =>
    if hit e.2 then invalidateAccepted a e.2 && loopAccepted hit l (accountRegistrationInvalidate a e.2)
    else loopAccepted hit l a

/-- The decrements of the loop over the leases in a hard revoke. -/
def leaseLoopAccepted (r : RegistrationId) : List (Sigma fun _ : RegistrationLeaseId => Lease) → Counter → Bool
  | [], _ => true
  | e :: l, c =>
    if revokesLease r e.2 then c.decrement.1 && leaseLoopAccepted r l c.decrement.2 else leaseLoopAccepted r l c

/-- The decrement, if any, of the change of the live bytes. -/
def adjustAccepted (c : Counter) (old new : UInt64) : Bool := if new ≥ old then true else (c.decrement (old - new)).1

variable {β : Type} [IBackend β] [Environment β]

/-- Every decrement the operation makes is accepted. -/
def decrementsAccepted (s : Rdmabuffer β) : Op β → Bool
  | .atomic (.destroyProtectionDomain d) =>
    match s.domains.lookup d with
    | none => true
    | some _ =>
      loopAccepted (inDomain d) s.registrations.entries s.acct &&
        (invalidated (inDomain d) s.registrations s.acct).protectionDomains.decrement.1
  | .atomic (.createBuffer descriptor) =>
    match s.buffers.lookup (bufferTarget s descriptor) with
    | none => true
    | some be =>
      if descriptor.generation.value ≤ be.descriptor.generation.value then true
      else
        loopAccepted (onBuffer (bufferTarget s descriptor)) s.registrations.entries s.acct &&
          adjustAccepted
            (invalidated (onBuffer (bufferTarget s descriptor)) s.registrations s.acct).liveBufferBytes
            be.descriptor.byteLength descriptor.byteLength
  | .atomic (.releaseLease lease) =>
    match s.leases.lookup lease with
    | none => true
    | some ls => if ls.state = .released then true else s.acct.activeLeases.decrement.1
  | .atomic (.revoke r .hardRevoke) =>
    match s.registrations.lookup r with
    | none => true
    | some rec => if rec.lifecycle.isLive then leaseLoopAccepted r s.leases.entries s.acct.activeLeases else true
  | .deregister r =>
    match s.registrations.lookup r with
    | none => true
    | some rec =>
      if rec.leaseCount = 0 ∧ deregisterable rec.lifecycle = true ∧ releases s rec = true then
        invalidateAccepted s.acct rec
      else true
  | _ => true

/-! ## Balances -/

/-- What a registration adds to the counter of pinned bytes. -/
def pinnedPart (length : UInt64) (domain : MemoryDomain) : Nat := if domain = .hostPinned then length.toNat else 0

theorem pinnedPart_le (length : UInt64) (domain : MemoryDomain) : pinnedPart length domain ≤ length.toNat := by
  unfold pinnedPart
  split
  · exact le_refl _
  · exact Nat.zero_le _

/-- The five counters of registrations, as numbers. -/
structure Balance (a : Accounting) (count bytes pinned : Nat) : Prop where
  active : a.activeRegistrations.value.toNat = count
  locals : a.localKeys.value.toNat = count
  remotes : a.remoteKeys.value.toNat = count
  registered : a.registeredBytes.value.toNat = bytes
  pinned : a.pinnedBytes.value.toNat = pinned

theorem Balance.of_holdings {a a' : Accounting} {n b p : Nat} (h : Balance a n b p) (ha : a'.holdings = a.holdings) :
    Balance a' n b p := by
  have hc : ∀ f : Accounting.Holdings → Counter, f a'.holdings = f a.holdings := fun f => congrArg f ha
  exact ⟨(congrArg (·.value.toNat) (hc (·.activeRegistrations))).trans h.active,
    (congrArg (·.value.toNat) (hc (·.localKeys))).trans h.locals,
    (congrArg (·.value.toNat) (hc (·.remoteKeys))).trans h.remotes,
    (congrArg (·.value.toNat) (hc (·.registeredBytes))).trans h.registered,
    (congrArg (·.value.toNat) (hc (·.pinnedBytes))).trans h.pinned⟩

theorem Balance.of_resources {a a' : Accounting} {n b p : Nat} (h : Balance a n b p)
    (ha : a'.resources = a.resources) : Balance a' n b p := by
  simp only [Accounting.resources, List.cons.injEq, and_true] at ha
  obtain ⟨hactive, hlocals, hremotes, hregistered, hpinned, -⟩ := ha
  constructor
  · rw [hactive]; exact h.active
  · rw [hlocals]; exact h.locals
  · rw [hremotes]; exact h.remotes
  · rw [hregistered]; exact h.registered
  · rw [hpinned]; exact h.pinned

theorem decrement_one {c : Counter} {n : Nat} (h : c.value.toNat = n + 1) :
    c.decrement.1 = true ∧ c.decrement.2.value.toNat = n := by
  have h1 : (1 : UInt64).toNat ≤ c.value.toNat := by rw [UInt64.toNat_one]; omega
  refine ⟨Counter.decrement_accepted.2 h1, ?_⟩
  rw [Counter.decrement_toNat h1, UInt64.toNat_one]
  omega

theorem decrement_by {c : Counter} {k : UInt64} {n : Nat} (h : c.value.toNat = n + k.toNat) :
    (c.decrement k).1 = true ∧ (c.decrement k).2.value.toNat = n := by
  have h1 : k.toNat ≤ c.value.toNat := by omega
  refine ⟨Counter.decrement_accepted.2 h1, ?_⟩
  rw [Counter.decrement_toNat h1]
  omega

theorem increment_one {c : Counter} {n : Nat} (h : c.value.toNat = n) (hn : n + 1 < 2 ^ 64) :
    c.increment.value.toNat = n + 1 := by
  rw [Counter.increment_toNat (by rw [UInt64.toNat_one]; omega), UInt64.toNat_one, h]

/-- A commit adds exactly. -/
theorem Balance.commit {a : Accounting} {n b p : Nat} (h : Balance a n b p) (rec : RegistrationRecord)
    (hn : n + 1 < 2 ^ 64) (hb : b + rec.length.toNat < 2 ^ 64) (hp : p ≤ b) :
    Balance (accountRegistrationCommit a rec) (n + 1) (b + rec.length.toNat)
      (p + pinnedPart rec.length rec.domain) where
  active := increment_one h.active hn
  locals := increment_one h.locals hn
  remotes := increment_one h.remotes hn
  registered := by
    show (a.registeredBytes.increment rec.length).value.toNat = _
    rw [Counter.increment_toNat (by rw [h.registered]; exact hb), h.registered]
  pinned := by
    unfold accountRegistrationCommit pinnedPart
    dsimp only
    split
    · rw [Counter.increment_toNat (by rw [h.pinned]; omega), h.pinned]
    · exact h.pinned

/-- An invalidation subtracts exactly, and is accepted. -/
theorem Balance.invalidate {a : Accounting} {n b p : Nat} {rec : RegistrationRecord}
    (h : Balance a (n + 1) (b + rec.length.toNat) (p + pinnedPart rec.length rec.domain)) :
    invalidateAccepted a rec = true ∧ Balance (accountRegistrationInvalidate a rec) n b p := by
  have hr := decrement_by h.registered
  have hpin : (if rec.domain = .hostPinned then (a.pinnedBytes.decrement rec.length).1 else true) = true ∧
      (accountRegistrationInvalidate a rec).pinnedBytes.value.toNat = p := by
    have hp := h.pinned
    unfold pinnedPart at hp
    unfold accountRegistrationInvalidate
    dsimp only
    split
    · rename_i hd
      rw [if_pos hd] at hp
      exact decrement_by hp
    · rename_i hd
      rw [if_neg hd] at hp
      exact ⟨rfl, hp⟩
  refine ⟨?_, (decrement_one h.active).2, (decrement_one h.locals).2, (decrement_one h.remotes).2, hr.2, hpin.2⟩
  simp [invalidateAccepted, (decrement_one h.active).1, (decrement_one h.locals).1, (decrement_one h.remotes).1, hr.1,
    hpin.1]

/-- What `w` gives for the records that are hit. -/
def hitting (hit : RegistrationRecord → Bool) (w : RegistrationRecord → Nat) (rec : RegistrationRecord) : Nat :=
  if hit rec then w rec else 0

/-- A withdrawal loop subtracts exactly what it hits, and is accepted. -/
theorem Balance.loop {hit : RegistrationRecord → Bool} (l : List (Sigma fun _ : RegistrationId => RegistrationRecord)) :
    ∀ {a : Accounting} {n b p : Nat},
      Balance a (n + (l.map fun e => hitting hit (fun _ => 1) e.2).sum)
        (b + (l.map fun e => hitting hit (fun rec => rec.length.toNat) e.2).sum)
        (p + (l.map fun e => hitting hit (fun rec => pinnedPart rec.length rec.domain) e.2).sum) →
      loopAccepted hit l a = true ∧
        Balance (l.foldl (fun a e => if hit e.2 then accountRegistrationInvalidate a e.2 else a) a) n b p := by
  induction l with
  | nil => intro a n b p h; exact ⟨rfl, h⟩
  | cons e l ih =>
    intro a n b p h
    simp only [List.map_cons, List.sum_cons, hitting] at h
    simp only [loopAccepted, List.foldl_cons]
    split
    · rename_i hh
      simp only [hh, if_true] at h
      have hpre : Balance a (n + (l.map fun e => hitting hit (fun _ => 1) e.2).sum + 1)
          (b + (l.map fun e => hitting hit (fun rec => rec.length.toNat) e.2).sum + e.2.length.toNat)
          (p + (l.map fun e => hitting hit (fun rec => pinnedPart rec.length rec.domain) e.2).sum +
            pinnedPart e.2.length e.2.domain) :=
        ⟨by rw [h.active]; simp only [hitting]; omega, by rw [h.locals]; simp only [hitting]; omega,
          by rw [h.remotes]; simp only [hitting]; omega, by rw [h.registered]; simp only [hitting]; omega,
          by rw [h.pinned]; simp only [hitting]; omega⟩
      obtain ⟨hacc, hpost⟩ := hpre.invalidate
      have := ih hpost
      exact ⟨by rw [hacc, this.1]; rfl, this.2⟩
    · rename_i hh
      simp only [hh, Bool.false_eq_true, if_false, Nat.zero_add] at h
      exact ih h

/-- A withdrawal loop leaves the counters of leases, domains and live bytes alone. -/
theorem invalidated_frame (hit : RegistrationRecord → Bool)
    (l : List (Sigma fun _ : RegistrationId => RegistrationRecord)) : ∀ a : Accounting,
    let a' := l.foldl (fun a e => if hit e.2 then accountRegistrationInvalidate a e.2 else a) a
    a'.activeLeases = a.activeLeases ∧ a'.protectionDomains = a.protectionDomains ∧
      a'.liveBufferBytes = a.liveBufferBytes := by
  induction l with
  | nil => intro a; exact ⟨rfl, rfl, rfl⟩
  | cons e l ih =>
    intro a
    simp only [List.foldl_cons]
    split
    · exact ih (accountRegistrationInvalidate a e.2)
    · exact ih a

/-- The loop over the leases subtracts what it hits, and is accepted. -/
theorem leaseLoop (r : RegistrationId) (l : List (Sigma fun _ : RegistrationLeaseId => Lease)) :
    ∀ {c : Counter} {n : Nat},
      c.value.toNat = n + (l.map fun e => if revokesLease r e.2 then 1 else 0).sum →
      leaseLoopAccepted r l c = true ∧
        (l.foldl (fun c e => if revokesLease r e.2 then c.decrement.2 else c) c).value.toNat = n := by
  induction l with
  | nil => intro c n h; exact ⟨rfl, h⟩
  | cons e l ih =>
    intro c n h
    simp only [List.map_cons, List.sum_cons] at h
    simp only [leaseLoopAccepted, List.foldl_cons]
    split
    · rename_i hh
      rw [if_pos hh] at h
      have hd := decrement_one (c := c) (n := n + (l.map fun e => if revokesLease r e.2 then 1 else 0).sum) (by omega)
      have := ih hd.2
      exact ⟨by rw [hd.1, this.1]; rfl, this.2⟩
    · rename_i hh
      rw [if_neg hh, Nat.zero_add] at h
      exact ih h

end RdmaBuffer
