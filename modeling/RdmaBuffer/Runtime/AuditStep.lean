/-
The audit along a run: the steps of the counters of protection domains, leases and live bytes, and
that an audited state accepts every decrement of an operation that gives nothing back twice.
-/
import RdmaBuffer.Runtime.Audit

namespace RdmaBuffer

open Rdmabuffer

variable {β : Type} [IBackend β] [Environment β]

/-! ## The counters of domains, leases and live bytes -/

theorem domains_effect {s s' : Rdmabuffer β} {op : AtomicOp β} (he : Effect s op s')
    (hr : Op.recovers (some (.atomic op)) = false) (hc : givesBackTwice s (some (.atomic op)) = false)
    (hn : s'.nextDomain ≠ 0) (hi : Audited s) :
    Covers s'.acct.protectionDomains (Table.total openDomain s'.domains) s'.nextDomain := by
  have hd := hi.domains
  cases he with
  | refused op acct h ha => exact hd.of_eq (congrArg Accounting.Holdings.protectionDomains ha)
  | authority op acct ha => exact hd.of_eq (congrArg Accounting.Holdings.protectionDomains ha)
  | queried request rec b acct hr h ha =>
    exact hd.of_eq (congrArg Accounting.Holdings.protectionDomains ha)
  | softRevoked k rec acct h hl ha =>
    exact hd.of_eq (congrArg Accounting.Holdings.protectionDomains ha)
  | attached | controlled | bufferRefused | rotated | rotatedAlone => exact hd
  | domainCreated node process acct ha =>
    subst ha
    exact hd.draw hn _ (openDomain_le _)
  | domainDestroyed d de acct h ha =>
    subst ha
    have hst : de.state ≠ .destroyed := by simpa [givesBackTwice, h] using hc
    obtain ⟨-, hframe, -⟩ := invalidated_frame (inDomain d) s.registrations.entries s.acct
    exact ((hd.of_eq hframe).close h (if_neg hst)).2 _ rfl
  | bufferCreated descriptor nextBuffer acct h ha => subst ha; exact hd
  | bufferReallocated descriptor be nextBuffer acct h hg ha =>
    subst ha
    obtain ⟨-, hframe, -⟩ :=
      invalidated_frame (onBuffer (bufferTarget s descriptor)) s.registrations.entries s.acct
    exact hd.of_eq hframe
  | leased k env needed rec ls acct h hl hv hau hls ha => subst ha; exact hd
  | released lease ls rec acct hls h hst ha => subst ha; exact hd
  | releasedAlone lease ls acct hls hst ha => subst ha; exact hd
  | hardRevoked k rec leases acct h hl hls ha => subst ha; exact hd
  | recovered => cases hr

/-- A lease that is released, and not given back twice, is open. -/
theorem openLease_released {s : Rdmabuffer β} {lease : RegistrationLeaseId} {ls : Lease}
    (hls : s.leases.lookup lease = some ls) (hst : ls.state ≠ .released)
    (hc : givesBackTwice s (some (.atomic (.releaseLease lease))) = false) :
    openLease ls = 1 := by
  have hst' : ls.state ≠ .revoked := by simpa [givesBackTwice, hls] using hc
  exact if_neg fun h => h.elim hst hst'

theorem leases_effect {s s' : Rdmabuffer β} {op : AtomicOp β} (he : Effect s op s')
    (hr : Op.recovers (some (.atomic op)) = false) (hc : givesBackTwice s (some (.atomic op)) = false)
    (hn : s'.nextLease ≠ 0) (hi : Audited s) :
    Covers s'.acct.activeLeases (Table.total openLease s'.leases) s'.nextLease := by
  have hd := hi.leases
  cases he with
  | refused op acct h ha => exact hd.of_eq (congrArg Accounting.Holdings.activeLeases ha)
  | authority op acct ha => exact hd.of_eq (congrArg Accounting.Holdings.activeLeases ha)
  | queried request rec b acct hr h ha =>
    exact hd.of_eq (congrArg Accounting.Holdings.activeLeases ha)
  | softRevoked k rec acct h hl ha =>
    exact hd.of_eq (congrArg Accounting.Holdings.activeLeases ha)
  | attached | controlled | bufferRefused | rotated | rotatedAlone => exact hd
  | domainCreated node process acct ha => subst ha; exact hd
  | domainDestroyed d de acct h ha =>
    subst ha
    obtain ⟨hframe, -, -⟩ := invalidated_frame (inDomain d) s.registrations.entries s.acct
    exact hd.of_eq hframe
  | bufferCreated descriptor nextBuffer acct h ha => subst ha; exact hd
  | bufferReallocated descriptor be nextBuffer acct h hg ha =>
    subst ha
    obtain ⟨hframe, -, -⟩ :=
      invalidated_frame (onBuffer (bufferTarget s descriptor)) s.registrations.entries s.acct
    exact hd.of_eq hframe
  | leased k env needed rec ls acct h hl hv hau hls ha =>
    subst ha
    exact hd.draw hn _ (openLease_le ls)
  | released lease ls rec acct hls h hst ha =>
    subst ha
    exact (hd.close hls (openLease_released hls hst hc)).2 _ rfl
  | releasedAlone lease ls acct hls hst ha =>
    subst ha
    exact (hd.close hls (openLease_released hls hst hc)).2 _ rfl
  | hardRevoked k rec leases acct h hl hls ha =>
    subst ha hls
    obtain ⟨n, hcount, -, hle⟩ := hi.revokes k
    have hloop := (leaseLoop k s.leases.entries hcount).2
    refine ⟨?_, ?_⟩
    · show _ ≤ (leasesRevoked k s.leases s.acct.activeLeases).value.toNat
      unfold leasesRevoked
      rw [hloop]
      exact hle
    · show (leasesRevoked k s.leases s.acct.activeLeases).value.toNat < s.nextLease.toNat
      unfold leasesRevoked
      rw [hloop]
      have := hd.2
      omega
  | recovered => cases hr

/-- The decrement of the live bytes is at most the old length. -/
theorem adjust_shrinks {old new : UInt64} (h : ¬new ≥ old) : new.toNat < old.toNat ∧
    (old - new).toNat = old.toNat - new.toNat := by
  have hlt : new.toNat < old.toNat := by
    rw [ge_iff_le, UInt64.le_iff_toNat_le] at h
    omega
  exact ⟨hlt, UInt64.toNat_sub_of_le old new (UInt64.le_iff_toNat_le.2 hlt.le)⟩

theorem adjustAccepted_of_le {c : Counter} {old new : UInt64} (h : old.toNat ≤ c.value.toNat) :
    adjustAccepted c old new = true := by
  unfold adjustAccepted
  split
  · rfl
  · rename_i hlt
    obtain ⟨-, hsub⟩ := adjust_shrinks hlt
    exact Counter.decrement_accepted.2 (by omega)

/-- The change of the live bytes is exact. -/
theorem adjust_exact {c : Counter} {n : Nat} {old new : UInt64} (h : c.value.toNat = n + old.toNat)
    (hn : n + new.toNat < 2 ^ 64) : (adjustLiveBytes c old new).value.toNat = n + new.toNat := by
  unfold adjustLiveBytes
  split
  · rename_i hle
    have hle' : old.toNat ≤ new.toNat := UInt64.le_iff_toNat_le.1 hle
    have hsub := UInt64.toNat_sub_of_le new old hle
    rw [Counter.increment_toNat (by omega)]
    omega
  · rename_i hlt
    obtain ⟨hlt', hsub⟩ := adjust_shrinks hlt
    rw [Counter.decrement_toNat (by omega)]
    omega

omit [IBackend β] [Environment β] in
/-- The live bytes without those of the one buffer that changes. -/
theorem bytes_rest {s : Rdmabuffer β} (hd : s.acct.liveBufferBytes.value.toNat = Table.total bufferBytes s.buffers)
    {id : BufferId} {be : BufferEntry} (h : s.buffers.lookup id = some be) (hit : RegistrationRecord → Bool) :
    (invalidated hit s.registrations s.acct).liveBufferBytes.value.toNat =
      Table.total bufferBytes (s.buffers.erase id) + be.descriptor.byteLength.toNat := by
  obtain ⟨-, -, hframe⟩ := invalidated_frame hit s.registrations.entries s.acct
  unfold invalidated
  rw [hframe, hd, ← Table.total_erase h]
  rfl

theorem bytes_effect {s s' : Rdmabuffer β} {op : AtomicOp β} (he : Effect s op s')
    (hr : Op.recovers (some (.atomic op)) = false) (hb : Table.total bufferBytes s'.buffers < 2 ^ 64)
    (hd : s.acct.liveBufferBytes.value.toNat = Table.total bufferBytes s.buffers) :
    s'.acct.liveBufferBytes.value.toNat = Table.total bufferBytes s'.buffers := by
  have hsame : ∀ {acct : Accounting}, acct.liveBufferBytes = s.acct.liveBufferBytes →
      acct.liveBufferBytes.value.toNat = Table.total bufferBytes s.buffers := fun h => h ▸ hd
  cases he with
  | refused op acct h ha => exact hsame (congrArg Accounting.Holdings.liveBufferBytes ha)
  | authority op acct ha => exact hsame (congrArg Accounting.Holdings.liveBufferBytes ha)
  | queried request rec b acct hr h ha => exact hsame (congrArg Accounting.Holdings.liveBufferBytes ha)
  | softRevoked k rec acct h hl ha => exact hsame (congrArg Accounting.Holdings.liveBufferBytes ha)
  | attached | controlled | bufferRefused | rotated | rotatedAlone => exact hd
  | domainCreated node process acct ha => subst ha; exact hd
  | domainDestroyed d de acct h ha =>
    subst ha
    exact hsame (invalidated_frame (inDomain d) s.registrations.entries s.acct).2.2
  | bufferCreated descriptor nextBuffer acct h ha =>
    subst ha
    have hput := Table.total_put_new (f := bufferBytes) { descriptor := descriptor, registered := false } h
    have hb' : Table.total bufferBytes s.buffers + descriptor.byteLength.toNat < 2 ^ 64 := hput ▸ hb
    show (s.acct.liveBufferBytes.increment descriptor.byteLength).value.toNat = _
    rw [Counter.increment_toNat (hd ▸ hb'), hd]
    exact hput.symm
  | bufferReallocated descriptor be nextBuffer acct h hg ha =>
    subst ha
    -- what remains without the buffer, plus its new length
    have hput := Table.total_put bufferBytes s.buffers (bufferTarget s descriptor)
      { be with descriptor := descriptor, registered := false }
    have hb' : Table.total bufferBytes (s.buffers.erase (bufferTarget s descriptor)) +
        descriptor.byteLength.toNat < 2 ^ 64 := (Nat.add_comm _ _).trans_lt (hput ▸ hb)
    exact (adjust_exact (bytes_rest hd h _) hb').trans ((Nat.add_comm _ _).trans hput.symm)
  | leased k env needed rec ls acct h hl hv hau hls ha => subst ha; exact hd
  | released lease ls rec acct hls h hst ha => subst ha; exact hd
  | releasedAlone lease ls acct hls hst ha => subst ha; exact hd
  | hardRevoked k rec leases acct h hl hls ha => subst ha; exact hd
  | recovered => cases hr

/-! ## The audit over a run -/

/-- No id counter wrapped. -/
def counting (s : Rdmabuffer β) : Bool := s.nextRegistration != 0 && s.nextDomain != 0 && s.nextLease != 0

theorem audited_opStep {s s' : Rdmabuffer β} {op : Op β} (hs : OpStep s op s') (hr : Op.recovers (some op) = false)
    (hc : givesBackTwice s (some op) = false) (hn : counting s' = true)
    (hregistered : chargeTotal (fun c => c.1.toNat) s'.registrations < 2 ^ 64)
    (hlive : Table.total bufferBytes s'.buffers < 2 ^ 64) (hi : Audited s) : Audited s' := by
  obtain ⟨⟨hnr, hnd⟩, hnl⟩ : (s'.nextRegistration ≠ 0 ∧ s'.nextDomain ≠ 0) ∧ s'.nextLease ≠ 0 := by
    simpa [counting] using hn
  refine ⟨balanced_opStep hs hi hr hc hnr hregistered, drawn_opStep hs hi.drawn hr hnr,
    fun r rec h hl => intact_opStep hs hi h hl, ?_, ?_, ?_⟩
  · cases hs with
    | atomic op s' he => exact domains_effect he hr hc hnd hi
    | _ => exact hi.domains
  · cases hs with
    | atomic op s' he => exact leases_effect he hr hc hnl hi
    | deregistered r rec backends hk hn' hd hrel =>
      refine ⟨?_, hi.leases.2⟩
      refine (Table.total_eraseIf openLease (fun ls => ls.registration == r) s.leases).trans_le ?_
      refine (Table.total_mono (fun ls => ?_) s.leases).trans hi.leases.1
      split
      · exact Nat.zero_le _
      · exact le_refl _
    | _ => exact hi.leases
  · cases hs with
    | atomic op s' he => exact bytes_effect he hr hlive hi.bytes
    | _ => exact hi.bytes

omit [IBackend β] [Environment β] in
theorem audited_init : Audited ({} : Rdmabuffer β) where
  balanced := ⟨rfl, rfl, rfl, rfl, rfl⟩
  drawn r rec h := by cases h
  intact r rec h := by cases h
  domains := ⟨Nat.zero_le _, Nat.zero_lt_one⟩
  leases := ⟨Nat.zero_le _, Nat.zero_lt_one⟩
  bytes := rfl

omit [IBackend β] [Environment β] in
theorem audited_rehash {s s' : Rdmabuffer β} (h : Rehash s s') (hi : Audited s) : Audited s' := by
  have hacct : s'.acct = s.acct := by rw [h.others]
  have hnr : s'.nextRegistration = s.nextRegistration := by rw [h.others]
  have hnd : s'.nextDomain = s.nextDomain := by rw [h.others]
  have hnl : s'.nextLease = s.nextLease := by rw [h.others]
  refine ⟨hi.balanced.congr (fun w => (Table.total_perm _ h.registrations).symm) (hacct ▸ id), ?_, ?_, ?_, ?_, ?_⟩
  · intro r rec hr
    rw [← Table.lookup_perm h.registrations] at hr
    exact hnr ▸ hi.drawn r rec hr
  · intro r rec hr
    rw [← Table.lookup_perm h.registrations] at hr
    exact hi.intact r rec hr
  · rw [hacct, hnd, ← Table.total_perm _ h.domains]; exact hi.domains
  · rw [hacct, hnl, ← Table.total_perm _ h.leases]; exact hi.leases
  · rw [hacct, ← Table.total_perm _ h.buffers]; exact hi.bytes

/-! ## No decrement is refused -/

section

variable {s : Rdmabuffer β} (hi : Audited s)
include hi

/-- The record is charged, so its charge is part of each sum. -/
theorem decrementsAccepted_deregister {r : RegistrationId} (hc : givesBackTwice s (some (.deregister r)) = false) :
    decrementsAccepted s (.deregister r) = true := by
  rw [decrementsAccepted]
  split
  · rfl
  · rename_i rec hr
    split
    · rename_i h
      have hw : writtenOff rec = false := by simpa [givesBackTwice, hr, h] using hc
      have hb := hi.balanced
      unfold Balanced at hb
      rw [← chargeTotal_erase _ hr hw, ← chargeTotal_erase _ hr hw, ← chargeTotal_erase _ hr hw] at hb
      exact hb.invalidate.1
    · rfl

theorem decrementsAccepted_destroyProtectionDomain {d : ProtectionDomainId}
    (hc : givesBackTwice s (some (.atomic (.destroyProtectionDomain d))) = false) :
    decrementsAccepted s (.atomic (.destroyProtectionDomain d)) = true := by
  rw [decrementsAccepted]
  split
  · rfl
  · rename_i de hd
    have hst : de.state ≠ .destroyed := by simpa [givesBackTwice, hd] using hc
    obtain ⟨-, hframe, -⟩ := invalidated_frame (inDomain d) s.registrations.entries s.acct
    obtain ⟨hloop, -⟩ := hi.loop writtenOff_destroyed fun rec (hh : inDomain d rec = true) => .inl (inDomain_live hh)
    rw [hloop, Bool.true_and]
    exact ((hi.domains.of_eq hframe).close hd (if_neg hst)).1

theorem decrementsAccepted_createBuffer (descriptor : BufferDescriptor) :
    decrementsAccepted s (.atomic (.createBuffer descriptor)) = true := by
  rw [decrementsAccepted]
  split
  · rfl
  · rename_i be hbe
    split
    · rfl
    · obtain ⟨hloop, -⟩ := hi.loop writtenOff_reallocated
        fun rec (hh : onBuffer (bufferTarget s descriptor) rec = true) => onBuffer_live hh
      rw [hloop, Bool.true_and]
      exact adjustAccepted_of_le (by rw [bytes_rest hi.bytes hbe]; exact Nat.le_add_left _ _)

theorem decrementsAccepted_releaseLease {lease : RegistrationLeaseId}
    (hc : givesBackTwice s (some (.atomic (.releaseLease lease))) = false) :
    decrementsAccepted s (.atomic (.releaseLease lease)) = true := by
  rw [decrementsAccepted]
  split
  · rfl
  · rename_i ls hls
    split
    · rfl
    · rename_i hst
      exact (hi.leases.close hls (openLease_released hls hst hc)).1

theorem decrementsAccepted_hardRevoke (r : RegistrationId) :
    decrementsAccepted s (.atomic (.revoke r .hardRevoke)) = true := by
  rw [decrementsAccepted]
  split
  · rfl
  · split
    · obtain ⟨n, hcount, -, -⟩ := hi.revokes r
      exact (leaseLoop r s.leases.entries hcount).1
    · rfl

/-- An operation that gives nothing back twice has its decrements accepted. -/
theorem decrementsAccepted_of_audited (op : Op β) (hc : givesBackTwice s (some op) = false) :
    decrementsAccepted s op = true := by
  cases op with
  | registerBuffer descriptor backend domain env => rfl
  | deregister r => exact decrementsAccepted_deregister hi hc
  | atomic op =>
    cases op with
    | destroyProtectionDomain d => exact decrementsAccepted_destroyProtectionDomain hi hc
    | createBuffer descriptor => exact decrementsAccepted_createBuffer hi descriptor
    | releaseLease lease => exact decrementsAccepted_releaseLease hi hc
    | revoke r mode =>
      cases mode with
      | softRevoke => rfl
      | hardRevoke => exact decrementsAccepted_hardRevoke hi r
    | _ => rfl

end

end RdmaBuffer
