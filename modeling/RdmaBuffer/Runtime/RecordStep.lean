/-
One step of the interleaved system seen from a single registration record, from the slot of a
single buffer, and from a single client.
-/
import RdmaBuffer.Runtime.Sections

namespace RdmaBuffer

open Rdmabuffer

variable {β : Type} [IBackend β] [Environment β]

/-! ## A registration record -/

/-- What the step `l` from `σ` does to the record of `r`. -/
inductive RecordStep (σ : System β) (l : Option (Action β)) (r : RegistrationId) :
    Option RegistrationRecord → Option RegistrationRecord → Prop
  | keep (o : Option RegistrationRecord) : RecordStep σ l r o o
  | leases (rec : RegistrationRecord) (n : UInt64) :
      RecordStep σ l r (some rec) (some { rec with leaseCount := n })
  | destroyed (d : ProtectionDomainId) (rec : RegistrationRecord)
      (hl : l = some (.atomic (.destroyProtectionDomain d))) (hit : inDomain d rec = true) :
      RecordStep σ l r (some rec) (some (withdraw .revoked (lit "protection domain destroyed") rec))
  | reallocated (descriptor : BufferDescriptor) (rec : RegistrationRecord)
      (hl : l = some (.atomic (.createBuffer descriptor)))
      (hit : onBuffer (bufferTarget σ.runtime descriptor) rec = true) :
      RecordStep σ l r (some rec) (some (withdraw .stale (lit "memory reallocated under new generation") rec))
  | hardRevoked (rec : RegistrationRecord) (hl : l = some (.atomic (.revoke r .hardRevoke)))
      (hlive : rec.lifecycle.isLive) : RecordStep σ l r (some rec) (some (hardRevoked rec))
  | softRevoked (rec : RegistrationRecord) (hl : l = some (.atomic (.revoke r .softRevoke)))
      (hlive : rec.lifecycle.isLive) : RecordStep σ l r (some rec) (some (softRevoked rec))
  | rotated (rec : RegistrationRecord) (hl : l = some (.atomic (.rotateKey r))) (hlive : rec.lifecycle.isLive) :
      RecordStep σ l r (some rec) (some (rotated rec))
  | recovered (bytes : Bytes) (state : PersistableState) (rec : RegistrationRecord)
      (o : Option RegistrationRecord) (hl : l = some (.atomic (.recover (some bytes))))
      (hp : Persistence.parse bytes = .ok state) (hm : rec ∈ state.registrations) (hid : rec.id = r) :
      RecordStep σ l r o (some (recoveredRecord rec))
  | committed (c : Nat) (p : PendingRegistration) (bout : BackendRegistration) (o : Option RegistrationRecord)
      (hl : l = some (.registerCommit c)) (hc : σ.clients c = some (.registered p bout)) (hid : p.record.id = r) :
      RecordStep σ l r o (some (commitRecord σ.runtime.authority p bout))
  | deregistering (c : Nat) (rec : RegistrationRecord) (hl : l = some (.deregisterBegin c r))
      (hc : σ.clients c = none) (hd : deregisterable rec.lifecycle = true) (hn : rec.leaseCount = 0) :
      RecordStep σ l r (some rec) (some { rec with lifecycle := .deregistering })
  | failed (c : Nat) (d : PendingDeregistration) (bo : RegisterOutcome) (rec : RegistrationRecord)
      (hl : l = some (.deregisterFinish c)) (hc : σ.clients c = some (.deregistered d (some bo)))
      (hid : d.registration = r) : RecordStep σ l r (some rec) (some { rec with lifecycle := .failed })
  | removed (c : Nat) (d : PendingDeregistration) (rec : RegistrationRecord)
      (hl : l = some (.deregisterFinish c)) (hc : σ.clients c = some (.deregistered d none))
      (hid : d.registration = r) : RecordStep σ l r (some rec) none

omit [IBackend β] in
/-- Assigning a record changes the record of its key and no other. -/
theorem RecordStep.of_put {σ : System β} {l : Option (Action β)} {r k : RegistrationId} {rec rec' : RegistrationRecord}
    {m : Table RegistrationId RegistrationRecord} (hk : m.lookup k = some rec)
    (h : k = r → RecordStep σ l r (some rec) (some rec')) :
    RecordStep σ l r (m.lookup r) ((Table.put k rec' m).lookup r) := by
  rw [Table.lookup_put]
  split
  · rename_i hr
    rw [hr, hk]
    exact hr ▸ h hr.symm
  · exact .keep _

omit [IBackend β] in
/-- A withdrawal loop withdraws the record or leaves it. -/
theorem RecordStep.of_withdrawn {σ : System β} {l : Option (Action β)} {r : RegistrationId}
    {hit : RegistrationRecord → Bool} {lc : RegistrationLifecycle} {reason : StdString}
    {m : Table RegistrationId RegistrationRecord}
    (h : ∀ rec, hit rec = true → RecordStep σ l r (some rec) (some (withdraw lc reason rec))) :
    RecordStep σ l r (m.lookup r) ((withdrawn hit lc reason m).lookup r) := by
  rw [withdrawn, Table.lookup_mapVals]
  rcases m.lookup r with _ | rec
  · exact .keep none
  · simp only [Option.map_some]
    split
    · exact h rec ‹_›
    · exact .keep _

theorem effect_recordStep (σ : System β) {op : AtomicOp β} {s' : Rdmabuffer β} (he : Effect σ.runtime op s')
    (r : RegistrationId) :
    RecordStep σ (some (.atomic op)) r (σ.runtime.registrations.lookup r) (s'.registrations.lookup r) := by
  cases he with
  | refused | authority | attached | controlled | queried | domainCreated | bufferRefused | bufferCreated
    | releasedAlone => exact .keep _
  | domainDestroyed d de acct h => exact .of_withdrawn fun rec hit => .destroyed d rec rfl hit
  | bufferReallocated descriptor be nextBuffer acct h hg =>
    exact .of_withdrawn fun rec hit => .reallocated descriptor rec rfl hit
  | leased k env needed rec ls acct h hlive hv ha => exact .of_put h fun _ => .leases rec _
  | released lease ls rec acct hls h => exact .of_put h fun _ => .leases rec _
  | hardRevoked k rec leases acct h hlive => exact .of_put h fun hk => .hardRevoked rec (hk ▸ rfl) hlive
  | softRevoked k rec acct h hlive => exact .of_put h fun hk => .softRevoked rec (hk ▸ rfl) hlive
  | rotated k rec b h hlive hb hh => exact .of_put h fun hk => .rotated rec (hk ▸ rfl) hlive
  | rotatedAlone k rec h hlive hb => exact .of_put h fun hk => .rotated rec (hk ▸ rfl) hlive
  | recovered bytes state hp =>
    rcases (restore_spec σ.runtime state).registration r with ⟨-, hlk⟩ | ⟨rec, hm, hid, hlk⟩
    · rw [hlk]; exact .keep _
    · rw [hlk]; exact .recovered bytes state rec _ rfl hp hm hid

omit [IBackend β] in
theorem deregisterFinish_recordStep (σ : System β) (c : Nat) (d : PendingDeregistration)
    (refusal : Option RegisterOutcome) (hc : σ.clients c = some (.deregistered d refusal)) (r : RegistrationId) :
    RecordStep σ (some (.deregisterFinish c)) r (σ.runtime.registrations.lookup r)
      ((σ.runtime.deregisterFinish d refusal).1.registrations.lookup r) := by
  unfold deregisterFinish
  split
  · exact .keep _
  · rename_i bo rec h
    exact .of_put h fun hk => .failed c d bo rec rfl hc hk
  · exact .keep _
  · rename_i rec h
    dsimp only
    rw [Table.lookup_erase_eq]
    split
    · rename_i hr
      subst hr
      rw [h]
      exact .removed c d rec rfl hc rfl
    · exact .keep _

theorem section_recordStep {σ σ' : System β} {a : Action β} (h : SectionStep σ a σ') (r : RegistrationId) :
    RecordStep σ (some a) r (σ.runtime.registrations.lookup r) (σ'.runtime.registrations.lookup r) := by
  cases h with
  | idle | begun | vanished | called | deregisterSkipped | deregisterCalled => exact .keep _
  | atomic op s he => exact effect_recordStep σ he r
  | committed c p bout hc =>
    simp only [System.move, registerCommit_lookup]
    split
    · rename_i hr; exact .committed c p bout _ rfl hc hr.symm
    · exact .keep _
  | deregisterBegun c k rec hc h hn hd => exact .of_put h fun hk => .deregistering c rec (hk ▸ rfl) hc hd hn
  | deregisterFinished c d refusal hc => exact deregisterFinish_recordStep σ c d refusal hc r

/-- Every step of the interleaved system is one of these for every record. -/
theorem recordStep {σ σ' : System β} {l : Option (Action β)} (h : (interleaved β).step σ l σ') (r : RegistrationId) :
    RecordStep σ l r (σ.runtime.registrations.lookup r) (σ'.runtime.registrations.lookup r) := by
  cases l with
  | none =>
    obtain ⟨hr, -⟩ := h
    rw [Table.lookup_perm hr.registrations]
    exact .keep _
  | some a =>
    obtain rfl : σ' = σ.exec a := h
    exact section_recordStep (σ.exec_cases a) r

end RdmaBuffer
