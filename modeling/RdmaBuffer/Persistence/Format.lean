/-
The persisted format: what is written for each record, what a reader accepts for it, the file
as a whole with its checks and error codes, and the semantic digest.
-/
import RdmaBuffer.Model.Accounting
import RdmaBuffer.Persistence.Bytes

namespace RdmaBuffer

/-- Everything that is legal to persist. -/
structure PersistableState where
  formatVersion : UInt32 := 1
  buffers : List BufferDescriptor := []
  registrations : List RegistrationRecord := []
  domains : List ProtectionDomainId := []
  remoteKeyHistory : List RemoteKey := []
  localKeyHistory : List LocalKey := []
  revocationHistory : List StdString := []
  accountingSummary : Accounting := {}
  backendCapabilitySnapshot : List BackendInfo := []
  authoritySnapshot : AuthoritySnapshot := {}
  policyGeneration : PolicyGeneration := {}

namespace Persistence

def formatMagic : UInt32 := 0x52444D31

def formatVersion : UInt32 := 1

/-- The bound on element counts and string lengths. -/
def maxCount : Nat := 2 ^ 20

/-! ## Records -/

def encodeDescriptor (b : BufferDescriptor) : Bytes :=
  putU64 b.id.value ++ putU64 b.generation.value ++ putEnum b.domain ++ putU64 b.base.address ++
    putEnum b.base.kind ++ putU64 b.byteLength ++ putU64 b.alignment ++ putU64 b.pageSize ++
    putU64 b.owner.value ++ putU64 b.process.value ++ putU64 b.worker.value ++ putU64 b.node.value ++
    putU64 b.device.value ++ putEnum b.direction ++ putU8 b.requestedAccess ++ putEnum b.registrationMode ++
    putEnum b.lifetime ++ putEnum b.provenance ++ putEnum b.freshness ++ putU64 b.policyGeneration.value

def decodeDescriptor : Reader BufferDescriptor := do
  let id ← getId
  let generation ← getGeneration
  let domain ← getEnum
  let address ← getU64
  let kind ← getEnum
  let byteLength ← getU64
  let alignment ← getU64
  let pageSize ← getU64
  let owner ← getId
  let process ← getId
  let worker ← getId
  let node ← getId
  let device ← getId
  let dr ← getU8
  let am ← getU8
  let rm ← getU8
  let lt ← getU8
  let pv ← getU8
  let fr ← getU8
  -- the bytes of the enumerations are read first and checked together
  let direction ← checkEnum dr
  let registrationMode ← checkEnum rm
  let lifetime ← checkEnum lt
  let provenance ← checkEnum pv
  let freshness ← checkEnum fr
  let policyGeneration ← getGeneration
  pure { id, generation, domain, base := { address, kind }, byteLength, alignment, pageSize, owner, process,
         worker, node, device, direction, requestedAccess := am, registrationMode, lifetime, provenance,
         freshness, policyGeneration }

def encodeRemoteKey (k : RemoteKey) : Bytes :=
  putU64 k.id.value ++ putU64 k.registration.value ++ putU64 k.registrationGeneration.value ++
    putU64 k.keyGeneration.value ++ putU64 k.bufferGeneration.value ++ putU64 k.boot.value ++
    putU64 k.process.value ++ putU64 k.backend.value ++ putEnum k.transport ++ putU8 k.access ++
    putU64 k.start ++ putU64 k.length ++ putU64 k.opaqueValue ++ putBool k.revoked ++ putEnum k.provenance

def decodeRemoteKey : Reader RemoteKey := do
  let id ← getId
  let registration ← getId
  let registrationGeneration ← getGeneration
  let keyGeneration ← getGeneration
  let bufferGeneration ← getGeneration
  let boot ← getId
  let process ← getId
  let backend ← getId
  let transport ← getEnum
  let access ← getU8
  let start ← getU64
  let length ← getU64
  let opaqueValue ← getU64
  -- any byte but zero counts as revoked
  let rv ← getU8
  let pv ← getU8
  let provenance ← checkEnum pv
  pure { id, registration, registrationGeneration, keyGeneration, bufferGeneration, boot, process, backend,
         transport, access, start, length, opaqueValue, revoked := rv != 0, provenance }

def encodeLocalKey (k : LocalKey) : Bytes :=
  putU64 k.id.value ++ putU64 k.registration.value ++ putU64 k.registrationGeneration.value ++
    putU64 k.boot.value ++ putU64 k.backend.value ++ putEnum k.transport ++ putU8 k.access ++
    putU64 k.opaqueValue ++ putEnum k.provenance

def decodeLocalKey : Reader LocalKey := do
  let id ← getId
  let registration ← getId
  let registrationGeneration ← getGeneration
  let boot ← getId
  let backend ← getId
  let t ← getU8
  let access ← getU8
  let transport ← checkEnum t
  let opaqueValue ← getU64
  let pv ← getU8
  let provenance ← checkEnum pv
  pure { id, registration, registrationGeneration, boot, backend, transport, access, opaqueValue, provenance }

/-- The policy generation of a record is not written. -/
def encodeRegistration (rec : RegistrationRecord) : Bytes :=
  putU64 rec.id.value ++ putU64 rec.bufferId.value ++ putU64 rec.bufferGeneration.value ++
    putU64 rec.registrationGeneration.value ++ putU64 rec.backend.value ++ putU64 rec.backendGeneration.value ++
    putU64 rec.transport.value ++ putU64 rec.nic.value ++ putEnum rec.domain ++ putEnum rec.transportClass ++
    putU8 rec.grantedAccess ++ putU64 rec.start ++ putU64 rec.length ++ putU64 rec.pageAlignment ++
    putU64 rec.owner.value ++ putU64 rec.process.value ++ putU64 rec.worker.value ++ putU64 rec.boot.value ++
    putU64 rec.epoch.value ++ putU64 rec.device.value ++ putU64 rec.domainId.value ++
    putU64 rec.registrationTimestampNs ++ putEnum rec.provenance ++ putEnum rec.freshness ++
    putEnum rec.lifecycle ++ putU64 rec.leaseCount ++ putU64 rec.refCount ++ putU64 rec.memoryRegionId.value ++
    putStr rec.backendHandle ++ putStr rec.invalidationReason ++ encodeDescriptor rec.descriptor ++
    encodeRemoteKey rec.remoteKey ++ encodeLocalKey rec.localKey

def decodeRegistration : Reader RegistrationRecord := do
  let id ← getId
  let bufferId ← getId
  let bufferGeneration ← getGeneration
  let registrationGeneration ← getGeneration
  let backend ← getId
  let backendGeneration ← getGeneration
  let transport ← getId
  let nic ← getId
  let dom ← getU8
  let tc ← getU8
  let acc ← getU8
  let domain ← checkEnum dom
  let transportClass ← checkEnum tc
  let start ← getU64
  let length ← getU64
  let pageAlignment ← getU64
  let owner ← getId
  let process ← getId
  let worker ← getId
  let boot ← getId
  let epoch ← getGeneration
  let device ← getId
  let domainId ← getId
  let registrationTimestampNs ← getU64
  let pv ← getU8
  let fr ← getU8
  let lc ← getU8
  let provenance ← checkEnum pv
  let freshness ← checkEnum fr
  let lifecycle ← checkEnum lc
  let leaseCount ← getU64
  let refCount ← getU64
  let memoryRegionId ← getId
  let backendHandle ← getStr maxCount
  let invalidationReason ← getStr maxCount
  let descriptor ← decodeDescriptor
  let remoteKey ← decodeRemoteKey
  let localKey ← decodeLocalKey
  pure { id, bufferId, bufferGeneration, registrationGeneration, descriptor, backend, backendGeneration, transport,
         transportClass, nic, domain, grantedAccess := acc, localKey, remoteKey, start, length, pageAlignment,
         memoryRegionId, backendHandle, owner, process, worker, boot, epoch, device, domainId,
         registrationTimestampNs, provenance, freshness, lifecycle, leaseCount, refCount, invalidationReason }

def encodeBackendInfo (b : BackendInfo) : Bytes :=
  putU64 b.id.value ++ putStr b.name ++ putStr b.description ++ putEnum b.provenance ++ putEnum b.state ++
    putU64 b.generation.value ++ putU64 b.protDomainCount ++ putU64 b.registrationCount ++
    putSize b.capabilities.supportedDomains.length ++ b.capabilities.supportedDomains.flatMap putEnum ++
    putU64 b.capabilities.maxRegistrationLength ++ putU64 b.capabilities.requiredAlignment ++
    putEnum b.capabilities.remoteRead ++ putEnum b.capabilities.remoteWrite ++ putEnum b.capabilities.remoteAtomic ++
    putEnum b.capabilities.hostPinned ++ putEnum b.capabilities.pageableRegistration ++
    putEnum b.capabilities.cudaDevice ++ putEnum b.capabilities.cudaManaged ++
    putEnum b.capabilities.onDemandPaging ++ putEnum b.capabilities.oneSided ++
    putEnum b.capabilities.multiprocess ++ putEnum b.capabilities.multinode ++ putEnum b.capabilities.keyRotation ++
    putEnum b.capabilities.revocation ++ putEnum b.capabilities.provenance

/-- A capability byte out of range reads as unknown. -/
def cap8 (x : UInt8) : CapabilityState := (ofByte x).getD .unknown

def decodeBackendInfo : Reader BackendInfo := do
  let id ← getId
  let name ← getStr 256
  let description ← getStr 1024
  let pv ← getU8
  let st ← getU8
  let provenance ← checkEnum pv
  let state ← checkEnum st
  let generation ← getGeneration
  let protDomainCount ← getU64
  let registrationCount ← getU64
  let ndom ← getU64
  if ndom.toNat > maxCount then failure
  let supportedDomains ← getMany ndom.toNat getEnum
  let maxRegistrationLength ← getU64
  let requiredAlignment ← getU64
  -- the capability bytes are not checked
  let remoteRead ← getU8
  let remoteWrite ← getU8
  let remoteAtomic ← getU8
  let hostPinned ← getU8
  let pageableRegistration ← getU8
  let cudaDevice ← getU8
  let cudaManaged ← getU8
  let onDemandPaging ← getU8
  let oneSided ← getU8
  let multiprocess ← getU8
  let multinode ← getU8
  let keyRotation ← getU8
  let revocation ← getU8
  let cp ← getU8
  pure { id, name, description, provenance, state, generation, protDomainCount, registrationCount,
         capabilities :=
           { supportedDomains, maxRegistrationLength, requiredAlignment, remoteRead := cap8 remoteRead,
             remoteWrite := cap8 remoteWrite, remoteAtomic := cap8 remoteAtomic, hostPinned := cap8 hostPinned,
             pageableRegistration := cap8 pageableRegistration, cudaDevice := cap8 cudaDevice,
             cudaManaged := cap8 cudaManaged, onDemandPaging := cap8 onDemandPaging, oneSided := cap8 oneSided,
             multiprocess := cap8 multiprocess, multinode := cap8 multinode, keyRotation := cap8 keyRotation,
             revocation := cap8 revocation, provenance := (ofByte cp).getD .unknown } }

def encodeAccounting (a : Accounting) : Bytes :=
  [a.logicalBuffers, a.liveBufferBytes, a.pinnedBytes, a.registeredBytes, a.activeRegistrations, a.activeLeases,
    a.protectionDomains, a.localKeys, a.remoteKeys, a.remoteReadBytes, a.remoteWriteBytes, a.atomicOperations,
    a.failedAccessAttempts, a.staleAccessRejections, a.revocations, a.deregistrations, a.registrationReuseHits,
    a.registrationMisses, a.participantRestarts].flatMap fun c => putU64 c.value

def getCounter : Reader Counter := do
  let v ← getU64
  pure ⟨v⟩

def decodeAccounting : Reader Accounting := do
  let logicalBuffers ← getCounter
  let liveBufferBytes ← getCounter
  let pinnedBytes ← getCounter
  let registeredBytes ← getCounter
  let activeRegistrations ← getCounter
  let activeLeases ← getCounter
  let protectionDomains ← getCounter
  let localKeys ← getCounter
  let remoteKeys ← getCounter
  let remoteReadBytes ← getCounter
  let remoteWriteBytes ← getCounter
  let atomicOperations ← getCounter
  let failedAccessAttempts ← getCounter
  let staleAccessRejections ← getCounter
  let revocations ← getCounter
  let deregistrations ← getCounter
  let registrationReuseHits ← getCounter
  let registrationMisses ← getCounter
  let participantRestarts ← getCounter
  pure { logicalBuffers, liveBufferBytes, pinnedBytes, registeredBytes, activeRegistrations, activeLeases,
         protectionDomains, localKeys, remoteKeys, remoteReadBytes, remoteWriteBytes, atomicOperations,
         failedAccessAttempts, staleAccessRejections, revocations, deregistrations, registrationReuseHits,
         registrationMisses, participantRestarts }

def encodeAuthority (s : AuthoritySnapshot) : Bytes :=
  putU64 s.coordinatorEpoch.value ++ putU64 s.workerBoot.value ++ putU64 s.worker.value ++ putU64 s.owner.value ++
    putU64 s.ownerGeneration.value ++ putU64 s.workerGeneration.value ++ putU64 s.policyGeneration.value ++
    putU64 s.backendGeneration.value ++ putU64 s.transportGeneration.value ++ putU64 s.nicGeneration.value ++
    putU64 s.node.value ++ putU64 s.process.value ++ putEnum s.provenance

/-- The provenance byte is read, neither checked nor kept. -/
def decodeAuthority : Reader AuthoritySnapshot := do
  let coordinatorEpoch ← getGeneration
  let workerBoot ← getId
  let worker ← getId
  let owner ← getId
  let ownerGeneration ← getGeneration
  let workerGeneration ← getGeneration
  let policyGeneration ← getGeneration
  let backendGeneration ← getGeneration
  let transportGeneration ← getGeneration
  let nicGeneration ← getGeneration
  let node ← getId
  let process ← getId
  let _ ← getU8
  pure { coordinatorEpoch, workerBoot, worker, owner, ownerGeneration, workerGeneration, policyGeneration,
         backendGeneration, transportGeneration, nicGeneration, node, process }

/-! ## The file -/

def encodeList {α : Type} (f : α → Bytes) (as : List α) : Bytes := putSize as.length ++ as.flatMap f

def encodeBody (state : PersistableState) : Bytes :=
  putU32 formatMagic ++ putU32 formatVersion ++ putU64 state.policyGeneration.value ++
    encodeAuthority state.authoritySnapshot ++ encodeList encodeDescriptor state.buffers ++
    encodeList encodeRegistration state.registrations ++ encodeList (fun d => putU64 d.value) state.domains ++
    encodeList encodeRemoteKey state.remoteKeyHistory ++ encodeList encodeLocalKey state.localKeyHistory ++
    encodeList putStr state.revocationHistory ++ encodeAccounting state.accountingSummary ++
    encodeList encodeBackendInfo state.backendCapabilitySnapshot

/-- The body and its CRC-32 trailer. -/
def serialize (state : PersistableState) : Bytes :=
  encodeBody state ++ putU32 (crc32 (encodeBody state))

/-- A read that fails with an error code. -/
abbrev Parser := StateT Bytes (Except StdString)

def orErr {α : Type} (err : StdString) (r : Reader α) : Parser α := fun bs =>
  match r bs with
  | none => .error err
  | some x => .ok x

def getCount : Parser Nat := do
  let n ← orErr (lit "IMPOSSIBLE_COUNT") getU64
  if n.toNat > maxCount then throw (lit "IMPOSSIBLE_COUNT")
  pure n.toNat

def getList {α : Type} (r : Reader α) : Parser (List α) := do
  let n ← getCount
  orErr (lit "TRUNCATED") (getMany n r)

/-- The fields after the version, in the order of the file. -/
def parseFields : Parser PersistableState := do
  let policyGeneration ← orErr (lit "TRUNCATED") getGeneration
  let authoritySnapshot ← orErr (lit "TRUNCATED") decodeAuthority
  -- a missing first count is reported as a truncation, unlike the later ones
  let n ← orErr (lit "TRUNCATED") getU64
  if n.toNat > maxCount then throw (lit "IMPOSSIBLE_COUNT")
  let buffers ← orErr (lit "TRUNCATED") (getMany n.toNat decodeDescriptor)
  let registrations ← getList decodeRegistration
  let domains ← getList getId
  let remoteKeyHistory ← getList decodeRemoteKey
  let localKeyHistory ← getList decodeLocalKey
  let revocationHistory ← getList (getStr maxCount)
  let accountingSummary ← orErr (lit "TRUNCATED") decodeAccounting
  let backendCapabilitySnapshot ← getList decodeBackendInfo
  let rest ← get
  if rest.length ≠ 0 then throw (lit "TRAILING_GARBAGE")
  pure { buffers, registrations, domains, remoteKeyHistory, localKeyHistory, revocationHistory, accountingSummary,
         backendCapabilitySnapshot, authoritySnapshot, policyGeneration }

/-- One list of the integrity checks: each element passes `regressed` and no identity repeats. -/
def checkIdentities {α : Type} (regressed : α → Bool) (identity : α → UInt64) :
    List UInt64 → List α → Except StdString Unit
  | _, [] => .ok ()
  | seen, a :: as =>
    if regressed a then .error (lit "GENERATION_REGRESSION")
    else if seen.contains (identity a) then .error (lit "DUPLICATE_IDENTITY")
    else checkIdentities regressed identity (seen ++ [identity a]) as

def checkIntegrity (state : PersistableState) : Except StdString Unit := do
  checkIdentities (fun b => b.generation.value == 0) (fun b => b.id.value) [] state.buffers
  checkIdentities (fun rec => rec.registrationGeneration.value == 0) (fun rec => rec.id.value) [] state.registrations
  checkIdentities (fun _ => false) (fun d => d.value) [] state.domains

def parse (bytesIn : Bytes) : Except StdString PersistableState := do
  if bytesIn.length < 4 + 4 + 4 then throw (lit "TRUNCATED")
  let body := bytesIn.take (bytesIn.length - 4)
  let (magic, bs) ← orErr (lit "TRUNCATED") getU32 body
  let (ver, bs) ← orErr (lit "TRUNCATED") getU32 bs
  if magic ≠ formatMagic then throw (lit "BAD_MAGIC")
  if ver ≠ formatVersion then throw (lit "BAD_VERSION")
  if crc32 body ≠ (ofLeBytes (bytesIn.drop (bytesIn.length - 4))).toUInt32 then throw (lit "CHECKSUM_MISMATCH")
  let (state, _) ← parseFields bs
  checkIntegrity state
  pure state

/-! ## The digest -/

def fnv1a (s : StdString) : UInt64 :=
  s.foldl (fun h c => (h ^^^ c.toUInt64) * 0x100000001B3) 0xCBF29CE484222325

/-- The canonical text of a state's logical content. -/
def digestText (state : PersistableState) : StdString :=
  lit "v" ++ intToStr state.formatVersion.toUInt64 ++ lit ":" ++
    lit "pc" ++ intToStr state.policyGeneration.value ++ lit ";" ++
    lit "a" ++ intToStr state.authoritySnapshot.coordinatorEpoch.value ++
    lit "," ++ intToStr state.authoritySnapshot.workerBoot.value ++
    lit "," ++ intToStr state.authoritySnapshot.backendGeneration.value ++ lit ";" ++
    state.buffers.flatMap (fun b =>
      lit "buf" ++ intToStr b.id.value ++ lit ":" ++ intToStr b.generation.value ++ lit ":" ++
        intToStr b.byteLength ++ lit ":" ++ intToStr (UInt64.ofNat (ByteEnum.ordinal b.domain)) ++ lit ";") ++
    state.registrations.flatMap (fun rec =>
      lit "reg" ++ intToStr rec.id.value ++ lit ":" ++ intToStr rec.bufferId.value ++ lit ":" ++
        intToStr rec.bufferGeneration.value ++ lit ":" ++ intToStr rec.registrationGeneration.value ++ lit ":" ++
        intToStr rec.start ++ lit ":" ++ intToStr rec.length ++ lit ";") ++
    state.domains.flatMap (fun d => lit "dom" ++ intToStr d.value ++ lit ";") ++
    state.remoteKeyHistory.flatMap (fun k =>
      lit "rk" ++ intToStr k.id.value ++ lit ":" ++ intToStr k.registration.value ++ lit ":" ++
        intToStr k.keyGeneration.value ++ lit ":" ++ (if k.revoked then lit "1" else lit "0") ++ lit ";") ++
    state.revocationHistory.flatMap (fun s => lit "rv" ++ s ++ lit ";")

def semanticDigest (state : PersistableState) : StdString := toHex (fnv1a (digestText state))

end Persistence

end RdmaBuffer
