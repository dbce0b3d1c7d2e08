/-
The payloads of the worker protocol: the descriptor as it goes over the wire, and the encoder and the decoder of each
kind of command.
-/
import RdmaBuffer.Persistence.Codec

namespace RdmaBuffer

namespace Wire

/-! ## Descriptors -/

def writeDescriptor (d : BufferDescriptor) : Bytes :=
  putU64 d.id.value ++ putU64 d.generation.value ++ putU8 (toByte d.domain) ++ putU64 d.base.address ++
    putU8 (toByte d.base.kind) ++ putU64 d.byteLength ++ putU64 d.alignment ++ putU64 d.pageSize ++
    putU64 d.owner.value ++ putU64 d.process.value ++ putU64 d.worker.value ++ putU64 d.node.value ++
    putU64 d.device.value ++ putU8 (toByte d.direction) ++ putU8 d.requestedAccess ++
    putU8 (toByte d.registrationMode) ++ putU8 (toByte d.lifetime) ++ putU8 (toByte d.provenance) ++
    putU8 (toByte d.freshness) ++ putU64 d.policyGeneration.value

/-- A byte cast to an enumeration; `last` stands in where there is no such value. -/
def castEnum {α : Type} [ByteEnum α] (last : α) (u : UInt8) : α := (ofByte u).getD last

def readDescriptor : Reader BufferDescriptor := do
  let id ← getU64
  let generation ← getU64
  let u ← getU8
  if u > toByte MemoryDomain.unknown then failure
  let domain := castEnum MemoryDomain.unknown u
  let address ← getU64
  let u ← getU8
  if u > 5 then failure
  let kind := castEnum PointerKind.unknown u
  let byteLength ← getU64
  let alignment ← getU64
  let pageSize ← getU64
  let owner ← getU64
  let process ← getU64
  let worker ← getU64
  let node ← getU64
  let device ← getU64
  let dr ← getU8
  let am ← getU8
  let rm ← getU8
  let lt ← getU8
  let pv ← getU8
  let fr ← getU8
  if dr > toByte TransferDirection.bidirectional then failure
  if rm > toByte RegistrationMode.any then failure
  if lt > toByte LifetimePolicy.ephemeral then failure
  if pv > toByte Provenance.unknown then failure
  if fr > toByte Freshness.unknown then failure
  let policyGeneration ← getU64
  pure { id := ⟨id⟩, generation := ⟨generation⟩, domain, base := { address, kind }, byteLength, alignment, pageSize
         owner := ⟨owner⟩, process := ⟨process⟩, worker := ⟨worker⟩, node := ⟨node⟩, device := ⟨device⟩
         direction := castEnum .bidirectional dr, requestedAccess := am, registrationMode := castEnum .any rm
         lifetime := castEnum .ephemeral lt, provenance := castEnum .unknown pv, freshness := castEnum .unknown fr
         policyGeneration := ⟨policyGeneration⟩ }

/-! ## Command payloads -/

/-- What a reader takes from the front of a payload; the rest of it is not looked at. -/
def fields {α : Type} (r : Reader α) (p : Bytes) : Option α := (r p).map Prod.fst

def encodeHello (role : StdString) : Bytes := putStr role

def decodeHello (p : Bytes) : Option StdString := fields (getStr 64) p

def encodeHelloAck (boot epoch node : UInt64) : Bytes := putU64 boot ++ putU64 epoch ++ putU64 node

def decodeHelloAck (p : Bytes) : Option (UInt64 × UInt64 × UInt64) :=
  fields (p := p) do
    let boot ← getU64
    let epoch ← getU64
    let node ← getU64
    pure (boot, epoch, node)

def encodeRegister (d : BufferDescriptor) (domain backend : UInt64) : Bytes :=
  putU64 domain ++ putU64 backend ++ writeDescriptor d

def decodeRegister (p : Bytes) : Option (BufferDescriptor × UInt64 × UInt64) :=
  fields (p := p) do
    let domain ← getU64
    let backend ← getU64
    let d ← readDescriptor
    pure (d, domain, backend)

def encodeRegisterAck (ok : Bool) (reg keygen : UInt64) (msg : StdString) : Bytes :=
  putU8 (if ok then 1 else 0) ++ putU64 reg ++ putU64 keygen ++ putStr msg

def decodeRegisterAck (p : Bytes) : Option (Bool × UInt64 × UInt64 × StdString) :=
  fields (p := p) do
    let o ← getU8
    let reg ← getU64
    let keygen ← getU64
    let msg ← getStr 4096
    pure (o != 0, reg, keygen, msg)

def encodeAccess (reg off len kind : UInt64) (access : UInt8) (boot expkeygen : UInt64) : Bytes :=
  putU64 reg ++ putU64 off ++ putU64 len ++ putU64 kind ++ putU8 access ++ putU64 boot ++ putU64 expkeygen

def decodeAccess (p : Bytes) : Option (UInt64 × UInt64 × UInt64 × UInt64 × UInt8 × UInt64 × UInt64) :=
  fields (p := p) do
    let reg ← getU64
    let off ← getU64
    let len ← getU64
    let kind ← getU64
    let access ← getU8
    let boot ← getU64
    let expkeygen ← getU64
    pure (reg, off, len, kind, access, boot, expkeygen)

def encodeAccessAck (outcome : UInt8) (msg : StdString) : Bytes := putU8 outcome ++ putStr msg

def decodeAccessAck (p : Bytes) : Option (UInt8 × StdString) :=
  fields (p := p) do
    let outcome ← getU8
    let msg ← getStr 4096
    pure (outcome, msg)

def encodeResult (ok : Bool) (msg : StdString) : Bytes := putU8 (if ok then 1 else 0) ++ putStr msg

def decodeResult (p : Bytes) : Option (Bool × StdString) :=
  fields (p := p) do
    let o ← getU8
    let msg ← getStr 4096
    pure (o != 0, msg)

end Wire

end RdmaBuffer
