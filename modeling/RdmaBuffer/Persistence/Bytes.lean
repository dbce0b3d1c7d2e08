/-
The bounded byte writer and reader, the enumeration bytes, and the CRC-32 checksum.
-/
import RdmaBuffer.Model.Records

namespace RdmaBuffer

abbrev Bytes := List UInt8

/-! ## Writing -/

/-- The low `n` bytes of a value, least significant first. -/
def leBytes : Nat → UInt64 → Bytes
  | 0, _ => []
  | n + 1, v => v.toUInt8 :: leBytes n (v >>> 8)

def putU8 (v : UInt8) : Bytes := [v]

def putU32 (v : UInt32) : Bytes := leBytes 4 v.toUInt64

def putU64 (v : UInt64) : Bytes := leBytes 8 v

def putSize (n : Nat) : Bytes := putU64 (UInt64.ofNat n)

def putStr (s : StdString) : Bytes := putSize s.length ++ s

def putBool (b : Bool) : Bytes := putU8 (if b then 1 else 0)

/-! ## Reading -/

/-- A read from the bytes not consumed yet; `none` is a failed read. -/
abbrev Reader := StateT Bytes Option

/-- The value of bytes given least significant first. -/
def ofLeBytes : Bytes → UInt64
  | [] => 0
  | b :: bs => b.toUInt64 ||| ofLeBytes bs <<< 8

def getRaw (n : Nat) : Reader Bytes := fun bs =>
  if n ≤ bs.length then some (bs.take n, bs.drop n) else none

def getU8 : Reader UInt8 := fun bs =>
  match bs with
  | [] => none
  | b :: rest => some (b, rest)

def getU32 : Reader UInt32 := do
  let bs ← getRaw 4
  pure (ofLeBytes bs).toUInt32

def getU64 : Reader UInt64 := do
  let bs ← getRaw 8
  pure (ofLeBytes bs)

def getId {kind : IdKind} : Reader (StrongId kind) := do
  let v ← getU64
  pure ⟨v⟩

def getGeneration {kind : GenerationKind} : Reader (StrongGeneration kind) := do
  let v ← getU64
  pure ⟨v⟩

def getStr (maxLen : Nat) : Reader StdString := do
  let n ← getU64
  if n.toNat > maxLen then failure
  getRaw n.toNat

/-- The reads of `n` elements in a row. -/
def getMany {α : Type} (n : Nat) (r : Reader α) : Reader (List α) :=
  match n with
  | 0 => pure []
  | n + 1 => do
    let a ← r
    let as ← getMany n r
    pure (a :: as)

/-! ## Enumeration bytes -/

/-- An enumeration stored as its ordinal in one byte. -/
class ByteEnum (α : Type) where
  values : List α
  ordinal : α → Nat

def putEnum {α : Type} [ByteEnum α] (a : α) : Bytes := putU8 (UInt8.ofNat (ByteEnum.ordinal a))

/-- The value with the given ordinal; `none` past the last one. -/
def ofByte {α : Type} [ByteEnum α] (b : UInt8) : Option α := ByteEnum.values[b.toNat]?

/-- A byte already read, as an enumeration value. -/
def checkEnum {α : Type} [ByteEnum α] (b : UInt8) : Reader α :=
  match ofByte b with
  | none => failure
  | some a => pure a

def getEnum {α : Type} [ByteEnum α] : Reader α := do
  let b ← getU8
  checkEnum b

instance : ByteEnum MemoryDomain where
  values := [.hostPageable, .hostPinned, .cudaDevice, .cudaManaged, .sharedMemory, .fileBacked,
    .syntheticRemoteCapable, .unknown]
  ordinal := MemoryDomain.ctorIdx

instance : ByteEnum PointerKind where
  values := [.virtual, .device, .shared, .file, .synthetic, .unknown]
  ordinal := PointerKind.ctorIdx

instance : ByteEnum TransferDirection where
  values := [.none, .send, .receive, .bidirectional]
  ordinal := TransferDirection.ctorIdx

instance : ByteEnum RegistrationMode where
  values := [.pinOnly, .remoteAccess, .any]
  ordinal := RegistrationMode.ctorIdx

instance : ByteEnum LifetimePolicy where
  values := [.transactional, .persistent, .ephemeral]
  ordinal := LifetimePolicy.ctorIdx

instance : ByteEnum Provenance where
  values := [.real, .synthetic, .unknown]
  ordinal := Provenance.ctorIdx

instance : ByteEnum Freshness where
  values := [.valid, .revalidationRequired, .stale, .unknown]
  ordinal := Freshness.ctorIdx

instance : ByteEnum TransportClass where
  values := [.infinibandClass, .roceClass, .iwarpClass, .windowsNdClass, .libfabricClass, .verbsClass,
    .tcpReference, .synthetic, .unknown]
  ordinal := TransportClass.ctorIdx

instance : ByteEnum RegistrationLifecycle where
  values := [.unregistered, .registering, .registered, .active, .revoking, .revoked, .deregistering,
    .deregistered, .failed, .stale, .revalidationRequired]
  ordinal := RegistrationLifecycle.ctorIdx

instance : ByteEnum BackendState where
  values := [.ready, .discovering, .failed, .destroyed]
  ordinal := BackendState.ctorIdx

instance : ByteEnum CapabilityState where
  values := [.supported, .notSupported, .unknown]
  ordinal := CapabilityState.ctorIdx

/-! ## Checksum -/

/-- One bit of the CRC-32 division. -/
def crcBit (crc : UInt32) : UInt32 :=
  (crc >>> 1) ^^^ (0xEDB88320 &&& if crc &&& 1 = 1 then 0xFFFFFFFF else 0)

def crcByte (crc : UInt32) (b : UInt8) : UInt32 :=
  crcBit (crcBit (crcBit (crcBit (crcBit (crcBit (crcBit (crcBit (crc ^^^ b.toUInt32))))))))

def crc32 (data : Bytes) : UInt32 :=
  if data = [] then 0 else data.foldl crcByte 0xFFFFFFFF ^^^ 0xFFFFFFFF

example : crc32 (lit "123456789") = 0xCBF43926 := by decide +kernel

end RdmaBuffer
