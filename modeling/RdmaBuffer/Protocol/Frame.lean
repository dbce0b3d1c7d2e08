/-
The framed protocol: message kinds, the encoding of a frame, and the decoder with its checks and error codes.
-/
import RdmaBuffer.Persistence.Format

namespace RdmaBuffer

namespace Protocol

open Persistence (orErr)

def frameMagic : UInt32 := 0x52444246

def frameVersion : UInt32 := 1

/-- The bound on payloads. -/
def maxPayload : Nat := 16 * 1024 * 1024

/-- Magic, version, kind, sequence number and length. -/
def headerSize : Nat := 28

inductive MessageKind
  | unknown | hello | helloAck | workerBoot | workerBootAck | createDomain | createDomainAck | registerBuffer
  | registerBufferAck | requestAccess | requestAccessAck | releaseLease | releaseLeaseAck | revoke | revokeAck
  | deregister | deregisterAck | persist | persistAck | recover | recoverAck | workerLost | error | ok | keepalive
  | max
  deriving DecidableEq, Repr

namespace MessageKind

def values : List MessageKind :=
  [.unknown, .hello, .helloAck, .workerBoot, .workerBootAck, .createDomain, .createDomainAck, .registerBuffer,
    .registerBufferAck, .requestAccess, .requestAccessAck, .releaseLease, .releaseLeaseAck, .revoke, .revokeAck,
    .deregister, .deregisterAck, .persist, .persistAck, .recover, .recoverAck, .workerLost, .error, .ok, .keepalive,
    .max]

def toU32 (kind : MessageKind) : UInt32 := UInt32.ofNat kind.ctorIdx

/-- The kind with the given ordinal. -/
def ofU32 (u : UInt32) : MessageKind := values[u.toNat]?.getD .unknown

end MessageKind

structure Frame where
  kind : MessageKind := .unknown
  seq : UInt64 := 0
  payload : Bytes := []
deriving DecidableEq, Repr

def put32 (x : UInt32) : Bytes := leBytes 4 x.toUInt64

def put64 (x : UInt64) : Bytes := leBytes 8 x

def get32 : Reader UInt32 := do
  let bs ← getRaw 4
  pure (ofLeBytes bs).toUInt32

def get64 : Reader UInt64 := do
  let bs ← getRaw 8
  pure (ofLeBytes bs)

/-- An oversized payload is not encoded. -/
def encodeFrame (kind : MessageKind) (seq : UInt64) (payload : Bytes) : Bytes :=
  if payload.length > maxPayload then []
  else
    let frame := put32 frameMagic ++ put32 frameVersion ++ put32 kind.toU32 ++ put64 seq ++
      put64 (UInt64.ofNat payload.length) ++ payload
    frame ++ put32 (crc32 frame)

/-- The first frame of the data and the number of bytes it occupies. -/
def decodeFrame (data : Bytes) : Except StdString (Frame × Nat) := do
  if data.length < headerSize then throw (lit "TRUNCATED")
  let (magic, rest) ← orErr (lit "TRUNCATED") get32 data
  let (version, rest) ← orErr (lit "TRUNCATED") get32 rest
  let (kindu, rest) ← orErr (lit "TRUNCATED") get32 rest
  let (seq, rest) ← orErr (lit "TRUNCATED") get64 rest
  let (len, _) ← orErr (lit "TRUNCATED") get64 rest
  if magic ≠ frameMagic then throw (lit "BAD_MAGIC")
  if version ≠ frameVersion then throw (lit "BAD_VERSION")
  if kindu ≥ MessageKind.max.toU32 ∨ kindu = 0 then throw (lit "INVALID_ENUM")
  if len.toNat > maxPayload then throw (lit "OVERSIZED")
  let total := headerSize + len.toNat + 4
  if data.length < total then throw (lit "TRUNCATED")
  let payload := (data.drop headerSize).take len.toNat
  -- the checksum covers the header and the payload
  let crcpos := headerSize + len.toNat
  let (expected, _) ← orErr (lit "TRUNCATED") get32 (data.drop crcpos)
  let actual := crc32 (data.take crcpos)
  if actual ≠ expected then throw (lit "CHECKSUM_MISMATCH")
  pure ({ kind := MessageKind.ofU32 kindu, seq, payload }, total)

example : (decodeFrame (encodeFrame .hello 42 (lit "hello"))).toOption =
    some ({ kind := .hello, seq := 42, payload := lit "hello" }, 37) := by
  decide +kernel

end Protocol

end RdmaBuffer
