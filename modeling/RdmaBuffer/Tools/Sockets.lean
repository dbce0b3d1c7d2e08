/-
The calls of the operating system that the coordinator and the worker make, and their loops around send and recv: whole
buffers and whole frames.
-/
import RdmaBuffer.Lib.Program
import RdmaBuffer.Protocol.Frame

namespace RdmaBuffer

namespace Tools

open Protocol

/-! ## Calls -/

/-- A connection, by the number of the process that opened it. -/
abbrev Socket := Nat

/-- The handle of a process that was created. -/
abbrev Handle := Nat

/-- Where a line is written: the standard output or the proof log. -/
inductive Out
  | stdout | proof
  deriving DecidableEq

/-- What recv returned: at least one byte, and not more than were asked for. -/
structure Chunk (n : Nat) where
  bytes : Bytes
  nonempty : bytes ≠ []
  le : bytes.length ≤ n

/-- How much of a buffer send took: at least one byte, and not more than there are. -/
structure Accepted (n : Nat) where
  count : Nat
  pos : 0 < count
  le : count ≤ n

inductive SysCall
  | socket
  | listen (port : UInt64)
  | accept
  | connect (host port : StdString)
  | recv (s : Socket) (n : Nat)
  | send (s : Socket) (bs : Bytes)
  | closesocket (s : Socket)
  | createProcess (argv : List StdString)
  | terminateProcess (h : Handle)
  | fopen (path : StdString)
  | fputs (out : Out) (text : StdString)
  | sleep

/-- What a call returns; `none` is a failure, for recv also the end of the stream. A process that cannot be created has an
error number. To sleep for ever is not to return. -/
@[reducible]
def SysCall.Answer : SysCall → Type
  | .socket => Bool
  | .listen _ => Bool
  | .accept => Option Socket
  | .connect _ _ => Option Socket
  | .recv _ n => Option (Chunk n)
  | .send _ bs => Option (Accepted bs.length)
  | .closesocket _ => Unit
  | .createProcess _ => Except UInt32 Handle
  | .terminateProcess _ => Unit
  | .fopen _ => Bool
  | .fputs _ _ => Unit
  | .sleep => Empty

abbrev Tool := Program SysCall.Answer

def fputs (out : Out) (text : StdString) : Tool Unit := Program.perform (SysCall.fputs out text)

def puts (text : StdString) : Tool Unit := fputs .stdout text

/-! ## Whole buffers -/

/-- `recv_all` where it has `got` so far; it fails where a call of recv does. -/
def recvAllFrom (s : Socket) (n : Nat) (got : Bytes) : Tool (Option Bytes) :=
  if got.length < n then
    .call (.recv s (n - got.length)) fun
      | none => pure none
      | some x => recvAllFrom s n (got ++ x.bytes)
  else pure (some got)
termination_by n - got.length
decreasing_by
  have := List.length_pos_iff.2 x.nonempty
  rw [List.length_append]
  omega

def recvAll (s : Socket) (n : Nat) : Tool (Option Bytes) := recvAllFrom s n []

/-- `send_all` where it has sent the first `sent` bytes. -/
def sendAllFrom (s : Socket) (bs : Bytes) (sent : Nat) : Tool Bool :=
  if sent < bs.length then
    .call (.send s (bs.drop sent)) fun
      | none => pure false
      | some r => sendAllFrom s bs (sent + r.count)
  else pure true
termination_by bs.length - sent
decreasing_by
  have := r.pos
  omega

def sendAll (s : Socket) (bs : Bytes) : Tool Bool := sendAllFrom s bs 0

/-! ## Whole frames -/

/-- `send_frame`; an oversized payload is not sent. -/
def sendFrame (s : Socket) (kind : MessageKind) (seq : UInt64) (payload : Bytes) : Tool Bool :=
  let f := encodeFrame kind seq payload
  if f.isEmpty then pure false else sendAll s f

/-- The 32-bit field of a header at `p`. -/
def header32 (hdr : Bytes) (p : Nat) : UInt32 := (ofLeBytes ((hdr.drop p).take 4)).toUInt32

/-- The 64-bit field of a header at `p`. -/
def header64 (hdr : Bytes) (p : Nat) : UInt64 := ofLeBytes ((hdr.drop p).take 8)

/-- `recv_frame`: the header, then as many bytes as it announces and the trailer, all of it decoded again. -/
def recvFrame (s : Socket) : Tool (Except StdString Frame) := do
  match ← recvAll s headerSize with
  | none => pure (.error (lit "eof"))
  | some hdr =>
    let magic := header32 hdr 0
    let ver := header32 hdr 4
    let len := header64 hdr 20
    if magic ≠ frameMagic ∨ ver ≠ frameVersion ∨ len.toNat > maxPayload then pure (.error (lit "badheader"))
    else match ← recvAll s len.toNat with
    | none => pure (.error (lit "eof"))
    | some body => match ← recvAll s 4 with
      | none => pure (.error (lit "eof"))
      | some trailer => match decodeFrame (hdr ++ body ++ trailer) with
        | .error err => pure (.error err)
        | .ok (f, _) => pure (.ok f)

end Tools

end RdmaBuffer
