/-
The worker process: it introduces itself, is told its boot, and registers a buffer or asks for one access on the
coordinator's runtime.
-/
import RdmaBuffer.Protocol.OutParams
import RdmaBuffer.Tools.Sockets

namespace RdmaBuffer

namespace Tools

open Protocol Wire

/-! ## Roles -/

/-- The buffer a worker registers. -/
def workerBuffer : BufferDescriptor :=
  { id := ⟨1⟩, generation := ⟨1⟩, domain := .syntheticRemoteCapable, base := { address := 0x1000, kind := .synthetic }
    byteLength := 4096, alignment := 4096, pageSize := 4096, owner := ⟨1⟩, process := ⟨1⟩, worker := ⟨1⟩, node := ⟨1⟩
    direction := .bidirectional, requestedAccess := accessMask .remoteRead ||| accessMask .remoteWrite
    registrationMode := .remoteAccess, lifetime := .transactional, provenance := .synthetic, freshness := .valid
    policyGeneration := ⟨1⟩ }

/-- A register-hold worker stays alive until it is killed. -/
def registerRole (s : Socket) (role : StdString) : Tool Nat := do
  if !(← sendFrame s .registerBuffer 2 (encodeRegister workerBuffer 1 0)) then
    puts (lit "worker: register send failed\n")
    pure 1
  else match ← recvFrame s with
  | .error err =>
    puts (lit "worker: register ack failed (" ++ err ++ lit ")\n")
    pure 4
  | .ok f =>
    if f.kind ≠ .registerBufferAck then
      puts (lit "worker: register ack failed ()\n")
      pure 4
    else
      let a := (fillRegisterAck {} f.payload).1
      puts (lit "WORKER " ++ role ++ lit " REGISTERED reg=" ++ intToStr a.reg ++ lit " keygen=" ++ intToStr a.keygen ++
        lit " ok=" ++ (if a.ok then lit "1" else lit "0") ++ lit " msg=" ++ a.msg ++ lit "\n")
      if role = lit "register-hold" then
        .call .sleep nofun
      else pure (if a.ok then 0 else 5)

/-- The arguments behind the role are the registration, the boot, the key generation and the kind of the access. -/
def accessRole (s : Socket) (role : StdString) (args : List StdString) (boot : UInt64) : Tool Nat := do
  let arg (i : Nat) (default : UInt64) : UInt64 := (args[i]?.map strtoull).getD default
  let reg := arg 0 1
  let bootarg := arg 1 boot
  let keygen := arg 2 1
  let opkind := arg 3 1
  if !(← sendFrame s .requestAccess 3 (encodeAccess reg 0 4 opkind (accessMask .remoteWrite) bootarg keygen)) then
    puts (lit "worker: access send failed\n")
    pure 1
  else match ← recvFrame s with
  | .error err =>
    puts (lit "worker: access ack failed (" ++ err ++ lit ")\n")
    pure 6
  | .ok f =>
    if f.kind ≠ .requestAccessAck then
      puts (lit "worker: access ack failed ()\n")
      pure 6
    else
      let a := (fillAccessAck {} f.payload).1
      puts (lit "WORKER " ++ role ++ lit " ACCESS outcome=" ++ intToStr a.outcome.toUInt64 ++ lit " msg=" ++ a.msg ++
        lit "\n")
      pure 0

/-! ## The process -/

/-- `main` of the worker; the result is the exit code. -/
def worker : List StdString → Tool Nat
  | _ :: host :: port :: role :: args => do
    if !(← Program.perform SysCall.socket) then
      puts (lit "worker: socket failed\n")
      pure 1
    else match ← Program.perform (SysCall.connect host port) with
    | none =>
      puts (lit "worker: connect failed\n")
      pure 1
    | some s =>
      if !(← sendFrame s .hello 1 (encodeHello role)) then
        puts (lit "worker: hello send failed\n")
        pure 1
      else match ← recvFrame s with
      | .error err =>
        puts (lit "worker: hello ack failed (" ++ err ++ lit ")\n")
        pure 3
      | .ok f =>
        if f.kind ≠ .helloAck then
          puts (lit "worker: hello ack failed ()\n")
          pure 3
        else
          let a := (fillHelloAck {} f.payload).1
          puts (lit "WORKER " ++ role ++ lit " BOOT " ++ intToStr a.boot ++ lit " EPOCH " ++ intToStr a.epoch ++
            lit " NODE " ++ intToStr a.node ++ lit "\n")
          if role = lit "register" ∨ role = lit "register-hold" ∨ role = lit "register-fresh" then registerRole s role
          else if role = lit "access" then accessRole s role args a.boot
          else
            Program.perform (SysCall.closesocket s)
            pure 0
  | _ => do
    puts (lit "worker <host> <port> <role> [reg boot keygen opkind]\n")
    pure 2

end Tools

end RdmaBuffer
