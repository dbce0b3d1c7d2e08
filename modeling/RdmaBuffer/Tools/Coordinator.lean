/-
The coordinator process: it serves a registration, an access by a second worker and, after the first worker was killed,
the registration by a fresh one; it gives each of them a boot and prints which of its expectations held.
-/
import RdmaBuffer.Backend.Attached
import RdmaBuffer.Protocol.OutParams
import RdmaBuffer.Registry.TwoPhase
import RdmaBuffer.Tools.Sockets

namespace RdmaBuffer

namespace Tools

open Protocol Wire

/-! ## Authority -/

def snapshot (epoch : CoordinatorEpoch) (boot : WorkerBootId) : AuthoritySnapshot :=
  { coordinatorEpoch := epoch, workerBoot := boot, worker := ⟨1⟩, owner := ⟨1⟩, ownerGeneration := ⟨1⟩
    workerGeneration := ⟨1⟩, policyGeneration := ⟨1⟩, backendGeneration := ⟨1⟩, transportGeneration := ⟨1⟩
    nicGeneration := ⟨1⟩, node := ⟨1⟩, process := ⟨1⟩, provenance := .synthetic }

def envelope (s : AuthoritySnapshot) : AuthorityEnvelope :=
  { coordinatorEpoch := s.coordinatorEpoch, workerBoot := s.workerBoot, owner := ⟨1⟩, ownerGeneration := ⟨1⟩
    workerGeneration := ⟨1⟩, node := ⟨1⟩, process := ⟨1⟩ }

def envelopeEpochBoot (s : AuthoritySnapshot) (boot : UInt64) : AuthorityEnvelope :=
  { envelope s with workerBoot := ⟨boot⟩ }

/-- The authority of worker A. -/
def snap : AuthoritySnapshot := snapshot ⟨1⟩ ⟨1⟩

/-! ## The runtime -/

def syn : Backend := .synthetic (SyntheticBackend.new 424242)

/-- The runtime with its backend and its authority, and the protection domain. -/
def rtDom : Rdmabuffer Backend × ProtectionDomainId :=
  ((Rdmabuffer.addBackend {} (some syn)).1.setAuthority snap).createProtectionDomain ⟨1⟩ ⟨1⟩

def dom : ProtectionDomainId := rtDom.2

/-- What the coordinator keeps from one worker to the next. -/
structure Served where
  rt : Rdmabuffer Backend := rtDom.1
  nextBoot : UInt64 := 2
  regA : RegistrationId := {}
  keygenA : RemoteKeyGeneration := {}

/-- The buffer of a register frame is created, if it can be, and registered. -/
def serveRegister (rt : Rdmabuffer Backend) (s : AuthoritySnapshot) (payload : Bytes) :
    Rdmabuffer Backend × RegisterResult :=
  let d := (fillRegister {} payload).1.d
  (rt.createBuffer d).1.registerBuffer d (IBackend.id syn) dom (envelope s)

/-- A WRITE of the first four bytes under worker A's epoch. -/
def accessRequest (reg : RegistrationId) (boot : UInt64) (key : RemoteKeyGeneration) : RemoteAccessRequest :=
  { sourceRegistration := reg, offset := 0, length := 4, kind := .write, requiredRights := accessMask .remoteWrite
    expectedBufferGeneration := ⟨1⟩, expectedRegistrationGeneration := ⟨1⟩, expectedRemoteKeyGeneration := key
    authority := envelopeEpochBoot snap boot, domain := dom, backend := IBackend.id syn, node := ⟨1⟩, process := ⟨1⟩ }

namespace Served

/-- Worker A's registration. -/
def registerA (s : Served) (payload : Bytes) : Served × RegisterResult :=
  let r := serveRegister s.rt snap payload
  let record := (r.1.getRegistration r.2.registration).getD {}
  (if r.2.ok then { s with rt := r.1, regA := r.2.registration, keygenA := record.remoteKey.keyGeneration }
    else { s with rt := r.1 },
    r.2)

/-- The request of worker B; the registration, the boot and the key generation are the worker's, the rest is not. -/
def requestB (payload : Bytes) : RemoteAccessRequest :=
  let a := (fillAccess {} payload).1
  accessRequest ⟨a.reg⟩ a.boot ⟨a.expkeygen⟩

/-- The same under a boot that was never given. -/
def staleRequestB (payload : Bytes) : RemoteAccessRequest :=
  let a := (fillAccess {} payload).1
  accessRequest ⟨a.reg⟩ 99 ⟨a.expkeygen⟩

/-- Worker B's access, and the stale one behind it. -/
def accessB (s : Served) (payload : Bytes) : Served × AccessDecision × AccessDecision :=
  let current := s.rt.validateRemoteAccess (requestB payload)
  let stale := current.1.validateRemoteAccess (staleRequestB payload)
  ({ s with rt := stale.1 }, current.2, stale.2)

/-- The restart is noted, worker A's authority tried once more and its registration revoked. -/
def loseA (s : Served) : Served × AccessDecision :=
  let old := s.rt.noteParticipantRestart.validateRemoteAccess (accessRequest s.regA 1 s.keygenA)
  ({ s with rt := (old.1.revoke s.regA .hardRevoke).1 }, old.2)

/-- The authority of the fresh worker. -/
def fresh (s : Served) : AuthoritySnapshot := snapshot s.rt.currentEpoch ⟨s.nextBoot⟩

def registerFresh (s : Served) (payload : Bytes) : Served × RegisterResult :=
  let r := serveRegister (s.rt.setAuthority s.fresh) s.fresh payload
  ({ s with rt := r.1 }, r.2)

/-- A boot was given. -/
def bump (s : Served) : Served := { s with nextBoot := s.nextBoot + 1 }

end Served

/-! ## Report -/

structure Tally where
  success : Nat := 0
  failure : Nat := 0

def Tally.count (t : Tally) (ok : Bool) : Tally :=
  if ok then { t with success := t.success + 1 } else { t with failure := t.failure + 1 }

def proofText (ok : Bool) (line : StdString) : StdString :=
  (if ok then lit "PROOF-PASS " else lit "PROOF-FAIL ") ++ line ++ lit "\n"

/-- A text for the standard output and, where it is open, the proof log. -/
def report (log : Bool) (text : StdString) : Tool Unit := do
  puts text
  if log then fputs .proof text

/-- `PROOF`. -/
def proof (log : Bool) (t : Tally) (ok : Bool) (line : StdString) : Tool Tally := do
  report log (proofText ok line)
  pure (t.count ok)

def lineA : StdString := lit "worker A registered buffer id=1 gen=1 under boot=1"

def lineB : StdString := lit "worker B remote WRITE to worker A's buffer allowed under current authority"

def lineStaleBoot (o : AccessOutcome) : StdString :=
  lit "stale-boot access rejected (" ++ accessOutcomeName o ++ lit ")"

def lineKilled : StdString := lit "worker A killed as a real OS process"

def lineRestart : StdString := lit "coordinator epoch advanced and participant restart noted after worker A loss"

def lineOldAuthority (o : AccessOutcome) : StdString :=
  lit "old registration authority stale after restart (" ++ accessOutcomeName o ++ lit ")"

def lineRevoked : StdString := lit "worker A's stale registration revoked; buffer slot freed"

def lineFresh (boot : UInt64) : StdString :=
  lit "fresh worker A' re-registered buffer under new WorkerBootId=" ++ intToStr boot

def summary (t : Tally) : StdString :=
  lit "SUMMARY success=" ++ intToStr (UInt64.ofNat t.success) ++ lit " failure=" ++ intToStr (UInt64.ofNat t.failure) ++
    lit "\n"

/-! ## Workers -/

structure Args where
  port : UInt64 := 39121
  workerExe : StdString := lit "rdma-buffer-worker"
  scenario : Bool := false
  proofPath : StdString := []

/-- The words of the command line; `none` is the invalid handle. -/
def spawnWorker (args : Args) (role : StdString) (extra : List StdString) : Tool (Option Handle) := do
  let argv := [args.workerExe, lit "127.0.0.1", intToStr args.port, role] ++ extra
  match ← Program.perform (SysCall.createProcess argv) with
  | .ok h => pure (some h)
  | .error e =>
    puts (lit "coordinator: spawn worker failed err=" ++ intToStr e.toUInt64 ++ lit "\n")
    pure none

/-- A worker is spawned where the coordinator plays the scenario. -/
def scenarioWorker (args : Args) (role : StdString) (extra : List StdString) : Tool (Option Handle) :=
  if args.scenario then spawnWorker args role extra else pure none

/-- The next connection: its first frame is taken for a HELLO and answered, and its second has to be of `kind`. What is
missing is printed. -/
def acceptWorker (noConnection : StdString) (noHello noRequest : StdString → StdString) (seq boot epoch : UInt64)
    (kind : MessageKind) : Tool (Option (Socket × Bytes)) := do
  match ← Program.perform SysCall.accept with
  | none =>
    puts noConnection
    pure none
  | some c => match ← recvFrame c with
    | .error err =>
      puts (noHello err)
      pure none
    | .ok _ =>
      let _ ← sendFrame c .helloAck seq (encodeHelloAck boot epoch 1)
      match ← recvFrame c with
      | .error err =>
        puts (noRequest err)
        pure none
      | .ok f =>
        if f.kind ≠ kind then
          puts (noRequest [])
          pure none
        else pure (some (c, f.payload))

def registerA (log : Bool) (s : Served) (t : Tally) : Tool (Option (Served × Tally)) := do
  match ← acceptWorker (lit "coordinator: accept A failed\n")
      (fun err => lit "coordinator: A hello missing (" ++ err ++ lit ")\n")
      (fun err => lit "coordinator: A register missing (" ++ err ++ lit ")\n")
      1 1 snap.coordinatorEpoch.value .registerBuffer with
  | none => pure none
  | some (c, payload) =>
    let r := s.registerA payload
    let _ ← sendFrame c .registerBufferAck 2
      (encodeRegisterAck r.2.ok r.2.registration.value r.1.keygenA.value r.2.explanation)
    let t ← proof log t r.2.ok lineA
    Program.perform (SysCall.closesocket c)
    pure (some (r.1, t))

def accessB (log : Bool) (s : Served) (t : Tally) : Tool (Option (Served × Tally)) := do
  match ← acceptWorker (lit "coordinator: accept B failed\n") (fun _ => lit "coordinator: B hello missing\n")
      (fun err => lit "coordinator: B access missing (" ++ err ++ lit ")\n")
      3 s.nextBoot snap.coordinatorEpoch.value .requestAccess with
  | none => pure none
  | some (c, payload) =>
    let r := s.bump.accessB payload
    let d := r.2.1
    let d2 := r.2.2
    let _ ← sendFrame c .requestAccessAck 4 (encodeAccessAck (UInt8.ofNat d.outcome.ctorIdx) d.explanation)
    let t ← proof log t (d.outcome == .allow) lineB
    let t ← proof log t (d2.outcome == .rejectStaleBoot || d2.outcome != .allow) (lineStaleBoot d2.outcome)
    Program.perform (SysCall.closesocket c)
    pure (some (r.1, t))

def loseA (log : Bool) (workerA : Option Handle) (s : Served) (t : Tally) : Tool (Served × Tally) := do
  match workerA with
  | some h => Program.perform (SysCall.terminateProcess h)
  | none => pure ()
  let t ← proof log t true lineKilled
  let t ← proof log t true lineRestart
  let r := s.loseA
  let t ← proof log t (r.2.outcome != .allow) (lineOldAuthority r.2.outcome)
  let t ← proof log t true lineRevoked
  pure (r.1, t)

def registerFresh (log : Bool) (s : Served) (t : Tally) : Tool (Option (Served × Tally)) := do
  match ← acceptWorker (lit "coordinator: accept A' failed\n") (fun _ => lit "coordinator: A' hello missing\n")
      (fun _ => lit "coordinator: A' register missing\n")
      5 s.nextBoot s.fresh.coordinatorEpoch.value .registerBuffer with
  | none => pure none
  | some (c, payload) =>
    let r := s.registerFresh payload
    let _ ← sendFrame c .registerBufferAck 6 (encodeRegisterAck r.2.ok r.2.registration.value 0 r.2.explanation)
    let t ← proof log t r.2.ok (lineFresh s.nextBoot)
    Program.perform (SysCall.closesocket c)
    pure (some (r.1.bump, t))

/-! ## The process -/

/-- Whether there is a proof log. -/
def openProof (args : Args) : Tool Bool :=
  if args.proofPath.isEmpty then pure false else Program.perform (SysCall.fopen args.proofPath)

/-- `main` of the coordinator where it listens. -/
def serve (args : Args) (log : Bool) : Tool Nat := do
  puts (lit "COORDINATOR LISTENING port=" ++ intToStr args.port ++ lit " worker=" ++ args.workerExe ++ lit "\n")
  let workerA ← scenarioWorker args (lit "register-hold") []
  match ← registerA log {} {} with
  | none => pure 1
  | some (s, t) =>
    let _ ← scenarioWorker args (lit "access") [intToStr s.regA.value, intToStr 1, intToStr s.keygenA.value, lit "1"]
    match ← accessB log s t with
    | none => pure 1
    | some (s, t) =>
      let (s, t) ← loseA log workerA s t
      let _ ← scenarioWorker args (lit "register-fresh") []
      match ← registerFresh log s t with
      | none => pure 1
      | some (_, t) =>
        report log (summary t)
        pure (if t.failure = 0 then 0 else 1)

/-- `main` of the coordinator; the result is the exit code. -/
def coordinator (args : Args) : Tool Nat := do
  let log ← openProof args
  if !(← Program.perform SysCall.socket) then
    puts (lit "coordinator: socket failed\n")
    pure 1
  else if !(← Program.perform (SysCall.listen args.port)) then
    puts (lit "coordinator: bind/listen failed\n")
    pure 1
  else serve args log

end Tools

end RdmaBuffer
