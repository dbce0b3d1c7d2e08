/-
What the parser accepts: a file is a sealed header and the fields of a state, read without error codes,
and the state passes the integrity checks.
-/
import RdmaBuffer.Persistence.Checksum
import RdmaBuffer.Persistence.RecordCodec

namespace RdmaBuffer

namespace Persistence

open Codec

/-! ## The fields of a state -/

/-- The fields after the version, without their error codes and without the check for trailing bytes. -/
def fields : Reader PersistableState := do
  let policyGeneration ← getGeneration
  let authoritySnapshot ← decodeAuthority
  let buffers ← getCounted decodeDescriptor
  let registrations ← getCounted decodeRegistration
  let domains ← getCounted getId
  let remoteKeyHistory ← getCounted decodeRemoteKey
  let localKeyHistory ← getCounted decodeLocalKey
  let revocationHistory ← getCounted (getStr maxCount)
  let accountingSummary ← decodeAccounting
  let backendCapabilitySnapshot ← getCounted decodeBackendInfo
  pure { buffers, registrations, domains, remoteKeyHistory, localKeyHistory, revocationHistory, accountingSummary,
         backendCapabilitySnapshot, authoritySnapshot, policyGeneration }

instance : Local fields := by
  unfold fields
  repeat with_reducible refine Local.bind inferInstance fun _ => ?_
  infer_instance

/-- The bytes after the version. -/
def encodeFields (state : PersistableState) : Bytes :=
  putU64 state.policyGeneration.value ++ (encodeAuthority state.authoritySnapshot ++
    (encodeList encodeDescriptor state.buffers ++ (encodeList encodeRegistration state.registrations ++
      (encodeList (fun d => putU64 d.value) state.domains ++ (encodeList encodeRemoteKey state.remoteKeyHistory ++
        (encodeList encodeLocalKey state.localKeyHistory ++ (encodeList putStr state.revocationHistory ++
          (encodeAccounting state.accountingSummary ++
            encodeList encodeBackendInfo state.backendCapabilitySnapshot))))))))

def header : Bytes := putU32 formatMagic ++ putU32 formatVersion

theorem encodeBody_eq (state : PersistableState) : encodeBody state = header ++ encodeFields state := by
  simp only [encodeBody, header, encodeFields, List.append_assoc]

/-! ## Error codes -/

/-- A parser without its error codes. -/
def quiet {α : Type} (p : Parser α) : Reader α := fun bs => (p bs).toOption

section

variable {α β : Type}

theorem quiet_bind (p : Parser α) (f : α → Parser β) : quiet (p >>= f) = quiet p >>= fun a => quiet (f a) := by
  funext bs
  show ((p bs).bind fun x => f x.1 x.2).toOption = ((p bs).toOption).bind fun x => (f x.1 x.2).toOption
  cases p bs <;> rfl

theorem quiet_orErr (err : StdString) (r : Reader α) : quiet (orErr err r) = r := by
  funext bs
  unfold quiet orErr
  cases r bs <;> rfl

theorem quiet_throw (err : StdString) : quiet (throw err : Parser α) = failure :=
  rfl

theorem quiet_ite {c : Prop} [Decidable c] (p q : Parser α) :
    quiet (if c then p else q) = if c then quiet p else quiet q := by
  split <;> rfl

theorem quiet_getList (r : Reader α) : quiet (getList r) = getCounted r := by
  unfold getList getCount getCounted
  simp only [quiet_bind, quiet_orErr, quiet_ite, quiet_throw, fail_bind, bind_assoc]
  congr 1
  funext n
  split <;> rfl

theorem quiet_eq_some {p : Parser α} {bs rest : Bytes} {a : α} :
    quiet p bs = some (a, rest) ↔ p bs = .ok (a, rest) := by
  unfold quiet
  cases p bs <;> simp [Except.toOption]

end

/-- The check that nothing follows. -/
def atEnd (state : PersistableState) : Reader PersistableState := do
  let rest ← get
  if rest.length ≠ 0 then failure else pure state

theorem atEnd_eq_some {state state' : PersistableState} {bs rest : Bytes} :
    atEnd state bs = some (state', rest) ↔ state' = state ∧ bs = [] ∧ rest = [] := by
  rcases bs with _ | ⟨b, bs⟩
  · show some (state, []) = some (state', rest) ↔ _
    simp [eq_comm]
  · show none = some (state', rest) ↔ _
    simp

theorem quiet_parseFields : quiet parseFields = fields >>= atEnd := by
  unfold parseFields fields
  simp only [quiet_bind, quiet_orErr, quiet_getList, quiet_ite, quiet_throw, fail_bind, ← getCounted_bind,
    bind_assoc]
  rfl

theorem parseFields_eq_ok {bs rest : Bytes} {state : PersistableState} :
    parseFields bs = .ok (state, rest) ↔ fields bs = some (state, []) ∧ rest = [] := by
  rw [← quiet_eq_some, quiet_parseFields, bind_eq_some]
  constructor
  · rintro ⟨state', mid, hf, he⟩
    obtain ⟨rfl, rfl, rfl⟩ := atEnd_eq_some.1 he
    exact ⟨hf, rfl⟩
  · rintro ⟨hf, rfl⟩
    exact ⟨state, [], hf, atEnd_eq_some.2 ⟨rfl, rfl, rfl⟩⟩

/-! ## The file -/

theorem serialize_eq (state : PersistableState) : serialize state = sealed (header ++ encodeFields state) := by
  rw [serialize, encodeBody_eq, sealed]

theorem orErr_eq_ok {α : Type} {err : StdString} {r : Reader α} {bs : Bytes} {x : α × Bytes} :
    orErr err r bs = .ok x ↔ r bs = some x := by
  unfold orErr
  cases r bs <;> simp

/-- The parser accepts the sealed bodies whose fields make a state that passes the integrity checks. -/
theorem parse_eq_ok {bytes : Bytes} {state : PersistableState} :
    parse bytes = .ok state ↔
      ∃ w, bytes = sealed (header ++ w) ∧ fields w = some (state, []) ∧ checkIntegrity state = .ok () := by
  unfold parse
  simp only [bind_eq_ok, throw_bind, ite_throw_eq_ok, orErr_eq_ok, Prod.exists, Exact.read_iff, parseFields_eq_ok,
    ne_eq, Decidable.not_not]
  constructor
  · rintro ⟨hlen, magic, rest, hbody, version, w, rfl, rfl, rfl, hcrc, state', _, ⟨hf, rfl⟩, ⟨⟩, hi, hs⟩
    cases hs
    -- the last four bytes are the checksum of the others
    have htrailer : putU32 (crc32 (bytes.take (bytes.length - 4))) = bytes.drop (bytes.length - 4) := by
      rw [hcrc]
      exact putU32_ofLeBytes (by rw [List.length_drop]; omega)
    rw [← List.append_assoc] at hbody
    refine ⟨w, ?_, hf, hi⟩
    unfold sealed header
    rw [← hbody, htrailer, List.take_append_drop]
  · rintro ⟨w, rfl, hf, hi⟩
    have hlen : (sealed (header ++ w)).length - 4 = (header ++ w).length := by
      rw [sealed, List.length_append, length_putU32, Nat.add_sub_cancel]
    have htake : (sealed (header ++ w)).take ((sealed (header ++ w)).length - 4) = header ++ w := by
      rw [hlen]
      exact List.take_left
    have hdrop : (sealed (header ++ w)).drop ((sealed (header ++ w)).length - 4) = putU32 (crc32 (header ++ w)) := by
      rw [hlen]
      exact List.drop_left
    rw [htake, hdrop]
    refine ⟨?_, formatMagic, _, List.append_assoc .., formatVersion, w, rfl, rfl, rfl, ?_, state, [],
      ⟨hf, rfl⟩, (), hi, rfl⟩
    · simp [sealed, header]
      omega
    · exact (toUInt32_ofLeBytes _).symm

end Persistence

end RdmaBuffer
