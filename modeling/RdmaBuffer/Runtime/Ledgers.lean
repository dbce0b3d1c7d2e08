/-
The ledgers of the attached backends along sequential operations: a backend stays attached, and each
operation moves its ledger by at most one step.
-/
import RdmaBuffer.Backend.View
import RdmaBuffer.Runtime.Sequential

namespace RdmaBuffer

open Rdmabuffer Backend

/-- No attached backend has repeated a handle yet. -/
def Bounded (s : Rdmabuffer Backend) : Prop := ∀ e ∈ s.backends.entries, e.2.InBounds

instance : DecidablePred Bounded := fun s => inferInstanceAs (Decidable (∀ e ∈ s.backends.entries, e.2.InBounds))

theorem Bounded.lookup {s : Rdmabuffer Backend} (h : Bounded s) {id : BackendId} {b : Backend}
    (hb : s.backends.lookup id = some b) : b.InBounds :=
  h ⟨id, b⟩ (Table.mem_entries.2 hb)

/-- Every backend of the one table is in the other, with its ledger advanced by at most one step. -/
def Advances (m m' : Table BackendId Backend) : Prop :=
  ∀ id b, m.lookup id = some b → ∃ b', m'.lookup id = some b' ∧ Advance b b'

theorem Advances.refl (m : Table BackendId Backend) : Advances m m := fun _ b hb => ⟨b, hb, .refl b⟩

theorem Advances.put {m : Table BackendId Backend} {k : BackendId} {b b' : Backend} (hk : m.lookup k = some b)
    (h : Advance b b') : Advances m (Table.put k b' m) := by
  intro id b₀ hb₀
  rw [Table.lookup_put]
  split
  · rename_i hid
    obtain rfl : b = b₀ := Option.some.inj (hk.symm.trans (hid ▸ hb₀))
    exact ⟨b', rfl, h⟩
  · exact ⟨b₀, hb₀, .refl b₀⟩

/-- Dropping one entry brings no handle back. -/
theorem update_none {live live' : StdString → Option LiveEntry} {h : StdString} {o : Option LiveEntry}
    (hl : live' = Function.update live h o) (ho : live h = none → o = none) (k : StdString) (hk : live k = none) :
    live' k = none := by
  rw [hl, Function.update_apply]
  split
  · rename_i he
    exact ho (he ▸ hk)
  · exact hk

theorem rotateKey_advance (b : Backend) (handle : RegisterHandle) (g : RemoteKeyGeneration) :
    Advance b (IBackend.rotateKey b handle g).1 := by
  obtain ⟨hk, hl⟩ := rotateKey_spec b handle g
  exact hk.advance (update_none hl fun h => by rw [h]; rfl)

theorem deregisterBuffer_advance {b b' : Backend} {handle : RegisterHandle} {bo : RegisterOutcome}
    (h : IBackend.deregisterBuffer b handle = (b', bo)) : Advance b b' := by
  obtain ⟨hk, hl, -⟩ := deregisterBuffer_spec h
  exact hk.advance (update_none hl fun _ => rfl)

theorem registerBuffer_advance {b b' : Backend} {d : BufferDescriptor} {ctx : RegistrationContext}
    {bo : RegisterOutcome} {bout : BackendRegistration} (h : IBackend.registerBuffer b d ctx = (b', bo, bout))
    (hb : b.InBounds) (hb' : b'.InBounds) : Advance b b' := by
  rcases registerBuffer_spec h with ⟨-, rfl⟩ | ⟨-, hr⟩
  · exact .refl _
  · exact hr.advance hb hb'

theorem control_advance (c : Backend.Control) (b : Backend) : Advance b (Backend.control c b) := by
  obtain ⟨hn, hh, hl⟩ := control_spec c b
  exact ⟨.adjust hl (congrArg UInt64.toNat hn), hh, fun h => absurd hn h⟩

theorem effect_advances {s s' : Rdmabuffer Backend} {op : AtomicOp Backend} (he : Effect s op s') :
    Advances s.backends s'.backends := by
  cases he with
  | attached spec b hb h =>
    intro id b₀ hb₀
    rw [Table.lookup_put, if_neg (by rintro hk; rw [hk, h] at hb₀; cases hb₀)]
    exact ⟨b₀, hb₀, .refl b₀⟩
  | controlled id c b h => exact .put h (control_advance c b)
  | queried request rec b acct hr h => exact .put h (by rw [queryRemoteAccess_fst]; exact .refl b)
  | rotated k rec b hr hl h hh => exact .put h (rotateKey_advance b _ _)
  | recovered bytes state hp => rw [(restore_spec s state).backends]; exact .refl _
  | _ => exact .refl _

theorem release_advances {s : Rdmabuffer Backend} {rec : RegistrationRecord} {backends : Table BackendId Backend}
    {ok : Bool} (h : Release s rec backends ok) : Advances s.backends backends := by
  cases h with
  | skipped h => exact .refl _
  | called b b' bo hv hb he => exact .put hb (deregisterBuffer_advance he)

theorem opStep_advances {s s' : Rdmabuffer Backend} {op : Op Backend} (hs : OpStep s op s') (hb : Bounded s)
    (hb' : Bounded s') : Advances s.backends s'.backends := by
  cases hs with
  | atomic op s' he => exact effect_advances he
  | registerRefused | deregisterRefused => exact .refl _
  | registerFailed descriptor backend domain env b b' bo bout hv he ho =>
    have hb₁ : b'.InBounds := hb'.lookup (Table.lookup_put_self _ _ _)
    exact .put hv.backend (registerBuffer_advance he (hb.lookup hv.backend) hb₁)
  | registered descriptor backend domain env b b' bo bout hv he ho =>
    have hb₁ : b'.InBounds := hb'.lookup (Table.lookup_put_self _ _ _)
    exact .put hv.backend (registerBuffer_advance he (hb.lookup hv.backend) hb₁)
  | deregistered r rec backends hr hn hd hrel => exact release_advances hrel
  | deregisterFailed r rec backends hr hn hd hrel => exact release_advances hrel

/-- A handle that was issued. -/
def IssuedBy (b : Backend) (h : StdString) : Prop := ∃ n < b.nextSeq.toNat, b.handleAt n = h

theorem IssuedBy.advance {b b' : Backend} {h : StdString} (hi : IssuedBy b h) (ha : Advance b b') : IssuedBy b' h := by
  obtain ⟨n, hn, rfl⟩ := hi
  exact ⟨n, hn.trans_le ha.step.next_le, by rw [ha.handleAt]⟩

/-- A handle that was issued and is no longer live does not come back. -/
theorem spent_advance {b b' : Backend} {h : StdString} (ha : Advance b b') (hi : IssuedBy b h) (hl : b.live h = none) :
    b'.live h = none := by
  have hsp : Ledger.Spent b.handleAt b.ledger h := ⟨hl, hi⟩
  refine (hsp.step ha.step fun hne => handleAt_injOn (ha.room fun he => ?_)).1
  exact hne (congrArg UInt64.toNat he)

end RdmaBuffer
