/-
Single-flight registration. The slot of a buffer is tested in the first section of a registration
and written in its second: the buffer has one live registration, and the slot names it, exactly as
long as no registration commits while another of its buffer is live.
-/
import RdmaBuffer.Runtime.Execution
import RdmaBuffer.Runtime.Sections

namespace RdmaBuffer

open Rdmabuffer

section

variable {β : Type}

/-- Every ACTIVE or REGISTERED record is the one its buffer's slot names. -/
def SlotHeld (s : Rdmabuffer β) : Prop :=
  ∀ r rec, s.registrations.lookup r = some rec → rec.lifecycle.isLive = true →
    s.activeRegistrationForBuffer.lookup rec.bufferId = some r

/-- A buffer has at most one ACTIVE or REGISTERED record, and its slot names that record. -/
structure SingleFlight (s : Rdmabuffer β) : Prop where
  unique : ∀ r r' rec rec', s.registrations.lookup r = some rec → s.registrations.lookup r' = some rec' →
    rec.lifecycle.isLive = true → rec'.lifecycle.isLive = true → rec.bufferId = rec'.bufferId → r = r'
  slot : SlotHeld s

theorem SlotHeld.singleFlight {s : Rdmabuffer β} (h : SlotHeld s) : SingleFlight s where
  unique r r' rec rec' hr hr' hl hl' hb := by
    have h₁ := h r rec hr hl
    have h₂ := h r' rec' hr' hl'
    rw [hb, h₂] at h₁
    exact (Option.some.inj h₁).symm
  slot := h

/-- Some other live record is on the buffer of the registration to be committed. -/
def occupied (s : Rdmabuffer β) (p : PendingRegistration) : Bool :=
  s.registrations.entries.any fun e =>
    e.1 != p.record.id && e.2.lifecycle.isLive && e.2.bufferId == p.record.bufferId

theorem occupied_iff {s : Rdmabuffer β} {p : PendingRegistration} : occupied s p = true ↔
    ∃ r rec, s.registrations.lookup r = some rec ∧ r ≠ p.record.id ∧ rec.lifecycle.isLive = true ∧
      rec.bufferId = p.record.bufferId := by
  simp only [occupied, List.any_eq_true, Bool.and_eq_true, bne_iff_ne, beq_iff_eq]
  constructor
  · rintro ⟨⟨r, rec⟩, hm, ⟨hne, hl⟩, hb⟩
    exact ⟨r, rec, Table.mem_entries.1 hm, hne, hl, hb⟩
  · rintro ⟨r, rec, hr, hne, hl, hb⟩
    exact ⟨⟨r, rec⟩, Table.mem_entries.2 hr, ⟨hne, hl⟩, hb⟩

/-- Assigning a record that is dead, or live on the same buffer as before, keeps the slots held. -/
theorem SlotHeld.put {s : Rdmabuffer β} (h : SlotHeld s) {k : RegistrationId} {rec rec' : RegistrationRecord}
    (hk : s.registrations.lookup k = some rec)
    (hsame : rec'.lifecycle.isLive = true → rec.lifecycle.isLive = true ∧ rec'.bufferId = rec.bufferId) :
    ∀ r rec₁, (Table.put k rec' s.registrations).lookup r = some rec₁ → rec₁.lifecycle.isLive = true →
      s.activeRegistrationForBuffer.lookup rec₁.bufferId = some r := by
  intro r rec₁ hr hl
  rcases Table.lookup_put_some hr with ⟨rfl, rfl⟩ | ⟨-, hr⟩
  · obtain ⟨hl', hb⟩ := hsame hl
    rw [hb]
    exact h r rec hk hl'
  · exact h r rec₁ hr hl

/-- A live record after a withdrawal was there before. -/
theorem lookup_withdrawn_live {hit : RegistrationRecord → Bool} {lc : RegistrationLifecycle} {reason : StdString}
    {m : Table RegistrationId RegistrationRecord} {r : RegistrationId} {rec : RegistrationRecord}
    (hlc : lc.isLive = false) (h : (withdrawn hit lc reason m).lookup r = some rec)
    (hl : rec.lifecycle.isLive = true) : m.lookup r = some rec := by
  rw [withdrawn, Table.lookup_mapVals, Option.map_eq_some_iff] at h
  obtain ⟨rec₀, h₀, he⟩ := h
  split at he
  · subst he
    rw [withdraw, hlc] at hl
    cases hl
  · exact he ▸ h₀

theorem slotHeld_commit {s : Rdmabuffer β} {p : PendingRegistration} (bout : BackendRegistration)
    (hi : SlotHeld s) (hc : occupied s p = false) : SlotHeld (s.registerCommit p bout).1 := by
  intro r rec hr hl
  rw [registerCommit_lookup] at hr
  rw [registerCommit_slot]
  split at hr
  · rename_i hid
    obtain rfl := Option.some.inj hr
    rw [if_pos (by rfl), hid]
  · rename_i hid
    split
    · rename_i hb
      rw [occupied_iff.2 ⟨r, rec, hr, hid, hl, hb⟩] at hc
      cases hc
    · exact hi r rec hr hl

theorem slotHeld_finish {s : Rdmabuffer β} (d : PendingDeregistration) (refusal : Option RegisterOutcome)
    (hi : SlotHeld s) : SlotHeld (s.deregisterFinish d refusal).1 := by
  unfold deregisterFinish
  split
  · exact hi
  · rename_i bo rec h
    exact hi.put h fun hl => by cases hl
  · exact hi
  · rename_i rec h
    intro r rec₁ hr hl
    show (Table.eraseIf (fun _ r => r == d.registration) s.activeRegistrationForBuffer).lookup rec₁.bufferId = some r
    have hr : (s.registrations.erase d.registration).lookup r = some rec₁ := hr
    rw [Table.lookup_erase_eq] at hr
    split at hr
    · cases hr
    · rename_i hne
      rw [Table.lookup_eraseIf, hi r rec₁ hr hl]
      simp [hne]

/-- A commit onto an occupied buffer leaves it with two live records. -/
theorem not_singleFlight_commit {s : Rdmabuffer β} {p : PendingRegistration} (bout : BackendRegistration)
    (hc : occupied s p = true) : ¬SingleFlight (s.registerCommit p bout).1 := by
  obtain ⟨r, rec, hr, hne, hl, hb⟩ := occupied_iff.1 hc
  intro h
  refine hne (h.unique r p.record.id rec (commitRecord s.authority p bout) ?_ ?_ hl rfl hb)
  · rw [registerCommit_lookup, if_neg hne]; exact hr
  · rw [registerCommit_lookup, if_pos rfl]

end

section

variable {β : Type} [IBackend β] [Environment β]

/-- The step commits a registration while another live one is on its buffer. -/
def collides (σ : System β) : Option (Action β) → Bool
  | some (.registerCommit c) =>
    match σ.clients c with
    | some (.registered p _) => occupied σ.runtime p
    | _ => false
  | _ => false

theorem slotHeld_effect {s s' : Rdmabuffer β} {op : AtomicOp β} (he : Effect s op s') (hi : SlotHeld s) :
    SlotHeld s' := by
  cases he with
  | refused | authority | attached | controlled | queried | domainCreated | bufferRefused | bufferCreated
    | releasedAlone => exact hi
  | domainDestroyed d de acct h =>
    intro r rec hr hl
    exact hi r rec (lookup_withdrawn_live rfl hr hl) hl
  | bufferReallocated descriptor be nextBuffer acct h hg =>
    intro r rec hr hl
    exact hi r rec (lookup_withdrawn_live rfl hr hl) hl
  | leased k env needed rec ls acct h hlive hv ha => exact hi.put h fun hl => ⟨hl, rfl⟩
  | released lease ls rec acct hls h => exact hi.put h fun hl => ⟨hl, rfl⟩
  | softRevoked k rec acct h hlive => exact hi.put h fun hl => ⟨hlive, rfl⟩
  | rotated k rec b h hlive hb hh => exact hi.put h fun hl => ⟨hlive, rfl⟩
  | rotatedAlone k rec h hlive hb => exact hi.put h fun hl => ⟨hlive, rfl⟩
  | hardRevoked k rec leases acct h hlive =>
    intro r rec₁ hr hl
    -- the slot that is cleared belongs to the revoked record, so no other live record needs it
    show (s.activeRegistrationForBuffer.erase rec.bufferId).lookup rec₁.bufferId = some r
    have hr : (Table.put k (hardRevoked rec) s.registrations).lookup r = some rec₁ := hr
    rw [Table.lookup_put] at hr
    split at hr
    · obtain rfl := Option.some.inj hr
      cases hl
    · rename_i hne
      rw [Table.lookup_erase_eq]
      split
      · rename_i hb
        exact absurd (hi.singleFlight.unique r k rec₁ rec hr h hl hlive hb) hne
      · exact hi r rec₁ hr hl
  | recovered bytes state hp =>
    have hres := restore_spec s state
    intro r rec hr hl
    rw [hres.slot]
    rcases hres.registration r with ⟨-, hk⟩ | ⟨rec₀, -, -, hk⟩
    · exact hi r rec (hk ▸ hr) hl
    · rw [hk] at hr
      obtain rfl := Option.some.inj hr
      cases hl

theorem slotHeld_step {σ σ' : System β} {l : Option (Action β)} (h : (interleaved β).step σ l σ')
    (hc : collides σ l = false) (hi : SlotHeld σ.runtime) : SlotHeld σ'.runtime := by
  cases l with
  | none =>
    obtain ⟨hr, -⟩ := h
    intro r rec hrec hl
    rw [← Table.lookup_perm hr.registrations] at hrec
    rw [← Table.lookup_perm hr.activeRegistrationForBuffer]
    exact hi r rec hrec hl
  | some a =>
    obtain rfl : σ' = σ.exec a := h
    generalize σ.exec a = σ', σ.exec_cases a = hs
    cases hs with
    | idle | begun | vanished | called | deregisterSkipped | deregisterCalled => exact hi
    | atomic op s he => exact slotHeld_effect he hi
    | committed c p bout hcl => exact slotHeld_commit bout hi (by simpa [collides, hcl] using hc)
    | deregisterBegun c r rec hcl hr hn hd => exact hi.put hr fun hl => by cases hl
    | deregisterFinished c d refusal hcl => exact slotHeld_finish d refusal hi

/-- Along a run, registration is single-flight in every state if and only if no registration commits
while another of its buffer is live. -/
theorem singleFlight_iff (t : List (Lts.Transition (System β) (Option (Action β)))) (σ : System β)
    (h : (interleaved β).Run t σ) :
    (∀ x ∈ t, SingleFlight x.post.runtime) ↔ ∀ x ∈ t, collides x.pre x.label = false := by
  constructor
  · intro hsf x hx
    have hs := h.step_mem hx
    by_contra hc
    rw [Bool.not_eq_false] at hc
    unfold collides at hc
    split at hc
    · rename_i c hl
      split at hc
      · rename_i p bout hcl
        rw [hl] at hs
        have hs : x.post = x.pre.exec (.registerCommit c) := hs
        have := hsf x hx
        rw [hs] at this
        rw [exec_registerCommit hcl] at this
        exact not_singleFlight_commit bout hc this
      · cases hc
    · cases hc
  · intro hc x hx
    obtain ⟨t₁, t₂, rfl, hr, hs, -⟩ := h.at_mem hx
    have hi : SlotHeld x.pre.runtime :=
      hr.inv_of (I := fun σ => SlotHeld σ.runtime) (by rintro _ rfl r rec hr; cases hr)
        (fun _ _ _ hs hc hi => slotHeld_step hs hc hi) fun y hy => hc y (by simp [hy])
    exact (slotHeld_step hs (hc x hx) hi).singleFlight

end

open Session

/-- Two registrations of one buffer that do not overlap. -/
theorem singleFlight_iff_apart :
    ∃ t σ, (interleaved Backend).Run t σ ∧
      ((∀ x ∈ t, SingleFlight x.post.runtime) ↔ ∀ x ∈ t, collides x.pre x.label = false) := by
  obtain ⟨t, h⟩ := run_after (registration 0 page ++ registration 1 page)
  exact ⟨t, _, h, singleFlight_iff t _ h⟩

/-- Two clients that both pass the first section before either commits leave two live records. -/
theorem two_live_registrations :
    ∃ t σ, (interleaved Backend).Run t σ ∧ ¬SingleFlight σ.runtime := by
  obtain ⟨t, h⟩ := run_after [.registerBegin 0 page synthetic ⟨1⟩ envelope,
    .registerBegin 1 page synthetic ⟨1⟩ envelope, .registerCall 0, .registerCall 1,
    .registerCommit 0, .registerCommit 1]
  refine ⟨t, _, h, fun hsf => ?_⟩
  exact absurd (hsf.unique ⟨1⟩ ⟨2⟩ _ _ rfl rfl (by decide) (by decide) (by decide)) (by decide)

end RdmaBuffer
