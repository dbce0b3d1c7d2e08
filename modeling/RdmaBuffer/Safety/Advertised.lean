/-
What a backend advertises and what it accepts. The synthetic backend accepts only what its capabilities list, in every
configuration; the reference backend advertises the page size as the alignment it requires, and does not check it.
-/
import RdmaBuffer.Backend.Attached
import RdmaBuffer.Lib.Word
import RdmaBuffer.Model.Checks

namespace RdmaBuffer

open IBackend hiding id

/-! ## The checks of a descriptor -/

theorem validateRange_code (d : BufferDescriptor) : (validateRange d).code ≠ [] := by
  unfold validateRange
  split
  · decide
  · split
    · decide
    · split
      · decide
      · split
        · decide
        · split
          · decide
          · decide

/-! ## What is advertised -/

/-- The capabilities list a registration of the descriptor with the granted rights. -/
structure Advertised (caps : BackendCapabilities) (d : BufferDescriptor) (granted : AccessMask) : Prop where
  domain : d.domain ∈ caps.supportedDomains
  alignment : caps.requiredAlignment ≠ 0 → d.base.address % caps.requiredAlignment = 0
  length : caps.maxRegistrationLength ≠ 0 → d.byteLength ≤ caps.maxRegistrationLength
  remoteRead : accessHas granted .remoteRead = true → caps.remoteRead = .supported
  remoteWrite : accessHas granted .remoteWrite = true → caps.remoteWrite = .supported
  remoteAtomic : accessHas granted .remoteAtomic = true → caps.remoteAtomic = .supported

theorem capability_supported {s : Bool} : SyntheticBackend.capability s = .supported ↔ s = true := by
  cases s <;> decide

theorem SyntheticBackend.canRegister_advertised {b : SyntheticBackend} {d : BufferDescriptor}
    (h : b.canRegister d = []) : Advertised b.capabilities d d.requestedAccess := by
  unfold SyntheticBackend.canRegister at h
  dsimp only at h
  rw [ite_reason_nil (by decide), ite_reason_nil (by decide), ite_reason_nil (validateRange_code d),
    ite_reason_nil (by decide), ite_reason_nil (by decide), ite_reason_nil (by decide),
    ite_reason_nil (by decide)] at h
  obtain ⟨hdomain, -, hrange, halign, hread, hwrite, hatomic, -⟩ := h
  have hvalid : ValidRange d := validateRange_ok.1 (by simpa using hrange)
  constructor
  · simpa [domainSupported] using hdomain
  · intro hrequired
    have hrequired : b.requiredAlignment ≠ 0 := hrequired
    -- the descriptor's own alignment is a multiple of the required one
    have hmultiple : d.alignment % b.requiredAlignment = 0 := by
      simp only [Bool.and_eq_true, bne_iff_ne, ne_eq, hrequired, hvalid.alignment, not_false_eq_true, true_and, Bool.or_eq_true,
        not_or, Decidable.not_not] at halign
      exact halign.1
    exact UInt64.mod_trans hvalid.aligned hmultiple
  · intro hmax
    exact absurd rfl hmax
  · intro hg
    exact capability_supported.2 (by simpa [hg] using hread)
  · intro hg
    exact capability_supported.2 (by simpa [hg] using hwrite)
  · intro hg
    exact capability_supported.2 (by simpa [hg] using hatomic)

/-- The reference backend checks all but the alignment. -/
theorem ReferenceBackend.canRegister_advertised {b : ReferenceBackend} {d : BufferDescriptor}
    (h : b.canRegister d = []) :
    Advertised b.capabilities d d.requestedAccess ↔ d.base.address % ReferenceBackend.pageSize = 0 := by
  unfold ReferenceBackend.canRegister at h
  rw [ite_reason_nil (by decide), ite_reason_nil (by decide), ite_reason_nil (validateRange_code d),
    ite_reason_nil (by decide)] at h
  obtain ⟨hdomain, -, -, hatomic, -⟩ := h
  constructor
  · intro ha
    have hpage : ReferenceBackend.pageSize ≠ 0 := by decide
    exact ha.alignment hpage
  · intro haligned
    constructor
    · simpa [domainSupported] using hdomain
    · intro _
      exact haligned
    · intro hmax
      exact absurd rfl hmax
    · intro _
      rfl
    · intro _
      rfl
    · intro hg
      exact absurd hg hatomic

/-! ## The backends -/

/-- The descriptor is accepted by a reference backend though its base is not on a page. -/
def acceptsUnaligned : Backend → BufferDescriptor → Bool
  | .synthetic _, _ => false
  | .reference b, d => b.canRegister d == [] && d.base.address % ReferenceBackend.pageSize != 0

/-- A backend accepts the descriptor only if it advertises it, exactly if it is not a reference backend that accepts a
base that is not on a page. -/
theorem accepts_advertised_iff (b : Backend) (d : BufferDescriptor) (ctx : RegistrationContext) :
    ((registerBuffer b d ctx).2.1.ok = true →
      Advertised (capabilities b) d (registerBuffer b d ctx).2.2.grantedAccess) ↔
      acceptsUnaligned b d = false := by
  cases b with
  | synthetic b =>
    refine iff_of_true (fun h => ?_) rfl
    have hok : (b.registerBuffer d ctx).2.1.ok = true := h
    show Advertised b.capabilities d (b.registerBuffer d ctx).2.2.grantedAccess
    unfold SyntheticBackend.registerBuffer at hok ⊢
    by_cases hc : b.canRegister d = []
    · simpa [hc, SyntheticBackend.makeRegistration] using SyntheticBackend.canRegister_advertised hc
    · simp [hc] at hok
  | reference b =>
    show ((b.registerBuffer d ctx).2.1.ok = true →
      Advertised b.capabilities d (b.registerBuffer d ctx).2.2.grantedAccess) ↔
      (b.canRegister d == [] && d.base.address % ReferenceBackend.pageSize != 0) = false
    unfold ReferenceBackend.registerBuffer
    by_cases hc : b.canRegister d = []
    · simpa [hc, ReferenceBackend.makeRegistration] using ReferenceBackend.canRegister_advertised hc
    · simp [hc]

/-- A reference backend takes a range that begins between two pages. -/
theorem reference_accepts_unaligned : ∃ d : BufferDescriptor,
    (registerBuffer (Backend.reference (.new ⟨1⟩)) d {}).2.1.ok = true ∧
    (capabilities (Backend.reference (.new ⟨1⟩))).requiredAlignment = 4096 ∧
    ¬Advertised (capabilities (Backend.reference (.new ⟨1⟩))) d
      (registerBuffer (Backend.reference (.new ⟨1⟩)) d {}).2.2.grantedAccess := by
  refine ⟨{ domain := .hostPinned, base := { address := 0x10001, kind := .virtual }, byteLength := 64, alignment := 1 },
    by decide +kernel, rfl, fun h => ?_⟩
  have hbase : (0x10001 : UInt64) % 4096 = 0 := h.alignment (by decide +kernel)
  cases hbase

end RdmaBuffer
