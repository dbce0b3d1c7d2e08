/-
Truncation and extension. No body of the format is a proper beginning of another one, so a file that was
cut short or that goes on is refused whatever its checksum.
-/
import RdmaBuffer.Persistence.RoundTrip

namespace RdmaBuffer

namespace Persistence

open Codec

/-- Of two bodies one of which begins with the other, the parser accepts only the written one. -/
theorem body_unique {s s' : PersistableState} (h : Sized s) {w : Bytes} (hw : fields w = some (s', []))
    (hp : w <+: encodeFields s ∨ encodeFields s <+: w) : w = encodeFields s := by
  have hconveys := fields_conveys h
  rcases hp with ⟨ext, hext⟩ | ⟨ext, rfl⟩
  · -- reading on past `w` would leave `ext`
    have hlocal := Local.read_append w s' [] hw ext
    have hread := hconveys []
    rw [List.append_nil, ← hext, hlocal] at hread
    split at hread
    · simp only [Option.some.injEq, Prod.mk.injEq, List.nil_append] at hread
      rw [← hext, hread.2, List.append_nil]
    · cases hread
  · rw [hconveys ext] at hw
    split at hw
    · simp only [Option.some.injEq, Prod.mk.injEq] at hw
      rw [hw.2, List.append_nil]
    · cases hw

/-- An accepted file whose body is comparable with that of `s` has the body of `s`. -/
theorem accepted_body {s s' : PersistableState} (h : Sized s) {b c : Bytes} (hc : c.length = 4)
    (hp : parse (b ++ c) = .ok s') (hb : b <+: encodeBody s ∨ encodeBody s <+: b) : b = encodeBody s := by
  obtain ⟨w, hw, hf, -⟩ := parse_eq_ok.1 hp
  obtain ⟨rfl, -⟩ := List.append_inj' hw (by rw [hc, length_putU32])
  rw [encodeBody_eq] at hb ⊢
  simp only [List.prefix_append_right_inj] at hb
  rw [body_unique h hf hb]

theorem length_serialize (s : PersistableState) : (serialize s).length = (encodeBody s).length + 4 := by
  rw [serialize, List.length_append, length_putU32]

theorem encodeBody_starts (s : PersistableState) : encodeBody s <+: serialize s :=
  ⟨_, rfl⟩

/-- An accepted file ends in four bytes of checksum. -/
theorem split_accepted {bytes : Bytes} {s : PersistableState} (h : parse bytes = .ok s) :
    ∃ b c, bytes = b ++ c ∧ c.length = 4 := by
  obtain ⟨w, rfl, -⟩ := parse_eq_ok.1 h
  exact ⟨header ++ w, _, rfl, length_putU32 _⟩

/-- No proper beginning and no proper extension of a body is accepted, under any trailer; so neither is a
proper beginning of a saved file, nor a saved file with bytes appended. -/
theorem truncation_rejected (s : PersistableState) (h : Sized s) :
    (∀ b c, (b <+: encodeBody s ∨ encodeBody s <+: b) → b ≠ encodeBody s → c.length = 4 →
      ∀ s', parse (b ++ c) ≠ .ok s') ∧
    (∀ p, p <+: serialize s → p ≠ serialize s → ∀ s', parse p ≠ .ok s') ∧
    ∀ ext, ext ≠ [] → ∀ s', parse (serialize s ++ ext) ≠ .ok s' := by
  refine ⟨?_, ?_, ?_⟩
  · intro b c hb hne hc s' hp
    exact hne (accepted_body h hc hp hb)
  · intro p hpre hne s' hp
    obtain ⟨b, c, rfl, hc⟩ := split_accepted hp
    -- a beginning of the file with an accepted body is as long as the file
    have hb : b <+: serialize s := (List.prefix_append b c).trans hpre
    have hbody := accepted_body h hc hp (List.prefix_or_prefix_of_prefix hb (encodeBody_starts s))
    apply hne
    apply hpre.eq_of_length
    rw [length_serialize, List.length_append, hbody, hc]
  · intro ext hne s' hp
    obtain ⟨b, c, he, hc⟩ := split_accepted hp
    rw [he] at hp
    have hb : b <+: serialize s ++ ext := ⟨c, he.symm⟩
    -- both bodies begin the same bytes, so one of them begins the other
    have hs : encodeBody s <+: serialize s ++ ext := (encodeBody_starts s).trans (List.prefix_append _ ext)
    have hbody := accepted_body h hc hp (List.prefix_or_prefix_of_prefix hb hs)
    apply hne
    apply List.eq_nil_of_length_eq_zero
    have := congrArg List.length he
    rw [List.length_append, List.length_append, length_serialize, hbody, hc] at this
    omega

theorem truncation_rejected_saved :
    (∀ p, p <+: serialize saved → p ≠ serialize saved → ∀ s', parse p ≠ .ok s') ∧
      ∀ ext, ext ≠ [] → ∀ s', parse (serialize saved ++ ext) ≠ .ok s' :=
  (truncation_rejected saved saved_sized).2

end Persistence

end RdmaBuffer
