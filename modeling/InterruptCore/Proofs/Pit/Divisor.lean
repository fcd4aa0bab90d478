import InterruptCore.Pit

/-! The divisor for a rate, over all rates. The timer counts down from a number of sixteen bits.
The greatest one is taken whose count does not pass the base clock at the rate asked for: so the
rate it gives is the lowest that is not below that one, or the lowest of all if they are higher. -/
namespace InterruptCore.Pit

theorem toNat_effectiveHz (hz : UInt32) :
    (effectiveHz hz).toNat = if hz = 0 then 100 else min hz.toNat 1193182 := by
  have hbase : baseHz.toNat = 1193182 := rfl
  unfold effectiveHz
  split
  · rfl
  · change (if hz ≤ baseHz then hz else baseHz).toNat = _
    split
    · rename_i hle
      rw [UInt32.le_iff_toNat_le, hbase] at hle
      rw [Nat.min_eq_left hle]
    · rename_i hle
      rw [UInt32.le_iff_toNat_le, hbase, Nat.not_le] at hle
      rw [hbase, Nat.min_eq_right (Nat.le_of_lt hle)]

theorem effectiveHz_pos (hz : UInt32) : 0 < (effectiveHz hz).toNat := by
  rw [toNat_effectiveHz]
  split
  · decide
  · rename_i hne
    have hpos : 0 < hz.toNat := by
      apply Nat.pos_of_ne_zero
      exact fun h => hne (UInt32.toNat_inj.mp h)
    omega

theorem effectiveHz_le (hz : UInt32) : (effectiveHz hz).toNat ≤ 1193182 := by
  rw [toNat_effectiveHz]
  split
  · decide
  · exact Nat.min_le_right hz.toNat 1193182

/-- The clamp from below never comes into play: no rate is above the base clock. -/
theorem toNat_divisor (hz : UInt32) :
    (divisor hz).toNat = min 65535 (1193182 / (effectiveHz hz).toNat) := by
  have hquotient : 1 ≤ 1193182 / (effectiveHz hz).toNat :=
    Nat.div_pos (effectiveHz_le hz) (effectiveHz_pos hz)
  have hclamped : 1 ≤ min 65535 (1193182 / (effectiveHz hz).toNat) :=
    Nat.le_min.mpr ⟨by decide, hquotient⟩
  change (UInt16.ofNat (max 1 (min 65535 (1193182 / (effectiveHz hz).toNat)))).toNat = _
  rw [Nat.max_eq_right hclamped]
  exact UInt16.toNat_ofNat_of_lt' (Nat.lt_of_le_of_lt (Nat.min_le_left _ _) (by decide))

theorem le_divisor_iff {hz : UInt32} {n : Nat} :
    n ≤ (divisor hz).toNat ↔ n ≤ 65535 ∧ n * (effectiveHz hz).toNat ≤ 1193182 := by
  rw [toNat_divisor, Nat.le_min, Nat.le_div_iff_mul_le (effectiveHz_pos hz)]

theorem divisor_pos (hz : UInt32) : 1 ≤ (divisor hz).toNat := by
  rw [le_divisor_iff, Nat.one_mul]
  exact ⟨by decide, effectiveHz_le hz⟩

theorem divisor_antitone {hz hz' : UInt32} (hpos : 0 < hz) (hle : hz ≤ hz') :
    divisor hz' ≤ divisor hz := by
  have hne : hz ≠ 0 := (UInt32.ne_of_lt hpos).symm
  have hne' : hz' ≠ 0 := (UInt32.ne_of_lt (UInt32.lt_of_lt_of_le hpos hle)).symm
  have heffective : (effectiveHz hz).toNat ≤ (effectiveHz hz').toNat := by
    rw [toNat_effectiveHz, toNat_effectiveHz, if_neg hne, if_neg hne']
    rw [UInt32.le_iff_toNat_le] at hle
    omega
  obtain ⟨hbits, hfits⟩ := le_divisor_iff.mp (Nat.le_refl (divisor hz').toNat)
  rw [UInt16.le_iff_toNat_le, le_divisor_iff]
  exact ⟨hbits, Nat.le_trans (Nat.mul_le_mul_left _ heffective) hfits⟩

theorem toNat_actualHz (hz : UInt32) :
    (actualHz hz).toNat = 1193182 / (divisor hz).toNat := by
  rw [actualHz, UInt32.toNat_div, UInt16.toNat_toUInt32]
  rfl

theorem effectiveHz_le_quotient (hz : UInt32) :
    (effectiveHz hz).toNat ≤ 1193182 / (divisor hz).toNat := by
  obtain ⟨-, hfits⟩ := le_divisor_iff.mp (Nat.le_refl (divisor hz).toNat)
  rw [Nat.le_div_iff_mul_le (divisor_pos hz), Nat.mul_comm]
  exact hfits

/-- What is programmed for a rate, and the rate that comes of it. Both divisions, by the rate asked
for and by the divisor, are by more than zero. -/
structure Programming (hz : UInt32) : Prop where
  asked : (effectiveHz hz).toNat = if hz = 0 then 100 else min hz.toNat 1193182
  asked_ne : effectiveHz hz ≠ 0
  divisor_ne : (divisor hz).toUInt32 ≠ 0
  one_le : 1 ≤ (divisor hz).toNat
  bits : (divisor hz).toNat ≤ 65535
  fits : (divisor hz).toNat * (effectiveHz hz).toNat ≤ 1193182
  largest : ∀ n ≤ 65535, n * (effectiveHz hz).toNat ≤ 1193182 → n ≤ (divisor hz).toNat
  antitone : 0 < hz → ∀ hz', hz ≤ hz' → divisor hz' ≤ divisor hz
  actual : (actualHz hz).toNat = 1193182 / (divisor hz).toNat
  positive : 0 < 1193182 / (divisor hz).toNat
  reaches : (effectiveHz hz).toNat ≤ 1193182 / (divisor hz).toNat

theorem programming (hz : UInt32) : Programming hz := by
  have hfits := le_divisor_iff.mp (Nat.le_refl (divisor hz).toNat)
  have hasked : effectiveHz hz ≠ 0 := by
    intro h
    exact absurd (effectiveHz_pos hz) (by rw [h]; decide)
  have hdivisor : (divisor hz).toUInt32 ≠ 0 := by
    intro h
    have hzero : (divisor hz).toNat = 0 := by rw [← UInt16.toNat_toUInt32, h]; rfl
    have hpos := divisor_pos hz
    omega
  have hreaches := effectiveHz_le_quotient hz
  refine ⟨toNat_effectiveHz hz, hasked, hdivisor, divisor_pos hz, hfits.1, hfits.2, ?_, ?_,
    toNat_actualHz hz, Nat.lt_of_lt_of_le (effectiveHz_pos hz) hreaches, hreaches⟩
  · exact fun n hn hmul => le_divisor_iff.mpr ⟨hn, hmul⟩
  · exact fun hpos hz' hle => divisor_antitone hpos hle

theorem actualHz_ne (hz : UInt32) : actualHz hz ≠ 0 := by
  intro h
  have hpositive := (programming hz).positive
  rw [← toNat_actualHz, h] at hpositive
  exact absurd hpositive (by decide)

end InterruptCore.Pit
