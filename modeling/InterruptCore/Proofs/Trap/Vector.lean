import InterruptCore.Trap.Route

/-! The vector word of a context. Whoever looks at it looks at its low byte: the route of a
trap, the line of an interrupt and the vector that a report names all agree on it. -/
namespace InterruptCore.Context

theorem vector_toNat (c : Context) : c.vector.toNat = c.vectorWord.toNat % 256 := by
  simp [vector]

theorem vector_eq_iff (c : Context) (v : UInt8) :
    c.vector = v ↔ c.vectorWord.toNat % 256 = v.toNat := by
  rw [← UInt8.toNat_inj, vector_toNat]

theorem low_byte_of_word {c : Context} {v : UInt8} (hc : c.vectorWord = v.toUInt64) :
    c.vectorWord.toNat % 256 = v.toNat := by
  rw [hc, UInt8.toNat_toUInt64]
  exact Nat.mod_eq_of_lt v.toNat_lt

theorem irqLine_range_iff (c : Context) :
    (irqBaseVector ≤ c.vector ∧ c.vector.toNat - irqBaseVector.toNat < irqLines) ↔
      32 ≤ c.vectorWord.toNat % 256 ∧ c.vectorWord.toNat % 256 < 48 := by
  have hbase : irqBaseVector.toNat = 32 := rfl
  have hlines : irqLines = 16 := rfl
  rw [UInt8.le_iff_toNat_le, vector_toNat]
  omega

theorem irqLine_eq_none_iff {c : Context} :
    c.irqLine = none ↔
      ¬ (32 ≤ c.vectorWord.toNat % 256 ∧ c.vectorWord.toNat % 256 < 48) := by
  rw [← irqLine_range_iff, irqLine]
  split <;> simp_all

theorem irqLine_eq_some_iff {c : Context} {n : UInt8} :
    c.irqLine = some n ↔ n.toNat < irqLines ∧ c.vectorWord.toNat % 256 = 32 + n.toNat := by
  have hbase : irqBaseVector.toNat = 32 := rfl
  have hlines : irqLines = 16 := rfl
  by_cases hr : irqBaseVector ≤ c.vector ∧ c.vector.toNat - irqBaseVector.toNat < irqLines
  · have hsub := UInt8.toNat_sub_of_le _ _ hr.1
    have hlow := c.irqLine_range_iff.mp hr
    rw [irqLine, if_pos hr, Option.some_inj, ← UInt8.toNat_inj, hsub, c.vector_toNat]
    omega
  · have hlow := mt c.irqLine_range_iff.mpr hr
    rw [irqLine, if_neg hr]
    constructor
    · intro h
      cases h
    · intro h
      exact absurd ⟨by omega, by omega⟩ hlow

end InterruptCore.Context

namespace InterruptCore.Trap

theorem route_eq_fault {c : Context} (hc : c.vectorWord.toNat % 256 < 32) :
    route c.vector = .fault := by
  rw [route, c.vector_toNat, if_pos (show _ < exceptionVectors from hc)]

theorem route_eq_irq {c : Context} (hc : 32 ≤ c.vectorWord.toNat % 256) :
    route c.vector = .irq := by
  rw [route, c.vector_toNat, if_neg (show ¬ _ < exceptionVectors from Nat.not_lt.mpr hc)]

end InterruptCore.Trap
